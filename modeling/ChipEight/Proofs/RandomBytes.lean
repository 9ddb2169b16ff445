import ChipEight.Proofs.Console.Actions
import ChipEight.Proofs.Encoding

/-!
# Random Bytes and their Seed

Which random byte a program gets depends on the seed and on how many it has had
before, and on nothing else a host may do.

A generator is a key and the number of words drawn from it, so it is a place in
one fixed stream (`Generator.after`). Of all instructions only `CXNN` moves that
place, always by one word, also if its mask throws every bit of the byte away.
And between instructions nothing moves it: a host that loads a program, or has
one refused, keeps the generator it has. Both together say that after any
history the place in the stream is the number of `CXNN` executed so far
(`Console.generator_replay`), and it only remains to read off what the next one
puts into its register.

## Main definitions

* `Generator.after`: A generator some words further on.
* `Machine.draws`: The next instruction is `CXNN`.
* `Console.draws`: The executions of `CXNN` over a history.

## Theorems

* `Machine.generator_step`, `Machine.reg_step_of_draws`: What a step does to the
  generator, and what it takes from it.
* `Console.after_draws`: What an event does to the generator.
* `Console.generator_replay`: How far a history moves the generator.
* `Console.generator_of_draws`: What the generator is at each draw.
* `random_bytes_follow_seed`: The random bytes of a program are those of its
  seed, in their order.
-/

namespace ChipEight

/-- A generator from which a number of words has been drawn. -/
def Generator.after (g : Generator) (count : Nat) : Generator :=
  { g with drawn := g.drawn + count }

theorem Generator.after_after (g : Generator) (first second : Nat) :
    (g.after first).after second = g.after (first + second) := by
  simp only [Generator.after, Nat.add_assoc]

namespace Instruction

theorem decode_of_family_twelve {w : Word} (first : w.family = 0xC) :
    decode w = .random w.x w.byte := by
  simp only [decode, first]
  rfl

theorem family_of_decode_random {w : Word} {x : Register} {mask : UInt8}
    (random : decode w = .random x mask) : w.family = 0xC := by
  rw [← word_decode w, random, word, Word.family_withByte]

end Instruction

/-! ### One step -/

namespace Machine

/-- Whether the next step executes `CXNN`. -/
def draws (m : Machine) : Bool :=
  m.nextWord.family == 0xC

variable {m : Machine}

theorem next_of_draws (draws : m.draws = true) : m.next = .random m.nextWord.x m.nextWord.byte :=
  Instruction.decode_of_family_twelve (beq_iff_eq.mp draws)

/-- A step that executes `CXNN` draws one word, and every other step draws none. -/
theorem generator_step (m : Machine) :
    m.step.2.generator = m.generator.after (if m.draws then 1 else 0) := by
  have hgenerator : m.step.2.generator = m.next.generatorAfter m.fetched := by
    rw [step_eq, perform_eq]
  rw [hgenerator]
  by_cases draws : m.draws = true
  · rw [if_pos draws, next_of_draws draws]
    rfl
  · rw [if_neg draws]
    cases hnext : m.next with
    | random => exact absurd (beq_iff_eq.mpr (Instruction.family_of_decode_random hnext)) draws
    | _ => rfl

/-- What `CXNN` puts into its register: the low byte of the word drawn, masked. -/
theorem reg_step_of_draws (draws : m.draws = true) :
    m.step.2.reg m.nextWord.x =
      (Generator.word m.generator.key m.generator.drawn).toUInt8 &&& m.nextWord.byte := by
  rw [step_eq, next_of_draws draws]
  exact (Memory.reg_setReg ..).trans (if_pos rfl)

end Machine

/-! ### Histories -/

namespace Console

/-- The machines that execute `CXNN` over a history, in their order. -/
def draws (c : Console) (history : List Event) : List Machine :=
  (c.executions history).filter Machine.draws

theorem draws_cons (c : Console) (e : Event) (rest : List Event) :
    c.draws (e :: rest) =
      (c.executing? e).toList.filter Machine.draws ++ (c.after e).draws rest :=
  List.filter_append ..

/-- An event executes no `CXNN` and leaves the generator where it is, or the
    machine at hand executes one and moves it on by a word. -/
theorem after_draws (c : Console) (e : Event) :
    ((c.executing? e).toList.filter Machine.draws = [] ∧
      (c.after e).machine.generator = c.machine.generator) ∨
    ((c.executing? e).toList.filter Machine.draws = [c.machine] ∧
      (c.after e).machine.generator = c.machine.generator.after 1) := by
  cases e with
  | step =>
      have hstep : (c.after .step).machine.generator = _ := c.machine.generator_step
      by_cases draws : c.machine.draws = true
      · rw [if_pos draws] at hstep
        exact .inr ⟨List.filter_cons_of_pos draws, hstep⟩
      · rw [if_neg draws] at hstep
        exact .inl ⟨List.filter_cons_of_neg draws, hstep⟩
  | load bytes =>
      -- Neither a program that is put in nor one that is refused has a generator.
      refine .inl ⟨rfl, ?_⟩
      rcases c.after_load bytes with ⟨rom, h⟩ | h
      · rw [h]
        rfl
      · rw [h]
  | _ => exact .inl ⟨rfl, rfl⟩

/-- The generator after a history is further on by the number of draws. -/
theorem generator_replay (c : Console) (history : List Event) :
    (c.replay history).machine.generator =
      c.machine.generator.after (c.draws history).length := by
  induction history generalizing c with
  | nil => rfl
  | cons e rest ih =>
      rw [replay_cons, ih, draws_cons]
      rcases c.after_draws e with ⟨none, kept⟩ | ⟨one, moved⟩
      · rw [none, kept, List.nil_append]
      · rw [one, moved, List.singleton_append, List.length_cons, Generator.after_after,
          Nat.add_comm]

/-- At each draw the generator is further on by the number of draws before it. -/
theorem generator_of_draws {c : Console} {history : List Event} {j : Nat} {m : Machine}
    (drawing : (c.draws history)[j]? = some m) : m.generator = c.machine.generator.after j := by
  induction history generalizing c j with
  | nil => cases drawing
  | cons e rest ih =>
      rw [draws_cons] at drawing
      rcases c.after_draws e with ⟨none, kept⟩ | ⟨one, moved⟩
      · rw [none, List.nil_append] at drawing
        rw [ih drawing, kept]
      · rw [one, List.singleton_append] at drawing
        cases j with
        | zero =>
            -- This event is the draw asked for, and nothing was drawn before it.
            cases drawing
            rfl
        | succ j =>
            rw [List.getElem?_cons_succ] at drawing
            rw [ih drawing, moved, Generator.after_after, Nat.add_comm]

end Console

/-- The random bytes of a program are those of its seed, in their order. After
    anything a host may have done to a console that it gave a seed, the
    generator has moved on by as many words as there were executions of `CXNN`,
    and each of these, counted from zero, put into its register the low byte of
    the word of that number in the stream of the seed, masked by its operand. The
    stream is as `Generator` assumes it to be: a byte uses up one word of 32 bits,
    and the words depend on the seed and on their place alone. -/
theorem random_bytes_follow_seed (settings : Settings) (seed : UInt64)
    (actions : List Console.Action) :
    let c := Console.new settings seed
    let draws := c.draws (c.history actions)
    (c.act actions).machine.generator = (Generator.ofSeed seed).after draws.length ∧
      ∀ j m, draws[j]? = some m →
        m.step.2.reg m.nextWord.x =
          (Generator.word (Generator.ofSeed seed).key j).toUInt8 &&& m.nextWord.byte := by
  intro c draws
  constructor
  · rw [Console.act_eq_replay, Console.generator_replay]
    rfl
  · intro j m drawing
    have hdraws : m.draws = true := (List.mem_filter.mp (List.mem_of_getElem? drawing)).2
    have hgenerator : m.generator = (Generator.ofSeed seed).after j :=
      Console.generator_of_draws drawing
    -- A fresh generator has drawn nothing, so its next word is the first.
    have hplace : m.generator.drawn = j := by
      rw [hgenerator]
      exact Nat.zero_add j
    have hkey : m.generator.key = (Generator.ofSeed seed).key := by
      rw [hgenerator]
      rfl
    rw [Machine.reg_step_of_draws hdraws, hplace, hkey]

/-- A host that runs two draws, the second with an empty mask, tries to load
    nothing, looks around and changes the dialect, and then runs a session of
    another program that draws once more. -/
def Console.drawsAcrossLoads : List Console.Action :=
  [.load [0xC1, 0xFF, 0xC2, 0x00], .steps 2, .load [], .explain 0x200, .disassemble 0x200 3,
    .setDialect { flagFirst := true }, .keys (.press 0x15), .load [0x60, 0x01, 0xC3, 0x0F],
    .run 2 1]

open Console in
/-- The draw of the second program goes on where the first one stopped. -/
theorem random_bytes_follow_seed_across_loads :
    ∃ m, ((new {} 7).draws ((new {} 7).history drawsAcrossLoads))[2]? = some m ∧
      m.nextWord = 0xC30F ∧
      m.step.2.reg 0x3 = (Generator.word (Generator.ofSeed 7).key 2).toUInt8 &&& 0x0F ∧
      ((new {} 7).act drawsAcrossLoads).machine.generator = (Generator.ofSeed 7).after 3 := by
  have hlength : ((new {} 7).draws ((new {} 7).history drawsAcrossLoads)).length = 3 := by
    decide +kernel
  have hword : (((new {} 7).draws ((new {} 7).history drawsAcrossLoads))[2]?.map
      Machine.nextWord) = some 0xC30F := by
    decide +kernel
  rcases random_bytes_follow_seed {} 7 drawsAcrossLoads with ⟨hgenerator, hdraws⟩
  rcases Option.map_eq_some_iff.mp hword with ⟨m, hm, hnext⟩
  have hvalue := hdraws 2 m hm
  rw [hnext] at hvalue
  rw [hlength] at hgenerator
  exact ⟨m, hm, hnext, hvalue, hgenerator⟩

end ChipEight
