import ChipEight.Proofs.Console.Lockstep
import ChipEight.Proofs.Memory.Wrapping

/-!
# The Top of the Index Register

The index register has sixteen bits and memory looks at twelve of them. The
other four can be set, by adding to the register or by letting a transfer
advance it, and they stay set. Nothing comes of them: two consoles whose index
registers are congruent modulo the size of memory go on that way, agree in
everything else, and report the same, except for the number itself where a
trace prints it.

Every instruction that uses the index register passes it to a block of memory,
and a block that begins at an address that wraps alike is the same block.
Every instruction that changes it adds to it or replaces it, and adding keeps
addresses that wrap alike so. The second fact needs the register to wrap around
at a multiple of the size of memory, which it does.

Traces print the register in three places. `Decoded.SameButIndex` says what is
left of equality there: the details shown are the same once the printed values
of the register are wrapped.

## Main definitions

* `Machine.withIndex`: A machine with another value in the index register.
* `Detail.wrapIndex`: A detail with the register shown as memory sees it.
* `Decoded.SameButIndex`, `Console.SameButIndex`: Equal but for the top of the
  index register.

## Theorems

* `Machine.perform_withIndex`: An instruction with another value in the index
  register.
* `Machine.step_withIndex`: A step with another value in the index register.
* `Console.lockstep_sameButIndex`: Events keep consoles equal but for the top of
  the index register.
* `index_top_unobserved`: The top of the index register influences nothing.
-/

namespace ChipEight

/-- The values an instruction met, with those of the index register wrapped
    into memory. -/
def Detail.wrapIndex : Detail → Detail
  | indexMoved before after => indexMoved (wrapAddress before) (wrapAddress after)
  | indexLeft index => indexLeft (wrapAddress index)
  | detail => detail

/-! ### One instruction -/

namespace Machine

/-- A machine with another value in the index register. -/
def withIndex (m : Machine) (a : Address) : Machine :=
  { m with memory := { m.memory with index := a } }

variable {m : Machine} {a : Address}

theorem wrapAddress_indexAfter (alike : wrapAddress a = wrapAddress m.memory.index)
    (x : Register) :
    wrapAddress ((m.withIndex a).indexAfter x) = wrapAddress (m.indexAfter x) := by
  have hdialect : (m.withIndex a).dialect = m.dialect := rfl
  unfold indexAfter
  rw [hdialect]
  split
  · exact wrapAddress_add_congr alike _
  · exact alike

/-- Sprites are read from the same places. -/
theorem spriteRows_withIndex (alike : wrapAddress a = wrapAddress m.memory.index) :
    spriteRows (m.withIndex a).memory = spriteRows m.memory := by
  funext turn rows
  exact m.memory.readBlock_congr (wrapAddress_add_congr alike _) rows

theorem drawPlanes_withIndex (alike : wrapAddress a = wrapAddress m.memory.index) (d : Display)
    (x y rows : Nat) :
    drawPlanes (m.withIndex a).memory d x y rows = drawPlanes m.memory d x y rows := by
  unfold drawPlanes
  rw [spriteRows_withIndex alike]

/-- Blocks are written to the same places. -/
theorem writeBlock_withIndex (alike : wrapAddress a = wrapAddress m.memory.index)
    (bytes : List UInt8) :
    (m.withIndex a).memory.writeBlock a bytes =
      { m.memory.writeBlock m.memory.index bytes with index := a } := by
  have hram : (m.withIndex a).memory.ram = m.memory.ram := rfl
  rw [Memory.writeBlock_eq, Memory.ram_writeBlock_congr hram, m.memory.writeBlock_congr alike,
    m.memory.writeBlock_eq]
  rfl

/-- An instruction with a value in the index register that wraps alike: its
    detail shows addresses that wrap alike, and apart from the register the
    machine comes out as before. -/
theorem perform_withIndex (alike : wrapAddress a = wrapAddress m.memory.index)
    (i : Instruction) :
    ∃ shown : Detail, shown.wrapIndex = (m.perform i).1.detail.wrapIndex ∧
      (m.withIndex a).perform i = ({ (m.perform i).1 with detail := shown },
        (m.perform i).2.withIndex (i.indexAfter (m.withIndex a))) := by
  cases i with
  | ret =>
      refine ⟨_, rfl, ?_⟩
      rw [perform, perform, ret_eq, ret_eq]
      rfl
  | skipIfByte | skipUnlessByte | skipIfSame | skipUnlessSame =>
      refine ⟨_, rfl, ?_⟩
      rw [perform, perform, skipOn, skipOn, skipIf_eq, skipIf_eq]
      rfl
  | skipIfKey | skipUnlessKey =>
      refine ⟨_, rfl, ?_⟩
      rw [perform, perform, skipOnKey, skipOnKey, skipIf_eq, skipIf_eq]
      rfl
  | subtract | subtractFrom =>
      refine ⟨_, rfl, ?_⟩
      rw [perform, perform, difference_eq, difference_eq]
      rfl
  | awaitKey =>
      refine ⟨_, rfl, ?_⟩
      rw [perform, perform, awaitKey_eq, awaitKey_eq]
      rfl
  | draw x y n =>
      refine ⟨_, rfl, ?_⟩
      simp only [perform, draw, drawPlanes_withIndex alike]
      rfl
  -- Blocks begin where the register points; the details of the last three
  -- instructions show it.
  | decimal x =>
      refine ⟨_, rfl, ?_⟩
      simp only [perform, decimal]
      exact congrArg (fun memory : Memory => (_, { m with memory })) (writeBlock_withIndex alike _)
  | addIndex x =>
      refine ⟨.indexMoved a (a + (m.reg x).toUInt16), ?_, rfl⟩
      exact congrArg₂ Detail.indexMoved alike (wrapAddress_add_congr alike _)
  | save x =>
      refine ⟨.indexLeft ((m.withIndex a).indexAfter x), ?_, ?_⟩
      · exact congrArg Detail.indexLeft (wrapAddress_indexAfter alike x)
      · have hblock := writeBlock_withIndex alike (m.memory.registersUpTo x)
        exact congrArg (fun memory : Memory => (_, { m with
          memory := { memory with index := (m.withIndex a).indexAfter x } })) hblock
  | restore x =>
      refine ⟨.indexLeft ((m.withIndex a).indexAfter x), ?_, ?_⟩
      · exact congrArg Detail.indexLeft (wrapAddress_indexAfter alike x)
      · have hblock := m.memory.readBlock_congr alike (x.val + 1)
        exact congrArg (fun bytes : List UInt8 => (_, { m with
          memory := { m.memory.setRegisters bytes with
            index := (m.withIndex a).indexAfter x } })) hblock
  | _ => exact ⟨_, rfl, rfl⟩

end Machine

/-- What the index register becomes wraps alike as well. -/
theorem Instruction.wrapAddress_indexAfter {m : Machine} {a : Address}
    (alike : wrapAddress a = wrapAddress m.memory.index) (i : Instruction) :
    wrapAddress (i.indexAfter (m.withIndex a)) = wrapAddress (i.indexAfter m) := by
  cases i with
  | addIndex x => exact wrapAddress_add_congr alike _
  | save x | restore x => exact Machine.wrapAddress_indexAfter alike x
  | setIndex | glyph => rfl
  | _ => exact alike

/-! ### Records and steps -/

/-- Two records differ at most in the values of the index register that their
    traces show. -/
structure Decoded.SameButIndex (d e : Decoded) : Prop where
  word : e.word = d.word
  instruction : e.instruction = d.instruction
  effect : e.effect = d.effect
  trace : ∃ text shown shown', shown'.wrapIndex = shown.wrapIndex ∧
    d.trace = text ++ Decoded.suffix shown ∧ e.trace = text ++ Decoded.suffix shown'

theorem Machine.step_withIndex {m : Machine} {a : Address}
    (alike : wrapAddress a = wrapAddress m.memory.index) :
    m.step.1.SameButIndex (m.withIndex a).step.1 ∧
      ∃ b, wrapAddress b = wrapAddress m.step.2.memory.index ∧
        (m.withIndex a).step.2 = m.step.2.withIndex b := by
  have hfetched : wrapAddress a = wrapAddress m.fetched.memory.index := alike
  rcases perform_withIndex hfetched m.next with ⟨shown, hshown, hperform⟩
  have hstep : (m.withIndex a).step =
      ((Decoded.ofWord m.dialect m.nextWord).withOutcome
        ((m.fetched.withIndex a).perform m.next).1, ((m.fetched.withIndex a).perform m.next).2) :=
    rfl
  have hindex : m.step.2.memory.index = m.next.indexAfter m.fetched := by
    rw [step_eq, perform_eq]
  rw [hstep, hperform, hindex]
  refine ⟨?_, _, m.next.wrapAddress_indexAfter hfetched, rfl⟩
  rw [step_eq_perform]
  exact ⟨rfl, rfl, rfl, _, _, shown, hshown, rfl, rfl⟩

/-! ### Consoles -/

namespace Console

/-- Two consoles differ at most in their index registers, and these are
    congruent modulo the size of memory. -/
def SameButIndex (c d : Console) : Prop :=
  ∃ a, a.toNat % 4096 = c.machine.memory.index.toNat % 4096 ∧
    d = { c with machine := c.machine.withIndex a }

/-- Every event keeps consoles equal but for the top of the index register. -/
theorem lockstep_sameButIndex :
    Lockstep SameButIndex (fun _ => True) Decoded.SameButIndex where
  step := by
    rintro c d ⟨a, congruent, rfl⟩ -
    rcases Machine.step_withIndex (wrapAddress_eq_iff.mpr congruent) with
      ⟨hrecord, b, hb, hmachine⟩
    refine ⟨hrecord, b, wrapAddress_eq_iff.mp hb, ?_⟩
    exact congrArg (Console.mk c.settings) hmachine
  idle := by
    rintro c d ⟨a, congruent, rfl⟩ e running
    cases e with
    | step => exact absurd rfl running
    | tick | keys | setDialect | setFading => exact ⟨a, congruent, rfl⟩
    | load bytes =>
        have hbefore : c.SameButIndex { c with machine := c.machine.withIndex a } :=
          ⟨a, congruent, rfl⟩
        -- Memory is replaced, and with it the index register.
        have hinserted : ∀ rom, (c.insert rom).SameButIndex
            (Console.insert { c with machine := c.machine.withIndex a } rom) :=
          fun rom => ⟨(c.insert rom).machine.memory.index, rfl, rfl⟩
        exact related_load hbefore hinserted bytes

end Console

/-- Two consoles that differ at most in their index registers, by a multiple of
    the size of memory, go on doing so through every history, and the records of
    their steps differ at most in the values of the register shown. -/
theorem index_top_unobserved {c d : Console} (same : c.SameButIndex d)
    (history : List Console.Event) :
    (c.replay history).SameButIndex (d.replay history) ∧
      List.Forall₂ Decoded.SameButIndex (c.records history) (d.records history) :=
  Console.lockstep_sameButIndex.replay same fun _ _ => trivial

namespace Console

/-- A console about to run a program that moves the index register past the end
    of memory, stores digits and registers there and draws what it stored. -/
def straddling : Console :=
  (Console.new {} 0).replay [.load [0xAF, 0xFE, 0x61, 0x07, 0xF1, 0x33, 0xF1, 0x1E, 0xF1, 0x55,
    0xD1, 0x13, 0xF1, 0x65], .step]

/-- The same console with the top four bits of the index register set, so that
    the register itself wraps around when the program moves it. -/
def straddlingTop : Console :=
  { straddling with machine := straddling.machine.withIndex 0xFFFE }

/-- The rest of the program. -/
def straddlingRun : List Event :=
  [.step, .step, .tick, .step, .step, .step, .step]

end Console

open Console in
/-- One index register ends at 0x1005, the other has wrapped around to 0x0005,
    and nothing else comes of it. -/
theorem index_top_unobserved_when_straddling :
    straddling.SameButIndex straddlingTop ∧
      (straddling.replay straddlingRun).machine.memory.index = 0x1005 ∧
      (straddlingTop.replay straddlingRun).machine.memory.index = 0x0005 ∧
      (straddling.replay straddlingRun).SameButIndex (straddlingTop.replay straddlingRun) ∧
      List.Forall₂ Decoded.SameButIndex (straddling.records straddlingRun)
        (straddlingTop.records straddlingRun) := by
  have same : straddling.SameButIndex straddlingTop := ⟨0xFFFE, by decide +kernel, rfl⟩
  have hpast : (straddling.replay straddlingRun).machine.memory.index = 0x1005 := by
    decide +kernel
  have haround : (straddlingTop.replay straddlingRun).machine.memory.index = 0x0005 := by
    decide +kernel
  exact ⟨same, hpast, haround, index_top_unobserved same straddlingRun⟩

end ChipEight
