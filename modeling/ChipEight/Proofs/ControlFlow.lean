import ChipEight.Proofs.Console.Events
import ChipEight.Proofs.Encoding
import ChipEight.Proofs.Memory.Wrapping

/-!
# Control Flow

Where one step leads, and what it reports about it.

A step fetches two bytes, decodes them, moves the program counter past them and
performs what it decoded, which may move the counter again: forward for a skip,
back for a wait, anywhere for a jump. Each of these moves wraps on its own.
`Instruction.destination` gives the sum of them as one number, counted from
where the instruction stands, with a single wrap. The two agree only because
the size of memory divides the size of an address and the counter was in range
to begin with.

`ControlFlow` puts the fetch, the decoding, the counter and the report side by
side, so that nothing about a step is taken from another part of it: the word
is described by bytes of memory, the instruction by the pattern of the word,
and the rest by the instruction and the machine before the step.

## Main definitions

* `Instruction.destination`: Where an instruction leads.
* `ControlFlow`: How one step moves the counter and what it reports.

## Theorems

* `Word.toNat_ofBytes`: The value of a word of two bytes.
* `Instruction.toNat_successor`: The moves of the counter amount to the
  destination.
* `step_control_flow`: Every step of a reachable console follows the control
  flow.
-/

namespace ChipEight

/-! ### Addresses as numbers -/

namespace Word

/-- The two bytes of a word do not overlap, so that they add up. -/
theorem toNat_ofBytes (high low : UInt8) :
    (ofBytes high low).toNat = high.toNat * 256 + low.toNat := by
  have hhigh := high.toNat_lt
  have hlow := low.toNat_lt
  have hshift : (high.toUInt16 <<< 8).toNat = 2 ^ 8 * high.toNat := by
    simp only [UInt16.toNat_shiftLeft, UInt8.toNat_toUInt16, UInt16.reduceToNat,
      Nat.shiftLeft_eq, Nat.reduceMod]
    omega
  rw [ofBytes, UInt16.toNat_or, hshift, UInt8.toNat_toUInt16,
    ← Nat.two_pow_add_eq_or_of_lt hlow, Nat.mul_comm]

end Word

theorem Memory.toNat_wordAt (m : Memory) (a : Address) :
    (m.wordAt a).toNat = m.ram[Fin.ofNat 4096 a.toNat].toNat * 256 +
      m.ram[Fin.ofNat 4096 (a.toNat + 1)].toNat := by
  have hfirst : cellOf a = Fin.ofNat 4096 a.toNat := by
    rw [← add_ofNat_zero a, cellOf_add, add_ofNat_zero, Nat.add_zero]
  have hsecond : cellOf (a + 1) = Fin.ofNat 4096 (a.toNat + 1) := cellOf_add a 1
  have hread : ∀ b k, cellOf b = k → m.read b = m.ram[k] := by
    rintro b k rfl
    rfl
  rw [wordAt, Word.toNat_ofBytes, hread a _ hfirst, hread (a + 1) _ hsecond]

namespace Instruction

/-! ### Destinations -/

/-- Where an instruction leads from the place that the program counter stands
    at. -/
def destination (m : Machine) : Instruction → Nat
  | jump a | call a => a.toNat
  | jumpOffset x a =>
    (a.toNat + (m.reg (if m.dialect.jumpUsesX = true then x else 0)).toNat) % 4096
  | ret => match m.memory.stack with
    | [] => (m.memory.counter.toNat + 2) % 4096
    | a :: _ => a.toNat
  | awaitKey _ =>
    if ∀ key, m.keypad.isPressed key = false then m.memory.counter.toNat
    else (m.memory.counter.toNat + 2) % 4096
  | i =>
    if (i.condition? m).getD false then (m.memory.counter.toNat + 4) % 4096
    else (m.memory.counter.toNat + 2) % 4096

theorem destination_of_condition {m : Machine} {i : Instruction} {b : Bool}
    (skip : i.condition? m = some b) :
    i.destination m = if b then (m.memory.counter.toNat + 4) % 4096
      else (m.memory.counter.toNat + 2) % 4096 := by
  cases i <;> cases skip <;> rfl

theorem destination_ret (m : Machine) :
    ret.destination m = match m.memory.stack with
      | [] => (m.memory.counter.toNat + 2) % 4096
      | a :: _ => a.toNat :=
  rfl

theorem destination_awaitKey (m : Machine) (x : Register) :
    (awaitKey x).destination m =
      if ∀ key, m.keypad.isPressed key = false then m.memory.counter.toNat
      else (m.memory.counter.toNat + 2) % 4096 :=
  rfl

variable (m : Machine)

theorem toNat_advance_advance :
    (wrapAddress (m.memory.advance.counter + 2)).toNat = (m.memory.counter.toNat + 4) % 4096 := by
  rw [toNat_wrapAddress_add, Memory.toNat_advance, show (2 : UInt16).toNat = 2 from rfl]
  omega

/-- Going back undoes the fetch at every counter in range, also where the two
    bytes fetched lie at the end of memory or on both sides of it. -/
theorem toNat_advance_retreat (range : m.memory.InRange) :
    (wrapAddress (m.memory.advance.counter - 2)).toNat = m.memory.counter.toNat := by
  have hback : wrapAddress (m.memory.advance.counter - 2) = wrapAddress m.memory.counter :=
    wrapAddress_sub_add m.memory.counter 2
  rw [hback, wrapAddress_of_lt range.counter]

/-- The moves of the counter amount to the destination. Only the operands that
    decoding gives out are considered: an address of more than three digits
    would be wrapped. -/
theorem toNat_successor (range : m.memory.InRange) {i : Instruction} {w : Word}
    (decoded : decode w = i) :
    (i.successor m.fetched).toNat = i.destination m := by
  have hfits : i.Valid ∨ i = unknown w := decoded ▸ valid_decode w
  cases hskip : i.condition? m with
  | some b =>
      have hfetched := (condition?_fetched m i).trans hskip
      rw [successor_of_condition hfetched, destination_of_condition hskip]
      cases b with
      | false => exact m.memory.toNat_advance
      | true => exact toNat_advance_advance m
  | none =>
      cases i with
      | jump a | call a =>
          rcases hfits with fits | other
          · exact congrArg UInt16.toNat (wrapAddress_of_lt fits)
          · cases other
      | jumpOffset x a =>
          exact toNat_wrapAddress_add a (m.reg (m.dialect.jumpBase x)).toUInt16
      | ret =>
          rw [successor_ret, destination_ret, Machine.stack_fetched]
          cases hstack : m.memory.stack with
          | nil => exact m.memory.toNat_advance
          | cons a rest =>
              -- The address popped was in range, so that wrapping it does nothing.
              have ha : a ∈ m.memory.stack := hstack ▸ List.mem_cons_self
              exact congrArg UInt16.toNat (wrapAddress_of_lt (range.stack a ha))
      | awaitKey x =>
          rw [successor_awaitKey, destination_awaitKey, Machine.keypad_fetched]
          by_cases released : ∀ key, m.keypad.isPressed key = false
          · rw [if_pos released, if_pos released]
            exact toNat_advance_retreat m range
          · rw [if_neg released, if_neg released]
            exact m.memory.toNat_advance
      | skipIfByte | skipUnlessByte | skipIfSame | skipUnlessSame => cases hskip
      | skipIfKey | skipUnlessKey => cases hskip
      | _ => exact m.memory.toNat_advance

end Instruction

/-! ### One step -/

/-- How one step moves the program counter of a machine, and what it reports
    about it. -/
structure ControlFlow (before : Machine) (d : Decoded) (after : Machine) : Prop where
  /-- The word executed is the two bytes at the counter. -/
  fetched : d.word.toNat =
    before.memory.ram[Fin.ofNat 4096 before.memory.counter.toNat].toNat * 256 +
      before.memory.ram[Fin.ofNat 4096 (before.memory.counter.toNat + 1)].toNat
  /-- It is an instruction if it has the pattern of one. -/
  decoded : ∀ i : Instruction, i.Valid → (d.instruction = i ↔ i.word = d.word)
  unknown : ∀ w, d.instruction = .unknown w ↔
    w = d.word ∧ ∀ i : Instruction, i.Valid → i.word ≠ d.word
  counter : after.memory.counter.toNat = d.instruction.destination before
  branch : d.effect.branch = d.instruction.condition? before
  waiting : d.effect.waiting = true ↔
    (∃ x, d.instruction = .awaitKey x) ∧ ∀ key, before.keypad.isPressed key = false
  stackUnderflow : d.effect.fault = some .stackUnderflow ↔
    d.instruction = .ret ∧ before.memory.stack = []
  unknownWord : ∀ w, d.effect.fault = some (.unknownWord w) ↔ d.instruction = .unknown w

theorem Machine.controlFlow_step (m : Machine) (range : m.memory.InRange) :
    ControlFlow m m.step.1 m.step.2 := by
  constructor
  case fetched => exact m.memory.toNat_wordAt m.memory.counter
  case decoded => exact Instruction.decode_eq_iff m.nextWord
  case unknown => exact Instruction.decode_eq_unknown_iff m.nextWord
  case counter =>
    rw [step_counter]
    exact Instruction.toNat_successor m range rfl
  case branch =>
    rw [step_effect]
    rfl
  case waiting =>
    rw [step_effect]
    exact Instruction.waits_iff
  case stackUnderflow =>
    rw [step_effect]
    exact Instruction.fault?_eq_stackUnderflow_iff
  case unknownWord =>
    intro w
    rw [step_effect]
    exact Instruction.fault?_eq_unknownWord_iff

/-- Every step of a reachable console executes the word at the program counter
    and follows its control flow, wherever in memory the counter stands. -/
theorem step_control_flow {c : Console} (reached : c.Reachable) :
    ControlFlow c.machine c.step.1 c.step.2.machine :=
  c.machine.controlFlow_step reached.inRange

/-- A console whose program jumped to the last byte of memory, so that the next
    word lies on both sides of the end. -/
def Console.atLastByte : Console :=
  (Console.new {} 0).replay [.load [0x1F, 0xFF], .step]

/-- Past the last byte of memory the program goes on behind the first. -/
theorem step_control_flow_at_last_byte :
    Console.atLastByte.Reachable ∧
      ControlFlow Console.atLastByte.machine Console.atLastByte.step.1
        Console.atLastByte.step.2.machine ∧
      Console.atLastByte.machine.memory.counter = 0xFFF ∧
      Console.atLastByte.step.2.machine.memory.counter = 0x001 := by
  have reached : Console.atLastByte.Reachable := (Console.Reachable.new {} 0).replay _
  refine ⟨reached, step_control_flow reached, ?_, ?_⟩
  · decide +kernel
  · decide +kernel

end ChipEight
