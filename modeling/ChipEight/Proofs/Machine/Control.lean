import ChipEight.Proofs.Machine.Components

/-!
# Effects and the Program Counter

What every instruction reports, and where it leaves the program counter.

A report has four parts, and each depends on a handful of instructions:
`condition?` on the six that skip, `repaints` on those that draw, `waits` on
the one that waits for a key, and `fault?` on the return and the unknown words.
`Machine.perform_effect` says that the report is made of these four. The
functions are total and apart from each other, so that a statement about one
part of a report is a statement about one of them.

`successor` says in the same way where the counter is left. It counts from a
counter that stands past the instruction already, as the instructions
themselves do.

## Main definitions

* `Instruction.condition?`, `Instruction.repaints`, `Instruction.waits`,
  `Instruction.fault?`: The four parts of a report.
* `Instruction.successor`: Where the program counter is left.

## Theorems

* `Instruction.waits_iff`, `Instruction.fault?_eq_stackUnderflow_iff`,
  `Instruction.fault?_eq_unknownWord_iff`: When an instruction waits or faults.
* `Machine.perform_of_condition`: The instructions that skip are one.
* `Machine.perform_effect`: What an instruction reports.
* `Machine.perform_counter`: Where an instruction leaves the counter.
-/

namespace ChipEight

theorem Keypad.firstPressed_eq_none_iff (k : Keypad) :
    k.firstPressed = none ↔ ∀ key, k.isPressed key = false := by
  simp only [firstPressed, List.find?_eq_none, List.mem_finRange, forall_const,
    Bool.not_eq_true]

namespace Instruction

/-- Whether a skip instruction skips; nothing for any other. -/
def condition? (m : Machine) : Instruction → Option Bool
  | skipIfByte x k => some (m.reg x == k)
  | skipUnlessByte x k => some (m.reg x != k)
  | skipIfSame x y => some (m.reg x == m.reg y)
  | skipUnlessSame x y => some (m.reg x != m.reg y)
  | skipIfKey x => some (m.keypad.isPressed (lowNibble (m.reg x)))
  | skipUnlessKey x => some (!m.keypad.isPressed (lowNibble (m.reg x)))
  | _ => none

/-- Whether the host is asked to draw the screen again. -/
def repaints : Instruction → Bool
  | clearScreen | scrollRight | scrollLeft | scrollDown _ | scrollUp _ => true
  | standardResolution | extendedResolution | draw _ _ _ => true
  | _ => false

/-- Whether the program counter is held for want of a key. -/
def waits (m : Machine) : Instruction → Bool
  | awaitKey _ => decide (∀ key, m.keypad.isPressed key = false)
  | _ => false

/-- The fault an instruction reports. -/
def fault? (m : Machine) : Instruction → Option Fault
  | ret => if m.memory.stack = [] then some .stackUnderflow else none
  | unknown w => some (.unknownWord w)
  | _ => none

/-- Where the program counter is left, if it stood past the instruction
    before. -/
def successor (m : Machine) : Instruction → Address
  | jump a | call a => wrapAddress a
  | jumpOffset x a => wrapAddress (a + (m.reg (m.dialect.jumpBase x)).toUInt16)
  | ret => match m.memory.stack with
    | [] => m.memory.counter
    | a :: _ => wrapAddress a
  | awaitKey _ =>
    if ∀ key, m.keypad.isPressed key = false then wrapAddress (m.memory.counter - 2)
    else m.memory.counter
  | i =>
    if (i.condition? m).getD false then wrapAddress (m.memory.counter + 2)
    else m.memory.counter

theorem waits_iff {m : Machine} {i : Instruction} :
    i.waits m = true ↔ (∃ x, i = .awaitKey x) ∧ ∀ key, m.keypad.isPressed key = false := by
  constructor
  · intro waiting
    cases i with
    | awaitKey x => exact ⟨⟨x, rfl⟩, of_decide_eq_true waiting⟩
    | _ => exact absurd waiting Bool.false_ne_true
  · rintro ⟨⟨x, rfl⟩, released⟩
    exact decide_eq_true released

theorem fault?_ret (m : Machine) :
    ret.fault? m = if m.memory.stack = [] then some .stackUnderflow else none :=
  rfl

theorem fault?_eq_stackUnderflow_iff {m : Machine} {i : Instruction} :
    i.fault? m = some .stackUnderflow ↔ i = .ret ∧ m.memory.stack = [] := by
  constructor
  · intro faulty
    cases i with
    | ret =>
        by_cases empty : m.memory.stack = []
        · exact ⟨rfl, empty⟩
        · rw [fault?_ret, if_neg empty] at faulty
          cases faulty
    | _ => cases faulty
  · rintro ⟨rfl, empty⟩
    rw [fault?_ret, if_pos empty]

theorem fault?_eq_unknownWord_iff {m : Machine} {i : Instruction} {w : Word} :
    i.fault? m = some (.unknownWord w) ↔ i = .unknown w := by
  constructor
  · intro faulty
    cases i with
    | unknown v =>
        cases faulty
        rfl
    | ret =>
        rw [fault?_ret] at faulty
        split at faulty <;> cases faulty
    | _ => cases faulty
  · rintro rfl
    rfl

theorem successor_of_condition {m : Machine} {i : Instruction} {b : Bool}
    (skip : i.condition? m = some b) :
    i.successor m = if b then wrapAddress (m.memory.counter + 2) else m.memory.counter := by
  cases i <;> cases skip <;> rfl

theorem successor_ret (m : Machine) :
    ret.successor m = match m.memory.stack with
      | [] => m.memory.counter
      | a :: _ => wrapAddress a :=
  rfl

theorem successor_awaitKey (m : Machine) (x : Register) :
    (awaitKey x).successor m =
      if ∀ key, m.keypad.isPressed key = false then wrapAddress (m.memory.counter - 2)
      else m.memory.counter :=
  rfl

end Instruction

namespace Machine

/-! ### Effects and counters of single handlers -/

theorem ret_effect (m : Machine) :
    m.ret.1.effect = { fault := if m.memory.stack = [] then some .stackUnderflow else none } := by
  cases h : m.memory.stack with
  | nil =>
      rw [ret_of_empty h, if_pos rfl]
      rfl
  | cons a rest =>
      rw [ret_of_cons h, if_neg (List.cons_ne_nil a rest)]
      rfl

theorem ret_counter (m : Machine) :
    m.ret.2.memory.counter = match m.memory.stack with
      | [] => m.memory.counter
      | a :: _ => wrapAddress a := by
  cases h : m.memory.stack with
  | nil => rw [ret_of_empty h]
  | cons a rest => rw [ret_of_cons h]

theorem awaitKey_of_none {m : Machine} (x : Register)
    (none : ∀ key, m.keypad.isPressed key = false) :
    m.awaitKey x = (.wait (.held m.memory.retreat.counter),
      { m with memory := m.memory.retreat }) := by
  rw [← Keypad.firstPressed_eq_none_iff] at none
  simp only [awaitKey, none]

theorem awaitKey_of_held {m : Machine} (x : Register)
    (held : ¬ ∀ key, m.keypad.isPressed key = false) :
    ∃ key, m.awaitKey x = (.note (.keyTaken key (m.assignment x key.toByte)),
      m.setReg x key.toByte) := by
  cases h : m.keypad.firstPressed with
  | none => exact absurd (m.keypad.firstPressed_eq_none_iff.mp h) held
  | some key => exact ⟨key, by simp only [awaitKey, h]⟩

theorem awaitKey_effect (m : Machine) (x : Register) :
    (m.awaitKey x).1.effect =
      { waiting := decide (∀ key, m.keypad.isPressed key = false) } := by
  by_cases h : ∀ key, m.keypad.isPressed key = false
  · rw [awaitKey_of_none x h, decide_eq_true h]
    rfl
  · rcases awaitKey_of_held x h with ⟨key, hkey⟩
    rw [hkey, decide_eq_false h]
    rfl

theorem awaitKey_counter (m : Machine) (x : Register) :
    (m.awaitKey x).2.memory.counter =
      if ∀ key, m.keypad.isPressed key = false then wrapAddress (m.memory.counter - 2)
      else m.memory.counter := by
  by_cases h : ∀ key, m.keypad.isPressed key = false
  · rw [awaitKey_of_none x h, if_pos h]
    rfl
  · rcases awaitKey_of_held x h with ⟨key, hkey⟩
    rw [hkey, if_neg h]
    rfl

theorem difference_effect (m : Machine) (x : Register) (minuend subtrahend : UInt8) :
    (m.difference x minuend subtrahend).1.effect = {} := by
  by_cases first : m.dialect.flagFirst = true
  · simp only [difference, if_pos first]
    rfl
  · simp only [difference, if_neg first]
    rfl

/-- All six skip instructions are one handler, called with their condition. -/
theorem perform_of_condition {m : Machine} {i : Instruction} {b : Bool}
    (skip : i.condition? m = some b) : ∃ detail, m.perform i = m.skipIf b detail := by
  cases i with
  | skipIfByte | skipUnlessByte | skipIfSame | skipUnlessSame =>
      cases skip
      exact ⟨_, rfl⟩
  | skipIfKey =>
      cases skip
      simp only [perform, skipOnKey, beq_true]
      exact ⟨_, rfl⟩
  | skipUnlessKey =>
      cases skip
      simp only [perform, skipOnKey, beq_false]
      exact ⟨_, rfl⟩
  | _ => cases skip

/-- What an instruction reports. -/
theorem perform_effect (m : Machine) (i : Instruction) :
    (m.perform i).1.effect =
      { branch := i.condition? m, redraw := i.repaints, waiting := i.waits m,
        fault := i.fault? m } := by
  cases i with
  | ret =>
      rw [perform, ret_effect]
      rfl
  | subtract | subtractFrom =>
      rw [perform, difference_effect]
      rfl
  | awaitKey =>
      rw [perform, awaitKey_effect]
      rfl
  -- These two pass on whether the key has to be down, and compare the key with it.
  | skipIfKey =>
      simp only [perform, skipOnKey, beq_true]
      rfl
  | skipUnlessKey =>
      simp only [perform, skipOnKey, beq_false]
      rfl
  | _ => rfl

/-- Where an instruction leaves the program counter. -/
theorem perform_counter (m : Machine) (i : Instruction) :
    (m.perform i).2.memory.counter = i.successor m := by
  cases hskip : i.condition? m with
  | some b =>
      -- Whether it skips is known, so its single handler computes.
      rcases perform_of_condition hskip with ⟨detail, hi⟩
      rw [hi, Instruction.successor_of_condition hskip]
      cases b <;> rfl
  | none =>
      cases i with
      | ret =>
          rw [perform, ret_counter, Instruction.successor_ret]
      | subtract | subtractFrom =>
          rw [perform, difference_frame]
          rfl
      | awaitKey x =>
          rw [perform, awaitKey_counter, Instruction.successor_awaitKey]
      | decimal => exact congrArg (·.counter) (Memory.writeBlock_eq ..)
      | save => exact congrArg (·.counter) (Memory.writeBlock_eq ..)
      | skipIfByte | skipUnlessByte | skipIfSame | skipUnlessSame => cases hskip
      | skipIfKey | skipUnlessKey => cases hskip
      | _ => rfl

end Machine

end ChipEight
