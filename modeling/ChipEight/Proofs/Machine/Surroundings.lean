import ChipEight.Proofs.Machine.Step
import Mathlib.Logic.Basic

/-!
# The Same Machine in Other Surroundings

What becomes of an instruction if the host has changed something around it.

Besides the program and the screen, a machine holds four things that its host
has a hand in: the two timers, which count down whenever the host lets time
pass, the keypad and the dialect. Almost no instruction looks at them.
`readDelay` reads the delay timer, three instructions ask for keys, and a
dialect is consulted in four places. Whatever does not concern an instruction
in this way can be exchanged: the rest of the machine comes out as before and
the host is told the same (`Machine.perform_withSurroundings`).

A dialect is consulted for a register or for the order of two writes, and it
may be that either reading comes to the same. A shift of a register into itself
does not depend on which of its two operands is shifted, and the order in which
a difference and its flag are written matters only if both go into VF.
`Instruction.disputed` says what two dialects really disagree about. Texts are
made from the same registers, so that undisputed instructions have equal texts
as well (`Instruction.text_congr`).

## Main definitions

* `Surroundings`: Timers, keypad and dialect.
* `Machine.surroundings`, `Machine.withSurroundings`: Those of a machine, and a
  machine in others.
* `Instruction.disputed`: Whether two dialects disagree about an instruction.
* `Instruction.AsksKeys`: Whether an instruction looks at the keypad.
* `Instruction.surroundingsAfter`: The surroundings after an instruction.

## Theorems

* `Instruction.text_congr`: Undisputed instructions have equal texts.
* `Machine.difference_of_ne`: Differences outside of VF are undisputed.
* `Machine.perform_withSurroundings`: An instruction in other surroundings.
* `Machine.surroundings_step`: What a step makes of the surroundings.
* `Machine.step_withSurroundings`: A step in other surroundings.
-/

namespace ChipEight

/-- The parts of a machine that its host has a hand in while a program runs. -/
structure Surroundings where
  delay : UInt8
  sound : UInt8
  keypad : Keypad
  dialect : Dialect

namespace Machine

/-- The surroundings of a machine. -/
def surroundings (m : Machine) : Surroundings :=
  ⟨m.memory.delay, m.memory.sound, m.keypad, m.dialect⟩

/-- A machine in other surroundings. -/
def withSurroundings (m : Machine) (s : Surroundings) : Machine :=
  { m with
    memory := { m.memory with delay := s.delay, sound := s.sound }
    keypad := s.keypad
    dialect := s.dialect }

end Machine

namespace Instruction

/-! ### What an instruction looks at -/

/-- Whether two dialects disagree about an instruction. -/
def disputed (d e : Dialect) : Instruction → Bool
  | shiftRight x y | shiftLeft x y => x ≠ y ∧ d.shiftUsesY ≠ e.shiftUsesY
  | jumpOffset x _ => x ≠ 0 ∧ d.jumpUsesX ≠ e.jumpUsesX
  | save _ | restore _ => d.indexAdvances ≠ e.indexAdvances
  | subtract x _ | subtractFrom x _ => x = flagRegister ∧ d.flagFirst ≠ e.flagFirst
  | _ => false

/-- Whether an instruction looks at the keypad. -/
def AsksKeys : Instruction → Prop
  | skipIfKey _ | skipUnlessKey _ | awaitKey _ => True
  | _ => False

/-- The surroundings after an instruction. Programs set timers and leave the
    keypad and the dialect to the host. -/
def surroundingsAfter (m : Machine) (i : Instruction) : Surroundings :=
  { m.surroundings with delay := i.delayAfter m, sound := i.soundAfter m }

variable {d e : Dialect}

/-- A dialect does not disagree with itself. -/
theorem disputed_self (d : Dialect) (i : Instruction) : i.disputed d d = false := by
  cases i with
  | shiftRight | shiftLeft | jumpOffset | subtract | subtractFrom =>
      exact decide_eq_false fun h => h.2 rfl
  | save | restore => exact decide_eq_false fun h => h rfl
  | _ => rfl

theorem shiftSource_congr {x y : Register}
    (undisputed : ¬ (x ≠ y ∧ d.shiftUsesY ≠ e.shiftUsesY)) :
    e.shiftSource x y = d.shiftSource x y := by
  unfold Dialect.shiftSource
  by_cases hxy : x = y
  · rw [hxy, ite_self, ite_self]
  · have hsame : d.shiftUsesY = e.shiftUsesY := by_contra fun h => undisputed ⟨hxy, h⟩
    rw [hsame]

theorem jumpBase_congr {x : Register} (undisputed : ¬ (x ≠ 0 ∧ d.jumpUsesX ≠ e.jumpUsesX)) :
    e.jumpBase x = d.jumpBase x := by
  unfold Dialect.jumpBase
  by_cases hx : x = 0
  · rw [hx]
    exact (ite_self _).trans (ite_self _).symm
  · have hsame : d.jumpUsesX = e.jumpUsesX := by_contra fun h => undisputed ⟨hx, h⟩
    rw [hsame]

/-- The texts of an instruction name the registers it reads, so they are the
    same in both dialects unless the instruction is disputed. -/
theorem text_congr {i : Instruction} (undisputed : i.disputed d e = false) :
    i.mnemonic e = i.mnemonic d ∧ i.summary e = i.summary d := by
  cases i with
  | shiftRight x y | shiftLeft x y =>
      have hsource := shiftSource_congr (of_decide_eq_false undisputed)
      unfold mnemonic summary
      simp only [hsource, and_self]
  | jumpOffset x a =>
      have hbase := jumpBase_congr (of_decide_eq_false undisputed)
      unfold mnemonic summary
      simp only [hbase, and_self]
  | _ => exact ⟨rfl, rfl⟩

end Instruction

namespace Machine

variable {m : Machine} {s : Surroundings}

/-! ### One instruction -/

theorem flagThenAssign_of_ne {x : Register} (other : x ≠ flagRegister) (value flag : UInt8) :
    m.flagThenAssign x value flag = m.assignThenFlag x value flag := by
  have hbefore : (m.setFlag flag).reg x = m.reg x := m.reg_setFlag_of_ne other flag
  -- Two writes to different registers may change places.
  have hwrites : (m.setFlag flag).setReg x value = (m.setReg x value).setFlag flag := by
    have hval : flagRegister.val ≠ x.val := fun h => other (Fin.ext h.symm)
    have h : (m.memory.registers.set flagRegister flag).set x value =
        (m.memory.registers.set x value).set flagRegister flag :=
      Vector.set_comm flag value hval
    exact congrArg (fun registers => { m with memory := { m.memory with registers } }) h
  rw [flagThenAssign, assignThenFlag, hwrites, assignment, assignment, hbefore]

/-- If the difference does not go into VF, it does not matter which of the two
    is written first. -/
theorem difference_of_ne {x : Register} (other : x ≠ flagRegister) (minuend subtrahend : UInt8) :
    m.difference x minuend subtrahend =
      m.assignThenFlag x (minuend - subtrahend) (if subtrahend < minuend then 1 else 0) := by
  simp only [difference, flagThenAssign_of_ne other, ite_self]

theorem difference_withSurroundings {x : Register}
    (undisputed : ¬ (x = flagRegister ∧ m.dialect.flagFirst ≠ s.dialect.flagFirst))
    (minuend subtrahend : UInt8) :
    (m.withSurroundings s).difference x minuend subtrahend =
      ((m.difference x minuend subtrahend).1,
        (m.difference x minuend subtrahend).2.withSurroundings s) := by
  by_cases hx : x = flagRegister
  · have hsame : s.dialect.flagFirst = m.dialect.flagFirst :=
      by_contra fun h => undisputed ⟨hx, fun h' => h h'.symm⟩
    rw [difference_eq, difference_eq]
    simp only [withSurroundings, hsame]
    rfl
  · rw [difference_of_ne hx, difference_of_ne hx]
    rfl

theorem indexAfter_withSurroundings
    (same : m.dialect.indexAdvances = s.dialect.indexAdvances) (x : Register) :
    (m.withSurroundings s).indexAfter x = m.indexAfter x := by
  rw [indexAfter, indexAfter, same]
  rfl

theorem writeBlock_withSurroundings (a : Address) (bytes : List UInt8) :
    (m.withSurroundings s).memory.writeBlock a bytes =
      { m.memory.writeBlock a bytes with delay := s.delay, sound := s.sound } := by
  have hram : (m.withSurroundings s).memory.ram = m.memory.ram := rfl
  rw [Memory.writeBlock_eq, Memory.ram_writeBlock_congr hram, m.memory.writeBlock_eq]
  rfl

/-- An instruction in other surroundings, of which it sees nothing new: the rest
    of the machine comes out as before, and the same is told. -/
theorem perform_withSurroundings {i : Instruction}
    (delay : ∀ x, i = .readDelay x → s.delay = m.memory.delay)
    (keypad : i.AsksKeys → s.keypad = m.keypad)
    (undisputed : i.disputed m.dialect s.dialect = false) :
    (m.withSurroundings s).perform i = ((m.perform i).1,
      (m.perform i).2.withSurroundings (i.surroundingsAfter (m.withSurroundings s))) := by
  cases i with
  | ret =>
      rw [perform, perform, ret_eq, ret_eq]
      rfl
  | skipIfByte | skipUnlessByte | skipIfSame | skipUnlessSame =>
      rw [perform, perform, skipOn, skipOn, skipIf_eq, skipIf_eq]
      rfl
  -- These look at one part of the surroundings, which is the same.
  | skipIfKey | skipUnlessKey =>
      rcases s with ⟨_, _, _, _⟩
      cases keypad trivial
      rw [perform, perform, skipOnKey, skipOnKey, skipIf_eq, skipIf_eq]
      rfl
  | awaitKey =>
      rcases s with ⟨_, _, _, _⟩
      cases keypad trivial
      rw [perform, perform, awaitKey_eq, awaitKey_eq]
      rfl
  | readDelay x =>
      rcases s with ⟨_, _, _, _⟩
      cases delay x rfl
      rfl
  -- These ask the dialect, and the answer is the same.
  | shiftRight | shiftLeft =>
      have hsource := Instruction.shiftSource_congr (of_decide_eq_false undisputed)
      simp only [perform, withSurroundings, hsource]
      rfl
  | jumpOffset =>
      have hbase := Instruction.jumpBase_congr (of_decide_eq_false undisputed)
      simp only [perform, withSurroundings, hbase]
      rfl
  | subtract | subtractFrom =>
      exact difference_withSurroundings (of_decide_eq_false undisputed) _ _
  | save x =>
      have hsame := not_not.mp (of_decide_eq_false undisputed)
      have hblock := writeBlock_withSurroundings (m := m) (s := s) m.memory.index
        (m.memory.registersUpTo x)
      simp only [perform, save, indexAfter_withSurroundings hsame]
      exact congrArg (fun memory : Memory => (_, { m.withSurroundings s with
        memory := { memory with index := m.indexAfter x } })) hblock
  | restore x =>
      have hsame := not_not.mp (of_decide_eq_false undisputed)
      simp only [perform, restore, indexAfter_withSurroundings hsame]
      rfl
  | decimal x =>
      simp only [perform, decimal]
      exact congrArg (fun memory : Memory => (_, { m.withSurroundings s with memory }))
        (writeBlock_withSurroundings _ _)
  | _ => rfl

/-! ### One step -/

/-- What a step makes of the surroundings of a machine. -/
theorem surroundings_step (m : Machine) :
    m.step.2.surroundings = m.next.surroundingsAfter m.fetched := by
  rw [step_eq, perform_eq]
  rfl

/-- A step in other surroundings, of which its instruction sees nothing new. -/
theorem step_withSurroundings
    (delay : ∀ x, m.next = .readDelay x → s.delay = m.memory.delay)
    (keypad : m.next.AsksKeys → s.keypad = m.keypad)
    (undisputed : m.next.disputed m.dialect s.dialect = false) :
    (m.withSurroundings s).step = (m.step.1,
      m.step.2.withSurroundings (m.next.surroundingsAfter (m.fetched.withSurroundings s))) := by
  have hperform := perform_withSurroundings (m := m.fetched) delay keypad undisputed
  have htext : Decoded.ofWord s.dialect m.nextWord = .ofWord m.dialect m.nextWord := by
    rcases Instruction.text_congr undisputed with ⟨hmnemonic, hsummary⟩
    rw [next] at hmnemonic hsummary
    rw [Decoded.ofWord, Decoded.ofWord, Instruction.describe, Instruction.describe, hmnemonic,
      hsummary]
  rw [step_eq_perform, step_eq_perform]
  -- Fetching and decoding do not look at the surroundings.
  change ((Decoded.ofWord s.dialect m.nextWord).withOutcome
      ((m.fetched.withSurroundings s).perform m.next).1,
    ((m.fetched.withSurroundings s).perform m.next).2) = _
  rw [hperform, htext]

end Machine

end ChipEight
