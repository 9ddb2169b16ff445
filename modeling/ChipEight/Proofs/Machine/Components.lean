import ChipEight.Machine.Step
import ChipEight.Proofs.Display.Modes
import ChipEight.Proofs.Memory.Blocks

/-!
# The Parts of a Machine

What every instruction makes of every part of a machine, one part at a time.

`Machine.perform` is written by instruction: each says what it does to the
machine as a whole. Most statements about a program ask the other way round,
what may happen to one part of it. `Machine.perform_eq` turns the definition
over. The machine after an instruction is a record whose fields are given by
one function each, `stackAfter`, `indexAfter` and so on, and each of these
names only the few instructions its part depends on. A statement about one part
then needs the cases of that function and none of the others.

Two parts are left as they are in this equation. The program counter is
described on its own, and the registers are described by what may assign them
rather than by value.

## Main definitions

* `Instruction.stackAfter`, `Instruction.delayAfter`, `Instruction.soundAfter`,
  `Instruction.indexAfter`, `Instruction.displayAfter`,
  `Instruction.generatorAfter`: What a part becomes.
* `Instruction.stored`: The bytes put into memory from I on.

## Theorems

* `Machine.skipIf_frame`, `Machine.difference_frame`, `Machine.awaitKey_frame`,
  `Machine.ret_frame`: What the instructions with several endings leave alone.
* `Machine.skipIf_eq`, `Machine.difference_eq`, `Machine.awaitKey_eq`,
  `Machine.ret_eq`: These instructions as single records.
* `Machine.modes_drawPlanes`: Drawing keeps all modes but the snapshot.
* `Machine.perform_eq`: The parts of the machine after an instruction.
-/

namespace ChipEight

namespace Machine

/-! ### Instructions with several endings -/

/-- Both endings of a skip differ from the machine before at most in the
    counter, and the equation names that part of the result by itself. The
    next lemmas have the same form. -/
theorem skipIf_frame (m : Machine) (condition : Bool) (detail : Detail) :
    (m.skipIf condition detail).2 = { m with memory := { m.memory with
      counter := (m.skipIf condition detail).2.memory.counter } } := by
  cases condition <;> rfl

theorem difference_frame (m : Machine) (x : Register) (minuend subtrahend : UInt8) :
    (m.difference x minuend subtrahend).2 = { m with memory := { m.memory with
      registers := (m.difference x minuend subtrahend).2.memory.registers } } := by
  by_cases first : m.dialect.flagFirst = true
  · simp only [difference, if_pos first]
    rfl
  · simp only [difference, if_neg first]
    rfl

theorem awaitKey_frame (m : Machine) (x : Register) :
    (m.awaitKey x).2 = { m with memory := { m.memory with
      registers := (m.awaitKey x).2.memory.registers
      counter := (m.awaitKey x).2.memory.counter } } := by
  unfold awaitKey
  split <;> rfl

theorem ret_of_empty {m : Machine} (empty : m.memory.stack = []) :
    m.ret = (.faulty .stackUnderflow (.stackEmpty m.memory.counter), m) := by
  simp only [ret, Memory.pop, empty, List.head?_nil]

theorem ret_of_cons {m : Machine} {a : Address} {rest : List Address}
    (top : m.memory.stack = a :: rest) :
    m.ret = (.note (.returned a),
      { m with memory := { m.memory with stack := rest, counter := wrapAddress a } }) := by
  simp only [ret, Memory.pop, top, List.head?_cons, List.tail_cons]
  rfl

theorem ret_frame (m : Machine) :
    m.ret.2 = { m with memory := { m.memory with
      stack := m.memory.stack.tail
      counter := m.ret.2.memory.counter } } := by
  cases h : m.memory.stack with
  | nil =>
      rw [ret_of_empty h, List.tail_nil, ← h]
  | cons a rest =>
      rw [ret_of_cons h, List.tail_cons]

/-! The same instructions as single records, with the choice of an ending inside
the fields that depend on it. Two machines that differ only in parts no ending
depends on can be compared field by field in this form. -/

theorem skipIf_eq (m : Machine) (condition : Bool) (detail : Detail) :
    m.skipIf condition detail = (.branch condition detail, { m with memory := { m.memory with
      counter := if condition then m.memory.advance.counter else m.memory.counter } }) := by
  cases condition <;> rfl

theorem difference_eq (m : Machine) (x : Register) (minuend subtrahend : UInt8) :
    m.difference x minuend subtrahend =
      let result := minuend - subtrahend
      let flag := if subtrahend < minuend then 1 else 0
      let before := if m.dialect.flagFirst then (m.memory.setFlag flag).reg x else m.reg x
      (.note (.assignedWithFlag ⟨x, before, result⟩ flag), { m with memory := { m.memory with
        registers := if m.dialect.flagFirst then ((m.memory.setFlag flag).setReg x result).registers
          else ((m.memory.setReg x result).setFlag flag).registers } }) := by
  by_cases first : m.dialect.flagFirst = true
  · simp only [difference, if_pos first]
    rfl
  · simp only [difference, if_neg first]
    rfl

theorem awaitKey_eq (m : Machine) (x : Register) :
    m.awaitKey x =
      (match m.keypad.firstPressed with
        | some key => .note (.keyTaken key (m.assignment x key.toByte))
        | none => .wait (.held m.memory.retreat.counter),
      { m with memory := { m.memory with
        registers := match m.keypad.firstPressed with
          | some key => (m.memory.setReg x key.toByte).registers
          | none => m.memory.registers
        counter := match m.keypad.firstPressed with
          | some _ => m.memory.counter
          | none => m.memory.retreat.counter } }) := by
  cases h : m.keypad.firstPressed with
  | none =>
      simp only [awaitKey, h]
      rfl
  | some key =>
      simp only [awaitKey, h]
      rfl

theorem ret_eq (m : Machine) :
    m.ret =
      (match m.memory.stack with
        | [] => .faulty .stackUnderflow (.stackEmpty m.memory.counter)
        | a :: _ => .note (.returned a),
      { m with memory := { m.memory with
        stack := m.memory.stack.tail
        counter := match m.memory.stack with
          | [] => m.memory.counter
          | a :: _ => wrapAddress a } }) := by
  cases h : m.memory.stack with
  | nil =>
      -- The tail of an empty stack is the stack that was there.
      have hsame : m = { m with memory := { m.memory with stack := [] } } := by rw [← h]
      rw [ret_of_empty h]
      exact congrArg (Prod.mk _) hsame
  | cons a rest =>
      rw [ret_of_cons h, List.tail_cons]

/-- Drawing on every selected plane replaces the snapshot at most: the fold
    keeps the other modes over any list of planes, whatever was hit before. -/
theorem modes_drawPlanes (m : Memory) (d : Display) (x y rows : Nat) :
    (drawPlanes m d x y rows).2.modes =
      { d.modes with lastSprite := (drawPlanes m d x y rows).2.lastSprite } := by
  unfold drawPlanes
  generalize d.selection.planes.zipIdx = turns
  generalize false = hit
  induction turns generalizing d hit with
  | nil => rfl
  | cons turn rest ih =>
      rw [List.foldl_cons, ih, Display.modes_drawSprite]

end Machine

namespace Instruction

/-- What the stack of return addresses becomes. -/
def stackAfter (m : Machine) : Instruction → List Address
  | call _ => m.memory.counter :: m.memory.stack
  | ret => m.memory.stack.tail
  | _ => m.memory.stack

theorem stackAfter_ret (m : Machine) : ret.stackAfter m = m.memory.stack.tail :=
  rfl

/-- What the delay timer becomes. -/
def delayAfter (m : Machine) : Instruction → UInt8
  | setDelay x => m.reg x
  | _ => m.memory.delay

/-- What the sound timer becomes. -/
def soundAfter (m : Machine) : Instruction → UInt8
  | setSound x => m.reg x
  | _ => m.memory.sound

/-- What the index register becomes. -/
def indexAfter (m : Machine) : Instruction → Address
  | setIndex a => a
  | addIndex x => m.memory.index + (m.reg x).toUInt16
  | glyph x => fontAddress + UInt16.ofNat (glyphSize * (lowNibble (m.reg x)).val)
  | save x | restore x => m.indexAfter x
  | _ => m.memory.index

/-- The bytes put into memory from I on. -/
def stored (m : Machine) : Instruction → List UInt8
  | decimal x => [m.reg x / 100, m.reg x / 10 % 10, m.reg x % 10]
  | save x => m.memory.registersUpTo x
  | _ => []

/-- What the display becomes. -/
def displayAfter (m : Machine) : Instruction → Display
  | clearScreen => m.display.clear
  | scrollRight => m.display.scrollRight
  | scrollLeft => m.display.scrollLeft
  | scrollDown n => m.display.scrollDown (.ofNat n.val)
  | scrollUp n => m.display.scrollUp (.ofNat n.val)
  | standardResolution => { m.display with resolution := .standard }
  | extendedResolution => { m.display with resolution := .extended }
  | draw x y n =>
    (Machine.drawPlanes m.memory m.display (m.reg x).toNat (m.reg y).toNat n.val).2
  | selectPlanes n => { m.display with selection := .ofBits n.val }
  | _ => m.display

/-- What the generator becomes. -/
def generatorAfter (m : Machine) : Instruction → Generator
  | random _ _ => m.generator.draw.2
  | _ => m.generator

end Instruction

namespace Machine

/-- The parts of the machine after an instruction. Most cases hold by
    computation. Those with several endings do not compute as long as it is
    open which ending is taken, and those that write a block are recursions
    over its bytes. -/
theorem perform_eq (m : Machine) (i : Instruction) :
    (m.perform i).2 =
      { memory :=
          { registers := (m.perform i).2.memory.registers
            index := i.indexAfter m
            counter := (m.perform i).2.memory.counter
            delay := i.delayAfter m
            sound := i.soundAfter m
            stack := i.stackAfter m
            ram := (m.memory.writeBlock m.memory.index (i.stored m)).ram
            romLength := m.memory.romLength }
        display := i.displayAfter m
        keypad := m.keypad
        generator := i.generatorAfter m
        dialect := m.dialect } := by
  cases i with
  | ret =>
      rw [perform, ret_frame]
      rfl
  | skipIfByte | skipUnlessByte | skipIfSame | skipUnlessSame =>
      rw [perform, skipOn, skipIf_frame]
      rfl
  | skipIfKey | skipUnlessKey =>
      rw [perform, skipOnKey, skipIf_frame]
      rfl
  | subtract | subtractFrom =>
      rw [perform, difference_frame]
      rfl
  | awaitKey =>
      rw [perform, awaitKey_frame]
      rfl
  | decimal =>
      rw [perform, decimal]
      simp only
      rw [Memory.writeBlock_eq]
      rfl
  | save =>
      rw [perform, save]
      simp only
      rw [Memory.writeBlock_eq]
      rfl
  | _ => rfl

end Machine

end ChipEight
