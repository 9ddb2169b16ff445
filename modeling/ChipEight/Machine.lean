import ChipEight.Generator
import ChipEight.Keypad
import ChipEight.Machine.Outcome
import ChipEight.Rom
import ChipEight.Settings

/-!
# Executing Instructions

The machine is everything one instruction may read or change. Executing an
instruction gives the next machine and an outcome; the program counter is
expected to stand past the instruction already.

## Main definitions

* `Machine`: Memory, display, keypad, generator and dialect.
* `Machine.perform`: The effect of every instruction.

## Theorems

* `Machine.reg_setReg_self`, `Machine.reg_setReg_of_ne`, `Machine.reg_setFlag_self`,
  `Machine.reg_setFlag_of_ne`: What registers hold after one was written.
-/

namespace ChipEight

/-- Everything one instruction may read or change. -/
structure Machine where
  memory : Memory
  display : Display
  keypad : Keypad
  generator : Generator
  dialect : Dialect
  deriving DecidableEq, Repr

namespace Machine

/-- What a register holds. -/
def reg (m : Machine) (x : Register) : UInt8 :=
  m.memory.reg x

/-- Puts a value into a register. -/
def setReg (m : Machine) (x : Register) (value : UInt8) : Machine :=
  { m with memory := m.memory.setReg x value }

/-- Puts a value into the flag register. -/
def setFlag (m : Machine) (value : UInt8) : Machine :=
  { m with memory := m.memory.setFlag value }

theorem reg_setReg_self (m : Machine) (x : Register) (value : UInt8) :
    (m.setReg x value).reg x = value :=
  (Memory.reg_setReg ..).trans (if_pos rfl)

theorem reg_setReg_of_ne (m : Machine) {x y : Register} (other : y ≠ x) (value : UInt8) :
    (m.setReg x value).reg y = m.reg y :=
  (Memory.reg_setReg ..).trans (if_neg (Ne.symm other))

theorem reg_setFlag_self (m : Machine) (flag : UInt8) :
    (m.setFlag flag).reg flagRegister = flag :=
  m.reg_setReg_self flagRegister flag

theorem reg_setFlag_of_ne (m : Machine) {x : Register} (other : x ≠ flagRegister)
    (flag : UInt8) : (m.setFlag flag).reg x = m.reg x :=
  m.reg_setReg_of_ne other flag

/-- The change that putting a value into a register would make. -/
def assignment (m : Machine) (x : Register) (value : UInt8) : Assignment :=
  ⟨x, m.reg x, value⟩

/-- Puts a value into a register and reports it. -/
def assign (m : Machine) (x : Register) (value : UInt8) : Outcome × Machine :=
  (.note (.assigned (m.assignment x value)), m.setReg x value)

/-- Puts a value into a register, then a flag into VF, and reports both. If the
    register is VF itself, the flag stays. -/
def assignThenFlag (m : Machine) (x : Register) (value flag : UInt8) : Outcome × Machine :=
  (.note (.assignedWithFlag (m.assignment x value) flag), (m.setReg x value).setFlag flag)

/-- Puts a flag into VF, then a value into a register, and reports both. If the
    register is VF itself, the value stays, and the flag is what it replaced. -/
def flagThenAssign (m : Machine) (x : Register) (value flag : UInt8) : Outcome × Machine :=
  let m := m.setFlag flag
  (.note (.assignedWithFlag (m.assignment x value) flag), m.setReg x value)

/-- Puts a difference into a register, and into VF whether the minuend was the
    larger. -/
def difference (m : Machine) (x : Register) (minuend subtrahend : UInt8) :
    Outcome × Machine :=
  let result := minuend - subtrahend
  let flag := if subtrahend < minuend then 1 else 0
  if m.dialect.flagFirst then m.flagThenAssign x result flag
  else m.assignThenFlag x result flag

/-- Skips the next instruction if a condition holds. -/
def skipIf (m : Machine) (condition : Bool) (detail : Detail) : Outcome × Machine :=
  (.branch condition detail, if condition then { m with memory := m.memory.advance } else m)

/-- Skips the next instruction on a condition on registers. -/
def skipOn (m : Machine) (registers : List Register) (condition : Bool) : Outcome × Machine :=
  m.skipIf condition (.compared (registers.map fun x => (x, m.reg x)) condition)

/-- Skips the next instruction if the key named by a register is, or is not,
    pressed. -/
def skipOnKey (m : Machine) (x : Register) (wanted : Bool) : Outcome × Machine :=
  let key := lowNibble (m.reg x)
  let pressed := m.keypad.isPressed key
  m.skipIf (pressed == wanted) (.keyTested key pressed (pressed == wanted))

/-- Changes the display and asks for it to be drawn again. -/
def redrawn (m : Machine) (detail : Detail) (display : Display) : Outcome × Machine :=
  (.redraw detail, { m with display := display })

/-- Scrolls the selected planes. -/
def scrolled (m : Machine) (scroll : Display → Display) : Outcome × Machine :=
  m.redrawn (.planes m.display.selection) (scroll m.display)

/-- Selects planes. The host is not asked to draw the screen again. -/
def selectPlanes (m : Machine) (selection : Selection) : Outcome × Machine :=
  (.note (.planes selection), { m with display := { m.display with selection := selection } })

/-- The rows of the sprite for the plane that is `turn`-th among the selected
    ones: its rows follow those of the plane before it. -/
def spriteRows (m : Memory) (turn rows : Nat) : List UInt8 :=
  m.readBlock (m.index + UInt16.ofNat (turn * rows)) rows

/-- Draws a sprite of the given height on every selected plane, and says whether
    a pixel was erased. -/
def drawPlanes (m : Memory) (d : Display) (x y rows : Nat) : Bool × Display :=
  d.selection.planes.zipIdx.foldl
    (fun (hit, d) (p, turn) =>
      let (erased, d) := d.drawSprite p x y (spriteRows m turn rows)
      (hit || erased, d))
    (false, d)

/-- Draws the sprite at I with its corner at (VX, VY). -/
def draw (m : Machine) (x y : Register) (n : Nibble) : Outcome × Machine :=
  let (column, row) := (m.reg x, m.reg y)
  let (collision, display) := drawPlanes m.memory m.display column.toNat row.toNat n.val
  let flag := if collision then 1 else 0
  (.redraw (.drawn column row collision),
    { m with memory := m.memory.setFlag flag, display := display })

/-- Calls the subroutine at an address. -/
def call (m : Machine) (target : Address) : Outcome × Machine :=
  let memory := m.memory.push m.memory.counter
  (.note (.called m.memory.counter memory.stack.length),
    { m with memory := memory.setCounter target })

/-- Returns from a subroutine. With no address to return to, the machine carries
    on. -/
def ret (m : Machine) : Outcome × Machine :=
  match m.memory.pop with
  | (some a, memory) => (.note (.returned a), { m with memory := memory.setCounter a })
  | (none, _) => (.faulty .stackUnderflow (.stackEmpty m.memory.counter), m)

/-- Continues at an address plus a register. -/
def jumpOffset (m : Machine) (base : Register) (target : Address) : Outcome × Machine :=
  let memory := m.memory.setCounter (target + (m.reg base).toUInt16)
  (.note (.jumped memory.counter), { m with memory := memory })

/-- Puts the lowest pressed key into a register, or holds the program counter on
    this instruction until there is one. -/
def awaitKey (m : Machine) (x : Register) : Outcome × Machine :=
  match m.keypad.firstPressed with
  | some key =>
    (.note (.keyTaken key (m.assignment x key.toByte)), m.setReg x key.toByte)
  | none =>
    let memory := m.memory.retreat
    (.wait (.held memory.counter), { m with memory := memory })

/-- Puts a masked random byte into a register. -/
def random (m : Machine) (x : Register) (mask : UInt8) : Outcome × Machine :=
  let (byte, generator) := m.generator.draw
  { m with generator := generator }.assign x (byte &&& mask)

/-- Adds a register to I. -/
def addIndex (m : Machine) (x : Register) : Outcome × Machine :=
  let index := m.memory.index + (m.reg x).toUInt16
  (.note (.indexMoved m.memory.index index), { m with memory := { m.memory with index := index } })

/-- Points I at the glyph of a digit. -/
def glyph (m : Machine) (x : Register) : Outcome × Machine :=
  let digit := lowNibble (m.reg x)
  let index := fontAddress + UInt16.ofNat (glyphSize * digit.val)
  (.note (.glyphChosen digit index), { m with memory := { m.memory with index := index } })

/-- Stores the decimal digits of a register. -/
def decimal (m : Machine) (x : Register) : Outcome × Machine :=
  let v := m.reg x
  let (hundreds, tens, ones) := (v / 100, v / 10 % 10, v % 10)
  (.note (.digitsStored v hundreds tens ones),
    { m with memory := m.memory.writeBlock m.memory.index [hundreds, tens, ones] })

/-- Where I is left after the registers V0 to VX were transferred. -/
def indexAfter (m : Machine) (x : Register) : Address :=
  if m.dialect.indexAdvances then m.memory.index + UInt16.ofNat (x.val + 1)
  else m.memory.index

/-- Stores the registers V0 to VX. -/
def save (m : Machine) (x : Register) : Outcome × Machine :=
  let index := m.indexAfter x
  let memory := m.memory.writeBlock m.memory.index (m.memory.registersUpTo x)
  (.note (.indexLeft index), { m with memory := { memory with index := index } })

/-- Fetches the registers V0 to VX. -/
def restore (m : Machine) (x : Register) : Outcome × Machine :=
  let index := m.indexAfter x
  let memory := m.memory.setRegisters (m.memory.readBlock m.memory.index (x.val + 1))
  (.note (.indexLeft index), { m with memory := { memory with index := index } })

/-- Executes an instruction. -/
def perform (m : Machine) : Instruction → Outcome × Machine
  | .idle => ({}, m)
  | .clearScreen => m.redrawn .silent m.display.clear
  | .ret => m.ret
  | .scrollRight => m.scrolled Display.scrollRight
  | .scrollLeft => m.scrolled Display.scrollLeft
  | .standardResolution => m.redrawn .silent { m.display with resolution := .standard }
  | .extendedResolution => m.redrawn .silent { m.display with resolution := .extended }
  | .scrollDown n => m.scrolled (·.scrollDown (.ofNat n.val))
  | .scrollUp n => m.scrolled (·.scrollUp (.ofNat n.val))
  | .jump a => ({}, { m with memory := m.memory.setCounter a })
  | .call a => m.call a
  | .skipIfByte x k => m.skipOn [x] (m.reg x == k)
  | .skipUnlessByte x k => m.skipOn [x] (m.reg x != k)
  | .skipIfSame x y => m.skipOn [x, y] (m.reg x == m.reg y)
  | .setByte x k => m.assign x k
  | .addByte x k => m.assign x (m.reg x + k)
  | .copy x y => m.assign x (m.reg y)
  | .or x y => m.assign x (m.reg x ||| m.reg y)
  | .and x y => m.assign x (m.reg x &&& m.reg y)
  | .xor x y => m.assign x (m.reg x ^^^ m.reg y)
  | .add x y =>
    let sum := m.reg x + m.reg y
    m.assignThenFlag x sum (if sum < m.reg x then 1 else 0)
  | .subtract x y => m.difference x (m.reg x) (m.reg y)
  | .shiftRight x y =>
    let source := m.reg (m.dialect.shiftSource x y)
    m.assignThenFlag x (source >>> 1) (source &&& 1)
  | .subtractFrom x y => m.difference x (m.reg y) (m.reg x)
  | .shiftLeft x y =>
    let source := m.reg (m.dialect.shiftSource x y)
    m.assignThenFlag x (source <<< 1) (source >>> 7)
  | .skipUnlessSame x y => m.skipOn [x, y] (m.reg x != m.reg y)
  | .setIndex a => ({}, { m with memory := { m.memory with index := a } })
  | .jumpOffset x a => m.jumpOffset (m.dialect.jumpBase x) a
  | .random x k => m.random x k
  | .draw x y n => m.draw x y n
  | .skipIfKey x => m.skipOnKey x true
  | .skipUnlessKey x => m.skipOnKey x false
  | .selectPlanes n => m.selectPlanes (Selection.ofBits n.val)
  | .readDelay x => m.assign x m.memory.delay
  | .awaitKey x => m.awaitKey x
  | .setDelay x =>
    (.note (.delaySet (m.reg x)), { m with memory := { m.memory with delay := m.reg x } })
  | .setSound x =>
    (.note (.soundSet (m.reg x)), { m with memory := { m.memory with sound := m.reg x } })
  | .addIndex x => m.addIndex x
  | .glyph x => m.glyph x
  | .decimal x => m.decimal x
  | .save x => m.save x
  | .restore x => m.restore x
  | .unknown w => (.faulty (.unknownWord w) (.ignored m.memory.counter), m)

end Machine

end ChipEight
