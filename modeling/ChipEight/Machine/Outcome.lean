import ChipEight.Display.Plane
import ChipEight.Instruction.Text

/-!
# Outcomes

What executing one instruction tells the host: effects it may want to react
to, and the values the instruction met, which are shown after the text of the
instruction.

## Main definitions

* `Fault`: A condition reported without stopping the machine.
* `Effect`: What a host may react to.
* `Detail`: The values an instruction met.
* `Detail.text`: These values as text.
* `Outcome`: A detail and an effect.
-/

namespace ChipEight

/-- A condition that is reported; the machine carries on. -/
inductive Fault where
  | unknownWord (word : Word)
  | stackUnderflow
  deriving DecidableEq, Repr

/-- The condition as told to a user. -/
def Fault.message : Fault → String
  | unknownWord w => "unknown opcode 0x" ++ Hex.upper 4 w.toNat
  | stackUnderflow => "return with an empty call stack"

/-- What a host may react to after an instruction. -/
structure Effect where
  /-- For a skip instruction, whether it skipped. -/
  branch : Option Bool := none
  /-- Whether a pixel, the resolution or the selection may have changed. -/
  redraw : Bool := false
  /-- Whether the program counter was held because no key was pressed. -/
  waiting : Bool := false
  fault : Option Fault := none
  deriving DecidableEq, Repr, Inhabited

/-- A register, what it held before an instruction, and what was put there. -/
structure Assignment where
  register : Register
  before : UInt8
  after : UInt8
  deriving DecidableEq, Repr

/-- The values an instruction met. -/
inductive Detail where
  /-- Nothing worth showing. -/
  | silent
  | returned (target : Address)
  | stackEmpty (counter : Address)
  | called (returnAddress : Address) (depth : Nat)
  /-- The registers a skip instruction looked at, and whether it skipped. -/
  | compared (operands : List (Register × UInt8)) (skipped : Bool)
  /-- The key a skip instruction looked at. -/
  | keyTested (key : Nibble) (pressed skipped : Bool)
  | assigned (change : Assignment)
  | assignedWithFlag (change : Assignment) (flag : UInt8)
  | jumped (counter : Address)
  | drawn (x y : UInt8) (collision : Bool)
  | planes (selection : Selection)
  | keyTaken (key : Nibble) (change : Assignment)
  | held (counter : Address)
  | delaySet (value : UInt8)
  | soundSet (value : UInt8)
  | indexMoved (before after : Address)
  | glyphChosen (digit : Nibble) (index : Address)
  | digitsStored (value hundreds tens ones : UInt8)
  | indexLeft (index : Address)
  | ignored (counter : Address)
  deriving DecidableEq, Repr

/-- A bit as a digit. -/
def bitText (b : Bool) : String :=
  if b then "1" else "0"

/-- Whether a skip instruction skipped. -/
def skipText (skipped : Bool) : String :=
  if skipped then "skipped" else "not skipped"

/-- A register and what it holds. -/
def operandText (x : Register) (value : UInt8) : String :=
  s!"{registerName x} = {Hex.byteLiteral value}"

/-- What a register held and holds. -/
def Assignment.text (c : Assignment) : String :=
  s!"{registerName c.register}: {Hex.byteLiteral c.before} -> {Hex.byteLiteral c.after}"

/-- The values as text; the empty text if there are none. -/
def Detail.text : Detail → String
  | silent => ""
  | returned a => s!"returning to {Hex.addressLiteral a}"
  | stackEmpty a => s!"stack was empty, PC left at {Hex.addressLiteral a}"
  | called a depth => s!"return address {Hex.addressLiteral a}, depth {depth}"
  | compared operands skipped =>
    ", ".intercalate (operands.map (fun o => operandText o.1 o.2) ++ [skipText skipped])
  | keyTested key pressed skipped =>
    s!"key {Hex.upper 1 key.val} pressed = {pressed}, {skipText skipped}"
  | assigned c => c.text
  | assignedWithFlag c flag => s!"{c.text}, VF = {flag.toNat}"
  | jumped a => s!"PC = {Hex.addressLiteral a}"
  | drawn x y collision => s!"at ({x.toNat}, {y.toNat}), VF = {bitText collision}"
  | planes s => s!"planes {s.name}"
  | keyTaken key c => s!"key {Hex.upper 1 key.val}, {c.text}"
  | held a => s!"no key pressed, holding PC at {Hex.addressLiteral a}"
  | delaySet v => s!"DT = {Hex.byteLiteral v}"
  | soundSet v => s!"ST = {Hex.byteLiteral v}"
  | indexMoved a b => s!"I: {Hex.addressLiteral a} -> {Hex.addressLiteral b}"
  | glyphChosen digit a => s!"glyph {Hex.upper 1 digit.val}, I = {Hex.addressLiteral a}"
  | digitsStored v h t o => s!"{v.toNat} -> [{h.toNat}, {t.toNat}, {o.toNat}]"
  | indexLeft a => s!"I = {Hex.addressLiteral a}"
  | ignored a => s!"ignored, continuing at {Hex.addressLiteral a}"

/-- What executing an instruction tells the host. -/
structure Outcome where
  detail : Detail := .silent
  effect : Effect := {}
  deriving DecidableEq, Repr

namespace Outcome

/-- An outcome that asks the host to draw the screen again. -/
def redraw (detail : Detail) : Outcome :=
  ⟨detail, { redraw := true }⟩

/-- The outcome of a skip instruction. -/
def branch (taken : Bool) (detail : Detail) : Outcome :=
  ⟨detail, { branch := some taken }⟩

/-- An outcome with a fault. -/
def faulty (fault : Fault) (detail : Detail) : Outcome :=
  ⟨detail, { fault := some fault }⟩

/-- An outcome that holds the program counter. -/
def wait (detail : Detail) : Outcome :=
  ⟨detail, { waiting := true }⟩

/-- An outcome with a detail alone. -/
def note (detail : Detail) : Outcome :=
  ⟨detail, {}⟩

end Outcome

end ChipEight
