import ChipEight.Dialect
import ChipEight.Instruction
import ChipEight.Text.Hex

/-!
# Instruction Text

Every instruction has an assembly form, such as `ADD V1, 0x22`, and a one-line
account of what it does. Both are made from the instruction and the dialect
alone, never from the state of a machine.

## Main definitions

* `Instruction.mnemonic`: The assembly form.
* `Instruction.summary`: What the instruction does.
-/

namespace ChipEight

/-- The name of a register. -/
def registerName (x : Register) : String :=
  "V" ++ Hex.upper 1 x.val

namespace Instruction

open Hex (byteLiteral addressLiteral)

/-- The assembly form of an instruction. -/
def mnemonic (dialect : Dialect) : Instruction → String
  | idle => "NOP"
  | clearScreen => "CLS"
  | ret => "RET"
  | scrollRight => "SCR"
  | scrollLeft => "SCL"
  | standardResolution => "LOW"
  | extendedResolution => "HIGH"
  | scrollDown n => s!"SCD {n.val}"
  | scrollUp n => s!"SCU {n.val}"
  | jump a => s!"JP {addressLiteral a}"
  | call a => s!"CALL {addressLiteral a}"
  | skipIfByte x k => s!"SE {registerName x}, {byteLiteral k}"
  | skipUnlessByte x k => s!"SNE {registerName x}, {byteLiteral k}"
  | skipIfSame x y => s!"SE {registerName x}, {registerName y}"
  | setByte x k => s!"LD {registerName x}, {byteLiteral k}"
  | addByte x k => s!"ADD {registerName x}, {byteLiteral k}"
  | copy x y => s!"LD {registerName x}, {registerName y}"
  | or x y => s!"OR {registerName x}, {registerName y}"
  | and x y => s!"AND {registerName x}, {registerName y}"
  | xor x y => s!"XOR {registerName x}, {registerName y}"
  | add x y => s!"ADD {registerName x}, {registerName y}"
  | subtract x y => s!"SUB {registerName x}, {registerName y}"
  | shiftRight x y => s!"SHR {registerName x}, {registerName (dialect.shiftSource x y)}"
  | subtractFrom x y => s!"SUBN {registerName x}, {registerName y}"
  | shiftLeft x y => s!"SHL {registerName x}, {registerName (dialect.shiftSource x y)}"
  | skipUnlessSame x y => s!"SNE {registerName x}, {registerName y}"
  | setIndex a => s!"LD I, {addressLiteral a}"
  | jumpOffset x a => s!"JP {registerName (dialect.jumpBase x)}, {addressLiteral a}"
  | random x k => s!"RND {registerName x}, {byteLiteral k}"
  | draw x y n => s!"DRW {registerName x}, {registerName y}, {n.val}"
  | skipIfKey x => s!"SKP {registerName x}"
  | skipUnlessKey x => s!"SKNP {registerName x}"
  | selectPlanes n => s!"PLANE {n.val}"
  | readDelay x => s!"LD {registerName x}, DT"
  | awaitKey x => s!"LD {registerName x}, K"
  | setDelay x => s!"LD DT, {registerName x}"
  | setSound x => s!"LD ST, {registerName x}"
  | addIndex x => s!"ADD I, {registerName x}"
  | glyph x => s!"LD F, {registerName x}"
  | decimal x => s!"LD B, {registerName x}"
  | save x => s!"LD [I], {registerName x}"
  | restore x => s!"LD {registerName x}, [I]"
  | unknown w => s!"??? {Hex.upper 4 w.toNat}"

/-- Two bits of a plane selection in base two. -/
def planeBits (n : Nibble) : String :=
  s!"0b{n.val / 2 % 2}{n.val % 2}"

/-- What an instruction does, without reference to any value it may find. -/
def summary (dialect : Dialect) : Instruction → String
  | idle => "do nothing"
  | clearScreen => "clear both planes"
  | ret => "PC = stack.pop()"
  | scrollRight => "scroll selected planes right"
  | scrollLeft => "scroll selected planes left"
  | standardResolution => "switch to 64x32"
  | extendedResolution => "switch to 128x64"
  | scrollDown n => s!"scroll selected planes down {n.val}"
  | scrollUp n => s!"scroll selected planes up {n.val}"
  | jump a => s!"PC = {addressLiteral a}"
  | call a => s!"stack.push(PC); PC = {addressLiteral a}"
  | skipIfByte x k => s!"skip next if {registerName x} == {byteLiteral k}"
  | skipUnlessByte x k => s!"skip next if {registerName x} != {byteLiteral k}"
  | skipIfSame x y => s!"skip next if {registerName x} == {registerName y}"
  | setByte x k => s!"{registerName x} = {byteLiteral k}"
  | addByte x k => s!"{registerName x} += {byteLiteral k}"
  | copy x y => s!"{registerName x} = {registerName y}"
  | or x y => s!"{registerName x} |= {registerName y}"
  | and x y => s!"{registerName x} &= {registerName y}"
  | xor x y => s!"{registerName x} ^= {registerName y}"
  | add x y => s!"{registerName x} += {registerName y}; VF = carry"
  | subtract x y => s!"{registerName x} -= {registerName y}; VF = no borrow"
  | shiftRight x y =>
    s!"{registerName x} = {registerName (dialect.shiftSource x y)} >> 1; VF = shifted bit"
  | subtractFrom x y =>
    s!"{registerName x} = {registerName y} - {registerName x}; VF = no borrow"
  | shiftLeft x y =>
    s!"{registerName x} = {registerName (dialect.shiftSource x y)} << 1; VF = shifted bit"
  | skipUnlessSame x y => s!"skip next if {registerName x} != {registerName y}"
  | setIndex a => s!"I = {addressLiteral a}"
  | jumpOffset x a => s!"PC = {addressLiteral a} + {registerName (dialect.jumpBase x)}"
  | random x k => s!"{registerName x} = random & {byteLiteral k}"
  | draw x y n =>
    s!"draw {n.val} rows from I at ({registerName x}, {registerName y}); VF = collision"
  | skipIfKey x => s!"skip next if key {registerName x} is pressed"
  | skipUnlessKey x => s!"skip next if key {registerName x} is not pressed"
  | selectPlanes n => s!"select planes {planeBits n}"
  | readDelay x => s!"{registerName x} = DT"
  | awaitKey x => s!"wait for a key press, {registerName x} = key"
  | setDelay x => s!"DT = {registerName x}"
  | setSound x => s!"ST = {registerName x}"
  | addIndex x => s!"I += {registerName x}"
  | glyph x => s!"I = glyph address of {registerName x}"
  | decimal x => s!"mem[I..I+3] = bcd({registerName x})"
  | save x => s!"mem[I..=I+{x.val}] = V0..={registerName x}"
  | restore x => s!"V0..={registerName x} = mem[I..=I+{x.val}]"
  | unknown _ => "unknown opcode"

/-- A text followed by as many blanks as it takes to fill a column. -/
def column (width : Nat) (text : String) : String :=
  text ++ String.ofList (List.replicate (width - text.length) ' ')

/-- The text of a word before anything runs: the word itself, its assembly
    form in a column of eighteen characters, and what it does. -/
def describe (dialect : Dialect) (w : Word) : String :=
  let instruction := decode w
  Hex.upper 4 w.toNat ++ "  " ++ column 18 (instruction.mnemonic dialect) ++ " ; "
    ++ instruction.summary dialect

end Instruction

end ChipEight
