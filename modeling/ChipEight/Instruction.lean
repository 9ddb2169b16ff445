import ChipEight.Word

/-!
# Instructions

What a word tells the machine to do, with its operands already taken out of
the word. Decoding is total: a word that no instruction claims becomes
`Instruction.unknown`.

## Main definitions

* `Instruction`: The forty-two instructions and `unknown`.
* `Instruction.decode`: The instruction a word stands for.
* `Instruction.isSkip`: Whether an instruction may skip the next one.
-/

namespace ChipEight

/-- An instruction with its operands. The words that decode to each are given
    with X and Y for register digits, N for a digit, KK for a byte and NNN for
    an address. -/
inductive Instruction where
  /-- `0000`: do nothing. -/
  | idle
  /-- `00E0`: turn every pixel of both planes off. -/
  | clearScreen
  /-- `00EE`: return to the address on top of the stack. -/
  | ret
  /-- `00FB`: scroll the selected planes right. -/
  | scrollRight
  /-- `00FC`: scroll the selected planes left. -/
  | scrollLeft
  /-- `00FE`: switch to the standard resolution. -/
  | standardResolution
  /-- `00FF`: switch to the extended resolution. -/
  | extendedResolution
  /-- `00CN`: scroll the selected planes down. -/
  | scrollDown (n : Nibble)
  /-- `00DN`: scroll the selected planes up. -/
  | scrollUp (n : Nibble)
  /-- `1NNN`: continue at an address. -/
  | jump (target : Address)
  /-- `2NNN`: call the subroutine at an address. -/
  | call (target : Address)
  /-- `3XKK`: skip the next instruction if VX is the byte. -/
  | skipIfByte (x : Register) (byte : UInt8)
  /-- `4XKK`: skip the next instruction unless VX is the byte. -/
  | skipUnlessByte (x : Register) (byte : UInt8)
  /-- `5XY0`: skip the next instruction if VX and VY agree. -/
  | skipIfSame (x y : Register)
  /-- `6XKK`: put the byte into VX. -/
  | setByte (x : Register) (byte : UInt8)
  /-- `7XKK`: add the byte to VX, without a carry. -/
  | addByte (x : Register) (byte : UInt8)
  /-- `8XY0`: copy VY into VX. -/
  | copy (x y : Register)
  /-- `8XY1`: bitwise or. -/
  | or (x y : Register)
  /-- `8XY2`: bitwise and. -/
  | and (x y : Register)
  /-- `8XY3`: bitwise exclusive or. -/
  | xor (x y : Register)
  /-- `8XY4`: add VY to VX, with the carry in VF. -/
  | add (x y : Register)
  /-- `8XY5`: subtract VY from VX. -/
  | subtract (x y : Register)
  /-- `8XY6`: shift right by one bit. -/
  | shiftRight (x y : Register)
  /-- `8XY7`: subtract VX from VY, into VX. -/
  | subtractFrom (x y : Register)
  /-- `8XYE`: shift left by one bit. -/
  | shiftLeft (x y : Register)
  /-- `9XY0`: skip the next instruction unless VX and VY agree. -/
  | skipUnlessSame (x y : Register)
  /-- `ANNN`: put the address into I. -/
  | setIndex (target : Address)
  /-- `BNNN`: continue at the address plus a register; X is the first digit of
      NNN. -/
  | jumpOffset (x : Register) (target : Address)
  /-- `CXKK`: put a random byte, masked by KK, into VX. -/
  | random (x : Register) (mask : UInt8)
  /-- `DXYN`: draw the N-row sprite at I with its corner at (VX, VY). -/
  | draw (x y : Register) (n : Nibble)
  /-- `EX9E`: skip the next instruction if the key in VX is pressed. -/
  | skipIfKey (x : Register)
  /-- `EXA1`: skip the next instruction unless the key in VX is pressed. -/
  | skipUnlessKey (x : Register)
  /-- `FN01`: select planes by the low two bits of the digit. -/
  | selectPlanes (n : Nibble)
  /-- `FX07`: read the delay timer into VX. -/
  | readDelay (x : Register)
  /-- `FX0A`: wait until a key is pressed and put it into VX. -/
  | awaitKey (x : Register)
  /-- `FX15`: set the delay timer from VX. -/
  | setDelay (x : Register)
  /-- `FX18`: set the sound timer from VX. -/
  | setSound (x : Register)
  /-- `FX1E`: add VX to I. -/
  | addIndex (x : Register)
  /-- `FX29`: point I at the glyph of the low digit of VX. -/
  | glyph (x : Register)
  /-- `FX33`: store the three decimal digits of VX at I. -/
  | decimal (x : Register)
  /-- `FX55`: store V0 to VX at I. -/
  | save (x : Register)
  /-- `FX65`: fetch V0 to VX from I. -/
  | restore (x : Register)
  /-- Any other word. -/
  | unknown (word : Word)
  deriving DecidableEq, Repr

namespace Instruction

/-- The words beginning with 0. -/
def decodeSystem (w : Word) : Instruction :=
  if w.x.val ≠ 0 then .unknown w
  else match w.y.val, w.n.val with
    | 0x0, 0x0 => .idle
    | 0xC, _ => .scrollDown w.n
    | 0xD, _ => .scrollUp w.n
    | 0xE, 0x0 => .clearScreen
    | 0xE, 0xE => .ret
    | 0xF, 0xB => .scrollRight
    | 0xF, 0xC => .scrollLeft
    | 0xF, 0xE => .standardResolution
    | 0xF, 0xF => .extendedResolution
    | _, _ => .unknown w

/-- The words beginning with 8. -/
def decodeArithmetic (w : Word) : Instruction :=
  match w.n.val with
  | 0x0 => .copy w.x w.y
  | 0x1 => .or w.x w.y
  | 0x2 => .and w.x w.y
  | 0x3 => .xor w.x w.y
  | 0x4 => .add w.x w.y
  | 0x5 => .subtract w.x w.y
  | 0x6 => .shiftRight w.x w.y
  | 0x7 => .subtractFrom w.x w.y
  | 0xE => .shiftLeft w.x w.y
  | _ => .unknown w

/-- The words beginning with F. -/
def decodePeripheral (w : Word) : Instruction :=
  match w.y.val, w.n.val with
  | 0x0, 0x1 => .selectPlanes w.x
  | 0x0, 0x7 => .readDelay w.x
  | 0x0, 0xA => .awaitKey w.x
  | 0x1, 0x5 => .setDelay w.x
  | 0x1, 0x8 => .setSound w.x
  | 0x1, 0xE => .addIndex w.x
  | 0x2, 0x9 => .glyph w.x
  | 0x3, 0x3 => .decimal w.x
  | 0x5, 0x5 => .save w.x
  | 0x6, 0x5 => .restore w.x
  | _, _ => .unknown w

/-- The instruction a word stands for. -/
def decode (w : Word) : Instruction :=
  match w.family.val with
  | 0x0 => decodeSystem w
  | 0x1 => .jump w.address
  | 0x2 => .call w.address
  | 0x3 => .skipIfByte w.x w.byte
  | 0x4 => .skipUnlessByte w.x w.byte
  | 0x5 => if w.n.val = 0 then .skipIfSame w.x w.y else .unknown w
  | 0x6 => .setByte w.x w.byte
  | 0x7 => .addByte w.x w.byte
  | 0x8 => decodeArithmetic w
  | 0x9 => if w.n.val = 0 then .skipUnlessSame w.x w.y else .unknown w
  | 0xA => .setIndex w.address
  | 0xB => .jumpOffset w.x w.address
  | 0xC => .random w.x w.byte
  | 0xD => .draw w.x w.y w.n
  | 0xE =>
    match w.y.val, w.n.val with
    | 0x9, 0xE => .skipIfKey w.x
    | 0xA, 0x1 => .skipUnlessKey w.x
    | _, _ => .unknown w
  | _ => decodePeripheral w

/-- Whether the instruction may skip the next one. -/
def isSkip : Instruction → Bool
  | .skipIfByte _ _ | .skipUnlessByte _ _ | .skipIfSame _ _ | .skipUnlessSame _ _
  | .skipIfKey _ | .skipUnlessKey _ => true
  | _ => false

end Instruction

end ChipEight
