/-!
# Instruction Words

A program is a sequence of 16-bit words, each two bytes of memory with the
more significant byte first. A word is read as four hexadecimal digits: the
first says which family of instructions it belongs to, and the other three
are operands, alone or joined into a byte or a 12-bit address.

## Main definitions

* `Word`: An instruction word.
* `Nibble`, `Register`: One hexadecimal digit, and a digit that names one of
  the registers V0 to VF.
* `Word.family`, `Word.x`, `Word.y`, `Word.n`: The four digits of a word.
* `Word.byte`, `Word.address`: Its last two and its last three digits.

## Theorems

* `lowNibble_toByte`: A digit is got back from its byte.
-/

namespace ChipEight

/-- One hexadecimal digit. -/
abbrev Nibble := Fin 16

/-- Digits can be written as numerals. -/
instance Nibble.neZero : @NeZero Nat .ofOfNat0 16 :=
  ⟨by decide⟩

/-- One of the registers V0 to VF, named by its digit. -/
abbrev Register := Fin 16

/-- The register VF, which doubles as the flag of the arithmetic instructions
    and of sprite collisions. -/
def flagRegister : Register := ⟨0xF, by decide⟩

/-- An address as it stands in a register. Memory itself looks only at the
    low twelve bits. -/
abbrev Address := UInt16

/-- An instruction word. -/
abbrev Word := UInt16

/-- The low four bits of a byte: key numbers and glyph numbers are read this
    way, so no byte is out of range. -/
def lowNibble (b : UInt8) : Nibble :=
  ⟨b.toNat % 16, Nat.mod_lt _ (by decide)⟩

theorem lowNibble_eq_iff {b : UInt8} {d : Nibble} : lowNibble b = d ↔ b.toNat % 16 = d.val :=
  Fin.ext_iff

/-- A digit as a byte. -/
def Nibble.toByte (d : Nibble) : UInt8 :=
  UInt8.ofNat d.val

@[simp] theorem lowNibble_toByte : ∀ d : Nibble, lowNibble d.toByte = d := by
  decide

namespace Word

/-- The digit of a word at a place counted from the least significant. -/
def digit (w : Word) (place : Nat) : Nibble :=
  ⟨(w.toNat >>> (4 * place)) % 16, Nat.mod_lt _ (by decide)⟩

/-- The first digit, which sorts words into families. -/
def family (w : Word) : Nibble :=
  digit w 3

/-- The second digit: the register an instruction mostly works on. -/
def x (w : Word) : Register :=
  digit w 2

/-- The third digit: the other register of a two-register instruction. -/
def y (w : Word) : Register :=
  digit w 1

/-- The last digit: a number of rows. -/
def n (w : Word) : Nibble :=
  digit w 0

/-- The last two digits as a byte. -/
def byte (w : Word) : UInt8 :=
  w.toUInt8

/-- The last three digits as an address. -/
def address (w : Word) : Address :=
  w &&& 0x0FFF

/-- The word with the given bytes, more significant first. -/
def ofBytes (high low : UInt8) : Word :=
  high.toUInt16 <<< 8 ||| low.toUInt16

end Word

end ChipEight
