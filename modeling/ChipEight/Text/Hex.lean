/-!
# Hexadecimal Text

Numbers written in base sixteen, in either case, with leading zeros up to a
least width. A number too large for the width is written in full.

## Main definitions

* `Hex.padded`: The digits of a number after enough zeros to reach a width.
* `Hex.upper`, `Hex.lower`: A number as text.
* `Hex.byteLiteral`, `Hex.addressLiteral`: The two marked forms traces use,
  `0x` before at least two or at least three digits.
-/

namespace ChipEight

namespace Hex

/-- The lower-case digits of a number, most significant first, after as many
    zeros as it takes to have `width` of them. -/
def padded (width n : Nat) : List Char :=
  (Nat.toDigits 16 n).leftpad width '0'

/-- A number in lower case, with at least `width` digits. -/
def lower (width n : Nat) : String :=
  String.ofList (padded width n)

/-- A number in upper case, with at least `width` digits. -/
def upper (width n : Nat) : String :=
  String.ofList ((padded width n).map Char.toUpper)

/-- A byte as traces show it, such as `0x0F`. -/
def byteLiteral (b : UInt8) : String :=
  "0x" ++ upper 2 b.toNat

/-- An address as traces show it, such as `0x05A`; one beyond the twelve bits
    of memory shows all four of its digits. -/
def addressLiteral (a : UInt16) : String :=
  "0x" ++ upper 3 a.toNat

end Hex

end ChipEight
