import ChipEight.Memory
import ChipEight.Text.Hex

/-!
# Dumps

The bytes of a program as hexadecimal text: all pairs on one line, or sixteen
to a line with offsets and the characters they stand for. Pairs come in groups
of four, with one blank between pairs and two between groups.

The layout is not a console's own. It is the one that hexadecimal dumps are assumed
to have, and reading a dump back rests on it. In the annotated dump this is: a first
line with the number of bytes, sixteen bytes to every line but the last, four digits
for the offset, a colon and three blanks before the pairs, blanks in place of the
pairs that a last line lacks, and then three blanks before one character for each
byte.

## Main definitions

* `Dump.pairs`: Bytes as separated pairs.
* `Dump.annotated`: Lines of sixteen bytes after a header with their number.
* `Memory.hexDump`, `Memory.annotatedDump`: Both, of the program loaded.
-/

namespace ChipEight

namespace Dump

/-- What stands before the pair at a place of a line. -/
def separator (k : Nat) : String :=
  if k = 0 then "" else if k % 4 = 0 then "  " else " "

/-- Bytes as pairs of digits, with their separators. -/
def pairs (bytes : List UInt8) : String :=
  String.join (bytes.zipIdx.map fun (b, k) => separator k ++ Hex.lower 2 b.toNat)

/-- The room that the pairs missing from a line would have taken. -/
def filler (present : Nat) : String :=
  String.join ((List.range (16 - present)).map fun k => separator (present + k) ++ "  ")

/-- The character a byte is shown as: itself if it is printable ASCII, else a
    point. -/
def glyph (b : UInt8) : Char :=
  if 0x20 ≤ b.toNat ∧ b.toNat ≤ 0x7E then Char.ofNat b.toNat else '.'

/-- Up to sixteen bytes after their offset. -/
def line (offset : Nat) (bytes : List UInt8) : String :=
  Hex.lower 4 offset ++ ":   " ++ pairs bytes ++ filler bytes.length ++ "   "
    ++ String.ofList (bytes.map glyph)

/-- The lines for bytes that begin at an offset. -/
def lines (offset : Nat) (bytes : List UInt8) : List String :=
  if bytes = [] then []
  else line offset (bytes.take 16) :: lines (offset + 16) (bytes.drop 16)
termination_by bytes.length
decreasing_by
  have : bytes.length ≠ 0 := by simpa using ‹bytes ≠ []›
  rw [List.length_drop]
  omega

/-- The line that tells how many bytes follow. -/
def header (length : Nat) : String :=
  s!"Length: {length} (0x{Hex.lower 1 length}) bytes\n"

/-- All bytes, sixteen to a line, after the header. -/
def annotated (bytes : List UInt8) : String :=
  header bytes.length ++ "\n".intercalate (lines 0 bytes)

end Dump

namespace Memory

/-- The program loaded as pairs of digits. -/
def hexDump (m : Memory) : String :=
  Dump.pairs m.romBytes

/-- The program loaded with offsets and characters. -/
def annotatedDump (m : Memory) : String :=
  Dump.annotated m.romBytes

end Memory

end ChipEight
