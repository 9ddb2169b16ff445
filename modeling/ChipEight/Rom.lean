import ChipEight.Memory

/-!
# Program Images

A program is loaded from a string of bytes. It has to hold something and to
fit between the program start and the end of memory; checking that happens
once, when the bytes become a `Rom`, and nothing after it can fail.

## Main definitions

* `Rom`: Bytes that can be loaded.
* `LoadError`: Why bytes were refused, or could not be read.
* `Rom.ofBytes`: The check.
* `Memory.blank`, `Memory.ofRom`: Memory with the font alone, and with a
  program.
* `Memory.load`, `Memory.loadInto`: Memory with a program made of bytes, by
  itself and in place of another.
-/

namespace ChipEight

/-- Why a file could not be read. -/
inductive ReadError where
  | notFound
  /-- The path goes on past a file. -/
  | notDirectory
  | isDirectory
  | nameTooLong
  /-- Any other failure, in the words and with the number of the system. -/
  | other (reason : String) (code : Nat)
  deriving DecidableEq, Repr

/-- The failure in the words and with the number of the system. -/
def ReadError.message : ReadError → String
  | notFound => "No such file or directory (os error 2)"
  | notDirectory => "Not a directory (os error 20)"
  | isDirectory => "Is a directory (os error 21)"
  | nameTooLong => "File name too long (os error 36)"
  | other reason code => s!"{reason} (os error {code})"

/-- Why a program was not loaded. -/
inductive LoadError where
  | empty
  /-- More bytes than the most there can be. -/
  | tooLarge (size max : Nat)
  | unreadable (cause : ReadError)
  deriving DecidableEq, Repr

/-- The reason as told to a user. -/
def LoadError.message : LoadError → String
  | empty => "ROM is empty"
  | tooLarge size max => s!"ROM is too large ({size} bytes), max size is {max} bytes"
  | unreadable cause => s!"unable to read ROM: {cause.message}"

/-- Bytes that can be loaded as a program. -/
structure Rom where
  bytes : List UInt8
  nonempty : bytes ≠ []
  fits : bytes.length ≤ maxRomSize

namespace Rom

/-- Accepts bytes that hold something and fit. -/
def ofBytes (bytes : List UInt8) : Except LoadError Rom :=
  if nonempty : bytes = [] then .error .empty
  else if fits : bytes.length ≤ maxRomSize then .ok ⟨bytes, nonempty, fits⟩
  else .error (.tooLarge bytes.length maxRomSize)

/-- Accepts what was read from a file. -/
def ofFile (contents : Except ReadError (List UInt8)) : Except LoadError Rom :=
  match contents with
  | .error cause => .error (.unreadable cause)
  | .ok bytes => ofBytes bytes

end Rom

/-- Where the sixteen glyphs are kept. -/
def fontAddress : Address := 0x50

/-- The rows of one glyph. -/
def glyphSize : Nat := 5

/-- The glyphs of the sixteen digits, five rows each. The high half of a row
    holds the four pixels that can be seen. -/
def font : List UInt8 :=
  [0xF0, 0x90, 0x90, 0x90, 0xF0, -- 0
   0x20, 0x60, 0x20, 0x20, 0x70, -- 1
   0xF0, 0x10, 0xF0, 0x80, 0xF0, -- 2
   0xF0, 0x10, 0xF0, 0x10, 0xF0, -- 3
   0x90, 0x90, 0xF0, 0x10, 0x10, -- 4
   0xF0, 0x80, 0xF0, 0x10, 0xF0, -- 5
   0xF0, 0x80, 0xF0, 0x90, 0xF0, -- 6
   0xF0, 0x10, 0x20, 0x40, 0x40, -- 7
   0xF0, 0x90, 0xF0, 0x90, 0xF0, -- 8
   0xF0, 0x90, 0xF0, 0x10, 0xF0, -- 9
   0xF0, 0x90, 0xF0, 0x90, 0x90, -- A
   0xE0, 0x90, 0xE0, 0x90, 0xE0, -- B
   0xF0, 0x80, 0x80, 0x80, 0xF0, -- C
   0xE0, 0x90, 0x90, 0x90, 0xE0, -- D
   0xF0, 0x80, 0xF0, 0x80, 0xF0, -- E
   0xF0, 0x80, 0xF0, 0x80, 0x80] -- F

namespace Memory

/-- Memory that holds the font alone. -/
def blank : Memory :=
  ({} : Memory).writeBlock fontAddress font

/-- Memory that holds the font and a program. -/
def ofRom (rom : Rom) : Memory :=
  { blank.writeBlock programStart rom.bytes with romLength := rom.bytes.length }

/-- Memory that holds the font and a program made of the given bytes, if they
    are accepted. -/
def load (bytes : List UInt8) : Except LoadError Memory :=
  (Rom.ofBytes bytes).map ofRom

/-- Loads a program in place of everything memory holds. Whatever was stored
    before a failure would stay. -/
def loadInto (bytes : List UInt8) : ExceptT LoadError (StateM Memory) Unit := do
  let loaded ← load bytes
  set loaded

end Memory

end ChipEight
