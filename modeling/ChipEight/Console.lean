import ChipEight.Display.Render
import ChipEight.Dump
import ChipEight.Machine.Step

/-!
# The Console

A machine together with the settings its host chose, and what the host can do
with it: load programs, run instructions, let time pass, work the keys, and
look at what is there.

## Main definitions

* `Console`: Settings and a machine.
* `Console.new`: A console before any program is loaded.
* `Console.load`: Loads a program, replacing memory and display.
* `Console.loadInPlace`: The same, one part after the other.
* `Console.step`, `Console.steps`, `Console.tick`: Running.
* `Console.explainAt`, `Console.disassemble`, `Console.listing`,
  `Console.render`: Looking.
-/

namespace ChipEight

/-- A machine and the settings its host chose. -/
structure Console where
  settings : Settings
  machine : Machine
  deriving DecidableEq, Repr

namespace Console

/-- A console before any program is loaded. The seed decides every random
    number it will ever give. -/
def new (settings : Settings) (seed : UInt64) : Console where
  settings := settings
  machine :=
    { memory := .blank
      display := settings.display
      keypad := .initial
      generator := .ofSeed seed
      dialect := settings.dialect }

/-- Puts a program in, in place of memory and display. The keys, the dialect
    and the generator stay as they are. -/
def insert (c : Console) (rom : Rom) : Console :=
  { c with machine := { c.machine with
      memory := .ofRom rom
      display := c.settings.display } }

/-- Loads a program made of the given bytes, if they are accepted. -/
def load (c : Console) (bytes : List UInt8) : Except LoadError Console :=
  (Rom.ofBytes bytes).map c.insert

/-- Loads a program into memory, and then empties the display into the modes of
    the settings. Whatever was stored before a failure would stay. -/
def loadInPlace (bytes : List UInt8) : ExceptT LoadError (StateM Console) Unit := do
  let memory ← Memory.load bytes
  modify fun c => { c with machine := { c.machine with memory := memory } }
  modify fun c => { c with machine := { c.machine with display := c.settings.display } }

/-- What loading a program leaves in the log. -/
def loadLog (bytes : List UInt8) : List Entry :=
  [⟨.info, s!"loaded {bytes.length} byte ROM"⟩]

/-- Runs one instruction. -/
def step (c : Console) : Decoded × Console :=
  let (decoded, machine) := c.machine.step
  (decoded, { c with machine := machine })

/-- Runs a number of instructions. -/
def steps (c : Console) : Nat → List Decoded × Console
  | 0 => ([], c)
  | n + 1 =>
    let (decoded, c) := c.step
    let (rest, c) := c.steps n
    (decoded :: rest, c)

/-- Lets the sixtieth of a second pass. -/
def tick (c : Console) : Console :=
  { c with machine := c.machine.tick }

/-- Changes the keypad. -/
def onKeypad (c : Console) (f : Keypad → Keypad) : Console :=
  { c with machine := { c.machine with keypad := f c.machine.keypad } }

/-- Presses a key. -/
def press (c : Console) (key : UInt8) : Console :=
  c.onKeypad (·.press key)

/-- Releases a key. -/
def release (c : Console) (key : UInt8) : Console :=
  c.onKeypad (·.release key)

/-- Changes the dialect, from the next instruction on. -/
def setDialect (c : Console) (dialect : Dialect) : Console where
  settings := { c.settings with dialect := dialect }
  machine := { c.machine with dialect := dialect }

/-- Changes how erased pixels fade. -/
def setFading (c : Console) (fading : Fading) : Console where
  settings := { c.settings with fading := fading }
  machine := { c.machine with display := { c.machine.display with fading := fading } }

/-- Whether a tone should be sounding. -/
def soundActive (c : Console) : Bool :=
  decide (0 < c.machine.memory.sound)

/-- Describes the instruction at an address without running it. -/
def explainAt (c : Console) (a : Address) : Decoded :=
  c.machine.explain (c.machine.memory.wordAt a)

/-- Describes a number of instructions from an address on. -/
def disassemble (c : Console) (start : Address) (count : Nat) : List (Address × Decoded) :=
  (c.machine.memory.wordsFrom start count).map fun (a, w) => (a, c.machine.explain w)

/-- One line of a listing: an address and the text of the word there. -/
def listingLine (a : Address) (d : Decoded) : String :=
  Hex.upper 3 a.toNat ++ "  " ++ d.trace

/-- One line for every word of the program loaded; a last odd byte gets a line
    as well. -/
def listing (c : Console) : List String :=
  (c.disassemble programStart ((c.machine.memory.romLength + 1) / 2)).map fun (a, d) =>
    listingLine a d

/-- The active area of the screen as lines of signs. -/
def render (c : Console) : String :=
  c.machine.display.render

end Console

end ChipEight
