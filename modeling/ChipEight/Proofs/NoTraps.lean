import ChipEight.Proofs.Checked.Machine
import ChipEight.Proofs.Consistency

/-!
# Consoles without Failure

That nothing a host does to a console makes it stop.

What a host can ask of a console is written out here once more by operations that
can fail. Running needs no conditions: a machine can execute any word in any
state, so a history goes through to its end, and every console it leads to is one
that the operations lead to. Looking needs two. Words can be described as long as
twice their number is an address at most. The dumps take the
program out of memory, and it is there because only programs that fit were put
in.

## Main definitions

* `Keypad.afterChecked`, `Console.afterChecked`, `Console.replayChecked`: Events.
* `Console.explainAtChecked`, `Console.disassembleChecked`,
  `Console.listingChecked`, `Console.renderChecked`, `Console.hexDumpChecked`,
  `Console.annotatedDumpChecked`: Looking.
* `Console.TrapFree`: All that can be done to a console and asked of it, without
  failure.

## Theorems

* `Console.replayChecked_eq`: No history fails.
* `reachable_console_never_traps`: Reachable consoles do not fail.
-/

namespace ChipEight

open Checked

/-! ### Events -/

/-- Presses or releases a key. -/
def Keypad.setChecked (k : Keypad) (key : UInt8) (pressed : Bool) : Checked Keypad := do
  return { k with pressed := ← replaced k.pressed (key &&& 0xF).toNat pressed }

/-- A keypad after an operation. Bindings are looked up by their characters. -/
def Keypad.afterChecked (k : Keypad) : Operation → Checked Keypad
  | .set key pressed => k.setChecked key pressed
  | .pressCode code => match k.keyFor code with
    | some key => k.setChecked key.toByte true
    | none => return k
  | .releaseCode code => match k.keyFor code with
    | some key => k.setChecked key.toByte false
    | none => return k
  | .reset => return k.after .reset
  | .releaseAll => return k.after .releaseAll
  | .bind code key => return k.after (.bind code key)
  | .unbind code => return k.after (.unbind code)

/-- Memory that holds the font and a program. -/
def Memory.ofRomChecked (rom : Rom) : Checked Memory := do
  let blank ← ({} : Memory).writeBlockChecked fontAddress font
  let memory ← blank.writeBlockChecked programStart rom.bytes
  return { memory with romLength := rom.bytes.length }

theorem Keypad.setChecked_eq (k : Keypad) (key : UInt8) (pressed : Bool) :
    k.setChecked key pressed = .ok (k.set key pressed) := by
  rw [setChecked, toNat_lowNibble, replaced_of_lt]
  rfl

theorem Keypad.afterChecked_eq (k : Keypad) (operation : Operation) :
    k.afterChecked operation = .ok (k.after operation) := by
  cases operation with
  | set key pressed => exact k.setChecked_eq key pressed
  | pressCode code | releaseCode code =>
      simp only [afterChecked, after, pressCode, releaseCode]
      cases k.keyFor code with
      | some key => exact k.setChecked_eq key.toByte _
      | none => rfl
  | reset | releaseAll | bind | unbind => rfl

theorem Memory.ofRomChecked_eq (rom : Rom) : ofRomChecked rom = .ok (ofRom rom) := by
  rw [ofRomChecked, writeBlockChecked_eq, ok_bind, writeBlockChecked_eq, ok_bind]
  rfl

namespace Console

/-- Runs one instruction. -/
def stepChecked (c : Console) : Checked (Decoded × Console) := do
  let (decoded, machine) ← c.machine.stepChecked
  return (decoded, { c with machine := machine })

/-- Lets the sixtieth of a second pass. -/
def tickChecked (c : Console) : Checked Console := do
  return { c with machine := ← c.machine.tickChecked }

/-- A console after an event. -/
def afterChecked (c : Console) : Event → Checked Console
  | .step => do return (← c.stepChecked).2
  | .tick => c.tickChecked
  | .keys operation => do
    let keypad ← c.machine.keypad.afterChecked operation
    return { c with machine := { c.machine with keypad := keypad } }
  | .load bytes => match Rom.ofBytes bytes with
    | .ok rom => do
      let memory ← Memory.ofRomChecked rom
      return { c with machine := { c.machine with
        memory := memory
        display := c.settings.display } }
    | .error _ => return c
  | .setDialect dialect => return c.setDialect dialect
  | .setFading fading => return c.setFading fading

/-- A console after a history. -/
def replayChecked (c : Console) (history : List Event) : Checked Console :=
  history.foldlM afterChecked c

variable (c : Console)

theorem stepChecked_eq : c.stepChecked = .ok c.step := by
  rw [stepChecked, Machine.stepChecked_eq, ok_bind]
  rfl

theorem tickChecked_eq : c.tickChecked = .ok c.tick := by
  rw [tickChecked, Machine.tickChecked_eq, ok_bind]
  rfl

theorem afterChecked_eq (e : Event) : c.afterChecked e = .ok (c.after e) := by
  cases e with
  | step => rw [afterChecked, stepChecked_eq, ok_bind]; rfl
  | tick => exact c.tickChecked_eq
  | keys operation => rw [afterChecked, Keypad.afterChecked_eq, ok_bind]; rfl
  | setDialect | setFading => rfl
  | load bytes =>
      -- Whether the program is accepted is decided before memory is touched.
      rw [afterChecked, after, load]
      cases Rom.ofBytes bytes with
      | ok rom => simp only [Memory.ofRomChecked_eq, ok_bind, Except.map]; rfl
      | error => rfl

/-- No history fails, wherever it begins. -/
theorem replayChecked_eq (history : List Event) :
    c.replayChecked history = .ok (c.replay history) :=
  foldlM_of_ok (fun c e _ => c.afterChecked_eq e) c

/-! ### Looking -/

/-- Describes the instruction at an address. -/
def explainAtChecked (a : Address) : Checked Decoded := do
  return c.machine.explain (← c.machine.memory.wordAtChecked a)

/-- Describes a number of instructions from an address on. -/
def disassembleChecked (start : Address) (count : Nat) : Checked (List (Address × Decoded)) := do
  let words ← c.machine.memory.wordsFromChecked start count
  return words.map fun (a, w) => (a, c.machine.explain w)

/-- One line for every word of the program loaded. -/
def listingChecked : Checked (List String) := do
  let words := (← size (c.machine.memory.romLength + 1)) / 2
  return (← c.disassembleChecked programStart words).map fun (a, d) => listingLine a d

/-- The active area of the screen as lines of signs. -/
def renderChecked : Checked String :=
  c.machine.display.renderChecked

/-- The program loaded as pairs of digits. Once it is taken out of memory, its bytes
    are looked at one by one. -/
def hexDumpChecked : Checked String := do
  return Dump.pairs (← c.machine.memory.romBytesChecked)

/-- The program loaded with offsets and characters. -/
def annotatedDumpChecked : Checked String := do
  return Dump.annotated (← c.machine.memory.romBytesChecked)

theorem explainAtChecked_eq (a : Address) : c.explainAtChecked a = .ok (c.explainAt a) := by
  rw [explainAtChecked, Memory.wordAtChecked_eq, ok_bind]
  rfl

theorem disassembleChecked_eq (start : Address) {count : Nat} (fits : count ≤ 32768) :
    c.disassembleChecked start count = .ok (c.disassemble start count) := by
  rw [disassembleChecked, Memory.wordsFromChecked_eq _ start fits, ok_bind]
  rfl

variable {c}

theorem listingChecked_eq (fits : c.machine.memory.romLength ≤ maxRomSize) :
    c.listingChecked = .ok c.listing := by
  -- A program has far fewer words than could be described.
  have hmax : maxRomSize = 3584 := rfl
  rw [listingChecked, size_of_lt (by omega), ok_bind]
  simp only [c.disassembleChecked_eq programStart
    (show (c.machine.memory.romLength + 1) / 2 ≤ 32768 by omega), ok_bind]
  rfl

/-- All that can be done to a console and asked of it, without failure and with the
    result that it should have. -/
structure TrapFree (c : Console) : Prop where
  /-- Any word can be executed, not only the next one. -/
  execute : ∀ w, c.machine.executeChecked w = .ok (c.machine.execute w)
  step : c.stepChecked = .ok c.step
  tick : c.tickChecked = .ok c.tick
  /-- Whatever comes next, and after it. -/
  replay : ∀ history, c.replayChecked history = .ok (c.replay history)
  explainAt : ∀ a, c.explainAtChecked a = .ok (c.explainAt a)
  disassemble : ∀ start, ∀ count ≤ 32768,
    c.disassembleChecked start count = .ok (c.disassemble start count)
  listing : c.listingChecked = .ok c.listing
  render : c.renderChecked = .ok c.render
  hexDump : c.hexDumpChecked = .ok c.machine.memory.hexDump
  annotatedDump : c.annotatedDumpChecked = .ok c.machine.memory.annotatedDump

end Console

/-- Whatever was done to a console, it can go on and be looked at. -/
theorem reachable_console_never_traps {c : Console} (reached : c.Reachable) : c.TrapFree where
  execute := c.machine.executeChecked_eq
  step := c.stepChecked_eq
  tick := c.tickChecked_eq
  replay := c.replayChecked_eq
  explainAt := c.explainAtChecked_eq
  disassemble start _ fits := c.disassembleChecked_eq start fits
  listing := Console.listingChecked_eq reached.romLength_le
  render := c.machine.display.renderChecked_eq
  hexDump := by
    rw [Console.hexDumpChecked, Memory.romBytesChecked_eq reached.romLength_le, ok_bind]
    rfl
  annotatedDump := by
    rw [Console.annotatedDumpChecked, Memory.romBytesChecked_eq reached.romLength_le, ok_bind]
    rfl

/-- A console whose next instruction adds the 0xFF in V0 to the highest address. -/
def Console.jumpingFarthest : Console :=
  (Console.new {} 0).replay [.load [0x60, 0xFF, 0xBF, 0xFF], .step]

open Console in
/-- The jump leads around the end of memory, and the program is still there to be
    dumped. -/
theorem reachable_console_never_traps_when_jumping :
    jumpingFarthest.Reachable ∧
      (∃ decoded after, jumpingFarthest.stepChecked = .ok (decoded, after) ∧
        after.machine.memory.counter = 0x0FE) ∧
      jumpingFarthest.hexDumpChecked = .ok "60 ff bf ff" := by
  have reached : jumpingFarthest.Reachable := (Reachable.new _ _).replay _
  have free := reachable_console_never_traps reached
  refine ⟨reached, ⟨_, _, free.step, by decide +kernel⟩, ?_⟩
  rw [free.hexDump]
  exact congrArg Except.ok (by decide +kernel)

end ChipEight
