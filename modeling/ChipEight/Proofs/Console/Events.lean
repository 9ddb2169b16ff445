import ChipEight.Console.Session
import ChipEight.Proofs.Machine.Range

/-!
# Histories of a Console

What a host can do to a console, one event at a time, and the consoles that
come of it.

A host calls one operation after another, so everything a console has been
through is a list of events. `Console.replay` plays such a list and
`Console.records` collects what the steps among it reported; statements about
whole runs are inductions over these two. Running a number of instructions and
running a session are histories of steps and ticks, which is why neither is an
event of its own.

A console that a host did not begin with a seed draws its random bytes under a
key that is not known beforehand. `Reachable` therefore begins with any key.

## Main definitions

* `Keypad.Operation`, `Keypad.after`: What can happen to a keypad.
* `Console.Event`, `Console.after`: What can happen to a console.
* `Console.replay`, `Console.records`: A history, and the records of its steps.
* `Console.Reachable`: Consoles that some history leads to.

## Theorems

* `Console.after_load`: A program is put in or refused.
* `Console.steps_eq_replay`: Running a number of instructions is a history.
* `Console.Reachable.replay`: A history leads from reachable consoles to reachable
  ones.
* `Console.Reachable.inRange`: The counter and the return addresses of a
  reachable console lie within memory.
-/

namespace ChipEight

/-! ### Events -/

/-- What can happen to a keypad. Keys are named by bytes. -/
inductive Keypad.Operation where
  /-- A keypad as it comes. -/
  | reset
  | set (key : UInt8) (pressed : Bool)
  | releaseAll
  | bind (code : Char) (key : UInt8)
  | unbind (code : Char)
  | pressCode (code : Char)
  | releaseCode (code : Char)

/-- A keypad after an operation. -/
def Keypad.after (k : Keypad) : Operation → Keypad
  | .reset => .initial
  | .set key pressed => k.set key pressed
  | .releaseAll => k.releaseAll
  | .bind code key => k.bind code key
  | .unbind code => k.unbind code
  | .pressCode code => k.pressCode code
  | .releaseCode code => k.releaseCode code

/-- What can happen to a console. -/
inductive Console.Event where
  | step
  | tick
  | keys (operation : Keypad.Operation)
  | setDialect (dialect : Dialect)
  | setFading (fading : Fading)
  | load (bytes : List UInt8)

/-- Whether an event puts another program in. -/
def Console.Event.isLoad : Event → Bool
  | load _ => true
  | _ => false

namespace Console

/-- A console before any program is loaded, drawing its random bytes under the
    given key. -/
def fresh (settings : Settings) (key : Vector UInt32 8) : Console where
  settings := settings
  machine :=
    { memory := .blank
      display := settings.display
      keypad := .initial
      generator := { key := key }
      dialect := settings.dialect }

/-- A console after an event. A program that is refused changes nothing. -/
def after (c : Console) : Event → Console
  | .step => c.step.2
  | .tick => c.tick
  | .keys operation => c.onKeypad (·.after operation)
  | .setDialect dialect => c.setDialect dialect
  | .setFading fading => c.setFading fading
  | .load bytes => match c.load bytes with
    | .ok loaded => loaded
    | .error _ => c

/-- A console after a history. -/
def replay (c : Console) (history : List Event) : Console :=
  history.foldl after c

/-- What an event reports. -/
def record? (c : Console) : Event → Option Decoded
  | .step => some c.step.1
  | _ => none

/-- What the steps of a history report, in their order. -/
def records (c : Console) : List Event → List Decoded
  | [] => []
  | e :: rest => (c.record? e).toList ++ (c.after e).records rest

@[simp] theorem replay_nil (c : Console) : c.replay [] = c :=
  rfl

@[simp] theorem replay_cons (c : Console) (e : Event) (rest : List Event) :
    c.replay (e :: rest) = (c.after e).replay rest :=
  rfl

theorem replay_append (c : Console) (first second : List Event) :
    c.replay (first ++ second) = (c.replay first).replay second :=
  List.foldl_append

theorem records_append (c : Console) (first second : List Event) :
    c.records (first ++ second) = c.records first ++ (c.replay first).records second := by
  induction first generalizing c with
  | nil => rfl
  | cons e rest ih =>
      rw [List.cons_append, records, records, ih, replay_cons, List.append_assoc]

/-- What the steps of a history report, they report in its beginning already. -/
theorem mem_records_of_mem_take {c : Console} {history : List Event} {n : Nat} {d : Decoded}
    (member : d ∈ c.records (history.take n)) : d ∈ c.records history := by
  rw [← List.take_append_drop n history, records_append]
  exact List.mem_append_left _ member

/-- Running a number of instructions is a history of that many steps. -/
theorem steps_eq_replay (c : Console) (n : Nat) :
    c.steps n = (c.records (.replicate n .step), c.replay (.replicate n .step)) := by
  induction n generalizing c with
  | zero => rfl
  | succ n ih =>
      simp only [steps, ih, List.replicate_succ]
      rfl

/-- A program is put in, or it is refused and everything stays as it was. -/
theorem after_load (c : Console) (bytes : List UInt8) :
    (∃ rom, c.after (.load bytes) = c.insert rom) ∨ c.after (.load bytes) = c := by
  unfold after
  cases h : Rom.ofBytes bytes with
  | ok rom =>
      refine .inl ⟨rom, ?_⟩
      simp only [load, h, Except.map]
  | error =>
      refine .inr ?_
      simp only [load, h, Except.map]

/-! ### Reachable consoles -/

/-- The consoles that some history leads to. -/
inductive Reachable : Console → Prop where
  | fresh (settings : Settings) (key : Vector UInt32 8) : Reachable (.fresh settings key)
  | after {c : Console} (reached : Reachable c) (e : Event) : Reachable (c.after e)

namespace Reachable

theorem new (settings : Settings) (seed : UInt64) : Reachable (.new settings seed) :=
  .fresh settings (Generator.ofSeed seed).key

theorem replay {c : Console} (reached : c.Reachable) (history : List Event) :
    (c.replay history).Reachable := by
  induction history generalizing c with
  | nil => exact reached
  | cons e rest ih => exact ih (reached.after e)

end Reachable

/-! ### Addresses in range -/

theorem inRange_after {c : Console} (range : c.machine.memory.InRange) (e : Event) :
    (c.after e).machine.memory.InRange := by
  cases e with
  | step => exact Machine.inRange_step range
  | tick => exact ⟨range.counter, range.stack⟩
  | keys | setDialect | setFading => exact range
  | load bytes =>
      rcases c.after_load bytes with ⟨rom, h⟩ | h
      · rw [h]
        exact Memory.inRange_ofRom rom
      · rwa [h]

theorem Reachable.inRange {c : Console} (reached : c.Reachable) : c.machine.memory.InRange := by
  induction reached with
  | fresh => exact Memory.inRange_blank
  | after _ e ih => exact inRange_after ih e

end Console

end ChipEight
