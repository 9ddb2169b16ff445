import ChipEight.Proofs.Console.Actions
import ChipEight.Proofs.Frame

/-!
# Consistent Consoles

What holds of every console, however its host came by it.

Some parts of a console have room for more than they ever hold. The program
counter and the return addresses have four bits more than memory has addresses.
The length of the program is a number of any size, though dumps and listings
take it for a stretch of memory. The bindings are a list, which could name a
character twice. And two of the settings are kept twice, once for the next
program and once where they take effect, so that they could come apart.

`Console.Consistent` says that none of this happens. An instruction can endanger
no more than the addresses, which `Machine.inRange_step` is about; everything
else it leaves alone, by its frame. The rest is in the hands of the host: to
bind a character takes away what it was bound to, to change a setting changes
both copies, and a program that is put in was checked for its length and brings
the display back to the settings.

## Main definitions

* `Keypad.Wellbound`: No character is bound twice.
* `Console.Consistent`: The conditions that every console keeps to.

## Theorems

* `Keypad.Wellbound.after`: What happens to a keypad binds no character twice.
* `Console.Consistent.step`, `Console.Consistent.insert`,
  `Console.Consistent.after`: Steps, new programs and all other events keep a
  console consistent.
* `every_console_consistent`: Whatever a host does to a new console, it stays
  consistent.
-/

namespace ChipEight

/-! ### Bindings -/

namespace Keypad

/-- No character is bound twice, and every key that one is bound to exists. -/
structure Wellbound (k : Keypad) : Prop where
  codes : (k.bindings.map Prod.fst).Nodup
  keys : ∀ code key, k.keyFor code = some key → key.toByte < 16

theorem toByte_lt : ∀ key : Nibble, key.toByte < 16 := by
  decide

theorem wellbound_of_codes {k : Keypad} (codes : (k.bindings.map Prod.fst).Nodup) :
    k.Wellbound :=
  ⟨codes, fun _ key _ => toByte_lt key⟩

theorem wellbound_initial : initial.Wellbound :=
  wellbound_of_codes (by decide)

theorem Wellbound.unbind {k : Keypad} (bound : k.Wellbound) (code : Char) :
    (k.unbind code).Wellbound :=
  wellbound_of_codes (bound.codes.sublist (List.filter_sublist.map _))

/-- A character that is bound is not among the others any more. -/
theorem Wellbound.bind {k : Keypad} (bound : k.Wellbound) (code : Char) (key : UInt8) :
    (k.bind code key).Wellbound := by
  -- To bind is to unbind first and to put the character in front.
  refine wellbound_of_codes (List.nodup_cons.mpr ⟨?_, (bound.unbind code).codes⟩)
  intro member
  rcases List.mem_map.mp member with ⟨b, hb, hcode⟩
  have hother := (List.mem_filter.mp hb).2
  simp only [hcode, bne_self_eq_false, Bool.false_eq_true] at hother

theorem Wellbound.after {k : Keypad} (bound : k.Wellbound) (operation : Operation) :
    (k.after operation).Wellbound := by
  cases operation with
  | reset => exact wellbound_initial
  | set | releaseAll => exact wellbound_of_codes bound.codes
  | bind code key => exact bound.bind code key
  | unbind code => exact bound.unbind code
  | pressCode code =>
      -- A character without a key changes nothing; one with a key, no binding.
      rw [Keypad.after, pressCode]
      split
      · exact wellbound_of_codes bound.codes
      · exact bound
  | releaseCode code =>
      rw [Keypad.after, releaseCode]
      split
      · exact wellbound_of_codes bound.codes
      · exact bound

end Keypad

/-! ### Consoles -/

namespace Console

/-- The conditions that every console keeps to. -/
structure Consistent (c : Console) : Prop where
  counter : c.machine.memory.counter.toNat < 4096
  stack : ∀ a ∈ c.machine.memory.stack, a.toNat < 4096
  romLength : c.machine.memory.romLength = 0 ∨
    1 ≤ c.machine.memory.romLength ∧ c.machine.memory.romLength ≤ 3584
  bindings : c.machine.keypad.Wellbound
  dialect : c.machine.dialect = c.settings.dialect
  fading : c.machine.display.fading = c.settings.fading

theorem consistent_fresh (settings : Settings) (key : Vector UInt32 8) :
    (fresh settings key).Consistent where
  counter := Memory.inRange_blank.counter
  stack := Memory.inRange_blank.stack
  romLength := .inl (congrArg Memory.romLength (Memory.writeBlock_eq {} fontAddress font))
  bindings := Keypad.wellbound_initial
  dialect := rfl
  fading := rfl

namespace Consistent

variable {c : Console}

/-- An instruction keeps the addresses in range, and the rest is none of its
    business. -/
theorem step (consistent : c.Consistent) : c.step.2.Consistent := by
  have hrange := Machine.inRange_step ⟨consistent.counter, consistent.stack⟩
  have hframe : Frame c.machine.fetched c.machine.next _ c.step.2.machine :=
    c.machine.fetched.perform_frame c.machine.next
  refine ⟨hrange.counter, hrange.stack, ?_, ?_, ?_, ?_⟩
  · rw [hframe.romLength]
    exact consistent.romLength
  · rw [hframe.keypad]
    exact consistent.bindings
  · rw [hframe.dialect]
    exact consistent.dialect
  · rw [hframe.fading]
    exact consistent.fading

theorem insert (consistent : c.Consistent) (rom : Rom) : (c.insert rom).Consistent where
  counter := (Memory.inRange_ofRom rom).counter
  stack := (Memory.inRange_ofRom rom).stack
  romLength := .inr ⟨List.length_pos_iff.mpr rom.nonempty, rom.fits⟩
  bindings := consistent.bindings
  dialect := consistent.dialect
  fading := rfl

theorem after (consistent : c.Consistent) (e : Event) : (c.after e).Consistent := by
  cases e with
  | step => exact consistent.step
  | tick => exact { consistent with }
  | keys operation => exact { consistent with bindings := consistent.bindings.after operation }
  | setDialect dialect => exact { consistent with dialect := rfl }
  | setFading fading => exact { consistent with fading := rfl }
  | load bytes =>
      rcases c.after_load bytes with ⟨rom, h⟩ | h
      · rw [h]
        exact consistent.insert rom
      · rwa [h]

end Consistent

theorem Reachable.consistent {c : Console} (reached : c.Reachable) : c.Consistent := by
  induction reached with
  | fresh settings key => exact consistent_fresh settings key
  | after _ e ih => exact ih.after e

theorem Reachable.romLength_le {c : Console} (reached : c.Reachable) :
    c.machine.memory.romLength ≤ maxRomSize := by
  rcases reached.consistent.romLength with none | ⟨-, fits⟩
  · rw [none]
    exact Nat.zero_le _
  · exact fits

end Console

/-- Whatever a host does to a console that it began without a seed or with one,
    the console stays consistent. -/
theorem every_console_consistent (settings : Settings) (key : Vector UInt32 8) (seed : UInt64)
    (actions : List Console.Action) :
    ((Console.fresh settings key).act actions).Consistent ∧
      ((Console.new settings seed).act actions).Consistent :=
  ⟨((Console.Reachable.fresh settings key).act actions).consistent,
    ((Console.Reachable.new settings seed).act actions).consistent⟩

/-- The farthest jump leads around the end of memory, to what lies below programs. -/
example :
    ((Console.new {} 0).act [.load [0x60, 0xFF, 0xBF, 0xFF], .steps 2]).machine.memory.counter =
      0x0FE := by
  decide +kernel

end ChipEight
