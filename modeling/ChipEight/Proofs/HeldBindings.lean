import ChipEight.Keypad.Binding
import ChipEight.Proofs.Holding

/-!
# Bindings that can be Held

A user binds a character to a key and then holds a text with that character in it.
One would expect the key to be pressed. It is, unless the character is an upper-case
letter.

A text that is held may be written in either case, and its letters are looked up in
lower case. The letter that is bound is stored as it is. So a key that is bound to an
upper-case letter is never found, by this letter or by any other, and the letter does
what its lower-case one would do: it is reported as one that stands for no key, or
presses another key than the one it was bound to. `Keypad.hold_filter_of_isUpper` says
so as an equation: without such a binding, everything is held the same.

All other characters are looked up as they are written, letters with accents among
them, since only the 26 letters have a lower case here.

## Theorems

* `Binding.mem_iff_of_mapM`: What is read from texts is read from one of them.
* `Keypad.keyAfter_of_mem`: A character stands for the one key it is bound to.
* `Keypad.holdChars_congr`: Holding asks for nothing but lower-case letters and
  characters without a case.
* `Keypad.hold_filter_of_isUpper`: To bind an upper-case letter makes no difference.
* `accepted_bindings_hold_unless_upper_case`: Which bindings can be held.
* `upper_case_binding_not_held`: A binding that cannot.
-/

namespace ChipEight

namespace Text

theorem toLower_of_not_isUpper {c : Char} (lower : c.isUpper = false) : c.toLower = c :=
  dif_neg (of_decide_eq_false lower)

theorem isUpper_toLower (c : Char) : c.toLower.isUpper = false := by
  have hascii : ∀ n < 128, (Char.ofNat n).toLower.isUpper = false := by decide
  rcases hupper : c.isUpper with _ | _
  · rw [toLower_of_not_isUpper hupper, hupper]
  · have hlast : c.toNat ≤ 90 := (of_decide_eq_true hupper).2
    have hc := hascii c.toNat (Nat.lt_of_le_of_lt hlast (by decide))
    rwa [Char.ofNat_toNat] at hc

end Text

/-- What is read from texts is read from one of them. -/
theorem Binding.mem_iff_of_mapM {texts : List String} {bindings : List (Char × UInt8)}
    (accepted : texts.mapM parse = .ok bindings) {b : Char × UInt8} :
    b ∈ bindings ↔ ∃ text ∈ texts, parse text = .ok b := by
  induction texts generalizing bindings with
  | nil =>
      rw [List.mapM_nil] at accepted
      cases accepted
      simp only [List.not_mem_nil, false_and, exists_false]
  | cons text rest ih =>
      rw [List.mapM_cons] at accepted
      rcases hfirst : parse text with e | first
      · rw [hfirst] at accepted
        cases accepted
      rcases hrest : rest.mapM parse with e | others
      · rw [hfirst, hrest] at accepted
        cases accepted
      rw [hfirst, hrest] at accepted
      cases accepted
      simp only [List.mem_cons, ih hrest, exists_eq_or_imp, hfirst, Except.ok.injEq]
      exact or_congr_left eq_comm

namespace Keypad

variable {pad other : Keypad} {bindings : List (Char × UInt8)} {code : Char}

theorem keyAfter_of_mem {key : UInt8} (member : (code, key) ∈ bindings)
    (alone : ∀ key', (code, key') ∈ bindings → key' = key) :
    pad.keyAfter bindings code = some (lowNibble key) := by
  have hlookup : bindings.reverse.lookup code = some key := by
    rcases hfound : bindings.reverse.lookup code with _ | key'
    · have hother := List.lookup_eq_none_iff.mp hfound _ (List.mem_reverse.mpr member)
      simp only [bne_self_eq_false, Bool.false_eq_true] at hother
    · rcases List.lookup_eq_some_iff.mp hfound with ⟨before, after, parts, -⟩
      have hmember : (code, key') ∈ bindings.reverse := by
        rw [parts]
        exact List.mem_append_cons_self
      rw [alone key' (List.mem_reverse.mp hmember)]
  rw [keyAfter, hlookup, Option.map_some, Option.some_or]

/-- What is bound to one character is of no concern to the others. -/
theorem keyAfter_filter {c : Char} (different : code ≠ c) :
    pad.keyAfter (bindings.filter fun b => b.1 != code) c = pad.keyAfter bindings c := by
  rw [keyAfter, keyAfter, ← List.filter_reverse, lookup_filter_bne, if_neg different]

/-- Holding asks what lower-case letters and characters without a case stand for, and
    nothing else of the bindings. -/
theorem holdChars_congr (pressed : pad.pressed = other.pressed)
    (same : ∀ c : Char, pad.keyFor c.toLower = other.keyFor c.toLower) (chars : List Char) :
    (pad.holdChars chars).1 = (other.holdChars chars).1 ∧
      (pad.holdChars chars).2.pressed = (other.holdChars chars).2.pressed := by
  induction chars generalizing pad other with
  | nil => exact ⟨rfl, pressed⟩
  | cons c rest ih =>
      rcases hkey : pad.keyFor c.toLower with _ | key
      · have hother := (same c).symm.trans hkey
        rw [holdChars_of_none hkey, holdChars_of_none hother]
        exact ⟨rfl, pressed⟩
      · have hother := (same c).symm.trans hkey
        rw [holdChars_of_some hkey, holdChars_of_some hother]
        refine ih ?_ same
        rw [press, press, set, set, pressed]

theorem hold_singleton {key : Nibble} (bound : pad.keyAfter bindings code.toLower = some key) :
    pad.hold bindings (String.singleton code) =
      (none, (pad.bindAll bindings).press key.toByte) := by
  have hbound := (pad.keyFor_bindAll bindings code.toLower).trans bound
  rw [hold, String.toList_singleton, holdChars_of_some hbound, holdChars]

/-- To bind an upper-case letter makes no difference to what is held. -/
theorem hold_filter_of_isUpper (pad : Keypad) (bindings : List (Char × UInt8))
    (upper : code.isUpper = true) (held : String) :
    (pad.hold bindings held).1 = (pad.hold (bindings.filter fun b => b.1 != code) held).1 ∧
      (pad.hold bindings held).2.pressed =
        (pad.hold (bindings.filter fun b => b.1 != code) held).2.pressed := by
  refine holdChars_congr ?_ (fun c => ?_) held.toList
  · rw [pressed_bindAll, pressed_bindAll]
  · -- The letter that is looked up is none in upper case.
    have hdifferent : code ≠ c.toLower := by
      rintro rfl
      rw [Text.isUpper_toLower] at upper
      cases upper
    rw [keyFor_bindAll, keyFor_bindAll, keyAfter_filter hdifferent]

end Keypad

/-- A character that an accepted text binds, and that no other text binds to another key,
    can be held: this succeeds, and beside the keys that were pressed before it presses the
    key that the character was bound to. Upper-case letters are the exception. What one of
    them is bound to makes no difference, whatever is held. -/
theorem accepted_bindings_hold_unless_upper_case (pad : Keypad) {texts : List String}
    {bindings : List (Char × UInt8)} (accepted : texts.mapM Binding.parse = .ok bindings)
    {text : String} {code : Char} {key : UInt8} (among : text ∈ texts)
    (binds : Binding.parse text = .ok (code, key))
    (alone : ∀ other ∈ texts, ∀ key', Binding.parse other = .ok (code, key') → key' = key) :
    let outcome := pad.hold bindings
    let without := pad.hold (bindings.filter fun b => b.1 != code)
    (code.isUpper = false →
      (outcome (String.singleton code)).1 = none ∧
        ∀ k, (outcome (String.singleton code)).2.isPressed k = true ↔
          pad.isPressed k = true ∨ k.val = key.toNat) ∧
    (code.isUpper = true → ∀ held,
      (outcome held).1 = (without held).1 ∧
        ∀ k, (outcome held).2.isPressed k = (without held).2.isPressed k) := by
  intro outcome without
  refine ⟨fun lower => ?_, fun upper held => ?_⟩
  · have hbound : pad.keyAfter bindings code.toLower = some (lowNibble key) := by
      rw [Text.toLower_of_not_isUpper lower]
      refine Keypad.keyAfter_of_mem ((Binding.mem_iff_of_mapM accepted).mpr ⟨text, among, binds⟩) ?_
      intro key' member
      rcases (Binding.mem_iff_of_mapM accepted).mp member with ⟨other, hother, hbinds⟩
      exact alone other hother key' hbinds
    have houtcome : outcome (String.singleton code) = _ := Keypad.hold_singleton hbound
    rw [houtcome]
    refine ⟨rfl, fun k => ?_⟩
    -- A text only binds keys that there are, so none is taken for another.
    have hkey : lowNibble key = k ↔ k.val = key.toNat := by
      rw [lowNibble_eq_iff, Nat.mod_eq_of_lt (Binding.toNat_lt_of_parse binds), eq_comm]
    rw [Keypad.isPressed_press_toByte, Keypad.isPressed_bindAll, ← hkey]
    by_cases same : lowNibble key = k
    · simp only [same, if_pos, or_true]
    · simp only [same, if_neg, not_false_eq_true, or_false]
  · rcases pad.hold_filter_of_isUpper bindings upper held with ⟨hfault, hpressed⟩
    refine ⟨hfault, fun k => ?_⟩
    rw [Keypad.isPressed, hpressed, Keypad.isPressed]

namespace Binding

/-- A letter with an accent, an upper-case letter and a digit, each bound to a key. -/
def accepted : List (Char × UInt8) :=
  [('É', 0xE), ('Q', 0x1), ('7', 0x7)]

theorem accepted_eq : ["É=0e", "Q=1", "7=+7"].mapM parse = .ok accepted :=
  rfl

end Binding

open Keypad in
/-- A letter with an accent is looked up as it is. `Q` is bound to a key and presses the
    one that `q` stands for. -/
theorem accepted_bindings_hold_unless_upper_case_when_accented :
    ["É=0e", "Q=1", "7=+7"].mapM Binding.parse = .ok Binding.accepted ∧
      Binding.parse "É=0e" = .ok ('É', 0xE) ∧ 'É'.isUpper = false ∧
      (initial.hold Binding.accepted (String.singleton 'É')).1 = none ∧
      (initial.hold Binding.accepted (String.singleton 'É')).2.isPressed 0xE = true ∧
      Binding.parse "Q=1" = .ok ('Q', 0x1) ∧ 'Q'.isUpper = true ∧
      (initial.hold Binding.accepted "Q").1 = none ∧
      (initial.hold Binding.accepted "Q").2.isPressed 0x1 = false ∧
      (initial.hold Binding.accepted "Q").2.isPressed 0x4 = true := by
  have hmember {text : String} {b : Char × UInt8} (among : text ∈ ["É=0e", "Q=1", "7=+7"])
      (binds : Binding.parse text = .ok b) : b ∈ Binding.accepted :=
    (Binding.mem_iff_of_mapM Binding.accepted_eq).mpr ⟨text, among, binds⟩
  have haccent : Binding.parse "É=0e" = .ok ('É', 0xE) := rfl
  have hupper : Binding.parse "Q=1" = .ok ('Q', 0x1) := rfl
  -- No two of the bindings are for one character.
  have hone : ∀ key, ('É', key) ∈ Binding.accepted → key = 0xE := by simp [Binding.accepted]
  have hother : ∀ key, ('Q', key) ∈ Binding.accepted → key = 0x1 := by simp [Binding.accepted]
  rcases accepted_bindings_hold_unless_upper_case initial Binding.accepted_eq
    List.mem_cons_self haccent fun _ among key binds => hone key (hmember among binds)
    with ⟨holds, -⟩
  rcases accepted_bindings_hold_unless_upper_case initial Binding.accepted_eq
    (List.mem_cons_of_mem _ List.mem_cons_self) hupper
    fun _ among key binds => hother key (hmember among binds) with ⟨-, ignored⟩
  rcases holds (by decide) with ⟨hheld, hpressed⟩
  rcases ignored (by decide) "Q" with ⟨hfault, hkeys⟩
  refine ⟨Binding.accepted_eq, haccent, by decide, hheld, (hpressed 0xE).mpr (.inr rfl), hupper,
    by decide, ?_, ?_, ?_⟩
  · exact hfault.trans (by decide +kernel)
  · exact (hkeys 0x1).trans (by decide +kernel)
  · exact (hkeys 0x4).trans (by decide +kernel)

/-- An upper-case letter that was bound cannot be held. -/
theorem upper_case_binding_not_held :
    ¬∀ (pad : Keypad) (texts : List String) (bindings : List (Char × UInt8)) (text : String)
      (code : Char) (key : UInt8), texts.mapM Binding.parse = .ok bindings → text ∈ texts →
      Binding.parse text = .ok (code, key) →
      (∀ other ∈ texts, ∀ key', Binding.parse other = .ok (code, key') → key' = key) →
      (pad.hold bindings (String.singleton code)).1 = none ∧
        (pad.hold bindings (String.singleton code)).2.isPressed (lowNibble key) = true := by
  intro holds
  have hbinds : Binding.parse "P=1" = .ok ('P', 1) := rfl
  have halone : ∀ other ∈ ["P=1"], ∀ key, Binding.parse other = .ok ('P', key) → key = 1 := by
    intro other hother key binds
    cases List.mem_singleton.mp hother
    cases hbinds.symm.trans binds
    rfl
  have hheld := holds .initial ["P=1"] [('P', 1)] "P=1" 'P' 1 rfl List.mem_cons_self hbinds halone
  exact absurd hheld.1 (by decide +kernel)

end ChipEight
