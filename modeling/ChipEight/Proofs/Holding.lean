import ChipEight.Keypad

/-!
# Holding Keys

To hold a text is to make bindings, and then to press the key of one character after
another until one of them stands for no key.

The keypad changes all the way, and what has been done stays done when holding ends
early. What keeps this simple is that the two halves do not touch each other: bindings
press nothing, and pressing binds nothing. So all characters are looked up in the same
bindings, and a text is held by pressing the keys of its longest beginning that is
bound, whatever these are and however often they come up (`Keypad.holdChars_append`).
Which keys are pressed in the end is then a question of membership.

## Main definitions

* `Keypad.keyAfter`: What a character stands for after bindings were made.
* `Keypad.pressAll`: Keys pressed one after another.
* `Keypad.keysOf`: The keys of characters that are held.
* `Keypad.PressedBy`: The keys pressed are those of characters, beside the ones that
  were pressed before.

## Theorems

* `Keypad.keyFor_bindAll`: Of bindings for one character the last one counts.
* `Keypad.isPressed_pressAll`: Which keys are pressed after some were.
* `Keypad.holdChars_of_bound`, `Keypad.holdChars_of_unbound`: What holding comes to.
* `Keypad.keyFor_holdChars`: Holding characters binds none.
* `holding_presses_bound_keys`: What holding does, whether it succeeds or not.
-/

namespace ChipEight

namespace Keypad

variable (pad : Keypad)

/-! ### Bindings -/

/-- The key that a character stands for after bindings were made: that of the last one
    made for it, or else the one it stood for before. -/
def keyAfter (bindings : List (Char × UInt8)) (code : Char) : Option Nibble :=
  ((bindings.reverse.lookup code).map lowNibble).or (pad.keyFor code)

/-- The numbers of keys are bytes modulo 16. -/
theorem val_keyAfter (bindings : List (Char × UInt8)) (code : Char) :
    (pad.keyAfter bindings code).map Fin.val =
      ((bindings.reverse.lookup code).map fun key => key.toNat % 16).or
        ((pad.keyFor code).map Fin.val) := by
  rw [keyAfter, Option.map_or, Option.map_map]
  rfl

theorem keyFor_bindAll (bindings : List (Char × UInt8)) (code : Char) :
    (pad.bindAll bindings).keyFor code = pad.keyAfter bindings code := by
  -- The first binding comes last in the reversed list, next to what there was before.
  induction bindings generalizing pad with
  | nil => rfl
  | cons b rest ih =>
      have hrest : pad.bindAll (b :: rest) = (pad.bind b.1 b.2).bindAll rest := rfl
      rw [hrest, ih, keyAfter, keyAfter, List.reverse_cons, List.lookup_append, Option.map_or,
        Option.or_assoc, keyFor_bind]
      by_cases same : b.1 = code
      · rw [if_pos same, ← same, List.lookup_cons_self, Option.map_some, Option.some_or]
      · rw [if_neg same, List.lookup_cons, beq_false_of_ne (Ne.symm same)]
        rfl

theorem pressed_bindAll (bindings : List (Char × UInt8)) :
    (pad.bindAll bindings).pressed = pad.pressed := by
  induction bindings generalizing pad with
  | nil => rfl
  | cons b rest ih => exact ih (pad.bind b.1 b.2)

theorem isPressed_bindAll (bindings : List (Char × UInt8)) (key : Nibble) :
    (pad.bindAll bindings).isPressed key = pad.isPressed key := by
  rw [isPressed, pressed_bindAll, isPressed]

/-! ### Pressing -/

/-- Presses keys, one after another. -/
def pressAll (keys : List Nibble) : Keypad :=
  keys.foldl (fun k key => k.press key.toByte) pad

theorem bindings_pressAll (keys : List Nibble) : (pad.pressAll keys).bindings = pad.bindings := by
  induction keys generalizing pad with
  | nil => rfl
  | cons key rest ih => exact ih (pad.press key.toByte)

theorem keyFor_pressAll (keys : List Nibble) (code : Char) :
    (pad.pressAll keys).keyFor code = pad.keyFor code := by
  rw [keyFor, bindings_pressAll, keyFor]

theorem isPressed_pressAll (keys : List Nibble) (key : Nibble) :
    (pad.pressAll keys).isPressed key = true ↔ pad.isPressed key = true ∨ key ∈ keys := by
  induction keys generalizing pad with
  | nil => simp only [pressAll, List.foldl_nil, List.not_mem_nil, or_false]
  | cons first rest ih =>
      have hrest : pad.pressAll (first :: rest) = (pad.press first.toByte).pressAll rest := rfl
      rw [hrest, ih, isPressed_press_toByte, List.mem_cons]
      by_cases same : first = key
      · simp only [same, if_pos, true_or, or_true]
      · simp only [if_neg same, Ne.symm same, false_or]

variable {pad}

/-- A keypad is what its bindings are and which keys are pressed. -/
theorem ext_isPressed {other : Keypad} (bindings : pad.bindings = other.bindings)
    (pressed : ∀ key, pad.isPressed key = other.isPressed key) : pad = other := by
  have hpressed : pad.pressed = other.pressed := Vector.ext fun i hi => pressed ⟨i, hi⟩
  cases pad
  cases other
  rw [mk.injEq]
  exact ⟨hpressed, bindings⟩

/-- Which keys are pressed in the end depends neither on their order nor on how often
    each is pressed. -/
theorem pressAll_congr {first second : List Nibble} (same : ∀ key, key ∈ first ↔ key ∈ second) :
    pad.pressAll first = pad.pressAll second := by
  refine ext_isPressed ?_ fun key => ?_
  · rw [bindings_pressAll, bindings_pressAll]
  · rw [Bool.eq_iff_iff, isPressed_pressAll, isPressed_pressAll, same]

/-! ### Holding -/

/-- The keys that characters stand for when they are held. -/
def keysOf (pad : Keypad) (chars : List Char) : List Nibble :=
  chars.filterMap fun c => pad.keyFor c.toLower

theorem mem_keysOf {chars : List Char} {key : Nibble} :
    key ∈ pad.keysOf chars ↔ ∃ c ∈ chars, pad.keyFor c.toLower = some key :=
  List.mem_filterMap

theorem holdChars_of_some {c : Char} {key : Nibble} (bound : pad.keyFor c.toLower = some key)
    (rest : List Char) : pad.holdChars (c :: rest) = (pad.press key.toByte).holdChars rest := by
  rw [holdChars, bound]

theorem holdChars_of_none {c : Char} (unbound : pad.keyFor c.toLower = none)
    (rest : List Char) : pad.holdChars (c :: rest) = (some c, pad) := by
  rw [holdChars, unbound]

/-- Characters that stand for keys press them and are no obstacle to what comes behind
    them. -/
theorem holdChars_append {before : List Char} (bound : ∀ c ∈ before, pad.keyFor c.toLower ≠ none)
    (after : List Char) :
    pad.holdChars (before ++ after) = (pad.pressAll (pad.keysOf before)).holdChars after := by
  -- Pressing a key leaves what the other characters stand for.
  induction before generalizing pad with
  | nil => rfl
  | cons c rest ih =>
      rcases List.forall_mem_cons.mp bound with ⟨first, others⟩
      rcases Option.ne_none_iff_exists'.mp first with ⟨key, hkey⟩
      have hkeys : pad.keysOf (c :: rest) = key :: (pad.press key.toByte).keysOf rest :=
        List.filterMap_cons_some hkey
      have hothers : ∀ c ∈ rest, (pad.press key.toByte).keyFor c.toLower ≠ none := others
      rw [List.cons_append, holdChars_of_some hkey, ih hothers, hkeys]
      rfl

theorem holdChars_of_bound {chars : List Char}
    (bound : ∀ c ∈ chars, pad.keyFor c.toLower ≠ none) :
    pad.holdChars chars = (none, pad.pressAll (pad.keysOf chars)) := by
  have happend := holdChars_append bound []
  rwa [List.append_nil] at happend

theorem holdChars_of_unbound {before after : List Char} {c : Char}
    (bound : ∀ b ∈ before, pad.keyFor b.toLower ≠ none) (unbound : pad.keyFor c.toLower = none) :
    pad.holdChars (before ++ c :: after) = (some c, pad.pressAll (pad.keysOf before)) := by
  rw [holdChars_append bound, holdChars_of_none (by rw [keyFor_pressAll, unbound])]

/-- Of characters that do not all stand for keys, one is the first that does not. -/
theorem exists_first_unbound {chars : List Char}
    (unbound : ¬∀ c ∈ chars, pad.keyFor c.toLower ≠ none) :
    ∃ before c after, chars = before ++ c :: after ∧
      (∀ b ∈ before, pad.keyFor b.toLower ≠ none) ∧ pad.keyFor c.toLower = none := by
  have hsome : (chars.find? fun c => (pad.keyFor c.toLower).isNone).isSome := by
    rw [List.find?_isSome]
    refine Classical.byContradiction fun none => unbound fun c member hnone => ?_
    exact none ⟨c, member, Option.isNone_iff_eq_none.mpr hnone⟩
  rcases Option.isSome_iff_exists.mp hsome with ⟨c, hfirst⟩
  rcases List.find?_eq_some_iff_append.mp hfirst with ⟨hnone, before, after, parts, others⟩
  refine ⟨before, c, after, parts, fun b member hb => ?_, Option.isNone_iff_eq_none.mp hnone⟩
  have hbound := others b member
  rw [hb] at hbound
  cases hbound

/-- Holding leaves what characters stand for, whether it succeeds or not. -/
theorem keyFor_holdChars (chars : List Char) (code : Char) :
    (pad.holdChars chars).2.keyFor code = pad.keyFor code := by
  by_cases bound : ∀ c ∈ chars, pad.keyFor c.toLower ≠ none
  · rw [holdChars_of_bound bound, keyFor_pressAll]
  · rcases exists_first_unbound bound with ⟨before, c, after, rfl, hbefore, hc⟩
    rw [holdChars_of_unbound hbefore hc, keyFor_pressAll]

/-- Beside the keys that were pressed before, those of characters are pressed, and no
    others. -/
def PressedBy (before after : Keypad) (keys : Char → Option Nibble) (chars : List Char) : Prop :=
  ∀ key, after.isPressed key = true ↔
    before.isPressed key = true ∨ ∃ c ∈ chars, keys c = some key

/-- To make bindings presses no key, so all that is pressed in the end was pressed
    before or is held. -/
theorem pressedBy_pressAll (bindings : List (Char × UInt8)) (chars : List Char) :
    pad.PressedBy ((pad.bindAll bindings).pressAll ((pad.bindAll bindings).keysOf chars))
      (fun c => pad.keyAfter bindings c.toLower) chars := by
  intro key
  simp only [isPressed_pressAll, isPressed_bindAll, mem_keysOf, keyFor_bindAll]

end Keypad

/-- Holding makes all bindings it is given, where the last one for a character counts
    and a byte stands for the key of that number modulo 16. Then it looks up characters
    as lower-case letters. If all of them stand for keys it succeeds, and these keys are
    pressed beside the ones that were; a text of the same characters, in another order
    or number, leads to the same keypad. Otherwise it gives back the first character
    that stands for no key, as it was written, and the keys of the characters before it
    are pressed. -/
theorem holding_presses_bound_keys (pad : Keypad) (bindings : List (Char × UInt8))
    (held : String) :
    let keys := fun c => pad.keyAfter bindings (Char.toLower c)
    let outcome := pad.hold bindings held
    (∀ code, outcome.2.keyFor code = pad.keyAfter bindings code ∧
      (outcome.2.keyFor code).map Fin.val =
        ((bindings.reverse.lookup code).map fun key => key.toNat % 16).or
          ((pad.keyFor code).map Fin.val)) ∧
    ((∀ c ∈ held.toList, keys c ≠ none) →
      outcome.1 = none ∧ pad.PressedBy outcome.2 keys held.toList ∧
        ∀ other : String, (∀ c, c ∈ other.toList ↔ c ∈ held.toList) →
          pad.hold bindings other = outcome) ∧
    ((¬∀ c ∈ held.toList, keys c ≠ none) →
      ∃ before c after, held.toList = before ++ c :: after ∧ (∀ b ∈ before, keys b ≠ none) ∧
        keys c = none ∧ outcome.1 = some c ∧ pad.PressedBy outcome.2 keys before) := by
  intro keys outcome
  have hkeys : ∀ c, keys c = (pad.bindAll bindings).keyFor c.toLower := fun c =>
    (pad.keyFor_bindAll bindings _).symm
  refine ⟨fun code => ?_, fun bound => ?_, fun unbound => ?_⟩
  · have hcode : outcome.2.keyFor code = pad.keyAfter bindings code :=
      (Keypad.keyFor_holdChars _ code).trans (pad.keyFor_bindAll bindings code)
    rw [hcode]
    exact ⟨rfl, pad.val_keyAfter bindings code⟩
  · simp only [hkeys] at bound
    have houtcome : outcome = _ := Keypad.holdChars_of_bound bound
    rw [houtcome]
    refine ⟨rfl, pad.pressedBy_pressAll bindings _, fun other same => ?_⟩
    have hother : pad.hold bindings other = _ := Keypad.holdChars_of_bound fun c member =>
      bound c ((same c).mp member)
    rw [hother]
    refine congrArg _ (Keypad.pressAll_congr fun key => ?_)
    simp only [Keypad.mem_keysOf, same]
  · simp only [hkeys] at unbound ⊢
    rcases Keypad.exists_first_unbound unbound with ⟨before, c, after, parts, hbefore, hc⟩
    have houtcome : outcome = _ := (congrArg _ parts).trans (Keypad.holdChars_of_unbound hbefore hc)
    refine ⟨before, c, after, parts, hbefore, hc, ?_⟩
    rw [houtcome]
    exact ⟨rfl, pad.pressedBy_pressAll bindings before⟩

namespace Keypad

/-- Bindings that name a character twice, give another key to a digit, and name keys
    by more than their low digits. -/
def rebindings : List (Char × UInt8) :=
  [('p', 0x12), ('1', 0xF3), ('p', 0x25)]

end Keypad

open Keypad in
/-- The second binding of `p` counts, for `P` as well. A letter beyond the first 128
    characters is looked up as it is. -/
theorem holding_presses_bound_keys_when_rebound :
    let keys := fun c => initial.keyAfter rebindings (Char.toLower c)
    ((initial.hold rebindings "P1q1").2.keyFor 'p' = some 0x5 ∧
      (initial.hold rebindings "P1q1").1 = none ∧
      initial.PressedBy (initial.hold rebindings "P1q1").2 keys "P1q1".toList ∧
      initial.hold rebindings "1qP" = initial.hold rebindings "P1q1" ∧
      (initial.hold rebindings "P1q1").2.isPressed 0x5 = true) ∧
    (initial.hold rebindings "qÄ1").1 = some 'Ä' ∧
      ∃ before c after, "qÄ1".toList = before ++ c :: after ∧
        (initial.hold rebindings "qÄ1").1 = some c ∧
        initial.PressedBy (initial.hold rebindings "qÄ1").2 keys before := by
  have hbound : "P1q1".toList.all fun c => (initial.keyAfter rebindings c.toLower).isSome := by
    decide +kernel
  have hsame : ∀ c, c ∈ "1qP".toList ↔ c ∈ "P1q1".toList := by
    intro c
    change c ∈ ['1', 'q', 'P'] ↔ c ∈ ['P', '1', 'q', '1']
    grind
  have hunbound : initial.keyAfter rebindings ('Ä' : Char).toLower = none := by
    decide +kernel
  rcases holding_presses_bound_keys initial rebindings "P1q1" with ⟨hkeys, success, -⟩
  rcases holding_presses_bound_keys initial rebindings "qÄ1" with ⟨-, -, failure⟩
  rcases success fun c member => Option.isSome_iff_ne_none.mp (List.all_eq_true.mp hbound c member)
    with ⟨hnone, hpressed, hreordered⟩
  rcases failure fun bound => bound 'Ä' (by decide) hunbound with
    ⟨before, c, after, parts, -, -, hfault, hbefore⟩
  exact ⟨⟨(hkeys 'p').1, hnone, hpressed, hreordered "1qP" hsame, by decide +kernel⟩,
    by decide +kernel, before, c, after, parts, hfault, hbefore⟩

end ChipEight
