import ChipEight.Display

/-!
# Modes of a Display

Clearing, scrolling and drawing are all made of toggles, and a toggle touches
the pixels of one plane and the fade grid. Everything else a display holds is
gathered in `Modes`, so that one equation about `modes` says of an operation
that it kept the resolution, the selection, the fading and the snapshot.

Each lemma below follows the definition of its operation down to
`modes_toggle`. Drawing a sprite is the only one that does not end in an
unchanged `modes`: it takes the snapshot before it toggles anything.

## Main definitions

* `Modes`: What a display holds besides pixels and fading cells.
* `Display.modes`: The modes of a display.

## Theorems

* `Display.modes_toggle`: Toggling keeps the modes.
* `Display.modes_clear`, `Display.modes_scroll`: So do clearing and scrolling.
* `Display.modes_drawSprite`: Drawing replaces the snapshot alone.
-/

namespace ChipEight

/-- What a display holds besides pixels and fading cells. -/
structure Modes where
  resolution : Resolution
  selection : Selection
  fading : Fading
  lastSprite : Snapshot

namespace Display

/-- The modes of a display. -/
def modes (d : Display) : Modes :=
  ⟨d.resolution, d.selection, d.fading, d.lastSprite⟩

/-- An operation that keeps every mode keeps all but the snapshot, in the form
    that drawing has. -/
theorem modes_of_kept {d after : Display} (kept : after.modes = d.modes) :
    after.modes = { d.modes with lastSprite := after.lastSprite } := by
  rw [← kept]
  rfl

theorem modes_setPixel (d : Display) (p : Plane) (x y : Nat) (on : Bool) :
    (d.setPixel p x y on).modes = d.modes := by
  cases p <;> rfl

theorem modes_seedFade (d : Display) (x y : Nat) : (d.seedFade x y).modes = d.modes := by
  unfold seedFade
  split <;> rfl

@[simp] theorem modes_toggle (d : Display) (p : Plane) (x y : Nat) :
    (d.toggle p x y).modes = d.modes := by
  unfold toggle
  split
  · rw [modes_setPixel, modes_seedFade]
  · rw [modes_setPixel]

@[simp] theorem modes_toggleAll (d : Display) (p : Plane) (cells : List (Nat × Nat)) :
    (d.toggleAll p cells).modes = d.modes := by
  induction cells generalizing d with
  | nil => rfl
  | cons cell rest ih =>
      rw [toggleAll, List.foldl_cons, ← toggleAll, ih, modes_toggle]

@[simp] theorem modes_clear (d : Display) : d.clear.modes = d.modes := by
  rw [clear, modes_toggleAll, modes_toggleAll]

theorem modes_shift (d : Display) (p : Plane) (dx dy : Int64) :
    (d.shift p dx dy).modes = d.modes :=
  modes_toggleAll ..

@[simp] theorem modes_scroll (d : Display) (dx dy : Int64) : (d.scroll dx dy).modes = d.modes := by
  unfold scroll
  -- Which planes are selected does not matter: the fold keeps the modes over any list.
  generalize d.selection.planes = planes
  induction planes generalizing d with
  | nil => rfl
  | cons p rest ih => rw [List.foldl_cons, ih, modes_shift]

theorem modes_strike (d : Display) (p : Plane) (cells : List (Nat × Nat)) :
    (d.strike p cells).2.modes = d.modes := by
  unfold strike
  -- The flag gathered on the way varies, so the induction is over any flag.
  generalize false = hit
  induction cells generalizing d hit with
  | nil => rfl
  | cons cell rest ih => rw [List.foldl_cons, ih, modes_toggle]

@[simp] theorem modes_drawSprite (d : Display) (p : Plane) (x y : Nat) (rows : List UInt8) :
    (d.drawSprite p x y rows).2.modes = { d.modes with lastSprite := .ofRows rows } := by
  rw [drawSprite, modes_strike]
  rfl

end Display

end ChipEight
