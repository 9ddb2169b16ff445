import ChipEight.Display.Plane

/-!
# Grids

A value for every cell of a plane. Coordinates wrap around the plane, so every
pair of natural numbers names a cell.

## Main definitions

* `Grid`: A value for every cell.
* `Grid.get`, `Grid.set`: Reading and replacing one cell.
* `Grid.fill`, `Grid.map`: The same value everywhere, and the same change
  everywhere.

## Theorems

* `Grid.ext_get`: A grid is determined by what its cells hold.
* `Grid.get_set`: What a cell holds after another, or the same, was replaced.
* `Grid.get_mod`, `Grid.set_mod`: Coordinates wrap around the plane.
-/

namespace ChipEight

/-- A value for every cell of a plane, row by row. -/
structure Grid (α : Type) where
  cells : Vector α (128 * 64)
  deriving DecidableEq, Repr

namespace Grid

variable {α β : Type}

/-- The position of a cell among all, after both coordinates are wrapped. -/
def index (x y : Nat) : Fin (128 * 64) :=
  ⟨y % planeHeight * planeWidth + x % planeWidth, by simp only [planeHeight, planeWidth]; omega⟩

/-- Two pairs of coordinates name the same cell exactly when they agree after
    wrapping. -/
theorem index_eq_iff (x y x' y' : Nat) :
    (index x y).val = (index x' y').val ↔
      x % planeWidth = x' % planeWidth ∧ y % planeHeight = y' % planeHeight := by
  simp only [index, planeHeight, planeWidth]
  omega

/-- What a cell holds. -/
def get (g : Grid α) (x y : Nat) : α :=
  g.cells[index x y]

/-- The grid with one cell replaced. -/
def set (g : Grid α) (x y : Nat) (value : α) : Grid α :=
  ⟨g.cells.set (index x y) value⟩

/-- The same value in every cell. -/
def fill (value : α) : Grid α :=
  ⟨Vector.replicate _ value⟩

/-- The same change in every cell. -/
def map (f : α → β) (g : Grid α) : Grid β :=
  ⟨g.cells.map f⟩

theorem get_mod (g : Grid α) (x y : Nat) :
    g.get (x % planeWidth) (y % planeHeight) = g.get x y := by
  simp only [get, index, Nat.mod_mod]

theorem set_mod (g : Grid α) (x y : Nat) (value : α) :
    g.set (x % planeWidth) (y % planeHeight) value = g.set x y value := by
  simp only [set, index, Nat.mod_mod]

theorem get_set (g : Grid α) (x y x' y' : Nat) (value : α) :
    (g.set x y value).get x' y' =
      if x % planeWidth = x' % planeWidth ∧ y % planeHeight = y' % planeHeight then value
      else g.get x' y' := by
  simp only [get, set, Fin.getElem_fin, Vector.getElem_set, index_eq_iff]

@[simp] theorem get_fill (value : α) (x y : Nat) : (fill value).get x y = value := by
  simp [get, fill]

@[simp] theorem get_map (f : α → β) (g : Grid α) (x y : Nat) :
    (g.map f).get x y = f (g.get x y) := by
  simp [get, map]

theorem ext_get {g h : Grid α} (same : ∀ x y, g.get x y = h.get x y) : g = h := by
  cases g with | mk cells =>
  cases h with | mk cells' =>
  congr
  apply Vector.ext
  intro i hi
  -- Position `i` belongs to column `i % 128` of row `i / 128`.
  have hindex : (index (i % 128) (i / 128)).val = i := by
    simp only [index, planeHeight, planeWidth]
    omega
  have h := same (i % 128) (i / 128)
  simpa only [get, Fin.getElem_fin, hindex] using h

end Grid

end ChipEight
