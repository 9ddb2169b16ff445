import ChipEight.Display.Grid
import ChipEight.Single

/-!
# The Display

Two planes of pixels, and for every cell a fading intensity that lets a
renderer smooth out flicker. Sprites, clearing and scrolling all change pixels
by toggling them one at a time, so whatever route turns a pixel off starts the
fade of its cell in the same way.

The planes always have their full size. The resolution says how much of them
is in use: sprites wrap around, and scrolls move, that area alone.

## Main definitions

* `Fading`: Whether and how fast erased pixels fade.
* `Display`: The planes, the fade grid and the modes.
* `Display.toggle`: Turns one pixel over; the change all others are made of.
* `Display.drawSprite`: Toggles the lit bits of a sprite.
* `Display.clear`: Erases both planes.
* `Display.scrollUp`, `Display.scrollDown`, `Display.scrollLeft`,
  `Display.scrollRight`: Move the active area of the selected planes.
* `Display.tickFade`: Lets every fading cell decay by one step.

## Theorems

* `Display.pixel_toggle`: Toggling turns over one pixel and no other.
* `Display.fade_toggle`: It starts the fade of a cell whose pixel was on, and
  changes no other.
* `Display.incoming_eq`: What comes into a cell, told without a bound on numbers.
-/

namespace ChipEight

/-- How erased pixels linger. -/
structure Fading where
  enabled : Bool := true
  /-- The intensity a fading cell loses at every tick; a tenth by default. -/
  speed : Single := ⟨0x3DCCCCCD⟩
  deriving DecidableEq, Repr, Inhabited

/-- The intensity a cell takes the moment a pixel of it is erased: the number
    nearest to 0.95. -/
def fadeCeiling : Single := ⟨0x3F733333⟩

/-- The number of rows of the last sprite that are kept. -/
abbrev snapshotSize : Nat := 16

/-- The rows of the last sprite drawn, cut or filled up to sixteen. -/
abbrev Snapshot := Vector UInt8 snapshotSize

/-- The screen. -/
structure Display where
  planeA : Grid Bool := .fill false
  planeB : Grid Bool := .fill false
  fade : Grid Single := .fill .zero
  resolution : Resolution := .standard
  selection : Selection := .a
  fading : Fading := {}
  lastSprite : Snapshot := .replicate _ 0
  deriving DecidableEq, Repr

/-- Whether a byte has the bit of a column set; column 0 is its most
    significant bit. -/
def spriteBit (b : UInt8) (c : Nat) : Bool :=
  b.toNat.testBit (7 - c)

namespace Snapshot

/-- The snapshot of a sprite. -/
def ofRows (rows : List UInt8) : Snapshot :=
  .ofFn fun r => rows.getD r.val 0

/-- Whether a cell of the snapshot is on. Sprites are eight pixels wide, so
    columns from the ninth on never are. -/
def lit (s : Snapshot) (row column : Nat) : Bool :=
  decide (column < 8) && spriteBit (s.toList.getD row 0) column

end Snapshot

namespace Display

/-- The width of the active area. -/
def width (d : Display) : Nat :=
  d.resolution.width

/-- The height of the active area. -/
def height (d : Display) : Nat :=
  d.resolution.height

/-- The pixels of a plane. -/
def plane (d : Display) : Plane → Grid Bool
  | .a => d.planeA
  | .b => d.planeB

/-- Whether a pixel is on. -/
def pixel (d : Display) (p : Plane) (x y : Nat) : Bool :=
  (d.plane p).get x y

/-- Replaces one pixel and nothing else. -/
def setPixel (d : Display) (p : Plane) (x y : Nat) (on : Bool) : Display :=
  match p with
  | .a => { d with planeA := d.planeA.set x y on }
  | .b => { d with planeB := d.planeB.set x y on }

/-- Starts the fade of a cell, if fading is enabled. -/
def seedFade (d : Display) (x y : Nat) : Display :=
  if d.fading.enabled then { d with fade := d.fade.set x y fadeCeiling } else d

/-- Turns one pixel over. A pixel that was on starts the fade of its cell. -/
def toggle (d : Display) (p : Plane) (x y : Nat) : Display :=
  if d.pixel p x y then (d.seedFade x y).setPixel p x y false
  else d.setPixel p x y true

theorem pixel_setPixel (d : Display) (p q : Plane) (x y x' y' : Nat) (on : Bool) :
    (d.setPixel p x y on).pixel q x' y' =
      if p = q ∧ x % planeWidth = x' % planeWidth ∧ y % planeHeight = y' % planeHeight then on
      else d.pixel q x' y' := by
  cases p <;> cases q <;> simp [setPixel, pixel, plane, Grid.get_set]

theorem pixel_seedFade (d : Display) (q : Plane) (x y x' y' : Nat) :
    (d.seedFade x y).pixel q x' y' = d.pixel q x' y' := by
  unfold seedFade
  split <;> cases q <;> rfl

theorem pixel_wrapped {d : Display} {p : Plane} {x y x' y' : Nat}
    (column : x % planeWidth = x' % planeWidth) (row : y % planeHeight = y' % planeHeight) :
    d.pixel p x y = d.pixel p x' y' := by
  simp only [pixel, Grid.get, Grid.index, column, row]

theorem pixel_toggle (d : Display) (p q : Plane) (x y x' y' : Nat) :
    (d.toggle p x y).pixel q x' y' =
      if p = q ∧ x % planeWidth = x' % planeWidth ∧ y % planeHeight = y' % planeHeight
      then !d.pixel q x' y' else d.pixel q x' y' := by
  unfold toggle
  split <;> rename_i lit <;> rw [pixel_setPixel]
  all_goals
    try rw [pixel_seedFade]
    split
    · rename_i same
      obtain ⟨rfl, column, row⟩ := same
      simpa [pixel_wrapped column row] using lit
    · rfl

theorem fade_toggle (d : Display) (p : Plane) (x y x' y' : Nat) :
    (d.toggle p x y).fade.get x' y' =
      if d.fading.enabled ∧ d.pixel p x y ∧
        x % planeWidth = x' % planeWidth ∧ y % planeHeight = y' % planeHeight
      then fadeCeiling else d.fade.get x' y' := by
  unfold toggle seedFade
  cases p <;> cases d.pixel _ x y <;> cases d.fading.enabled <;> simp [setPixel, Grid.get_set]

/-- Turns the pixels of a list of cells over, one after another. -/
def toggleAll (d : Display) (p : Plane) (cells : List (Nat × Nat)) : Display :=
  cells.foldl (fun d cell => d.toggle p cell.1 cell.2) d

/-- Turns a pixel off if it is on. -/
def erase (d : Display) (p : Plane) (x y : Nat) : Display :=
  if d.pixel p x y then d.toggle p x y else d

/-- Turns over the pixels of a list of cells and says whether any of them was
    on when its turn came. -/
def strike (d : Display) (p : Plane) (cells : List (Nat × Nat)) : Bool × Display :=
  cells.foldl
    (fun (hit, d) cell => (hit || d.pixel p cell.1 cell.2, d.toggle p cell.1 cell.2))
    (false, d)

/-- The cells of a plane that are on, row by row. -/
def litCells (d : Display) (p : Plane) : List (Nat × Nat) :=
  Resolution.extended.cells.filter fun cell => d.pixel p cell.1 cell.2

/-- Turns off every pixel of both planes, whatever the resolution and the
    selection. -/
def clear (d : Display) : Display :=
  let d := d.toggleAll .a (d.litCells .a)
  d.toggleAll .b (d.litCells .b)

/-- The cells under the set bits of a sprite, eight pixels wide, with its
    corner at `(x, y)`. They wrap around an area. Its sizes are divisors of `2 ^ 64`, so
    it does not matter whether sums of coordinates have wrapped there before. -/
def spriteCells (area : Resolution) (x y : Nat) (rows : List UInt8) : List (Nat × Nat) :=
  rows.zipIdx.flatMap fun (byte, r) =>
    ((List.range 8).filter (spriteBit byte)).map fun c =>
      ((x + c) % area.width, (y + r) % area.height)

/-- Draws a sprite, turning over every pixel under a set bit, and says whether
    a pixel was erased. -/
def drawSprite (d : Display) (p : Plane) (x y : Nat) (rows : List UInt8) : Bool × Display :=
  { d with lastSprite := .ofRows rows }.strike p (spriteCells d.resolution x y rows)

/-- What moving the active area by `(dx, dy)` brings to a cell: the pixel that
    far back, or nothing from beyond the area. -/
def incoming (d : Display) (p : Plane) (dx dy : Int64) (x y : Nat) : Bool :=
  let sx := .ofNat x - dx
  let sy := .ofNat y - dy
  decide (0 ≤ sx ∧ sx < .ofNat d.width ∧ 0 ≤ sy ∧ sy < .ofNat d.height) &&
    d.pixel p sx.toNatClampNeg sy.toNatClampNeg

/-- The active area is part of the plane. -/
theorem size_le (r : Resolution) : r.width ≤ planeWidth ∧ r.height ≤ planeHeight := by
  cases r <;> decide

section Behind

variable {z size : Nat} (near : z < 0x80) (dz : Int64)

include near

/-- The place so far behind another, in 64 bits. Only the largest distances back lead
    past the largest number, and then around to the smallest ones. -/
theorem toInt_behind :
    (.ofNat z - dz : Int64).toInt =
      if (z : Int) - dz.toInt < 0x8000000000000000 then (z : Int) - dz.toInt
      else z - dz.toInt - 0x10000000000000000 := by
  have hlow := dz.le_toInt
  have hhigh := dz.toInt_lt
  -- A place is no less than zero, so a difference can only be too large.
  rw [Int64.toInt_sub, Int64.toInt_ofNat_of_lt (by omega), Int.bmod_def]
  split
  · omega
  · omega

/-- Neither the largest numbers nor the smallest ones are in the area. -/
theorem behind_inside_iff (fits : size ≤ 0x80) :
    (0 ≤ Int64.ofNat z - dz ∧ .ofNat z - dz < Int64.ofNat size) ↔
      0 ≤ z - dz.toInt ∧ z - dz.toInt < size := by
  have hlow := dz.le_toInt
  rw [Int64.le_iff_toInt_le, Int64.lt_iff_toInt_lt, Int64.toInt_zero,
    Int64.toInt_ofNat_of_lt (by omega), toInt_behind near]
  split
  · rfl
  · omega

theorem toNatClampNeg_behind (inside : z - dz.toInt < 0x80) :
    (.ofNat z - dz : Int64).toNatClampNeg = (z - dz.toInt).toNat := by
  rw [Int64.toNatClampNeg, toInt_behind near, if_pos (by omega)]

end Behind

/-- What comes into a cell is found without a bound on numbers, too. -/
theorem incoming_eq (d : Display) (p : Plane) (dx dy : Int64) {x y : Nat}
    (column : x < planeWidth) (row : y < planeHeight) :
    d.incoming p dx dy x y =
      if 0 ≤ x - dx.toInt ∧ x - dx.toInt < d.width ∧ 0 ≤ y - dy.toInt ∧ y - dy.toInt < d.height then
        d.pixel p (x - dx.toInt).toNat (y - dy.toInt).toNat
      else false := by
  have hsize : d.width ≤ planeWidth ∧ d.height ≤ planeHeight := size_le d.resolution
  have hx : x < 0x80 := column
  have hy : y < 0x80 := Nat.lt_trans row (by decide)
  have hwidth : d.width ≤ 0x80 := hsize.1
  have hheight : d.height ≤ 0x80 := Nat.le_trans hsize.2 (by decide)
  have hinside : (0 ≤ Int64.ofNat x - dx ∧ .ofNat x - dx < Int64.ofNat d.width ∧
      0 ≤ Int64.ofNat y - dy ∧ .ofNat y - dy < Int64.ofNat d.height) ↔
      0 ≤ x - dx.toInt ∧ x - dx.toInt < d.width ∧ 0 ≤ y - dy.toInt ∧ y - dy.toInt < d.height := by
    rw [← and_assoc, behind_inside_iff hx dx hwidth, behind_inside_iff hy dy hheight, and_assoc]
  rw [incoming]
  by_cases inside : 0 ≤ x - dx.toInt ∧ x - dx.toInt < d.width ∧ 0 ≤ y - dy.toInt ∧
      y - dy.toInt < d.height
  · rw [if_pos inside, decide_eq_true (hinside.mpr inside), Bool.true_and,
      toNatClampNeg_behind hx dx (by omega), toNatClampNeg_behind hy dy (by omega)]
  · rw [if_neg inside, decide_eq_false (mt hinside.mp inside), Bool.false_and]

/-- Moves the active area of a plane, by turning over the pixels that differ
    from what comes in. -/
def shift (d : Display) (p : Plane) (dx dy : Int64) : Display :=
  d.toggleAll p <| d.resolution.cells.filter fun cell =>
    d.incoming p dx dy cell.1 cell.2 != d.pixel p cell.1 cell.2

/-- Moves the active area of the selected planes. -/
def scroll (d : Display) (dx dy : Int64) : Display :=
  d.selection.planes.foldl (fun d p => d.shift p dx dy) d

/-- Scrolls up by a distance in extended pixels. -/
def scrollUp (d : Display) (n : UInt64) : Display :=
  d.scroll 0 (-d.resolution.reach n)

/-- Scrolls down by a distance in extended pixels. -/
def scrollDown (d : Display) (n : UInt64) : Display :=
  d.scroll 0 (d.resolution.reach n)

/-- The distance of a horizontal scroll, in extended pixels. -/
def horizontalScroll : UInt64 := 4

/-- Scrolls left by four extended pixels. -/
def scrollLeft (d : Display) : Display :=
  d.scroll (-d.resolution.reach horizontalScroll) 0

/-- Scrolls right by four extended pixels. -/
def scrollRight (d : Display) : Display :=
  d.scroll (d.resolution.reach horizontalScroll) 0

/-- One step of decay: a cell above zero loses the speed and stops at zero. -/
def decay (speed cell : Single) : Single :=
  if Single.lt .zero cell then (cell.sub speed).clampNegative else cell

/-- Lets every fading cell decay by one step. -/
def tickFade (d : Display) : Display :=
  { d with fade := d.fade.map (decay d.fading.speed) }

end Display

end ChipEight
