import ChipEight.Proofs.Display.Strokes
import Mathlib.Data.Finset.Prod
import Mathlib.Data.Finset.Card

/-!
# Sprites

What a sprite of any height does to the planes.

A sprite turns over one pixel for each of its set bits, at the place of the bit
wrapped around the active area. Eight columns fit into an area without overlap.
Rows need not: a sprite with more of them than the area has runs into itself,
and a pixel may then be turned over several times in one drawing. What comes of
a pixel is therefore told by a number, how many set bits fall on it.

The planes only ask whether that number is odd, and a sum of such numbers does
not depend on its order. So sprites can be drawn in any order, and two equal
ones cancel, wherever in the list they stand. Neither holds of collisions or of
the fade grid, which depend on what was there when a stroke came; the planes
are separated from both by `Display.lit_strokeAll`.

## Main definitions

* `Display.setBits`: The set bits of a sprite.
* `Display.wrappedCells`: The cells that they fall on, by coordinates of 64 bits.
* `Display.coverage`: How many set bits of a sprite fall on a pixel.
* `Sprite`, `Display.drawAll`: Sprites to be drawn one after another.
* `Sprite.strokesOf`: All strokes of a list of sprites.

## Theorems

* `Display.spriteCells_eq`: A sprite turns over the cells that its bits fall on.
* `Display.spriteCells_toNat`: The same cells if coordinates have 64 bits.
* `Display.count_spriteCells`: Each of them once for every bit.
* `Display.nodup_spriteCells`: A sprite that is no higher than the area turns over
  no cell twice.
* `Display.drawSprite_eq`: Drawing a sprite as a list of strokes.
* `Display.drawAll_eq`: Drawing a list of sprites as one list of strokes.
* `Display.foldl_drawSprite`: The same for whether something is erased.
* `Display.lit_drawAll`: The planes after a list of sprites.
* `sprite_toggles_by_coverage`: What a sprite does to the planes, and when it
  erases something.
* `sprites_commute_and_cancel`: Sprites can be drawn in any order, and equal ones
  cancel.
-/

namespace ChipEight

namespace Display

/-! ### The bits of a sprite -/

/-- The set bits of a sprite, each as a row and a column. -/
def setBits (rows : List UInt8) : List (Nat × Nat) :=
  (List.range rows.length).flatMap fun r =>
    ((List.range 8).filter (spriteBit (rows.getD r 0))).map fun c => (r, c)

/-- The cell that a bit of a sprite falls on. -/
def landing (area : Resolution) (x y : Nat) (bit : Nat × Nat) : Nat × Nat :=
  ((x + bit.2) % area.width, (y + bit.1) % area.height)

theorem mem_setBits {rows : List UInt8} {bit : Nat × Nat} :
    bit ∈ setBits rows ↔
      bit.1 < rows.length ∧ bit.2 < 8 ∧ spriteBit (rows.getD bit.1 0) bit.2 = true := by
  simp only [setBits, List.mem_flatMap, List.mem_map, List.mem_filter, List.mem_range]
  constructor
  · rintro ⟨r, hr, c, ⟨hc, hbit⟩, rfl⟩
    exact ⟨hr, hc, hbit⟩
  · rintro ⟨hr, hc, hbit⟩
    exact ⟨bit.1, hr, bit.2, ⟨hc, hbit⟩, rfl⟩

theorem nodup_setBits (rows : List UInt8) : (setBits rows).Nodup := by
  refine List.nodup_flatMap.mpr ⟨fun r _ => ?_, ?_⟩
  · exact (List.nodup_range.filter _).map fun c c' same => congrArg Prod.snd same
  · refine List.nodup_range.imp fun hne bit hbit hother => ?_
    rcases List.mem_map.mp hbit with ⟨c, -, rfl⟩
    rcases List.mem_map.mp hother with ⟨c', -, same⟩
    exact hne (congrArg Prod.fst same).symm

theorem zipIdx_eq (rows : List UInt8) :
    rows.zipIdx = (List.range rows.length).map fun r => (rows.getD r 0, r) := by
  refine List.ext_getElem (by simp) fun r hr _ => ?_
  rw [List.length_zipIdx] at hr
  simp [hr]

/-- A sprite turns over the cells that its bits fall on, in the order of the
    bits. -/
theorem spriteCells_eq (area : Resolution) (x y : Nat) (rows : List UInt8) :
    spriteCells area x y rows = (setBits rows).map (landing area x y) := by
  rw [spriteCells, zipIdx_eq, List.flatMap_map, setBits, List.map_flatMap]
  refine List.flatMap_congr fun r _ => ?_
  rw [List.map_map]
  rfl

/-- The cells under the set bits of a sprite, found by sums of 64 bits. -/
def wrappedCells (area : Resolution) (x y : UInt64) (rows : List UInt8) : List (Nat × Nat) :=
  rows.zipIdx.flatMap fun (byte, r) =>
    ((List.range 8).filter (spriteBit byte)).map fun c =>
      ((x + .ofNat c).toNat % area.width, (y + .ofNat r).toNat % area.height)

/-- Where such sums wrap around, they lead to the same cells still, because the sizes of
    an area are divisors of `2 ^ 64`. -/
theorem spriteCells_toNat (area : Resolution) (x y : UInt64) (rows : List UInt8) :
    spriteCells area x.toNat y.toNat rows = wrappedCells area x y rows := by
  have hsum : ∀ (z : UInt64) (k size : Nat), size ∣ 0x10000000000000000 →
      (z + .ofNat k).toNat % size = (z.toNat + k) % size := by
    intro z k size divides
    rw [UInt64.toNat_add, UInt64.toNat_ofNat', Nat.add_mod_mod]
    exact Nat.mod_mod_of_dvd _ divides
  have hwidth : area.width ∣ 0x10000000000000000 := by cases area <;> decide
  have hheight : area.height ∣ 0x10000000000000000 := by cases area <;> decide
  simp only [wrappedCells, hsum _ _ _ hwidth, hsum _ _ _ hheight]
  rfl

/-- How many set bits of a sprite fall on a pixel. -/
def coverage (area : Resolution) (x y : Nat) (rows : List UInt8) (px py : Nat) : Nat :=
  ((Finset.range rows.length ×ˢ Finset.range 8).filter fun bit =>
    (rows.getD bit.1 0).toNat.testBit (7 - bit.2) = true ∧
      (x + bit.2) % area.width = px ∧ (y + bit.1) % area.height = py).card

/-- A sprite turns over a cell once for every set bit that falls on it. -/
theorem count_spriteCells (area : Resolution) (x y : Nat) (rows : List UInt8) (px py : Nat) :
    (spriteCells area x y rows).count (px, py) = coverage area x y rows px py := by
  have distinct := (nodup_setBits rows).filter fun bit => landing area x y bit == (px, py)
  rw [spriteCells_eq, List.count_eq_countP, List.countP_map, List.countP_eq_length_filter]
  refine (List.toFinset_card_of_nodup distinct).symm.trans (congrArg Finset.card ?_)
  ext bit
  simp only [List.mem_toFinset, List.mem_filter, mem_setBits, landing, beq_iff_eq,
    Prod.mk.injEq, Finset.mem_filter, Finset.mem_product, Finset.mem_range, spriteBit, and_assoc]

/-- A sprite that is no higher than the area turns over no cell twice. Different
    columns stay different when they wrap, because the area is wider than a
    sprite, and so do different rows. -/
theorem nodup_spriteCells {area : Resolution} (x y : Nat) {rows : List UInt8}
    (short : rows.length ≤ area.height) : (spriteCells area x y rows).Nodup := by
  rw [spriteCells_eq]
  refine (nodup_setBits rows).map_on fun bit hbit other hother same => ?_
  rcases mem_setBits.mp hbit with ⟨hrow, hcolumn, -⟩
  rcases mem_setBits.mp hother with ⟨hrow', hcolumn', -⟩
  simp only [landing, Prod.mk.injEq] at same
  cases area with
  | standard =>
      simp only [Resolution.width, Resolution.height] at short same
      exact Prod.ext (by omega) (by omega)
  | extended =>
      simp only [Resolution.width, Resolution.height, planeWidth, planeHeight] at short same
      exact Prod.ext (by omega) (by omega)

/-! ### Drawing a sprite -/

/-- The strokes that a sprite is drawn by. -/
def spriteStrokes (area : Resolution) (p : Plane) (x y : Nat) (rows : List UInt8) :
    List Stroke :=
  p.strokes (spriteCells area x y rows)

theorem onPlane_spriteStrokes (area : Resolution) (p : Plane) (x y : Nat) (rows : List UInt8) :
    ∀ s ∈ spriteStrokes area p x y rows, s.OnPlane :=
  Plane.onPlane_strokes fun _ member => mem_spriteCells member

/-- Drawing a sprite takes the snapshot, which no stroke looks at, and makes the
    strokes. -/
theorem drawSprite_eq (d : Display) (p : Plane) (x y : Nat) (rows : List UInt8) :
    d.drawSprite p x y rows =
      (d.erases (spriteStrokes d.resolution p x y rows),
        (d.strokeAll (spriteStrokes d.resolution p x y rows)).withSnapshot (.ofRows rows)) := by
  rw [← erases_withSnapshot, ← strokeAll_withSnapshot, spriteStrokes, ← strike_eq]
  rfl

/-- How many strokes of a sprite are for a pixel of its plane. -/
theorem count_spriteStrokes (area : Resolution) (p : Plane) (x y : Nat) (rows : List UInt8)
    (px py : Nat) :
    (spriteStrokes area p x y rows).count ⟨p, px, py⟩ = coverage area x y rows px py := by
  rw [spriteStrokes, Plane.count_strokes, count_spriteCells]

theorem coverage_of_outside {area : Resolution} {x y : Nat} {rows : List UInt8} {px py : Nat}
    (outside : ¬(px < area.width ∧ py < area.height)) : coverage area x y rows px py = 0 := by
  rw [← count_spriteCells]
  exact List.count_eq_zero_of_not_mem fun member => outside (mem_spriteCells member)

theorem pixel_drawSprite (d : Display) (p q : Plane) (x y : Nat) (rows : List UInt8) {px py : Nat}
    (column : px < planeWidth) (row : py < planeHeight) :
    (d.drawSprite p x y rows).2.pixel q px py =
      (d.pixel q px py ^^
        ((spriteStrokes d.resolution p x y rows).count ⟨q, px, py⟩).bodd) := by
  have onPlane : (Stroke.mk q px py).OnPlane := ⟨column, row⟩
  have hlit := lit_strokeAll d (onPlane_spriteStrokes d.resolution p x y rows) onPlane
  rw [drawSprite_eq, pixel_withSnapshot]
  exact hlit

/-- A sprite erases something if a bit of it falls on a lit pixel, or several on one
    pixel. -/
theorem erases_spriteStrokes_iff (d : Display) (area : Resolution) (p : Plane) (x y : Nat)
    (rows : List UInt8) :
    d.erases (spriteStrokes area p x y rows) = true ↔
      ∃ px < area.width, ∃ py < area.height,
        d.pixel p px py = true ∧ 1 ≤ coverage area x y rows px py ∨
          2 ≤ coverage area x y rows px py := by
  rw [erases_iff d (onPlane_spriteStrokes area p x y rows)]
  constructor
  · rintro ⟨⟨q, px, py⟩, member, cause⟩
    rcases Plane.mem_strokes.mp member with ⟨rfl, hcell⟩
    rcases mem_spriteCells hcell with ⟨hcolumn, hrow⟩
    have hstruck := List.count_pos_iff.mpr member
    rw [count_spriteStrokes] at hstruck cause
    exact ⟨px, hcolumn, py, hrow, cause.imp_left fun hlit => ⟨hlit, hstruck⟩⟩
  · rintro ⟨px, -, py, -, cause⟩
    rw [← count_spriteStrokes area p] at cause
    have hstruck : 0 < (spriteStrokes area p x y rows).count ⟨p, px, py⟩ :=
      cause.elim And.right fun htwice => Nat.lt_of_lt_of_le Nat.zero_lt_two htwice
    exact ⟨⟨p, px, py⟩, List.count_pos_iff.mp hstruck, cause.imp_left And.left⟩

end Display

open Display in
/-- A sprite of any height changes a pixel of its plane in the active area if an
    odd number of its set bits fall on it, and no other pixel. It erases something
    exactly if a bit falls on a pixel that was lit, or several fall on one
    pixel. -/
theorem sprite_toggles_by_coverage (d : Display) (p : Plane) (x y : Nat) (rows : List UInt8) :
    let after := (d.drawSprite p x y rows).2
    let bits := coverage d.resolution x y rows
    (∀ px < d.width, ∀ py < d.height,
      after.pixel p px py = (d.pixel p px py ^^ (bits px py).bodd)) ∧
    (∀ px < planeWidth, ∀ py < planeHeight, ¬(px < d.width ∧ py < d.height) →
      after.pixel p px py = d.pixel p px py) ∧
    (∀ q ≠ p, after.plane q = d.plane q) ∧
    ((d.drawSprite p x y rows).1 = true ↔
      ∃ px < d.width, ∃ py < d.height,
        d.pixel p px py = true ∧ 1 ≤ bits px py ∨ 2 ≤ bits px py) := by
  have hsize := size_le d.resolution
  refine ⟨fun px hx py hy => ?_, fun px hx py hy outside => ?_, fun q other => ?_, ?_⟩
  · have hcolumn : px < planeWidth := Nat.lt_of_lt_of_le hx hsize.1
    have hrow : py < planeHeight := Nat.lt_of_lt_of_le hy hsize.2
    rw [pixel_drawSprite d p p x y rows hcolumn hrow, count_spriteStrokes]
  · rw [pixel_drawSprite d p p x y rows hx hy, count_spriteStrokes, coverage_of_outside outside,
      Nat.bodd_zero, Bool.xor_false]
  · refine plane_ext fun px py hx hy => ?_
    rw [pixel_drawSprite d p q x y rows hx hy, spriteStrokes, Plane.count_strokes_of_ne other,
      Nat.bodd_zero, Bool.xor_false]
  · rw [drawSprite_eq]
    exact erases_spriteStrokes_iff d d.resolution p x y rows

/-- A column of dots, one higher than the area, ends on the pixel it began with.
    That pixel stays off, and erasing it counts as a collision on an empty
    screen. -/
theorem sprite_toggles_by_coverage_when_too_high :
    let column : List UInt8 := .replicate 33 0x80
    Display.coverage .standard 5 3 column 5 3 = 2 ∧
      (Display.drawSprite {} .a 5 3 column).2.pixel .a 5 3 = false ∧
      (Display.drawSprite {} .a 5 3 column).1 = true := by
  intro column
  have htwice : Display.coverage .standard 5 3 column 5 3 = 2 := by decide +kernel
  have hoff : Display.pixel {} .a 5 3 = false := Grid.get_fill false 5 3
  rcases sprite_toggles_by_coverage {} .a 5 3 column with ⟨hinside, -, -, herases⟩
  refine ⟨htwice, ?_, herases.mpr ⟨5, by decide, 3, by decide, .inr htwice.ge⟩⟩
  rw [hinside 5 (by decide) 3 (by decide), hoff]
  exact congrArg (fun bits => false ^^ bits.bodd) htwice

/-! ### Several sprites -/

/-- A sprite with its corner at `(x, y)`, to be drawn on a plane. There is no bound on
    coordinates. -/
structure Sprite where
  plane : Plane
  x : Nat
  y : Nat
  rows : List UInt8

namespace Sprite

/-- The strokes that sprites are drawn by, one sprite after another. -/
def strokesOf (area : Resolution) (sprites : List Sprite) : List Stroke :=
  sprites.flatMap fun s => Display.spriteStrokes area s.plane s.x s.y s.rows

/-- The snapshot of the last sprite, if there is one. -/
def lastSnapshot (before : Snapshot) (sprites : List Sprite) : Snapshot :=
  sprites.foldl (fun _ s => .ofRows s.rows) before

theorem lastSnapshot_cons (before : Snapshot) (s : Sprite) (rest : List Sprite) :
    lastSnapshot before (s :: rest) = lastSnapshot (.ofRows s.rows) rest := by
  rw [lastSnapshot, List.foldl_cons, lastSnapshot]

theorem strokesOf_cons (area : Resolution) (s : Sprite) (rest : List Sprite) :
    strokesOf area (s :: rest) =
      Display.spriteStrokes area s.plane s.x s.y s.rows ++ strokesOf area rest :=
  List.flatMap_cons

theorem strokesOf_append (area : Resolution) (first second : List Sprite) :
    strokesOf area (first ++ second) = strokesOf area first ++ strokesOf area second :=
  List.flatMap_append

theorem onPlane_strokesOf (area : Resolution) (sprites : List Sprite) :
    ∀ t ∈ strokesOf area sprites, t.OnPlane := by
  intro t member
  rcases List.mem_flatMap.mp member with ⟨s, -, hstroke⟩
  exact Display.onPlane_spriteStrokes area s.plane s.x s.y s.rows t hstroke

end Sprite

namespace Display

/-- Draws sprites, one after another. -/
def drawAll (d : Display) (sprites : List Sprite) : Display :=
  sprites.foldl (fun d s => (d.drawSprite s.plane s.x s.y s.rows).2) d

theorem resolution_drawSprite (d : Display) (p : Plane) (x y : Nat) (rows : List UInt8) :
    (d.drawSprite p x y rows).2.resolution = d.resolution :=
  congrArg Modes.resolution (modes_drawSprite d p x y rows)

/-- Drawing sprites makes their strokes. The resolution stays the same on the way,
    and with it the places that strokes are for. -/
theorem drawAll_eq (d : Display) (sprites : List Sprite) :
    d.drawAll sprites = (d.strokeAll (Sprite.strokesOf d.resolution sprites)).withSnapshot
      (Sprite.lastSnapshot d.lastSprite sprites) := by
  induction sprites generalizing d with
  | nil => rfl
  | cons s rest ih =>
      rw [drawAll, List.foldl_cons, ← drawAll, ih, resolution_drawSprite, Sprite.strokesOf_cons,
        strokeAll_append, drawSprite_eq, strokeAll_withSnapshot, withSnapshot_withSnapshot,
        lastSprite_withSnapshot, Sprite.lastSnapshot_cons]

/-- Sprites drawn one after another erase something if one of their strokes
    does. -/
theorem foldl_drawSprite (d : Display) (sprites : List Sprite) (hit : Bool) :
    sprites.foldl
        (fun found s =>
          (found.1 || (found.2.drawSprite s.plane s.x s.y s.rows).1,
            (found.2.drawSprite s.plane s.x s.y s.rows).2))
        (hit, d) =
      (hit || d.erases (Sprite.strokesOf d.resolution sprites), d.drawAll sprites) := by
  induction sprites generalizing d hit with
  | nil =>
      rw [Sprite.strokesOf, List.flatMap_nil, erases, Bool.or_false]
      rfl
  | cons s rest ih =>
      have herased : (d.drawSprite s.plane s.x s.y s.rows).1 =
          d.erases (spriteStrokes d.resolution s.plane s.x s.y s.rows) := by
        rw [drawSprite_eq]
      have hlater : (d.drawSprite s.plane s.x s.y s.rows).2.erases
            (Sprite.strokesOf d.resolution rest) =
          (d.strokeAll (spriteStrokes d.resolution s.plane s.x s.y s.rows)).erases
            (Sprite.strokesOf d.resolution rest) := by
        rw [drawSprite_eq, erases_withSnapshot]
      rw [List.foldl_cons, ih, resolution_drawSprite, hlater, herased, Bool.or_assoc,
        Sprite.strokesOf_cons, erases_append]
      rfl

/-- Sprites change a pixel if they strike it an odd number of times. -/
theorem lit_drawAll (d : Display) (sprites : List Sprite) {t : Stroke} (ht : t.OnPlane) :
    (d.drawAll sprites).lit t =
      (d.lit t ^^ ((Sprite.strokesOf d.resolution sprites).count t).bodd) := by
  rw [drawAll_eq, lit, pixel_withSnapshot]
  exact lit_strokeAll d (Sprite.onPlane_strokesOf d.resolution sprites) ht

theorem resolution_drawAll (d : Display) (sprites : List Sprite) :
    (d.drawAll sprites).resolution = d.resolution := by
  rw [drawAll_eq]
  exact congrArg Modes.resolution (modes_strokeAll ..)

/-- The planes depend on the sprites only by which pixels they strike an odd number
    of times. -/
theorem plane_drawAll_congr (d : Display) {sprites others : List Sprite}
    (same : ∀ t, ((Sprite.strokesOf d.resolution others).count t).bodd =
      ((Sprite.strokesOf d.resolution sprites).count t).bodd)
    (p : Plane) : (d.drawAll others).plane p = (d.drawAll sprites).plane p := by
  refine plane_ext fun x y column row => ?_
  have onPlane : (Stroke.mk p x y).OnPlane := ⟨column, row⟩
  have h := (lit_drawAll d others onPlane).trans
    ((congrArg _ (same _)).trans (lit_drawAll d sprites onPlane).symm)
  exact h

end Display

/-- Sprites drawn in another order leave the same planes, and so does a list of
    sprites without two equal ones, wherever they stood. In particular a sprite
    drawn twice leaves the planes as they were. Coordinates may be any numbers; if
    they have 64 bits, it makes no difference that their sums wrap around. -/
theorem sprites_commute_and_cancel (d : Display) :
    (∀ sprites reordered : List Sprite, sprites.Perm reordered →
      ∀ p, (d.drawAll reordered).plane p = (d.drawAll sprites).plane p) ∧
    (∀ (first second third : List Sprite) (s : Sprite), ∀ p,
      (d.drawAll (first ++ s :: second ++ s :: third)).plane p =
        (d.drawAll (first ++ second ++ third)).plane p) ∧
    (∀ (s : Sprite) p, (d.drawAll [s, s]).plane p = d.plane p) ∧
    (∀ sprites, (d.drawAll sprites).resolution = d.resolution) ∧
    (∀ (x y : UInt64) rows,
      Display.spriteCells d.resolution x.toNat y.toNat rows =
        Display.wrappedCells d.resolution x y rows) := by
  have cancel : ∀ (first second third : List Sprite) (s : Sprite), ∀ p,
      (d.drawAll (first ++ s :: second ++ s :: third)).plane p =
        (d.drawAll (first ++ second ++ third)).plane p := by
    intro first second third s
    refine d.plane_drawAll_congr fun t => ?_
    simp only [Sprite.strokesOf_append, Sprite.strokesOf_cons, List.count_append, Nat.bodd_add]
    -- The same stroke count stands twice in an exclusive or.
    generalize ((Display.spriteStrokes d.resolution s.plane s.x s.y s.rows).count t).bodd = own
    cases own <;> simp
  refine ⟨fun sprites reordered perm => ?_, cancel, fun s => cancel [] [] [] s,
    d.resolution_drawAll, Display.spriteCells_toNat d.resolution⟩
  exact d.plane_drawAll_congr fun t =>
    congrArg Nat.bodd ((perm.flatMap_right _).symm.count_eq t)

/-- A dash under a dot can be taken away as it was drawn. -/
theorem sprites_commute_and_cancel_when_overlapping :
    let dash : Sprite := ⟨.a, 62, 31, [0xF0]⟩
    let dot : Sprite := ⟨.a, 0, 31, [0x80]⟩
    [dash, dot, dash].Perm [dot, dash, dash] ∧
      ∀ p, (Display.drawAll {} [dash, dot, dash]).plane p = (Display.drawAll {} [dot]).plane p := by
  intro dash dot
  have swapped : [dash, dot, dash].Perm [dot, dash, dash] := .swap dot dash [dash]
  rcases sprites_commute_and_cancel {} with ⟨reorder, cancel, -⟩
  refine ⟨swapped, fun p => ?_⟩
  exact (reorder _ _ swapped p).symm.trans (cancel [dot] [] [] dash p)

end ChipEight
