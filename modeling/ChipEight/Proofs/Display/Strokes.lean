import ChipEight.Proofs.Display.Respect
import Mathlib.Data.List.Count
import Mathlib.Data.List.Nodup
import Mathlib.Data.Nat.Bits

/-!
# Strokes

What is left on the screen, and what was erased on the way, when pixels are
turned over one after another.

Sprites, clearing and scrolling differ in which pixels they turn over and in
nothing else. A pixel to be turned over is a stroke here, and a list of them is
all that has to be known of such an operation. The planes afterwards do not
depend on the order: a pixel has changed exactly if an odd number of strokes
were for it (`Display.lit_strokeAll`).

Whether something was erased does depend on what the strokes before have left,
so it is a recursion that takes the display along. It comes out as a condition
on the list nevertheless (`Display.erases_iff`). A stroke erases a pixel that
was lit before the first stroke, or one that an earlier stroke has lit, and in
the second case there are two strokes for it.

Strokes are compared as they are written, so both facts are about strokes that
need no wrapping.

## Main definitions

* `Stroke`: One pixel of one plane, to be turned over.
* `Display.lit`: Whether the pixel of a stroke is on.
* `Display.strokeAll`: Turns over the pixels of a list of strokes.
* `Display.erases`: Whether one of them was on when its turn came.
* `Display.withSnapshot`: A display with another snapshot.
* `Plane.strokes`: The strokes for cells of a plane.

## Theorems

* `Display.lit_strokeAll`: The planes after a list of strokes.
* `Display.lit_strokeAll_of_nodup`, `Display.pixel_strokeAll_of_nodup`: The same,
  for strokes that are all distinct.
* `Display.erases_iff`, `Display.erases_iff_of_nodup`: When a list of strokes
  erases something.
* `Display.plane_strokeAll`, `Display.erases_congr`: The planes are apart.
* `Grid.ext_of_lt`, `Display.plane_ext`: A plane is determined by its pixels.
* `Display.toggleAll_eq`, `Display.strike_eq`: Turning over and striking cells of
  a plane are lists of strokes.
-/

namespace ChipEight

/-- One pixel of one plane, to be turned over. -/
structure Stroke where
  plane : Plane
  x : Nat
  y : Nat
  deriving DecidableEq

/-- A stroke whose coordinates need no wrapping. -/
def Stroke.OnPlane (s : Stroke) : Prop :=
  s.x < planeWidth ∧ s.y < planeHeight

theorem Stroke.filter_plane_eq_nil {strokes : List Stroke} {p : Plane}
    (other : ∀ s ∈ strokes, s.plane ≠ p) : strokes.filter (·.plane = p) = [] :=
  List.filter_eq_nil_iff.mpr fun s member own => other s member (of_decide_eq_true own)

theorem Selection.nodup_planes (selection : Selection) : selection.planes.Nodup := by
  cases selection <;> decide

/-- A grid is determined by the cells that need no wrapping. -/
theorem Grid.ext_of_lt {α : Type} {g h : Grid α}
    (same : ∀ x y, x < planeWidth → y < planeHeight → g.get x y = h.get x y) : g = h := by
  refine Grid.ext_get fun x y => ?_
  rw [← g.get_mod, ← h.get_mod]
  exact same _ _ (Nat.mod_lt x (by decide)) (Nat.mod_lt y (by decide))

namespace Display

/-- Whether the pixel of a stroke is on. -/
def lit (d : Display) (s : Stroke) : Bool :=
  d.pixel s.plane s.x s.y

/-- Turns over the pixel of a stroke. -/
def stroke (d : Display) (s : Stroke) : Display :=
  d.toggle s.plane s.x s.y

/-- Turns over the pixels of a list of strokes, one after another. -/
def strokeAll (d : Display) (strokes : List Stroke) : Display :=
  strokes.foldl stroke d

/-- Whether one of a list of strokes turns off a pixel that is on when its turn
    comes. -/
def erases (d : Display) : List Stroke → Bool
  | [] => false
  | s :: rest => d.lit s || (d.stroke s).erases rest

@[simp] theorem strokeAll_nil (d : Display) : d.strokeAll [] = d :=
  rfl

@[simp] theorem strokeAll_cons (d : Display) (s : Stroke) (rest : List Stroke) :
    d.strokeAll (s :: rest) = (d.stroke s).strokeAll rest :=
  rfl

theorem strokeAll_append (d : Display) (first second : List Stroke) :
    d.strokeAll (first ++ second) = (d.strokeAll first).strokeAll second :=
  List.foldl_append

theorem erases_append (d : Display) (first second : List Stroke) :
    d.erases (first ++ second) = (d.erases first || (d.strokeAll first).erases second) := by
  induction first generalizing d with
  | nil => rfl
  | cons s rest ih =>
      rw [List.cons_append, erases, ih, erases, Bool.or_assoc, strokeAll_cons]

/-! ### The planes afterwards -/

theorem lit_stroke (d : Display) {s t : Stroke} (hs : s.OnPlane) (ht : t.OnPlane) :
    (d.stroke s).lit t = if s = t then !d.lit t else d.lit t := by
  -- On the plane, pixels that agree after wrapping are the same pixel.
  have hsame : (s.plane = t.plane ∧ s.x % planeWidth = t.x % planeWidth ∧
      s.y % planeHeight = t.y % planeHeight) ↔ s = t := by
    rw [Nat.mod_eq_of_lt hs.1, Nat.mod_eq_of_lt ht.1, Nat.mod_eq_of_lt hs.2,
      Nat.mod_eq_of_lt ht.2]
    cases s
    cases t
    rw [Stroke.mk.injEq]
  rw [lit, lit, stroke, pixel_toggle]
  exact if_congr hsame rfl rfl

/-- A pixel has changed exactly if an odd number of strokes were for it, in
    whatever order they came. -/
theorem lit_strokeAll (d : Display) {strokes : List Stroke} (inside : ∀ s ∈ strokes, s.OnPlane)
    {t : Stroke} (ht : t.OnPlane) :
    (d.strokeAll strokes).lit t = (d.lit t ^^ (strokes.count t).bodd) := by
  induction strokes generalizing d with
  | nil => rw [strokeAll_nil, List.count_nil, Nat.bodd_zero, Bool.xor_false]
  | cons s rest ih =>
      rcases List.forall_mem_cons.mp inside with ⟨hs, hrest⟩
      rw [strokeAll_cons, ih _ hrest, lit_stroke d hs ht]
      by_cases same : s = t
      · rw [if_pos same, same, List.count_cons_self, Nat.bodd_succ, Bool.not_xor, Bool.xor_not]
      · rw [if_neg same, List.count_cons_of_ne same]

/-- Strokes that are all distinct change each of their pixels. -/
theorem lit_strokeAll_of_nodup (d : Display) {strokes : List Stroke}
    (inside : ∀ s ∈ strokes, s.OnPlane) (distinct : strokes.Nodup) {t : Stroke}
    (ht : t.OnPlane) :
    (d.strokeAll strokes).lit t = if t ∈ strokes then !d.lit t else d.lit t := by
  rw [lit_strokeAll d inside ht]
  by_cases struck : t ∈ strokes
  · rw [if_pos struck, List.count_eq_one_of_mem distinct struck, Nat.bodd_one, Bool.xor_true]
  · rw [if_neg struck, List.count_eq_zero_of_not_mem struck, Nat.bodd_zero, Bool.xor_false]

/-- The same for a pixel by its coordinates. -/
theorem pixel_strokeAll_of_nodup (d : Display) {strokes : List Stroke}
    (inside : ∀ s ∈ strokes, s.OnPlane) (distinct : strokes.Nodup) {p : Plane} {x y : Nat}
    (column : x < planeWidth) (row : y < planeHeight) :
    (d.strokeAll strokes).pixel p x y =
      if ⟨p, x, y⟩ ∈ strokes then !d.pixel p x y else d.pixel p x y :=
  d.lit_strokeAll_of_nodup inside distinct (t := ⟨p, x, y⟩) ⟨column, row⟩

/-- A plane is determined by its pixels, and these by the ones that need no
    wrapping. -/
theorem plane_ext {d e : Display} {p : Plane}
    (same : ∀ x y, x < planeWidth → y < planeHeight → d.pixel p x y = e.pixel p x y) :
    d.plane p = e.plane p :=
  Grid.ext_of_lt same

/-! ### What is erased -/

/-- Strokes erase something exactly if one of them is for a pixel that was on
    before the first, or two are for the same pixel. In the second case it need
    not be the later of the two that erases: whichever finds the pixel on does. -/
theorem erases_iff (d : Display) {strokes : List Stroke} (inside : ∀ s ∈ strokes, s.OnPlane) :
    d.erases strokes = true ↔ ∃ s ∈ strokes, d.lit s = true ∨ 2 ≤ strokes.count s := by
  induction strokes generalizing d with
  | nil => simp only [erases, Bool.false_eq_true, List.not_mem_nil, false_and, exists_false]
  | cons s rest ih =>
      rcases List.forall_mem_cons.mp inside with ⟨hs, hrest⟩
      rw [erases, Bool.or_eq_true, ih _ hrest]
      constructor
      · rintro (hlit | ⟨t, ht, hlit | htwice⟩)
        · exact ⟨s, List.mem_cons_self, .inl hlit⟩
        · refine ⟨t, List.mem_cons_of_mem s ht, ?_⟩
          rw [lit_stroke d hs (hrest t ht)] at hlit
          by_cases same : s = t
          · -- The first stroke has turned this pixel over, so it is struck again.
            have hcount := List.count_pos_iff.mpr ht
            subst same
            rw [List.count_cons_self]
            exact .inr (Nat.succ_le_succ hcount)
          · rw [if_neg same] at hlit
            exact .inl hlit
        · exact ⟨t, List.mem_cons_of_mem s ht,
            .inr (Nat.le_trans htwice List.count_le_count_cons)⟩
      · rintro ⟨t, ht, hcause⟩
        by_cases same : s = t
        · subst same
          by_cases hlit : d.lit s = true
          · exact .inl hlit
          · -- The pixel was off, so the first stroke lights it for the second.
            have htwice := hcause.resolve_left hlit
            rw [List.count_cons_self] at htwice
            have hagain : s ∈ rest := List.count_pos_iff.mp (Nat.le_of_succ_le_succ htwice)
            refine .inr ⟨s, hagain, .inl ?_⟩
            rw [lit_stroke d hs hs, if_pos rfl, Bool.eq_false_iff.mpr hlit, Bool.not_false]
        · have hlater : t ∈ rest := (List.mem_cons.mp ht).resolve_left fun h => same h.symm
          refine .inr ⟨t, hlater, ?_⟩
          rw [lit_stroke d hs (hrest t hlater), if_neg same]
          rwa [List.count_cons_of_ne same] at hcause

/-- Strokes that are all distinct erase exactly what was on before. -/
theorem erases_iff_of_nodup (d : Display) {strokes : List Stroke}
    (inside : ∀ s ∈ strokes, s.OnPlane) (distinct : strokes.Nodup) :
    d.erases strokes = true ↔ ∃ s ∈ strokes, d.lit s = true := by
  rw [erases_iff d inside]
  refine exists_congr fun s => and_congr_right fun member => or_iff_left ?_
  rw [List.count_eq_one_of_mem distinct member]
  exact Nat.not_succ_le_self 1

/-! ### Planes apart -/

theorem plane_setPixel (d : Display) (p q : Plane) (x y : Nat) (on : Bool) :
    (d.setPixel p x y on).plane q = if p = q then (d.plane q).set x y on else d.plane q := by
  cases p <;> cases q <;> rfl

theorem plane_seedFade (d : Display) (q : Plane) (x y : Nat) :
    (d.seedFade x y).plane q = d.plane q := by
  unfold seedFade
  split <;> cases q <;> rfl

/-- A stroke turns over a cell of its own plane and leaves the other alone. -/
theorem plane_stroke (d : Display) (s : Stroke) (q : Plane) :
    (d.stroke s).plane q =
      if s.plane = q then (d.plane q).set s.x s.y (!(d.plane q).get s.x s.y) else d.plane q := by
  rw [stroke, toggle]
  by_cases own : s.plane = q
  · subst own
    have hpixel : d.pixel s.plane s.x s.y = (d.plane s.plane).get s.x s.y := rfl
    rw [if_pos rfl, ← hpixel]
    cases hlit : d.pixel s.plane s.x s.y with
    | true => rw [if_pos rfl, plane_setPixel, if_pos rfl, plane_seedFade, Bool.not_true]
    | false => rw [if_neg Bool.false_ne_true, plane_setPixel, if_pos rfl, Bool.not_false]
  · rw [if_neg own]
    split
    · rw [plane_setPixel, if_neg own, plane_seedFade]
    · rw [plane_setPixel, if_neg own]

/-- What becomes of a plane is a matter of that plane and the strokes on it. -/
theorem plane_strokeAll (d : Display) (strokes : List Stroke) (q : Plane) :
    (d.strokeAll strokes).plane q =
      (strokes.filter (·.plane = q)).foldl (fun g s => g.set s.x s.y (!g.get s.x s.y))
        (d.plane q) := by
  induction strokes generalizing d with
  | nil => rfl
  | cons s rest ih =>
      rw [strokeAll_cons, ih, plane_stroke, List.filter_cons]
      by_cases own : s.plane = q
      · rw [if_pos own, if_pos (decide_eq_true own), List.foldl_cons]
      · rw [if_neg own, decide_eq_false own, if_neg Bool.false_ne_true]

theorem plane_strokeAll_of_ne (d : Display) {strokes : List Stroke} {q : Plane}
    (other : ∀ s ∈ strokes, s.plane ≠ q) : (d.strokeAll strokes).plane q = d.plane q := by
  rw [plane_strokeAll, Stroke.filter_plane_eq_nil other, List.foldl_nil]

/-- Whether strokes on one plane erase something is a matter of that plane. -/
theorem erases_congr {d e : Display} {q : Plane} (same : d.plane q = e.plane q)
    {strokes : List Stroke} (own : ∀ s ∈ strokes, s.plane = q) :
    d.erases strokes = e.erases strokes := by
  induction strokes generalizing d e with
  | nil => rfl
  | cons s rest ih =>
      rcases List.forall_mem_cons.mp own with ⟨hs, hrest⟩
      have hlit : d.lit s = e.lit s := by
        rw [lit, lit, pixel, pixel, hs, same]
      have hlater : (d.stroke s).plane q = (e.stroke s).plane q := by
        rw [plane_stroke, plane_stroke, same]
      rw [erases, erases, hlit, ih hlater hrest]

/-! ### Strokes and snapshots -/

@[simp] theorem modes_strokeAll (d : Display) (strokes : List Stroke) :
    (d.strokeAll strokes).modes = d.modes := by
  induction strokes generalizing d with
  | nil => rfl
  | cons s rest ih => rw [strokeAll_cons, ih, stroke, modes_toggle]

/-- A display with another snapshot. -/
def withSnapshot (d : Display) (snapshot : Snapshot) : Display :=
  { d with lastSprite := snapshot }

@[simp] theorem lastSprite_withSnapshot (d : Display) (snapshot : Snapshot) :
    (d.withSnapshot snapshot).lastSprite = snapshot :=
  rfl

@[simp] theorem withSnapshot_withSnapshot (d : Display) (first second : Snapshot) :
    (d.withSnapshot first).withSnapshot second = d.withSnapshot second :=
  rfl

theorem pixel_withSnapshot (d : Display) (snapshot : Snapshot) (p : Plane) (x y : Nat) :
    (d.withSnapshot snapshot).pixel p x y = d.pixel p x y := by
  cases p <;> rfl

theorem seedFade_withSnapshot (d : Display) (snapshot : Snapshot) (x y : Nat) :
    (d.withSnapshot snapshot).seedFade x y = (d.seedFade x y).withSnapshot snapshot := by
  rw [seedFade, seedFade, apply_ite (withSnapshot · snapshot)]
  rfl

/-- Which snapshot a display holds makes no difference to a stroke. -/
theorem stroke_withSnapshot (d : Display) (snapshot : Snapshot) (s : Stroke) :
    (d.withSnapshot snapshot).stroke s = (d.stroke s).withSnapshot snapshot := by
  rcases s with ⟨p, x, y⟩
  have hset : ∀ (e : Display) (on : Bool), (e.withSnapshot snapshot).setPixel p x y on =
      (e.setPixel p x y on).withSnapshot snapshot := by
    cases p <;> exact fun _ _ => rfl
  simp only [stroke, toggle]
  rw [pixel_withSnapshot, seedFade_withSnapshot, hset, hset]
  exact (apply_ite (withSnapshot · snapshot) _ _ _).symm

theorem strokeAll_withSnapshot (d : Display) (snapshot : Snapshot) (strokes : List Stroke) :
    (d.withSnapshot snapshot).strokeAll strokes = (d.strokeAll strokes).withSnapshot snapshot := by
  induction strokes generalizing d with
  | nil => rfl
  | cons s rest ih => rw [strokeAll_cons, stroke_withSnapshot, ih, strokeAll_cons]

theorem erases_withSnapshot (d : Display) (snapshot : Snapshot) (strokes : List Stroke) :
    (d.withSnapshot snapshot).erases strokes = d.erases strokes := by
  induction strokes generalizing d with
  | nil => rfl
  | cons s rest ih =>
      rw [erases, stroke_withSnapshot, ih, erases, lit, pixel_withSnapshot, lit]

end Display

/-! ### Cells of a plane -/

namespace Plane

variable {p : Plane} {cells : List (Nat × Nat)}

/-- The strokes for the cells of a list, all on one plane. -/
def strokes (p : Plane) (cells : List (Nat × Nat)) : List Stroke :=
  cells.map fun cell => ⟨p, cell.1, cell.2⟩

@[simp] theorem strokes_nil (p : Plane) : p.strokes [] = [] :=
  rfl

@[simp] theorem strokes_cons (p : Plane) (cell : Nat × Nat) (rest : List (Nat × Nat)) :
    p.strokes (cell :: rest) = ⟨p, cell.1, cell.2⟩ :: p.strokes rest :=
  rfl

theorem mem_strokes {s : Stroke} : s ∈ p.strokes cells ↔ s.plane = p ∧ (s.x, s.y) ∈ cells := by
  rw [strokes, List.mem_map]
  constructor
  · rintro ⟨cell, member, rfl⟩
    exact ⟨rfl, member⟩
  · rintro ⟨rfl, member⟩
    exact ⟨_, member, rfl⟩

theorem injective_stroke (p : Plane) :
    Function.Injective fun cell : Nat × Nat => Stroke.mk p cell.1 cell.2 := by
  intro cell other same
  rw [Stroke.mk.injEq] at same
  exact Prod.ext same.2.1 same.2.2

theorem count_strokes (p : Plane) (cells : List (Nat × Nat)) (x y : Nat) :
    (p.strokes cells).count ⟨p, x, y⟩ = cells.count (x, y) :=
  List.count_map_of_injective cells _ (injective_stroke p) (x, y)

theorem count_strokes_of_ne {q : Plane} (other : q ≠ p) (x y : Nat) :
    (p.strokes cells).count ⟨q, x, y⟩ = 0 :=
  List.count_eq_zero_of_not_mem fun member => other (mem_strokes.mp member).1

theorem nodup_strokes (distinct : cells.Nodup) : (p.strokes cells).Nodup :=
  distinct.map (injective_stroke p)

/-- The cells of the active area lie on the plane. -/
theorem onPlane_strokes {area : Resolution}
    (inside : ∀ cell ∈ cells, cell.1 < area.width ∧ cell.2 < area.height) :
    ∀ s ∈ p.strokes cells, s.OnPlane := by
  intro s member
  rcases inside _ (mem_strokes.mp member).2 with ⟨hcolumn, hrow⟩
  have hsize := Display.size_le area
  exact ⟨Nat.lt_of_lt_of_le hcolumn hsize.1, Nat.lt_of_lt_of_le hrow hsize.2⟩

end Plane

namespace Display

theorem toggleAll_eq (d : Display) (p : Plane) (cells : List (Nat × Nat)) :
    d.toggleAll p cells = d.strokeAll (p.strokes cells) := by
  rw [strokeAll, Plane.strokes, List.foldl_map]
  rfl

/-- Striking cells turns them over and says whether that erases something. -/
theorem strike_eq (d : Display) (p : Plane) (cells : List (Nat × Nat)) :
    d.strike p cells = (d.erases (p.strokes cells), d.strokeAll (p.strokes cells)) := by
  -- What was hit before varies along the fold, so the induction is over any flag.
  suffices h : ∀ hit : Bool,
      cells.foldl (fun found cell =>
          (found.1 || found.2.pixel p cell.1 cell.2, found.2.toggle p cell.1 cell.2)) (hit, d) =
        (hit || d.erases (p.strokes cells), d.strokeAll (p.strokes cells)) from
    h false
  induction cells generalizing d with
  | nil =>
      intro hit
      rw [Plane.strokes_nil, erases, Bool.or_false]
      rfl
  | cons cell rest ih =>
      intro hit
      rw [List.foldl_cons, ih, Plane.strokes_cons, erases, Bool.or_assoc, strokeAll_cons]
      rfl

end Display

end ChipEight
