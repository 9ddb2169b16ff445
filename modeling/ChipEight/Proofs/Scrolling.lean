import ChipEight.Proofs.Display.Strokes

/-!
# Scrolling

Scrolling in place, against a plain copy.

A scroll never moves a pixel. It turns over the pixels of the active area that
differ from what has to come in, one after another, on the very plane it reads
from. Where source and destination overlap, a pixel read late could already be
a new one. It never is, because what to turn over is decided before the first
stroke: the cells are a filter on the plane as it was, and a cell is in the list
at most once. So every cell ends up with what came in for it.

With several planes selected the scroll works on one after the other. A plane
whose turn comes later has not changed in the meantime, and neither has the
resolution that says which area is moved.

The plain copy makes a grid of its own from the old one and has no order at all.

A distance is any number of 64 bits, and the scroll goes by the number with a sign
that has the same bits. From `2 ^ 63` on that one is negative, so that a scroll down
goes up instead. Mostly nobody can tell, as the area is empty either way
(`Grid.moved_congr_of_far`). But a distance that falls short of `2 ^ 64` by less than
the height of the area turns the scroll around: what should be gone is still there,
some rows on in the other direction. Only the extended resolution has such distances,
because halving a number clears its highest bit.

## Main definitions

* `Grid.ofFn`: The grid that holds given values.
* `Grid.moved`: The plain copy of an area, moved by a distance.
* `Grid.seen`: The pixel at a place, blank beyond the active area.
* `Display.differing`: The cells that a scroll turns over.
* `Display.copied`: The plain copy of a plane, if it is selected.
* `Resolution.Turns`, `Resolution.travel`: Distances that turn a scroll around, and
  how far down a scroll goes by any distance.

## Theorems

* `Display.pixel_shift`: What turning over differing pixels leaves at a cell.
* `Display.plane_shift`: For one plane, that is the plain copy.
* `Display.plane_scroll`: For all planes, the plain copy of the selected ones.
* `Resolution.reach_or_far`: How far a scroll goes, unless it empties the area.
* `Display.plane_scrollDown`, `Display.plane_scrollUp`: The plain copy that a vertical
  scroll comes to.
* `scrolling_equals_plain_copy_unless_turned`: The distance and direction of each
  scroll.
* `turned_scroll_brings_back_pixels`: A scroll that turns around.
-/

namespace ChipEight

/-- Whether a place is in the active area. -/
def Resolution.Contains (area : Resolution) (sx sy : Int) : Prop :=
  0 ≤ sx ∧ sx < area.width ∧ 0 ≤ sy ∧ sy < area.height

instance (area : Resolution) (sx sy : Int) : Decidable (area.Contains sx sy) :=
  inferInstanceAs (Decidable (_ ∧ _ ∧ _ ∧ _))

namespace Grid

variable {α : Type}

/-- The grid with a value for every cell of the plane. -/
def ofFn (value : Nat → Nat → α) : Grid α :=
  ⟨Vector.ofFn fun i => value (i.val % planeWidth) (i.val / planeWidth)⟩

theorem get_ofFn (value : Nat → Nat → α) {x y : Nat} (column : x < planeWidth)
    (row : y < planeHeight) : (ofFn value).get x y = value x y := by
  have hcolumn : (index x y).val % planeWidth = x := by
    simp only [index, planeWidth, planeHeight] at *
    omega
  have hrow : (index x y).val / planeWidth = y := by
    simp only [index, planeWidth, planeHeight] at *
    omega
  rw [get, ofFn, Fin.getElem_fin, Vector.getElem_ofFn, hcolumn, hrow]

/-- The plain copy of an area, moved by `(dx, dy)`. A cell of the area takes the
    pixel that lies so far behind it, and is off if that place is beyond the area.
    Around the area nothing changes. -/
def moved (g : Grid Bool) (area : Resolution) (dx dy : Int) : Grid Bool :=
  .ofFn fun x y =>
    if x < area.width ∧ y < area.height then
      if 0 ≤ x - dx ∧ x - dx < area.width ∧ 0 ≤ y - dy ∧ y - dy < area.height then
        g.get (x - dx).toNat (y - dy).toNat
      else false
    else g.get x y

theorem get_moved (g : Grid Bool) (area : Resolution) (dx dy : Int) {x y : Nat}
    (column : x < planeWidth) (row : y < planeHeight) :
    (g.moved area dx dy).get x y =
      if x < area.width ∧ y < area.height then
        if 0 ≤ x - dx ∧ x - dx < area.width ∧ 0 ≤ y - dy ∧ y - dy < area.height then
          g.get (x - dx).toNat (y - dy).toNat
        else false
      else g.get x y :=
  get_ofFn _ column row

variable {g : Grid Bool} {area : Resolution} {dx dy ey : Int} {x y : Nat}

/-- The pixel at a place, blank beyond the active area. -/
def seen (g : Grid Bool) (area : Resolution) (sx sy : Int) : Bool :=
  if area.Contains sx sy then g.get sx.toNat sy.toNat else false

theorem seen_of_inside (inside : x < area.width ∧ y < area.height) :
    g.seen area x y = g.get x y := by
  have hcontains : area.Contains x y := by
    unfold Resolution.Contains
    omega
  rw [seen, if_pos hcontains, Int.toNat_natCast, Int.toNat_natCast]

/-- A cell of the area takes what is seen at the place that lies so far behind
    it. -/
theorem get_moved_of_inside (inside : x < area.width ∧ y < area.height) :
    (g.moved area dx dy).get x y = g.seen area (x - dx) (y - dy) := by
  have hsize := Display.size_le area
  have column : x < planeWidth := Nat.lt_of_lt_of_le inside.1 hsize.1
  have row : y < planeHeight := Nat.lt_of_lt_of_le inside.2 hsize.2
  rw [get_moved g area dx dy column row, if_pos inside, seen]
  rfl

theorem get_moved_of_outside (column : x < planeWidth) (row : y < planeHeight)
    (outside : ¬(x < area.width ∧ y < area.height)) :
    (g.moved area dx dy).get x y = g.get x y := by
  rw [get_moved g area dx dy column row, if_neg outside]

/-- Rows that are further away than the area is high are all beyond it. -/
theorem seen_of_far (far : area.height ≤ dy.natAbs) (row : y < area.height) (sx : Int) :
    g.seen area sx (y - dy) = false := by
  refine if_neg fun contained => ?_
  unfold Resolution.Contains at contained
  omega

/-- By that many rows the area is emptied, in whichever direction. -/
theorem moved_congr_of_far (far : area.height ≤ dy.natAbs) (far' : area.height ≤ ey.natAbs) :
    g.moved area dx dy = g.moved area dx ey := by
  refine ext_of_lt fun x y column row => ?_
  by_cases inside : x < area.width ∧ y < area.height
  · rw [get_moved_of_inside inside, get_moved_of_inside inside, seen_of_far far inside.2,
      seen_of_far far' inside.2]
  · rw [get_moved_of_outside column row inside, get_moved_of_outside column row inside]

end Grid

namespace Display

/-- The cells that a scroll turns over. -/
def differing (d : Display) (p : Plane) (dx dy : Int64) : List (Nat × Nat) :=
  d.resolution.cells.filter fun cell =>
    d.incoming p dx dy cell.1 cell.2 != d.pixel p cell.1 cell.2

theorem mem_differing {d : Display} {p : Plane} {dx dy : Int64} {cell : Nat × Nat} :
    cell ∈ d.differing p dx dy ↔ (cell.1 < d.width ∧ cell.2 < d.height) ∧
      d.incoming p dx dy cell.1 cell.2 ≠ d.pixel p cell.1 cell.2 := by
  rw [differing, List.mem_filter, Resolution.mem_cells, bne_iff_ne]
  rfl

/-- Turning over the pixels of the area that differ leaves in it what had to come
    in, and everything else as it was. -/
theorem pixel_shift (d : Display) (p q : Plane) (dx dy : Int64) {x y : Nat}
    (column : x < planeWidth) (row : y < planeHeight) :
    (d.shift p dx dy).pixel q x y =
      if q = p ∧ x < d.width ∧ y < d.height then d.incoming p dx dy x y else d.pixel q x y := by
  have distinct : (p.strokes (d.differing p dx dy)).Nodup :=
    Plane.nodup_strokes (d.resolution.nodup_cells.filter _)
  have inside : ∀ s ∈ p.strokes (d.differing p dx dy), s.OnPlane :=
    Plane.onPlane_strokes fun _ member => (mem_differing.mp member).1
  have onPlane : (Stroke.mk q x y).OnPlane := ⟨column, row⟩
  have hstruck : ⟨q, x, y⟩ ∈ p.strokes (d.differing p dx dy) ↔
      q = p ∧ (x < d.width ∧ y < d.height) ∧ d.incoming p dx dy x y ≠ d.pixel p x y :=
    Plane.mem_strokes.trans (and_congr_right fun _ => mem_differing)
  have hshift : (d.shift p dx dy).pixel q x y =
      if q = p ∧ (x < d.width ∧ y < d.height) ∧ d.incoming p dx dy x y ≠ d.pixel p x y
      then !d.pixel q x y else d.pixel q x y := by
    rw [shift, toggleAll_eq]
    exact (d.lit_strokeAll_of_nodup inside distinct onPlane).trans (if_congr hstruck rfl rfl)
  rw [hshift]
  by_cases place : q = p ∧ x < d.width ∧ y < d.height
  · rw [if_pos place]
    rcases place with ⟨rfl, hinside⟩
    by_cases same : d.incoming q dx dy x y = d.pixel q x y
    · rw [if_neg fun struck => struck.2.2 same, same]
    · -- There are only two values that a pixel can have.
      rw [if_pos ⟨rfl, hinside, same⟩, Bool.eq_not.mpr same]
  · rw [if_neg place, if_neg fun struck => place ⟨struck.1, struck.2.1⟩]

/-- Moving one plane in place is copying it. -/
theorem plane_shift (d : Display) (p q : Plane) (dx dy : Int64) :
    (d.shift p dx dy).plane q =
      if q = p then (d.plane q).moved d.resolution dx.toInt dy.toInt else d.plane q := by
  refine Grid.ext_of_lt fun x y column row => (d.pixel_shift p q dx dy column row).trans ?_
  by_cases same : q = p
  · subst same
    rw [if_pos rfl, Grid.get_moved _ _ dx.toInt dy.toInt column row]
    exact if_congr (and_iff_right rfl) (d.incoming_eq q dx dy column row) rfl
  · rw [if_neg same, if_neg fun h => same h.1]
    rfl

/-- One plane after the other is copied, each from how it was at the start. -/
theorem plane_foldl_shift (d : Display) {planes : List Plane} (distinct : planes.Nodup)
    (q : Plane) (dx dy : Int64) :
    (planes.foldl (fun d p => d.shift p dx dy) d).plane q =
      if q ∈ planes then (d.plane q).moved d.resolution dx.toInt dy.toInt else d.plane q := by
  induction planes generalizing d with
  | nil => rfl
  | cons p rest ih =>
      rcases List.nodup_cons.mp distinct with ⟨hfirst, hrest⟩
      have hresolution : (d.shift p dx dy).resolution = d.resolution :=
        congrArg Modes.resolution (d.modes_shift p dx dy)
      rw [List.foldl_cons, ih _ hrest, hresolution, plane_shift]
      by_cases same : q = p
      · -- Its turn is over, so what follows leaves it alone.
        subst same
        rw [if_pos rfl, if_neg hfirst, if_pos List.mem_cons_self]
      · rw [if_neg same]
        exact if_congr (List.mem_cons.trans (or_iff_right same)).symm rfl rfl

/-- The plain copy of a plane, moved by `(dx, dy)` if it is selected. -/
def copied (d : Display) (p : Plane) (dx dy : Int) : Grid Bool :=
  if p ∈ d.selection.planes then (d.plane p).moved d.resolution dx dy else d.plane p

theorem plane_scroll (d : Display) (q : Plane) (dx dy : Int64) :
    (d.scroll dx dy).plane q = d.copied q dx.toInt dy.toInt :=
  d.plane_foldl_shift d.selection.nodup_planes q dx dy

end Display

/-! ### Distances -/

namespace Resolution

/-- A distance that falls short of `2 ^ 64` by less than the height of the area. -/
def Turns (area : Resolution) (n : UInt64) : Prop :=
  area = .extended ∧ 0x10000000000000000 - n.toNat < planeHeight

instance (area : Resolution) (n : UInt64) : Decidable (area.Turns n) :=
  inferInstanceAs (Decidable (_ ∧ _))

/-- How many rows a scroll goes down by a distance. Where it turns around, it goes up
    by as many rows as the distance falls short. -/
def travel (area : Resolution) (n : UInt64) : Int :=
  if area.Turns n then n.toNat - 0x10000000000000000 else (area.scale n).toNat

theorem travel_of_turns {area : Resolution} {n : UInt64} (turns : area.Turns n) :
    area.travel n = -((0x10000000000000000 - n.toNat : Nat) : Int) := by
  have hsize := n.toNat_lt
  rw [travel, if_pos turns]
  omega

theorem travel_of_not_turns {area : Resolution} {n : UInt64} (straight : ¬area.Turns n) :
    area.travel n = (area.scale n).toNat :=
  if_neg straight

/-- A scroll goes as far as the number with a sign tells, or the area is emptied and it
    does not matter how. -/
theorem reach_or_far (area : Resolution) (n : UInt64) :
    (area.reach n).toInt = area.travel n ∧ (-area.reach n).toInt = -area.travel n ∨
      area.height ≤ (area.reach n).toInt.natAbs ∧ area.height ≤ (-area.reach n).toInt.natAbs ∧
        area.height ≤ (area.travel n).natAbs := by
  have hlow := (area.reach n).le_toInt
  have hheight := (Display.size_le area).2
  have hplane : planeHeight = 64 := rfl
  have hneg := Int64.toInt_neg (area.reach n)
  have hreach := area.toInt_reach n
  have hscale := area.toNat_scale n
  have hsize := n.toNat_lt
  rw [Int.bmod_def] at hneg
  by_cases turned : area.Turns n
  · -- The number with the same bits is negative, and small.
    have hback := turned.2
    rw [if_pos turned.1] at hscale
    rw [travel_of_turns turned]
    omega
  · rw [travel_of_not_turns turned]
    by_cases extended : area = .extended
    · -- Below `2 ^ 63` nothing happens to the number, and from there on it is negative but
      -- leads beyond the area, as the distance itself does.
      rw [Turns, and_iff_right extended] at turned
      rw [if_pos extended] at hscale
      omega
    · -- Half of a distance keeps its sign.
      rw [if_neg extended] at hscale
      omega

end Resolution

namespace Display

theorem copied_congr_of_far (d : Display) (p : Plane) {dy ey : Int} (far : d.height ≤ dy.natAbs)
    (far' : d.height ≤ ey.natAbs) : d.copied p 0 dy = d.copied p 0 ey := by
  rw [copied, copied, Grid.moved_congr_of_far far far']

theorem plane_scrollDown (d : Display) (n : UInt64) (p : Plane) :
    (d.scrollDown n).plane p = d.copied p 0 (d.resolution.travel n) := by
  rw [scrollDown, plane_scroll]
  rcases d.resolution.reach_or_far n with ⟨down, -⟩ | ⟨far, -, far'⟩
  · rw [down]
    rfl
  · exact d.copied_congr_of_far p far far'

theorem plane_scrollUp (d : Display) (n : UInt64) (p : Plane) :
    (d.scrollUp n).plane p = d.copied p 0 (-d.resolution.travel n) := by
  rw [scrollUp, plane_scroll]
  rcases d.resolution.reach_or_far n with ⟨-, up⟩ | ⟨-, far, far'⟩
  · rw [up]
    rfl
  · rw [← Int.natAbs_neg] at far'
    exact d.copied_congr_of_far p far far'

/-- The distance of a horizontal scroll is the same for every display. -/
theorem toInt_reach_horizontalScroll (area : Resolution) :
    (area.reach horizontalScroll).toInt = (if area = .extended then 4 else 2 : Nat) ∧
      (-area.reach horizontalScroll).toInt = -(if area = .extended then 4 else 2 : Nat) := by
  cases area <;> decide

/-- Some pixel that is on is in the area still when it is moved by a number of rows. -/
def Stays (d : Display) (p : Plane) (dy : Int) : Prop :=
  ∃ x y : Nat, x < d.width ∧ y < d.height ∧ d.pixel p x y = true ∧ 0 ≤ y + dy ∧ y + dy < d.height

/-- A copy is as empty as one from far away exactly if no pixel stays. -/
theorem copied_eq_copied_far_iff (d : Display) (p : Plane) (dy far : Int)
    (hfar : d.height ≤ far.natAbs) :
    d.copied p 0 dy = d.copied p 0 far ↔ ¬(p ∈ d.selection.planes ∧ d.Stays p dy) := by
  unfold copied
  by_cases selected : p ∈ d.selection.planes
  · rw [if_pos selected, if_pos selected, and_iff_right selected]
    constructor
    · -- A pixel that stays is seen in the copy, and in the one from far away nothing is.
      rintro same ⟨x, y, column, row, lit, above, below⟩
      rcases Int.eq_ofNat_of_zero_le above with ⟨y', moved⟩
      have inside : x < d.resolution.width ∧ y' < d.resolution.height := ⟨column, by
        unfold height at below
        omega⟩
      have hplace : (x : Int) - 0 = x ∧ (y' : Int) - dy = y := by omega
      have hget := congrArg (fun g : Grid Bool => g.get x y') same
      simp only [Grid.get_moved_of_inside inside, Grid.seen_of_far hfar inside.2, hplace.1,
        hplace.2] at hget
      rw [Grid.seen_of_inside ⟨column, row⟩] at hget
      exact Bool.false_ne_true (hget.symm.trans lit)
    · intro gone
      refine Grid.ext_of_lt fun x y column row => ?_
      by_cases inside : x < d.resolution.width ∧ y < d.resolution.height
      · rw [Grid.get_moved_of_inside inside, Grid.get_moved_of_inside inside,
          Grid.seen_of_far hfar inside.2, Grid.seen]
        split
        case isTrue contained =>
          -- If it were on, what is seen here would be a pixel that stays.
          rcases contained with ⟨hleft, hright, htop, hbottom⟩
          refine Bool.eq_false_iff.mpr fun lit => gone ⟨_, _, ?_, ?_, lit, ?_, ?_⟩
          all_goals
            unfold width height at *
            omega
        case isFalse => rfl
      · rw [Grid.get_moved_of_outside column row inside,
          Grid.get_moved_of_outside column row inside]
  · rw [if_neg selected, if_neg selected]
    exact iff_of_true rfl fun stays => selected stays.1

end Display

/-- Scrolling in place leaves what a plain copy would have made of the selected planes.
    An odd distance loses its last pixel in standard resolution. A distance that falls
    short of `2 ^ 64` by less than the height of the area turns a vertical scroll of the
    extended resolution around, and such a scroll is not the plain copy by its distance,
    which would be empty, exactly if it has a pixel to bring back. -/
theorem scrolling_equals_plain_copy_unless_turned (d : Display) (n : UInt64) (p : Plane) :
    let s : Nat := if d.resolution = .extended then n.toNat else n.toNat / 2
    let t : Nat := if d.resolution = .extended then 4 else 2
    let back : Nat := 0x10000000000000000 - n.toNat
    let turned := d.resolution.Turns n
    (d.scrollUp n).plane p = d.copied p 0 (if turned then back else -s) ∧
      (d.scrollDown n).plane p = d.copied p 0 (if turned then -back else s) ∧
      d.scrollLeft.plane p = d.copied p (-t) 0 ∧ d.scrollRight.plane p = d.copied p t 0 ∧
      ((d.scrollUp n).plane p = d.copied p 0 (-s) ↔
        ¬(turned ∧ p ∈ d.selection.planes ∧ d.Stays p back)) ∧
      ((d.scrollDown n).plane p = d.copied p 0 s ↔
        ¬(turned ∧ p ∈ d.selection.planes ∧ d.Stays p (-back))) := by
  intro s t back turned
  have hscale : (d.resolution.scale n).toNat = s := d.resolution.toNat_scale n
  have hsize := n.toNat_lt
  have htravel : d.resolution.travel n = if turned then -(back : Int) else s := by
    split
    case isTrue around => exact Resolution.travel_of_turns around
    case isFalse straight => rw [Resolution.travel_of_not_turns straight, hscale]
  rcases Display.toInt_reach_horizontalScroll d.resolution with ⟨hright, hleft⟩
  rw [d.plane_scrollUp, d.plane_scrollDown, Display.scrollLeft, Display.scrollRight,
    d.plane_scroll, d.plane_scroll, hright, hleft, htravel]
  by_cases around : turned
  · -- The distance itself would lead far beyond the area.
    have hfar : d.height ≤ s := by
      have hback : back < 64 := around.2
      have hheight : d.height ≤ 64 := (Display.size_le d.resolution).2
      have hs : s = n.toNat := if_pos around.1
      omega
    have hup := d.copied_eq_copied_far_iff p back (-s) (by omega)
    have hdown := d.copied_eq_copied_far_iff p (-back) s (by omega)
    simp only [if_pos around, Int.neg_neg, and_iff_right around]
    exact ⟨trivial, trivial, rfl, rfl, hup, hdown⟩
  · rw [if_neg around, if_neg around]
    have hstraight : ∀ stays : Prop, ¬(turned ∧ stays) := fun stays h => around h.1
    exact ⟨rfl, rfl, rfl, rfl, iff_of_true rfl (hstraight _), iff_of_true rfl (hstraight _)⟩

/-- A dot in the second row of the extended screen. -/
def Display.dotted : Display :=
  { planeA := (Grid.fill false).set 0 1 true, resolution := .extended }

theorem Display.pixel_dotted : dotted.pixel .a 0 1 = true :=
  (Grid.get_set ..).trans (if_pos ⟨rfl, rfl⟩)

/-- By the largest distance of all, the dot should be scrolled down and away, but goes
    up by a row. -/
theorem turned_scroll_brings_back_pixels :
    ¬∀ (d : Display) (n : UInt64) (p : Plane),
      let s : Nat := if d.resolution = .extended then n.toNat else n.toNat / 2
      (d.scrollUp n).plane p = d.copied p 0 (-s) ∧ (d.scrollDown n).plane p = d.copied p 0 s := by
  intro equal
  have hdown := (equal .dotted 0xFFFFFFFFFFFFFFFF .a).2
  have htravel : Display.dotted.resolution.travel 0xFFFFFFFFFFFFFFFF = -1 := by decide
  rw [Display.plane_scrollDown, htravel,
    Display.copied_eq_copied_far_iff _ _ _ _ (by decide)] at hdown
  exact hdown ⟨by decide, 0, 1, by decide, by decide, Display.pixel_dotted, by decide, by decide⟩

end ChipEight
