import ChipEight.Proofs.Scrolling

/-!
# Scrolls in a Row

What several scrolls come to, one after another.

A plane that was scrolled is a plain copy of the plane before, so scrolls in a
row are copies of copies. A pixel of the second copy comes from a place in the
first, and that place comes from one in the original. The two distances add up,
but only if the place in between lies in the active area. What leaves the area
is lost and does not come back when the next scroll turns back.

If neither scroll turns back along an axis, the place in between lies between
the two ends, and an area that holds both ends holds it as well. So the copies
are one copy by the sum of the distances (`Grid.moved_moved`). Along different
axes nothing turns back, whichever scroll comes first, and both orders have the
same sum. A scroll followed by its opposite does turn back, and what the first
has pushed over the edge is gone (`Grid.get_moved_back`).

Distances are halved in standard resolution before they are added. Two odd ones
lose a row that their sum does not lose. A distance that is so large that it turns
the scroll around counts with the sign it has then. It adds up with others of its
kind, but a sum with one that goes straight on is a turn back.

## Main definitions

* `Onward`: Two distances that do not turn back.

## Theorems

* `Grid.seen_moved`: What is seen at a place of a copy.
* `Grid.moved_moved`: Two copies that do not turn back are one.
* `Grid.get_moved_back`: A copy there and back.
* `Resolution.scale_add`: The distance of a sum.
* `Resolution.leaves_iff`: The rows that leave the area on the way down.
* `Display.copied_onward`: Two scrolls that do not turn back are one.
* `Display.plane_scroll_scroll_of_sum`: Scrolls by two distances and by their sum.
* `Display.pixel_scroll_back`: A scroll there and back.
* `scrolls_compose_unless_turned`: How vertical and horizontal scrolls combine.
* `turned_scrolls_do_not_compose`: A scroll down and up again that loses another row.
-/

namespace ChipEight

/-- Two distances along an axis, the second of which does not turn back. -/
def Onward (first second : Int) : Prop :=
  0 ≤ first ∧ 0 ≤ second ∨ first ≤ 0 ∧ second ≤ 0

instance (first second : Int) : Decidable (Onward first second) :=
  inferInstanceAs (Decidable (_ ∨ _))

namespace Grid

variable {g : Grid Bool} {area : Resolution} {dx dy ex ey : Int} {x y : Nat}

/-- What is seen at a place of a copy was seen so far behind it, unless the place
    itself is beyond the area. -/
theorem seen_moved (g : Grid Bool) (area : Resolution) (dx dy sx sy : Int) :
    (g.moved area dx dy).seen area sx sy =
      if area.Contains sx sy then g.seen area (sx - dx) (sy - dy) else false := by
  by_cases contained : area.Contains sx sy
  · rcases contained with ⟨hleft, hright, htop, hbottom⟩
    have inside : sx.toNat < area.width ∧ sy.toNat < area.height := by omega
    rw [seen, if_pos ⟨hleft, hright, htop, hbottom⟩, get_moved_of_inside inside,
      Int.toNat_of_nonneg hleft, Int.toNat_of_nonneg htop,
      if_pos ⟨hleft, hright, htop, hbottom⟩]
  · rw [seen, if_neg contained, if_neg contained]

/-- Two copies that do not turn back are one. The area is as wide in every row and
    as high in every column, so a pixel that comes from the area and stays in it
    was in it on the way. -/
theorem moved_moved (g : Grid Bool) (area : Resolution) (columns : Onward dx ex)
    (rows : Onward dy ey) :
    (g.moved area dx dy).moved area ex ey = g.moved area (dx + ex) (dy + ey) := by
  refine ext_of_lt fun x y column row => ?_
  by_cases inside : x < area.width ∧ y < area.height
  · have hplace : (x - ex - dx = x - (dx + ex)) ∧ (y - ey - dy = y - (dy + ey)) := by omega
    rw [get_moved_of_inside inside, get_moved_of_inside inside, seen_moved, hplace.1, hplace.2]
    by_cases source : area.Contains (x - (dx + ex)) (y - (dy + ey))
    · -- Between two places of the area along either axis.
      have midway : area.Contains (x - ex) (y - ey) := by
        unfold Resolution.Contains Onward at *
        omega
      rw [if_pos midway]
    · -- What comes from beyond the area is blank, wherever it is midway.
      rw [seen, if_neg source, ite_self]
  · rw [get_moved_of_outside column row inside, get_moved_of_outside column row inside,
      get_moved_of_outside column row inside]

/-- A copy there and back loses what leaves the area on the way. -/
theorem get_moved_back (g : Grid Bool) (columns : dx + ex = 0) (rows : dy + ey = 0)
    (inside : x < area.width ∧ y < area.height) :
    ((g.moved area dx dy).moved area ex ey).get x y =
      if area.Contains (x - ex) (y - ey) then g.get x y else false := by
  have hplace : (x - ex - dx = x) ∧ (y - ey - dy = y) := by omega
  rw [get_moved_of_inside inside, seen_moved, hplace.1, hplace.2, seen_of_inside inside]

end Grid

/-- The distance of a sum. Two odd halves lose a row each, which their sum does
    not. -/
theorem Resolution.scale_add (area : Resolution) {a b c : UInt64}
    (sum : c.toNat = a.toNat + b.toNat) :
    (area.scale c).toNat = (area.scale a).toNat + (area.scale b).toNat +
      if area = .standard ∧ a.toNat % 2 = 1 ∧ b.toNat % 2 = 1 then 1 else 0 := by
  rw [toNat_scale, toNat_scale, toNat_scale, sum]
  cases area with
  | standard =>
      simp only [true_and, reduceCtorEq, if_false]
      split <;> omega
  | extended => rfl

section Distances

variable {area : Resolution} {a b : UInt64}

theorem Resolution.onward_of_not_turns (ha : ¬area.Turns a) (hb : ¬area.Turns b) :
    Onward (area.travel a) (area.travel b) := by
  rw [travel_of_not_turns ha, travel_of_not_turns hb]
  unfold Onward
  omega

theorem Resolution.onward_of_turns (ha : area.Turns a) (hb : area.Turns b) :
    Onward (area.travel a) (area.travel b) := by
  rw [travel_of_turns ha, travel_of_turns hb]
  unfold Onward
  omega

/-- The rows that leave the area on the way down, or on the way up if the scroll turns
    around. -/
theorem Resolution.leaves_iff (area : Resolution) (n : UInt64) {y : Nat} (row : y < area.height) :
    ¬(0 ≤ y + area.travel n ∧ y + area.travel n < area.height) ↔
      if area.Turns n then y < 0x10000000000000000 - n.toNat
      else area.height - min (area.scale n).toNat area.height ≤ y := by
  by_cases around : area.Turns n
  · rw [if_pos around, travel_of_turns around]
    omega
  · rw [if_neg around, travel_of_not_turns around]
    omega

end Distances

namespace Display

variable {d e : Display} {p : Plane}

/-- What copies of two displays in a row come to. The second works on the same planes
    and the same area as the first. -/
theorem copied_copied {dx dy : Int} (plane : e.plane p = d.copied p dx dy)
    (modes : e.modes = d.modes) (ex ey : Int) :
    e.copied p ex ey =
      if p ∈ d.selection.planes then
        ((d.plane p).moved d.resolution dx dy).moved d.resolution ex ey
      else d.plane p := by
  have hresolution : e.resolution = d.resolution := congrArg Modes.resolution modes
  have hselection : e.selection = d.selection := congrArg Modes.selection modes
  rw [copied, plane, hresolution, hselection, copied]
  by_cases selected : p ∈ d.selection.planes
  · rw [if_pos selected, if_pos selected, if_pos selected]
  · rw [if_neg selected, if_neg selected, if_neg selected]

/-- Two copies that do not turn back are one. -/
theorem copied_onward {dx dy ex ey : Int} (plane : e.plane p = d.copied p dx dy)
    (modes : e.modes = d.modes) (columns : Onward dx ex) (rows : Onward dy ey) :
    e.copied p ex ey = d.copied p (dx + ex) (dy + ey) := by
  rw [copied_copied plane modes, copied, Grid.moved_moved _ _ columns rows]

/-- Scrolls along different axes can change places. -/
theorem plane_scroll_comm (d : Display) (p : Plane) (dx dy : Int64) :
    ((d.scroll 0 dy).scroll dx 0).plane p = ((d.scroll dx 0).scroll 0 dy).plane p := by
  rw [plane_scroll, plane_scroll, Int64.toInt_zero,
    copied_onward (d.plane_scroll p 0 dy) (d.modes_scroll 0 dy)
      (by rw [Int64.toInt_zero]; unfold Onward; omega) (by unfold Onward; omega),
    copied_onward (d.plane_scroll p dx 0) (d.modes_scroll dx 0)
      (by unfold Onward; omega) (by rw [Int64.toInt_zero]; unfold Onward; omega),
    Int64.toInt_zero, Int.zero_add, Int.add_zero, Int.add_zero, Int.zero_add]

/-- Scrolls down add up, if both turn around or none does. -/
theorem plane_scrollDown_scrollDown (d : Display) (p : Plane) {a b : UInt64}
    (rows : Onward (d.resolution.travel a) (d.resolution.travel b)) :
    ((d.scrollDown a).scrollDown b).plane p =
      d.copied p 0 (d.resolution.travel a + d.resolution.travel b) := by
  have modes : (d.scrollDown a).modes = d.modes := d.modes_scroll ..
  have hresolution : (d.scrollDown a).resolution = d.resolution := congrArg Modes.resolution modes
  have honward := copied_onward (d.plane_scrollDown a p) modes
    (.inl ⟨Int.le_refl 0, Int.le_refl 0⟩) rows
  rw [Int.add_zero] at honward
  rw [plane_scrollDown, hresolution, honward]

theorem plane_scrollUp_scrollUp (d : Display) (p : Plane) {a b : UInt64}
    (rows : Onward (d.resolution.travel a) (d.resolution.travel b)) :
    ((d.scrollUp a).scrollUp b).plane p =
      d.copied p 0 (-(d.resolution.travel a + d.resolution.travel b)) := by
  have modes : (d.scrollUp a).modes = d.modes := d.modes_scroll ..
  have hresolution : (d.scrollUp a).resolution = d.resolution := congrArg Modes.resolution modes
  have rows' : Onward (-d.resolution.travel a) (-d.resolution.travel b) := by
    unfold Onward at *
    omega
  have honward := copied_onward (d.plane_scrollUp a p) modes
    (.inl ⟨Int.le_refl 0, Int.le_refl 0⟩) rows'
  rw [Int.add_zero, ← Int.neg_add] at honward
  rw [plane_scrollUp, hresolution, honward]

/-- Unless both distances are odd, halving and adding can change places. -/
theorem plane_scroll_scroll_of_sum (d : Display) (p : Plane) {a b c : UInt64}
    (sum : c.toNat = a.toNat + b.toNat) (ha : ¬d.resolution.Turns a) (hb : ¬d.resolution.Turns b)
    (hc : ¬d.resolution.Turns c)
    (even : ¬(d.resolution = .standard ∧ a.toNat % 2 = 1 ∧ b.toNat % 2 = 1)) :
    ((d.scrollDown a).scrollDown b).plane p = (d.scrollDown c).plane p ∧
      ((d.scrollUp a).scrollUp b).plane p = (d.scrollUp c).plane p := by
  have htravel : d.resolution.travel c = d.resolution.travel a + d.resolution.travel b := by
    have hadd := d.resolution.scale_add sum
    rw [if_neg even] at hadd
    rw [Resolution.travel_of_not_turns ha, Resolution.travel_of_not_turns hb,
      Resolution.travel_of_not_turns hc, hadd]
    rfl
  have rows := Resolution.onward_of_not_turns ha hb
  rw [d.plane_scrollDown_scrollDown p rows, d.plane_scrollUp_scrollUp p rows, plane_scrollDown,
    plane_scrollUp, htravel]
  exact ⟨rfl, rfl⟩

/-- The sum of two odd distances goes one row further than both of them. -/
theorem plane_scroll_of_odd_sum (d : Display) (p : Plane) {a b c : UInt64}
    (sum : c.toNat = a.toNat + b.toNat) (standard : d.resolution = .standard)
    (ha : a.toNat % 2 = 1) (hb : b.toNat % 2 = 1) :
    let rows : Int := (d.resolution.scale a).toNat + (d.resolution.scale b).toNat + 1
    (d.scrollDown c).plane p = d.copied p 0 rows ∧
      (d.scrollUp c).plane p = d.copied p 0 (-rows) := by
  intro rows
  have straight : ¬d.resolution.Turns c := by
    intro around
    rw [around.1] at standard
    cases standard
  have htravel : d.resolution.travel c = rows := by
    have hadd := d.resolution.scale_add sum
    rw [if_pos ⟨standard, ha, hb⟩] at hadd
    rw [Resolution.travel_of_not_turns straight, hadd]
    rfl
  rw [plane_scrollDown, plane_scrollUp, htravel]
  exact ⟨rfl, rfl⟩

/-- Vertical and horizontal scrolls can change places. -/
theorem plane_scroll_horizontal (d : Display) (p : Plane) (n : UInt64) :
    (d.scrollDown n).scrollLeft.plane p = (d.scrollLeft.scrollDown n).plane p ∧
      (d.scrollDown n).scrollRight.plane p = (d.scrollRight.scrollDown n).plane p ∧
      (d.scrollUp n).scrollLeft.plane p = (d.scrollLeft.scrollUp n).plane p ∧
      (d.scrollUp n).scrollRight.plane p = (d.scrollRight.scrollUp n).plane p := by
  have hresolution : ∀ dx dy, (d.scroll dx dy).resolution = d.resolution := fun dx dy =>
    congrArg Modes.resolution (d.modes_scroll dx dy)
  simp only [scrollDown, scrollUp, scrollLeft, scrollRight, hresolution]
  exact ⟨d.plane_scroll_comm p _ _, d.plane_scroll_comm p _ _, d.plane_scroll_comm p _ _,
    d.plane_scroll_comm p _ _⟩

/-- Scrolling down and up again loses the rows that have left the area in between. -/
theorem pixel_scroll_back (d : Display) (p : Plane) (n : UInt64) {x y : Nat}
    (column : x < planeWidth) (row : y < planeHeight) :
    ((d.scrollDown n).scrollUp n).pixel p x y =
      if p ∈ d.selection.planes ∧ x < d.width ∧ y < d.height ∧
        (if d.resolution.Turns n then y < 0x10000000000000000 - n.toNat
          else d.height - min (d.resolution.scale n).toNat d.height ≤ y)
      then false else d.pixel p x y := by
  have modes : (d.scrollDown n).modes = d.modes := d.modes_scroll ..
  have hresolution : (d.scrollDown n).resolution = d.resolution := congrArg Modes.resolution modes
  rw [pixel, plane_scrollUp, hresolution, copied_copied (d.plane_scrollDown n p) modes]
  by_cases selected : p ∈ d.selection.planes
  · rw [if_pos selected]
    by_cases inside : x < d.width ∧ y < d.height
    · -- A row is lost if it stood beyond an edge between the two scrolls.
      have hlost := d.resolution.leaves_iff n inside.2
      have houtside : ¬d.resolution.Contains (x - 0) (y - -d.resolution.travel n) ↔
          ¬(0 ≤ y + d.resolution.travel n ∧ y + d.resolution.travel n < d.resolution.height) := by
        unfold Resolution.Contains width at *
        omega
      rw [Grid.get_moved_back _ (by omega) (by omega) inside, ← ite_not]
      refine if_congr (houtside.trans (hlost.trans ?_)) rfl rfl
      rw [and_iff_right selected, and_iff_right inside.1, and_iff_right inside.2]
      rfl
    · rw [Grid.get_moved_of_outside column row inside, Grid.get_moved_of_outside column row inside,
        if_neg (fun lost => inside ⟨lost.2.1, lost.2.2.1⟩), pixel]
  · rw [if_neg selected, if_neg (fun lost => selected lost.1), pixel]

end Display

/-- Vertical scrolls add up, as far as their distances do and unless one of them turns
    around. They change places with horizontal ones. A scroll down and up again blanks
    what was pushed over the lower edge and brings back everything else. By distances
    that fall short of `2 ^ 64` by less than the height of the area all this happens the
    other way round: they add up to what they fall short by, in the other direction, and
    it is the upper edge that pixels are lost over. -/
theorem scrolls_compose_unless_turned (d : Display) (p : Plane) :
    let scale : UInt64 → Nat := fun n => (d.resolution.scale n).toNat
    let back : UInt64 → Nat := fun n => 0x10000000000000000 - n.toNat
    let Turns := d.resolution.Turns
    (∀ a b, ¬Turns a → ¬Turns b →
      ((d.scrollDown a).scrollDown b).plane p = d.copied p 0 (scale a + scale b) ∧
      ((d.scrollUp a).scrollUp b).plane p = d.copied p 0 (-(scale a + scale b))) ∧
    (∀ a b c : UInt64, c.toNat = a.toNat + b.toNat → ¬Turns a → ¬Turns b → ¬Turns c →
      ¬(d.resolution = .standard ∧ a.toNat % 2 = 1 ∧ b.toNat % 2 = 1) →
      ((d.scrollDown a).scrollDown b).plane p = (d.scrollDown c).plane p ∧
      ((d.scrollUp a).scrollUp b).plane p = (d.scrollUp c).plane p) ∧
    (∀ a b c : UInt64, c.toNat = a.toNat + b.toNat →
      d.resolution = .standard → a.toNat % 2 = 1 → b.toNat % 2 = 1 →
      (d.scrollDown c).plane p = d.copied p 0 (scale a + scale b + 1) ∧
      (d.scrollUp c).plane p = d.copied p 0 (-(scale a + scale b + 1))) ∧
    (∀ n,
      (d.scrollDown n).scrollLeft.plane p = (d.scrollLeft.scrollDown n).plane p ∧
      (d.scrollDown n).scrollRight.plane p = (d.scrollRight.scrollDown n).plane p ∧
      (d.scrollUp n).scrollLeft.plane p = (d.scrollLeft.scrollUp n).plane p ∧
      (d.scrollUp n).scrollRight.plane p = (d.scrollRight.scrollUp n).plane p) ∧
    (∀ n, ∀ x < planeWidth, ∀ y < planeHeight,
      ((d.scrollDown n).scrollUp n).pixel p x y =
        if p ∈ d.selection.planes ∧ x < d.width ∧ y < d.height ∧
          (if Turns n then y < back n else d.height - min (scale n) d.height ≤ y)
        then false else d.pixel p x y) ∧
    (∀ a b, Turns a → Turns b →
      ((d.scrollDown a).scrollDown b).plane p = d.copied p 0 (-(back a + back b)) ∧
      ((d.scrollUp a).scrollUp b).plane p = d.copied p 0 (back a + back b)) := by
  intro scale back Turns
  refine ⟨fun a b ha hb => ?_, fun a b c sum => d.plane_scroll_scroll_of_sum p sum,
    fun a b c sum => d.plane_scroll_of_odd_sum p sum, d.plane_scroll_horizontal p,
    fun n x column y row => d.pixel_scroll_back p n column row, fun a b ha hb => ?_⟩
  · have rows := Resolution.onward_of_not_turns ha hb
    rw [d.plane_scrollDown_scrollDown p rows, d.plane_scrollUp_scrollUp p rows,
      Resolution.travel_of_not_turns ha, Resolution.travel_of_not_turns hb]
    exact ⟨rfl, rfl⟩
  · -- Both go the other way, so they do not turn back either.
    have rows := Resolution.onward_of_turns ha hb
    rw [d.plane_scrollDown_scrollDown p rows, d.plane_scrollUp_scrollUp p rows,
      Resolution.travel_of_turns ha, Resolution.travel_of_turns hb, ← Int.neg_add, Int.neg_neg]
    exact ⟨rfl, rfl⟩

/-- A dot in the first row, scrolled down by one twice, is where it was; scrolled down
    by two it is a row lower. Another one in the second row of the extended screen comes
    back from a scroll by the largest distance, and does not from two of them. -/
theorem scrolls_compose_unless_turned_when_both_odd :
    let d : Display := { planeA := (Grid.fill false).set 5 0 true }
    let far : UInt64 := 0xFFFFFFFFFFFFFFFF
    (((d.scrollDown 1).scrollDown 1).pixel .a 5 0 = true ∧ (d.scrollDown 2).pixel .a 5 0 = false) ∧
      ((d.scrollDown 3).scrollDown 2).plane .a = (d.scrollDown 5).plane .a ∧
      ((d.scrollDown 64).scrollUp 64).pixel .a 5 0 = false ∧
      ((Display.dotted.scrollDown far).scrollUp far).pixel .a 0 1 = true ∧
      ((Display.dotted.scrollDown far).scrollDown far).plane .a =
        Display.dotted.copied .a 0 (-2) := by
  intro d far
  rcases scrolls_compose_unless_turned d .a with ⟨hsum, heven, hodd, -, hback, -⟩
  rcases scrolls_compose_unless_turned .dotted .a with ⟨-, -, -, -, hturned, htwice⟩
  have hdot : d.pixel .a 5 0 = true := (Grid.get_set ..).trans (if_pos ⟨rfl, rfl⟩)
  have hseen : ∀ s : Int,
      (d.copied .a 0 s).get 5 0 = (d.plane .a).seen .standard (5 - 0) (0 - s) := by
    intro s
    rw [Display.copied, if_pos (by decide)]
    exact Grid.get_moved_of_inside (by decide)
  refine ⟨⟨?_, ?_⟩, (heven 3 2 5 rfl (by decide) (by decide) (by decide) (by decide)).1, ?_, ?_,
    ?_⟩
  · rw [Display.pixel, (hsum 1 1 (by decide) (by decide)).1, hseen]
    exact (Grid.seen_of_inside (by decide)).trans hdot
  · rw [Display.pixel, (hodd 1 1 2 rfl rfl rfl rfl).1, hseen]
    exact if_neg (by decide)
  · rw [hback 64 5 (by decide) 0 (by decide)]
    exact if_pos (by decide)
  · rw [hturned far 0 (by decide) 1 (by decide), Display.pixel_dotted]
    exact if_neg (by decide)
  · have hrows : ((0x10000000000000000 - far.toNat : Nat) : Int) = 1 := by decide
    rw [(htwice far far (by decide) (by decide)).1, hrows]
    rfl

/-- By the largest distance of all, nothing should be left of the dot, neither after
    one more scroll down nor after a scroll back up. -/
theorem turned_scrolls_do_not_compose :
    (¬∀ (d : Display) (a b : UInt64) (p : Plane),
      ((d.scrollDown a).scrollDown b).plane p =
        d.copied p 0 ((d.resolution.scale a).toNat + (d.resolution.scale b).toNat)) ∧
    ¬∀ (d : Display) (n : UInt64) (p : Plane), ∀ x < planeWidth, ∀ y < planeHeight,
      ((d.scrollDown n).scrollUp n).pixel p x y =
        if p ∈ d.selection.planes ∧ x < d.width ∧ y < d.height ∧
          d.height - min (d.resolution.scale n).toNat d.height ≤ y
        then false else d.pixel p x y := by
  constructor
  · intro sums
    have hsum := sums .dotted 0xFFFFFFFFFFFFFFFF 0 .a
    rw [Display.plane_scrollDown_scrollDown _ _ (by decide),
      Display.copied_eq_copied_far_iff _ _ _ _ (by decide)] at hsum
    exact hsum ⟨by decide, 0, 1, by decide, by decide, Display.pixel_dotted, by decide, by decide⟩
  · intro back
    have hback := back .dotted 0xFFFFFFFFFFFFFFFF .a 0 (by decide) 1 (by decide)
    rw [Display.pixel_scroll_back _ _ _ (by decide) (by decide), if_neg (by decide),
      if_pos (by decide), Display.pixel_dotted] at hback
    exact Bool.false_ne_true hback.symm

end ChipEight
