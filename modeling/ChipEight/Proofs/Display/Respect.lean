import ChipEight.Display.Render
import ChipEight.Proofs.Display.Modes
import Mathlib.Data.List.Basic

/-!
# Relations that Drawing Respects

When two displays differ in something a program cannot see, they have to go on
differing in nothing else, whatever is drawn on them. There are several such
somethings, and the argument for each would follow every drawing operation
down to the pixels it toggles. This module makes that descent once.

All that drawing asks of a display is the resolution, the selection and the
pixels of the active area, and all it does to one is to toggle pixels and to
take the snapshot. So a relation between displays need only agree on the
former and be kept by the latter; that is `Display.Respected`, and drawing
sprites and scrolling then keep it and give the same answers. Clearing is a
condition of its own. It goes over the whole plane, beyond the area that
related displays agree on, so the cells it toggles need not be the same ones.

## Main definitions

* `Display.Respected`: The conditions on a relation.

## Theorems

* `Resolution.mem_cells`, `Display.mem_spriteCells`: Scrolls and sprites stay
  within the active area.
* `Resolution.nodup_cells`: Scrolls come to every cell once.
* `Display.render_congr`: Rendering looks at the active area alone.
* `Display.Respected.strike`: Striking the same cells of related displays hits
  the same.
* `Display.Respected.drawSprite`, `Display.Respected.scroll`: Drawing and
  scrolling keep displays related.
* `Display.Respected.render`: Related displays look the same.
-/

namespace ChipEight

/-! ### Cells of the active area -/

theorem Resolution.mem_cells {r : Resolution} {cell : Nat × Nat} :
    cell ∈ r.cells ↔ cell.1 < r.width ∧ cell.2 < r.height := by
  simp only [cells, List.mem_flatMap, List.mem_map, List.mem_range]
  constructor
  · rintro ⟨y, hy, x, hx, rfl⟩
    exact ⟨hx, hy⟩
  · rintro ⟨hx, hy⟩
    exact ⟨cell.2, hy, cell.1, hx, rfl⟩

/-- No cell is visited twice. -/
theorem Resolution.nodup_cells (r : Resolution) : r.cells.Nodup := by
  refine List.pairwise_flatMap.mpr ⟨fun y _ => List.pairwise_map.mpr ?_, ?_⟩
  · exact List.pairwise_lt_range.imp fun hlt same => Nat.ne_of_lt hlt (congrArg Prod.fst same)
  · refine List.pairwise_lt_range.imp fun hlt cell hcell other hother same => ?_
    rcases List.mem_map.mp hcell with ⟨_, _, rfl⟩
    rcases List.mem_map.mp hother with ⟨_, _, rfl⟩
    exact Nat.ne_of_lt hlt (congrArg Prod.snd same)

namespace Display

theorem mem_spriteCells {area : Resolution} {x y : Nat} {rows : List UInt8} {cell : Nat × Nat}
    (member : cell ∈ spriteCells area x y rows) : cell.1 < area.width ∧ cell.2 < area.height := by
  simp only [spriteCells, List.mem_flatMap, List.mem_map] at member
  rcases member with ⟨_, _, _, _, rfl⟩
  have hwidth : 0 < area.width := by cases area <;> decide
  have hheight : 0 < area.height := by cases area <;> decide
  exact ⟨Nat.mod_lt _ hwidth, Nat.mod_lt _ hheight⟩

/-- A relation that toggling one pixel keeps is kept by toggling many. This is
    what the condition on clearing is mostly proved by. -/
theorem toggleAll_related {R : Display → Display → Prop} {d e : Display}
    (toggle : ∀ {d e : Display}, R d e → ∀ p x y, R (d.toggle p x y) (e.toggle p x y))
    (related : R d e) (p : Plane) (cells : List (Nat × Nat)) :
    R (d.toggleAll p cells) (e.toggleAll p cells) :=
  List.foldl_rel related fun cell _ _ _ h => toggle h p cell.1 cell.2

/-- What a display looks like depends on the active area alone. -/
theorem render_congr {d e : Display} (resolution : e.resolution = d.resolution)
    (pixel : ∀ p x y, x < d.width → y < d.height → e.pixel p x y = d.pixel p x y) :
    e.render = d.render := by
  have hwidth : e.width = d.width := congrArg Resolution.width resolution
  have hheight : e.height = d.height := congrArg Resolution.height resolution
  have hrow : ∀ y ∈ List.range d.height, e.renderRow y = d.renderRow y := by
    intro y hy
    rw [renderRow, renderRow, hwidth]
    apply List.map_congr_left
    intro x hx
    have hpixel := fun p => pixel p x y (List.mem_range.mp hx) (List.mem_range.mp hy)
    rw [hpixel, hpixel]
  rw [render, render, hheight]
  refine congrArg String.ofList (List.flatMap_congr ?_)
  intro y hy
  rw [hrow y hy]

/-- Drawing respects a relation between displays: related displays agree on all
    that drawing looks at, and all that drawing does keeps displays related. -/
structure Respected (R : Display → Display → Prop) : Prop where
  resolution {d e : Display} : R d e → e.resolution = d.resolution
  selection {d e : Display} : R d e → e.selection = d.selection
  pixel {d e : Display} : R d e → ∀ p x y, x < d.width → y < d.height →
    e.pixel p x y = d.pixel p x y
  toggle {d e : Display} : R d e → ∀ p x y, R (d.toggle p x y) (e.toggle p x y)
  clear {d e : Display} : R d e → R d.clear e.clear
  select {d e : Display} : R d e → ∀ s, R { d with selection := s } { e with selection := s }
  snapshot {d e : Display} : R d e → ∀ s, R { d with lastSprite := s } { e with lastSprite := s }

namespace Respected

variable {R : Display → Display → Prop} {d e : Display}

/-- Striking the same cells of related displays hits the same, as long as the
    cells are ones that the displays agree on. They go on agreeing on them,
    since toggling keeps the resolution, and the induction carries that along. -/
theorem strike (respected : Respected R) (related : R d e) (p : Plane) {cells : List (Nat × Nat)}
    (inside : ∀ cell ∈ cells, cell.1 < d.width ∧ cell.2 < d.height) :
    (e.strike p cells).1 = (d.strike p cells).1 ∧ R (d.strike p cells).2 (e.strike p cells).2 := by
  have hfold : ((e.strike p cells).1 = (d.strike p cells).1 ∧
      R (d.strike p cells).2 (e.strike p cells).2) ∧
      (d.strike p cells).2.resolution = d.resolution := by
    refine List.foldl_rel
      (r := fun s t : Bool × Display => (t.1 = s.1 ∧ R s.2 t.2) ∧ s.2.resolution = d.resolution)
      ⟨⟨rfl, related⟩, rfl⟩ ?_
    rintro cell member ⟨hit, d'⟩ ⟨hit', e'⟩ ⟨⟨same, h⟩, area⟩
    -- The area in use is still the one that the cells were taken from.
    have hpixel := respected.pixel h p cell.1 cell.2
    rw [width, height, area] at hpixel
    have harea : (d'.toggle p cell.1 cell.2).resolution = d'.resolution :=
      congrArg Modes.resolution (modes_toggle ..)
    refine ⟨⟨?_, respected.toggle h p cell.1 cell.2⟩, harea.trans area⟩
    simp only at same ⊢
    rw [same, hpixel (inside cell member).1 (inside cell member).2]
  exact hfold.1

theorem drawSprite (respected : Respected R) (related : R d e) (p : Plane) (x y : Nat)
    (rows : List UInt8) :
    (e.drawSprite p x y rows).1 = (d.drawSprite p x y rows).1 ∧
      R (d.drawSprite p x y rows).2 (e.drawSprite p x y rows).2 := by
  have hcells : spriteCells e.resolution x y rows = spriteCells d.resolution x y rows := by
    rw [respected.resolution related]
  rw [Display.drawSprite, Display.drawSprite, hcells]
  refine respected.strike (respected.snapshot related (.ofRows rows)) p ?_
  intro cell member
  exact mem_spriteCells member

/-- What comes in from outside the active area is blank, so only pixels that
    related displays agree on matter. -/
theorem incoming (respected : Respected R) (related : R d e) (p : Plane) (dx dy : Int64)
    {x y : Nat} (inside : x < d.width ∧ y < d.height) :
    e.incoming p dx dy x y = d.incoming p dx dy x y := by
  have hwidth : e.width = d.width := congrArg Resolution.width (respected.resolution related)
  have hheight : e.height = d.height := congrArg Resolution.height (respected.resolution related)
  have hsize := size_le d.resolution
  have column : x < planeWidth := Nat.lt_of_lt_of_le inside.1 hsize.1
  have row : y < planeHeight := Nat.lt_of_lt_of_le inside.2 hsize.2
  rw [e.incoming_eq p dx dy column row, d.incoming_eq p dx dy column row, hwidth, hheight]
  by_cases within : 0 ≤ x - dx.toInt ∧ x - dx.toInt < d.width ∧
      0 ≤ y - dy.toInt ∧ y - dy.toInt < d.height
  · -- Coordinates in range lose nothing when they become natural numbers.
    rw [if_pos within, if_pos within]
    exact respected.pixel related p _ _ (by omega) (by omega)
  · rw [if_neg within, if_neg within]

theorem shift (respected : Respected R) (related : R d e) (p : Plane) (dx dy : Int64) :
    R (d.shift p dx dy) (e.shift p dx dy) := by
  have hcells : (e.resolution.cells.filter fun cell =>
        e.incoming p dx dy cell.1 cell.2 != e.pixel p cell.1 cell.2) =
      d.resolution.cells.filter fun cell =>
        d.incoming p dx dy cell.1 cell.2 != d.pixel p cell.1 cell.2 := by
    rw [respected.resolution related]
    apply List.filter_congr
    intro cell member
    rw [Resolution.mem_cells] at member
    rw [respected.incoming related p dx dy member, respected.pixel related p _ _ member.1 member.2]
  rw [Display.shift, Display.shift, hcells]
  exact toggleAll_related respected.toggle related p _

/-- The distance of a scroll may depend on the resolution, which related
    displays have in common. -/
theorem scroll (respected : Respected R) (related : R d e) (dx dy : Resolution → Int64) :
    R (d.scroll (dx d.resolution) (dy d.resolution))
      (e.scroll (dx e.resolution) (dy e.resolution)) := by
  rw [respected.resolution related, Display.scroll, Display.scroll, respected.selection related]
  exact List.foldl_rel related fun p _ _ _ h => respected.shift h p _ _

/-- Rendering goes over the active area, so related displays look the same. -/
theorem render (respected : Respected R) (related : R d e) : e.render = d.render :=
  render_congr (respected.resolution related) (respected.pixel related)

end Respected

end Display

end ChipEight
