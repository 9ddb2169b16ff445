import ChipEight.Console
import ChipEight.Proofs.Display.Respect
import ChipEight.Proofs.Text.Lines

/-!
# What a Rendered Screen Tells

The text of a screen tells all of the active area: how large it is, and for every
cell which of its two pixels are on.

The text is one flat string, so two things have to be recovered from it. It falls
into lines at its newlines, none of which is a sign, and the number of lines tells
the resolution, since the two resolutions differ in height. In a line a cell stands
at the place of its column, and the four signs stand for the four pairs of pixels.
Looking at the text instead of the display therefore loses nothing but what lies
outside the active area, and the area looked at is the active one and not the plane:
`rendering_tells_screen` is an equivalence.

## Main definitions

* `Display.pixels?`: The pixels that a sign stands for.
* `Display.Shown`: What it means for lines to show a display.

## Theorems

* `Display.shown_render`: The lines of the text show the display.
* `Display.Shown.same`: Lines show only one screen.
* `rendering_tells_screen`: What the text of a screen is like, and that it tells
  one screen from another.
-/

namespace ChipEight

namespace Display

/-- The pixels on plane A and on plane B of a cell that is shown by a sign. -/
def pixels? : Char → Option (Bool × Bool)
  | '.' => some (false, false)
  | '#' => some (true, false)
  | '+' => some (false, true)
  | '@' => some (true, true)
  | _ => none

/-- Lines show a display: there is a line for every row of the active area and a
    sign for every cell of a row, which stands for the two pixels of the cell. -/
structure Shown (d : Display) (lines : List (List Char)) : Prop where
  height : lines.length = d.height
  width : ∀ line ∈ lines, line.length = d.width
  signs : ∀ line ∈ lines, ∀ c ∈ line, c ∈ ['.', '#', '+', '@']
  pixels : ∀ x y, x < d.width → y < d.height → ∃ row c, lines[y]? = some row ∧
    row[x]? = some c ∧ pixels? c = some (d.pixel .a x y, d.pixel .b x y)

theorem pixels?_cellSign (a b : Bool) : pixels? (cellSign a b) = some (a, b) := by
  cases a <;> cases b <;> rfl

theorem cellSign_mem (a b : Bool) : cellSign a b ∈ ['.', '#', '+', '@'] := by
  cases a <;> cases b <;> decide

variable {d e : Display}

/-! ### The lines of a screen -/

theorem length_renderRow (d : Display) (y : Nat) : (d.renderRow y).length = d.width := by
  rw [renderRow, List.length_map, List.length_range]

/-- A row is not empty, and no sign is a newline. -/
theorem whole_renderRow (d : Display) (y : Nat) : Text.Whole (d.renderRow y) where
  nonempty empty := by
    have hwidth : 0 < d.width := by
      rw [width]
      cases d.resolution <;> decide
    rw [← length_renderRow d y, empty] at hwidth
    exact Nat.lt_irrefl 0 hwidth
  unbroken member := by
    rcases List.mem_map.mp member with ⟨x, -, hsign⟩
    have hmember := cellSign_mem (d.pixel .a x y) (d.pixel .b x y)
    rw [hsign] at hmember
    exact absurd hmember (by decide)

theorem toList_render (d : Display) :
    d.render.toList = Text.ended ((List.range d.height).map d.renderRow) := by
  rw [render, String.toList_ofList, Text.ended, List.flatMap_map]

theorem lines_render (d : Display) :
    Text.lines d.render.toList = (List.range d.height).map d.renderRow := by
  rw [toList_render]
  refine Text.lines_ended fun line member => ?_
  rcases List.mem_map.mp member with ⟨y, -, rfl⟩
  exact d.whole_renderRow y

/-- The lines of the text show the display. -/
theorem shown_render (d : Display) : d.Shown (Text.lines d.render.toList) := by
  rw [lines_render]
  refine ⟨?_, ?_, ?_, ?_⟩
  · rw [List.length_map, List.length_range]
  · intro line member
    rcases List.mem_map.mp member with ⟨y, -, rfl⟩
    exact d.length_renderRow y
  · intro line member c hc
    rcases List.mem_map.mp member with ⟨y, -, rfl⟩
    rcases List.mem_map.mp hc with ⟨x, -, rfl⟩
    exact cellSign_mem ..
  · intro x y hx hy
    refine ⟨d.renderRow y, cellSign (d.pixel .a x y) (d.pixel .b x y), ?_, ?_, pixels?_cellSign ..⟩
    · rw [List.getElem?_map, List.getElem?_range hy, Option.map_some]
    · rw [renderRow, List.getElem?_map, List.getElem?_range hx, Option.map_some]

/-! ### The screen of lines -/

/-- Lines show only one screen. The heights of the two resolutions differ, so the
    number of lines tells which of them it is. -/
theorem Shown.same {lines : List (List Char)} (first : d.Shown lines) (second : e.Shown lines) :
    d.resolution = e.resolution ∧
      ∀ p x y, x < d.width → y < d.height → d.pixel p x y = e.pixel p x y := by
  have hheight : d.resolution.height = e.resolution.height := first.height.symm.trans second.height
  have hresolution : d.resolution = e.resolution := by
    revert hheight
    cases d.resolution <;> cases e.resolution <;> decide
  refine ⟨hresolution, fun p x y hx hy => ?_⟩
  rcases first.pixels x y hx hy with ⟨line, c, hline, hc, hd⟩
  rw [Display.width, hresolution] at hx
  rw [Display.height, hresolution] at hy
  rcases second.pixels x y hx hy with ⟨line', c', hline', hc', he⟩
  -- It is the same sign that both displays show there.
  rw [hline, Option.some.injEq] at hline'
  rw [← hline', hc, Option.some.injEq] at hc'
  rw [← hc', hd, Option.some.injEq, Prod.mk.injEq] at he
  cases p with
  | a => exact he.1
  | b => exact he.2

end Display

/-- The text of a screen has a line for every row of the active area, each ended by a
    newline, and in it one of four signs for every cell, which tells both pixels.
    Two screens have the same text exactly if they have the same resolution and the
    same pixels throughout the active area. -/
theorem rendering_tells_screen (c d : Console) :
    (c.render.toList = Text.ended (Text.lines c.render.toList) ∧
      c.machine.display.Shown (Text.lines c.render.toList)) ∧
    (c.render = d.render ↔
      c.machine.display.resolution = d.machine.display.resolution ∧
        ∀ p x y, x < c.machine.display.width → y < c.machine.display.height →
          c.machine.display.pixel p x y = d.machine.display.pixel p x y) := by
  have hshown := c.machine.display.shown_render
  have hended : c.render.toList = Text.ended (Text.lines c.render.toList) := by
    rw [Console.render, Display.lines_render, Display.toList_render]
  refine ⟨⟨hended, hshown⟩, fun same => ?_, fun ⟨resolution, pixels⟩ => ?_⟩
  · refine hshown.same ?_
    rw [show c.machine.display.render = d.machine.display.render from same]
    exact d.machine.display.shown_render
  · exact (Display.render_congr resolution.symm fun p x y hx hy => (pixels p x y hx hy).symm).symm

end ChipEight
