import ChipEight.Display

/-!
# Rendering

The active area of the screen as text: one sign for every cell, telling both
of its pixels apart, and one line for every row.

## Main definitions

* `cellSign`: The sign of a cell.
* `Display.renderRow`: The signs of a row.
* `Display.render`: The lines of all rows.
-/

namespace ChipEight

/-- The sign for a cell whose pixels on plane A and on plane B are given. -/
def cellSign : Bool → Bool → Char
  | true, true => '@'
  | true, false => '#'
  | false, true => '+'
  | false, false => '.'

namespace Display

/-- One row of the active area as signs. -/
def renderRow (d : Display) (y : Nat) : List Char :=
  (List.range d.width).map fun x => cellSign (d.pixel .a x y) (d.pixel .b x y)

/-- The active area as lines of signs. -/
def render (d : Display) : String :=
  String.ofList ((List.range d.height).flatMap fun y => d.renderRow y ++ ['\n'])

end Display

end ChipEight
