import ChipEight.Display

/-!
# Display Commands

What a host may ask of a display, as data, so that a sequence of requests is a
list.

## Main definitions

* `Display.Command`: Everything a host may ask of a display.
* `Display.obey`: What a display answers, and what becomes of it.
-/

namespace ChipEight

/-- What a host may ask of a display. -/
inductive Display.Command where
  /-- Turn one pixel over and say whether it was on. -/
  | toggle (p : Plane) (x y : Nat)
  /-- Turn one pixel off and say whether it was on. -/
  | erase (p : Plane) (x y : Nat)
  /-- Draw a sprite and say whether a pixel was erased. -/
  | drawSprite (p : Plane) (x y : Nat) (rows : List UInt8)
  | clear
  | scrollUp (n : UInt64)
  | scrollDown (n : UInt64)
  | scrollLeft
  | scrollRight
  | tickFade
  | setResolution (r : Resolution)
  | setSelection (s : Selection)
  | setFading (f : Fading)
  deriving DecidableEq, Repr

namespace Display

/-- What a display answers to a command, if anything, and what becomes of it. -/
def obey (d : Display) : Command → Option Bool × Display
  | .toggle p x y => (some (d.pixel p x y), d.toggle p x y)
  | .erase p x y => (some (d.pixel p x y), d.erase p x y)
  | .drawSprite p x y rows =>
    let drawn := d.drawSprite p x y rows
    (some drawn.1, drawn.2)
  | .clear => (none, d.clear)
  | .scrollUp n => (none, d.scrollUp n)
  | .scrollDown n => (none, d.scrollDown n)
  | .scrollLeft => (none, d.scrollLeft)
  | .scrollRight => (none, d.scrollRight)
  | .tickFade => (none, d.tickFade)
  | .setResolution r => (none, { d with resolution := r })
  | .setSelection s => (none, { d with selection := s })
  | .setFading f => (none, { d with fading := f })

end Display

end ChipEight
