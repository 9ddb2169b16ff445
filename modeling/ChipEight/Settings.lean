import ChipEight.Dialect
import ChipEight.Display

/-!
# Settings

What the host chooses before a program starts.

## Main definitions

* `Settings`: The dialect, and the display a freshly loaded program starts with.
* `Settings.display`: That display.
-/

namespace ChipEight

/-- What the host chooses. -/
structure Settings where
  dialect : Dialect := {}
  fading : Fading := {}
  /-- The resolution a freshly loaded program starts in. -/
  resolution : Resolution := .standard
  /-- The planes a freshly loaded program draws to. -/
  selection : Selection := .a
  deriving DecidableEq, Repr, Inhabited

namespace Settings

/-- The empty display a freshly loaded program starts with. -/
def display (s : Settings) : Display :=
  { fading := s.fading, resolution := s.resolution, selection := s.selection }

end Settings

end ChipEight
