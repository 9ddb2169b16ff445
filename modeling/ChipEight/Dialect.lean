import ChipEight.Word

/-!
# Dialects

Historical interpreters disagree on a handful of instructions. A dialect says
which reading is in force; every switch is off by default, which is what most
programs expect.

## Main definitions

* `Dialect`: The four switches.
* `Dialect.jumpBase`, `Dialect.shiftSource`: The register an affected
  instruction reads.
-/

namespace ChipEight

/-- Which reading is in force where interpreters disagree. -/
structure Dialect where
  /-- `8XY6` and `8XYE` shift VY into VX, instead of shifting VX in place. -/
  shiftUsesY : Bool := false
  /-- `BNNN` adds VX, where X is the first digit of NNN, instead of V0. -/
  jumpUsesX : Bool := false
  /-- `FX55` and `FX65` leave I just past the last byte they transferred. -/
  indexAdvances : Bool := false
  /-- `8XY5` and `8XY7` write VF before the difference, so that the
      difference survives when X is F. -/
  flagFirst : Bool := false
  deriving DecidableEq, Repr, Inhabited

namespace Dialect

/-- The register `BNNN` adds to NNN. -/
def jumpBase (d : Dialect) (x : Register) : Register :=
  if d.jumpUsesX then x else ⟨0, by decide⟩

/-- The register `8XY6` and `8XYE` read before shifting. -/
def shiftSource (d : Dialect) (x y : Register) : Register :=
  if d.shiftUsesY then y else x

end Dialect

end ChipEight
