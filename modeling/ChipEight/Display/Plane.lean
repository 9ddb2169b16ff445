/-!
# Planes and Resolutions

The screen has two planes of equal size that are drawn to separately. A
selection says which of them drawing and scrolling work on, and a resolution
says how much of each is in use.

## Main definitions

* `Plane`, `Selection`: One plane, and a set of planes.
* `Selection.planes`: The selected planes, in drawing order.
* `Resolution`: The two sizes of the active area.
* `Resolution.scale`, `Resolution.reach`: How far a scroll distance reaches, and
  which way.

## Theorems

* `Resolution.toInt_reach`: Up to which distance it reaches as far as it is scaled.
-/

namespace ChipEight

/-- The width of a plane, in use only in extended resolution. -/
def planeWidth : Nat := 128

/-- The height of a plane, in use only in extended resolution. -/
def planeHeight : Nat := 64

/-- One of the two planes. -/
inductive Plane where
  | a
  | b
  deriving DecidableEq, Repr, Inhabited

/-- Which planes drawing and scrolling work on. -/
inductive Selection where
  | none
  | a
  | b
  | both
  deriving DecidableEq, Repr, Inhabited

namespace Selection

/-- Selections are numbered by bits: the lowest for plane A, the next for plane
    B. Higher bits mean nothing. -/
def ofBits (bits : Nat) : Selection :=
  match bits % 4 with
  | 0 => none
  | 1 => a
  | 2 => b
  | _ => both

/-- The number of a selection. -/
def bits : Selection → Nat
  | none => 0
  | a => 1
  | b => 2
  | both => 3

/-- The selected planes, plane A first. -/
def planes : Selection → List Plane
  | none => []
  | a => [.a]
  | b => [.b]
  | both => [.a, .b]

/-- The name of a selection as traces show it. -/
def name : Selection → String
  | none => "None"
  | a => "A"
  | b => "B"
  | both => "Both"

end Selection

/-- How much of a plane is in use. -/
inductive Resolution where
  /-- The 64 by 32 area at the top left. -/
  | standard
  /-- The whole plane, 128 by 64. -/
  | extended
  deriving DecidableEq, Repr, Inhabited

namespace Resolution

/-- The width of the active area. -/
def width : Resolution → Nat
  | standard => 64
  | extended => planeWidth

/-- The height of the active area. -/
def height : Resolution → Nat
  | standard => 32
  | extended => planeHeight

/-- Scroll distances are counted in pixels of the extended resolution; a standard
    pixel is two of them wide, and an odd one is lost. -/
def scale : Resolution → UInt64 → UInt64
  | standard, n => n / 2
  | extended, n => n

/-- How far a scroll distance reaches, as a number with a sign. The bits stay what
    they are, so that a distance from `2 ^ 63` on reaches the other way. -/
def reach (r : Resolution) (n : UInt64) : Int64 :=
  (r.scale n).toInt64

theorem toNat_scale (r : Resolution) (n : UInt64) :
    (r.scale n).toNat = if r = .extended then n.toNat else n.toNat / 2 := by
  cases r with
  | standard => exact UInt64.toNat_div n 2
  | extended => rfl

theorem toInt_reach (r : Resolution) (n : UInt64) :
    (r.reach n).toInt =
      if (r.scale n).toNat < 0x8000000000000000 then ((r.scale n).toNat : Int)
      else (r.scale n).toNat - 0x10000000000000000 := by
  have hsize := (r.scale n).toNat_lt
  have hbits : (r.reach n).toInt = ((r.scale n).toNat : Int).bmod 0x10000000000000000 :=
    BitVec.toInt_eq_toNat_bmod _
  rw [hbits, Int.bmod_def]
  split
  · omega
  · omega

theorem toInt_neg_reach (r : Resolution) {n : UInt64}
    (fits : (r.scale n).toNat < 0x8000000000000000) :
    (-r.reach n).toInt = -(r.scale n).toNat := by
  rw [Int64.toInt_neg, toInt_reach, if_pos fits, Int.bmod_def]
  split
  · omega
  · omega

/-- The name of a resolution. -/
def name : Resolution → String
  | standard => "standard"
  | extended => "extended"

/-- The cells of the active area, row by row, as pairs of a column and a row. -/
def cells (r : Resolution) : List (Nat × Nat) :=
  (List.range r.height).flatMap fun y => (List.range r.width).map fun x => (x, y)

end Resolution

end ChipEight
