import ChipEight.Display.Command
import ChipEight.Proofs.Scrolling
import ChipEight.Proofs.Sprites

/-!
# Commands as Strokes

Which pixels a command to the display turns over.

Every command that changes pixels comes down to a list of strokes, and the list
can be told from the display before the first of them. That is plain for single
pixels and for sprites. Clearing and scrolling go over the planes one after the
other and choose the cells of each when its turn comes. But by then only other
planes have changed, and the choice looks at none of these, so it could as well
have been made at the start (`Display.foldl_toggleAll`).

What a command does apart from its strokes is to set modes, and the decay of the
fade grid aside, that is all of it (`Display.obey_eq`). A statement about all
commands is therefore a statement about lists of strokes, and about which lists
there are.

## Main definitions

* `Display.strokesOn`: Strokes for the cells chosen on each of several planes.
* `Display.Command.strokes`: The strokes that a command makes.
* `Display.Command.Fits`: Whether a sprite to be drawn is no higher than the area.
* `Display.Command.modesAfter`: The modes that a command sets.
* `Display.withModes`: A display with other modes.

## Theorems

* `Display.foldl_toggleAll`: Choosing cells plane by plane is one list of strokes.
* `Display.clear_eq`, `Display.scroll_eq`: Clearing and scrolling as strokes.
* `Display.obey_eq`: A command is its strokes and the modes it sets.
* `Display.plane_obey`, `Display.modes_obey`: The planes and the modes after a
  command.
* `Display.Command.nodup_strokes`: No command but a sprite that is too high turns
  a pixel over twice.
-/

namespace ChipEight

namespace Display

/-! ### Planes in turn -/

/-- Strokes for the cells chosen on each of several planes. -/
def strokesOn (planes : List Plane) (cells : Plane → List (Nat × Nat)) : List Stroke :=
  planes.flatMap fun p => p.strokes (cells p)

theorem mem_strokesOn {planes : List Plane} {cells : Plane → List (Nat × Nat)} {s : Stroke} :
    s ∈ strokesOn planes cells ↔ s.plane ∈ planes ∧ (s.x, s.y) ∈ cells s.plane := by
  rw [strokesOn, List.mem_flatMap]
  constructor
  · rintro ⟨p, hp, hs⟩
    rcases Plane.mem_strokes.mp hs with ⟨rfl, hcell⟩
    exact ⟨hp, hcell⟩
  · rintro ⟨hp, hcell⟩
    exact ⟨s.plane, hp, Plane.mem_strokes.mpr ⟨rfl, hcell⟩⟩

theorem nodup_strokesOn {planes : List Plane} {cells : Plane → List (Nat × Nat)}
    (distinct : planes.Nodup) (once : ∀ p, (cells p).Nodup) : (strokesOn planes cells).Nodup := by
  refine List.nodup_flatMap.mpr ⟨fun p _ => Plane.nodup_strokes (once p), ?_⟩
  refine distinct.imp fun hne s hs hother => ?_
  exact hne ((Plane.mem_strokes.mp hs).1.symm.trans (Plane.mem_strokes.mp hother).1)

theorem onPlane_strokesOn {planes : List Plane} {cells : Plane → List (Nat × Nat)}
    {area : Resolution}
    (inside : ∀ p, ∀ cell ∈ cells p, cell.1 < area.width ∧ cell.2 < area.height) :
    ∀ s ∈ strokesOn planes cells, s.OnPlane := by
  intro s hs
  have hcell := (mem_strokesOn.mp hs).2
  exact Plane.onPlane_strokes (inside s.plane) s (Plane.mem_strokes.mpr ⟨rfl, hcell⟩)

/-- Choosing the cells of each plane when its turn comes is choosing them at the
    start, if the choice looks at that plane and at modes alone. -/
theorem foldl_toggleAll (cells : Display → Plane → List (Nat × Nat))
    (choice : ∀ {d e : Display} {p : Plane}, d.modes = e.modes → d.plane p = e.plane p →
      cells d p = cells e p)
    (d : Display) {planes : List Plane} (distinct : planes.Nodup) :
    planes.foldl (fun d p => d.toggleAll p (cells d p)) d =
      d.strokeAll (strokesOn planes (cells d)) := by
  induction planes generalizing d with
  | nil => rfl
  | cons p rest ih =>
      rcases List.nodup_cons.mp distinct with ⟨hfirst, hrest⟩
      have hlater : strokesOn rest (cells (d.strokeAll (p.strokes (cells d p)))) =
          strokesOn rest (cells d) := by
        refine List.flatMap_congr fun q hq => congrArg q.strokes (choice (modes_strokeAll ..) ?_)
        -- A later plane is another one, and still as it was.
        refine plane_strokeAll_of_ne d fun s hs same => hfirst ?_
        rw [← (Plane.mem_strokes.mp hs).1, same]
        exact hq
      rw [List.foldl_cons, ih _ hrest, toggleAll_eq, hlater, strokesOn, strokesOn,
        List.flatMap_cons, strokeAll_append]

theorem litCells_congr {d e : Display} {p : Plane} (same : d.plane p = e.plane p) :
    d.litCells p = e.litCells p := by
  unfold litCells pixel
  rw [same]

theorem differing_congr {d e : Display} {p : Plane} (area : d.resolution = e.resolution)
    (same : d.plane p = e.plane p) (dx dy : Int64) :
    d.differing p dx dy = e.differing p dx dy := by
  unfold differing incoming pixel width height
  rw [same, area]

theorem clear_eq (d : Display) :
    d.clear = d.strokeAll (strokesOn Selection.both.planes d.litCells) :=
  foldl_toggleAll litCells (fun _ same => litCells_congr same) d Selection.both.nodup_planes

theorem scroll_eq (d : Display) (dx dy : Int64) :
    d.scroll dx dy =
      d.strokeAll (strokesOn d.selection.planes fun p => d.differing p dx dy) :=
  foldl_toggleAll (fun d p => d.differing p dx dy)
    (fun modes same => differing_congr (congrArg Modes.resolution modes) same dx dy)
    d d.selection.nodup_planes

/-! ### Single pixels -/

theorem toggle_mod (d : Display) (p : Plane) (x y : Nat) :
    d.toggle p (x % planeWidth) (y % planeHeight) = d.toggle p x y := by
  have hpixel : d.pixel p (x % planeWidth) (y % planeHeight) = d.pixel p x y :=
    (d.plane p).get_mod x y
  have hset : ∀ (e : Display) (on : Bool),
      e.setPixel p (x % planeWidth) (y % planeHeight) on = e.setPixel p x y on := by
    intro e on
    cases p <;> rw [setPixel, setPixel, Grid.set_mod]
  have hseed : d.seedFade (x % planeWidth) (y % planeHeight) = d.seedFade x y := by
    rw [seedFade, seedFade, Grid.set_mod]
  rw [toggle, toggle, hpixel, hset, hset, hseed]

/-! ### All commands -/

/-- The strokes that a command makes. -/
def Command.strokes (d : Display) : Command → List Stroke
  | .toggle p x y => [⟨p, x % planeWidth, y % planeHeight⟩]
  | .erase p x y => if d.pixel p x y then [⟨p, x % planeWidth, y % planeHeight⟩] else []
  | .drawSprite p x y rows => spriteStrokes d.resolution p x y rows
  | .clear => strokesOn Selection.both.planes d.litCells
  | .scrollUp n => strokesOn d.selection.planes fun p => d.differing p 0 (-d.resolution.reach n)
  | .scrollDown n => strokesOn d.selection.planes fun p => d.differing p 0 (d.resolution.reach n)
  | .scrollLeft =>
    strokesOn d.selection.planes fun p => d.differing p (-d.resolution.reach horizontalScroll) 0
  | .scrollRight =>
    strokesOn d.selection.planes fun p => d.differing p (d.resolution.reach horizontalScroll) 0
  | .tickFade | .setResolution _ | .setSelection _ | .setFading _ => []

/-- The modes that a command sets. -/
def Command.modesAfter (m : Modes) : Command → Modes
  | .drawSprite _ _ _ rows => { m with lastSprite := .ofRows rows }
  | .setResolution r => { m with resolution := r }
  | .setSelection s => { m with selection := s }
  | .setFading f => { m with fading := f }
  | _ => m

/-- A display with other modes. -/
def withModes (d : Display) (m : Modes) : Display :=
  { d with
    resolution := m.resolution
    selection := m.selection
    fading := m.fading
    lastSprite := m.lastSprite }

theorem withModes_of_eq {d : Display} {m : Modes} (same : d.modes = m) : d.withModes m = d := by
  rw [← same]
  rfl

theorem plane_withModes (d : Display) (m : Modes) (p : Plane) :
    (d.withModes m).plane p = d.plane p := by
  cases p <;> rfl

/-- A command is its strokes and the modes it sets, unless it lets the fade
    decay. -/
theorem obey_eq (d : Display) {c : Command} (running : c ≠ .tickFade) :
    (d.obey c).2 = (d.strokeAll (c.strokes d)).withModes (c.modesAfter d.modes) := by
  -- Most commands set no modes at all.
  have hstrokes : (d.strokeAll (c.strokes d)).withModes d.modes = d.strokeAll (c.strokes d) :=
    withModes_of_eq (modes_strokeAll ..)
  cases c with
  -- A stroke is at a place on the plane, a command may be for one that wraps.
  | toggle p x y => exact (d.toggle_mod p x y).symm.trans hstrokes.symm
  | erase p x y =>
      refine Eq.trans ?_ hstrokes.symm
      rw [obey, erase, Command.strokes]
      split
      · exact (d.toggle_mod p x y).symm
      · rfl
  | drawSprite p x y rows =>
      -- The snapshot is taken before the strokes, which keep it.
      rw [obey, drawSprite_eq, ← modes_strokeAll d (spriteStrokes d.resolution p x y rows)]
      rfl
  | clear => exact d.clear_eq.trans hstrokes.symm
  | scrollUp | scrollDown | scrollLeft | scrollRight => exact (d.scroll_eq _ _).trans hstrokes.symm
  | tickFade => exact absurd rfl running
  | setResolution | setSelection | setFading => rfl

/-- The planes after a command are a matter of its strokes. -/
theorem plane_obey (d : Display) (c : Command) (p : Plane) :
    (d.obey c).2.plane p = (d.strokeAll (c.strokes d)).plane p := by
  by_cases ticking : c = .tickFade
  · subst ticking
    cases p <;> rfl
  · rw [d.obey_eq ticking, plane_withModes]

theorem modes_obey (d : Display) (c : Command) : (d.obey c).2.modes = c.modesAfter d.modes := by
  by_cases ticking : c = .tickFade
  · subst ticking
    rfl
  · rw [d.obey_eq ticking]
    rfl

/-- Whether a sprite to be drawn is no higher than the active area. -/
def Command.Fits (area : Resolution) : Command → Prop
  | .drawSprite _ _ _ rows => rows.length ≤ area.height
  | _ => True

namespace Command

theorem onPlane_strokes (d : Display) (c : Command) : ∀ s ∈ c.strokes d, s.OnPlane := by
  have hscroll : ∀ dx dy, ∀ s ∈ strokesOn d.selection.planes fun p => d.differing p dx dy,
      s.OnPlane :=
    fun dx dy => onPlane_strokesOn fun p cell hcell => (mem_differing.mp hcell).1
  have hsingle : ∀ p x y, ∀ s ∈ [Stroke.mk p (x % planeWidth) (y % planeHeight)],
      s.OnPlane := by
    intro p x y s hs
    rw [List.mem_singleton.mp hs]
    exact ⟨Nat.mod_lt x (by decide), Nat.mod_lt y (by decide)⟩
  cases c with
  | toggle p x y => exact hsingle p x y
  | erase p x y =>
      rw [strokes]
      split
      · exact hsingle p x y
      · exact fun s hs => absurd hs List.not_mem_nil
  | drawSprite p x y rows => exact onPlane_spriteStrokes d.resolution p x y rows
  | clear =>
      exact onPlane_strokesOn fun p cell hcell =>
        Resolution.mem_cells.mp (List.mem_of_mem_filter hcell)
  | scrollUp | scrollDown | scrollLeft | scrollRight => exact hscroll _ _
  | tickFade | setResolution | setSelection | setFading =>
      exact fun s hs => absurd hs List.not_mem_nil

/-- No command turns a pixel over twice, except for a sprite that runs into
    itself. -/
theorem nodup_strokes (d : Display) {c : Command} (fits : c.Fits d.resolution) :
    (c.strokes d).Nodup := by
  have hscroll : ∀ dx dy,
      (strokesOn d.selection.planes fun p => d.differing p dx dy).Nodup :=
    fun dx dy => nodup_strokesOn d.selection.nodup_planes
      fun p => d.resolution.nodup_cells.filter _
  cases c with
  | toggle p x y => exact List.nodup_singleton _
  | erase p x y =>
      rw [strokes]
      split
      · exact List.nodup_singleton _
      · exact List.nodup_nil
  | drawSprite p x y rows => exact Plane.nodup_strokes (nodup_spriteCells x y fits)
  | clear =>
      exact nodup_strokesOn Selection.both.nodup_planes
        fun p => Resolution.extended.nodup_cells.filter _
  | scrollUp | scrollDown | scrollLeft | scrollRight => exact hscroll _ _
  | tickFade | setResolution | setSelection | setFading => exact List.nodup_nil

end Command

end Display

end ChipEight
