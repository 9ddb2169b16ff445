import ChipEight.Display.Render
import ChipEight.Proofs.Checked.Arithmetic
import ChipEight.Proofs.Display.Respect

/-!
# Displays without Failure

Drawing, clearing, scrolling and rendering by operations that can fail.

A pixel is looked up in a plane, a row and a column, and each of the three could
be missing. Coordinates that come from outside are wrapped first, so these are
no danger; the sum in front of the wrapping is, if a sprite is too long. Scrolls
look up the cell that a pixel comes from without wrapping it, and it takes the
comparison with the active area to know that there is one.

Two of the loops do not follow the definitions they are compared with. Clearing
asks of each pixel in its turn whether it is on, and not of all before the first
is turned off; both come to the same because no cell is visited twice. And the
snapshot of a sprite is filled in bit by bit.

## Main definitions

* `Grid.elementChecked`, `Grid.replacedChecked`: Cells.
* `Display.pixelChecked`, `Display.toggleChecked`, `Display.eraseChecked`,
  `Display.clearChecked`: Pixels.
* `snapshotChecked`, `Display.drawSpriteChecked`: Sprites.
* `Display.shiftChecked`, `Display.scrollChecked`: Scrolls.
* `Display.renderChecked`: The screen as text.

## Theorems

* `Display.foldl_erase`: Erasing one pixel after another.
* `Display.clearChecked_eq`, `snapshotChecked_eq`, `Display.drawSpriteChecked_eq`,
  `Display.scrollChecked_eq`, `Display.renderChecked_eq`: None of it fails, and
  all of it does what it should.
-/

namespace ChipEight

open Checked

/-! ### Cells -/

namespace Resolution

/-- A loop over rows and over the columns of each goes over the cells. -/
theorem foldlM_cells {β : Type} {r : Resolution} {f : β → Nat → Nat → Checked β}
    {g : β → Nat × Nat → β}
    (ok : ∀ b x y, x < r.width → y < r.height → f b x y = .ok (g b (x, y))) (b : β) :
    (List.range r.height).foldlM (fun b y =>
        (List.range r.width).foldlM (fun b x => f b x y) b) b =
      .ok (r.cells.foldl g b) := by
  have hrow : ∀ b, ∀ y ∈ List.range r.height,
      (List.range r.width).foldlM (fun b x => f b x y) b =
        .ok (((List.range r.width).map fun x => (x, y)).foldl g b) := by
    intro b y hy
    rw [List.foldl_map]
    exact foldlM_of_ok (fun b x hx => ok b x y (List.mem_range.mp hx) (List.mem_range.mp hy)) b
  rw [foldlM_of_ok hrow, cells, List.foldl_flatMap]

end Resolution

namespace Grid

variable {α : Type}

/-- What a cell holds. There are so many rows, and so many cells in each. -/
def elementChecked (g : Grid α) (x y : Nat) : Checked α :=
  if y < planeHeight ∧ x < planeWidth then .ok (g.get x y) else .error .outOfBounds

/-- Replaces what a cell holds. -/
def replacedChecked (g : Grid α) (x y : Nat) (value : α) : Checked (Grid α) :=
  if y < planeHeight ∧ x < planeWidth then .ok (g.set x y value) else .error .outOfBounds

theorem elementChecked_of_lt (g : Grid α) {x y : Nat} (column : x < planeWidth)
    (row : y < planeHeight) : g.elementChecked x y = .ok (g.get x y) :=
  if_pos ⟨row, column⟩

theorem replacedChecked_of_lt (g : Grid α) {x y : Nat} (column : x < planeWidth)
    (row : y < planeHeight) (value : α) : g.replacedChecked x y value = .ok (g.set x y value) :=
  if_pos ⟨row, column⟩

end Grid

/-! ### Pixels -/

/-- The place of a plane among both. -/
def Plane.place : Plane → Nat
  | .a => 0
  | .b => 1

namespace Display

/-- The pixels of a plane. -/
def planeChecked (d : Display) (p : Plane) : Checked (Grid Bool) :=
  element #v[d.planeA, d.planeB] p.place

/-- Replaces the pixels of a plane. -/
def setPlaneChecked (d : Display) (p : Plane) (g : Grid Bool) : Checked Display := do
  let planes ← replaced #v[d.planeA, d.planeB] p.place g
  return { d with planeA := planes[0], planeB := planes[1] }

/-- Whether a pixel is on. -/
def pixelChecked (d : Display) (p : Plane) (x y : Nat) : Checked Bool := do
  (← d.planeChecked p).elementChecked (← remainder x planeWidth) (← remainder y planeHeight)

/-- Turns one pixel over and says whether it was on. -/
def toggleChecked (d : Display) (p : Plane) (x y : Nat) : Checked (Bool × Display) := do
  let x ← remainder x planeWidth
  let y ← remainder y planeHeight
  let lit ← (← d.planeChecked p).elementChecked x y
  let fade ← if lit && d.fading.enabled then d.fade.replacedChecked x y fadeCeiling
    else pure d.fade
  let plane ← (← d.planeChecked p).replacedChecked x y (!lit)
  return (lit, ← { d with fade := fade }.setPlaneChecked p plane)

/-- Turns a pixel off if it is on. -/
def eraseChecked (d : Display) (p : Plane) (x y : Nat) : Checked Display := do
  if ← d.pixelChecked p x y then return (← d.toggleChecked p x y).2 else return d

/-- Turns off every pixel of both planes. -/
def clearChecked (d : Display) : Checked Display :=
  Selection.both.planes.foldlM (fun d p =>
    (List.range planeHeight).foldlM (fun d y =>
      (List.range planeWidth).foldlM (fun d x => d.eraseChecked p x y) d) d) d

@[simp] theorem planeChecked_eq (d : Display) (p : Plane) : d.planeChecked p = .ok (d.plane p) := by
  cases p <;> rfl

theorem pixelChecked_eq (d : Display) (p : Plane) (x y : Nat) :
    d.pixelChecked p x y = .ok (d.pixel p x y) := by
  have hcolumn : x % planeWidth < planeWidth := Nat.mod_lt x (by decide)
  have hrow : y % planeHeight < planeHeight := Nat.mod_lt y (by decide)
  rw [pixelChecked, planeChecked_eq, remainder_of_pos (by decide), remainder_of_pos (by decide)]
  simp only [ok_bind]
  rw [Grid.elementChecked_of_lt _ hcolumn hrow, Grid.get_mod, pixel]

theorem toggleChecked_eq (d : Display) (p : Plane) (x y : Nat) :
    d.toggleChecked p x y = .ok (d.pixel p x y, d.toggle p x y) := by
  have hcolumn : x % planeWidth < planeWidth := Nat.mod_lt x (by decide)
  have hrow : y % planeHeight < planeHeight := Nat.mod_lt y (by decide)
  have hget : (d.plane p).get x y = d.pixel p x y := rfl
  rw [toggleChecked, remainder_of_pos (by decide), remainder_of_pos (by decide)]
  simp only [ok_bind, planeChecked_eq, Grid.elementChecked_of_lt _ hcolumn hrow,
    Grid.replacedChecked_of_lt _ hcolumn hrow, Grid.get_mod, Grid.set_mod, hget]
  unfold toggle seedFade
  cases hlit : d.pixel p x y with
  | false => cases p <;> rfl
  | true => cases d.fading.enabled <;> cases p <;> rfl

theorem eraseChecked_eq (d : Display) (p : Plane) (x y : Nat) :
    d.eraseChecked p x y = .ok (d.erase p x y) := by
  rw [eraseChecked, pixelChecked_eq, ok_bind, toggleChecked_eq, erase]
  split <;> rfl

/-! ### Clearing -/

/-- Erasing cells one after another turns those over that were on before the first
    of them. A cell keeps its pixel until its turn comes, because the ones before
    it are others. -/
theorem foldl_erase (d : Display) (p : Plane) {cells : List (Nat × Nat)} (distinct : cells.Nodup)
    (inside : ∀ cell ∈ cells, cell.1 < planeWidth ∧ cell.2 < planeHeight) :
    cells.foldl (fun d cell => d.erase p cell.1 cell.2) d =
      d.toggleAll p (cells.filter fun cell => d.pixel p cell.1 cell.2) := by
  induction cells generalizing d with
  | nil => rfl
  | cons first rest ih =>
      rcases List.nodup_cons.mp distinct with ⟨hfirst, hrest⟩
      rcases List.forall_mem_cons.mp inside with ⟨hinside, hlater⟩
      have hkept : ∀ cell ∈ rest,
          (d.erase p first.1 first.2).pixel p cell.1 cell.2 = d.pixel p cell.1 cell.2 := by
        intro cell hcell
        have hother : ¬(p = p ∧ first.1 % planeWidth = cell.1 % planeWidth ∧
            first.2 % planeHeight = cell.2 % planeHeight) := by
          rintro ⟨-, hcolumn, hrow⟩
          rw [Nat.mod_eq_of_lt hinside.1, Nat.mod_eq_of_lt (hlater cell hcell).1] at hcolumn
          rw [Nat.mod_eq_of_lt hinside.2, Nat.mod_eq_of_lt (hlater cell hcell).2] at hrow
          exact hfirst (Prod.ext hcolumn hrow ▸ hcell)
        unfold erase
        split
        · rw [pixel_toggle, if_neg hother]
        · rfl
      rw [List.foldl_cons, ih _ hrest hlater, List.filter_congr hkept, List.filter_cons, erase]
      by_cases hlit : d.pixel p first.1 first.2 = true
      · rw [if_pos hlit, if_pos hlit]
        rfl
      · rw [if_neg hlit, if_neg hlit]

theorem clearChecked_eq (d : Display) : d.clearChecked = .ok d.clear := by
  have hplane : ∀ (d : Display) (p : Plane),
      (List.range planeHeight).foldlM (fun d y =>
        (List.range planeWidth).foldlM (fun d x => d.eraseChecked p x y) d) d =
        .ok (d.toggleAll p (d.litCells p)) := by
    intro d p
    have hloop := Resolution.foldlM_cells (r := .extended)
      (g := fun d cell => Display.erase d p cell.1 cell.2)
      (fun d x y _ _ => d.eraseChecked_eq p x y) d
    have hcells := foldl_erase d p Resolution.extended.nodup_cells
      fun cell hcell => Resolution.mem_cells.mp hcell
    exact hloop.trans (congrArg Except.ok hcells)
  rw [clearChecked, Selection.planes, List.foldlM_cons, hplane, ok_bind, List.foldlM_cons, hplane]
  rfl

/-! ### Sprites -/

end Display

/-- The bit of a byte in a column, the most significant in the first. -/
def bitChecked (byte : UInt8) (column : Nat) : Checked Bool := do
  return (← shiftedRight byte (← difference 7 column)) &&& 1 == 1

theorem bitChecked_eq (byte : UInt8) {column : Nat} (inside : column < 8) :
    bitChecked byte column = .ok (spriteBit byte column) := by
  have hshift : 7 - column < 8 := by omega
  have hsize : 7 - column < UInt8.size := Nat.lt_trans hshift (by decide)
  rw [bitChecked, difference_of_le (by omega), ok_bind, shiftedRight, if_pos hshift, ok_bind,
    pure_eq_ok, spriteBit]
  -- A bit is on if the byte is odd once the bit has been moved to its end.
  refine congrArg Except.ok (Bool.eq_iff_iff.mpr ?_)
  simp only [beq_iff_eq, ← UInt8.toNat_inj, UInt8.toNat_and, UInt8.toNat_shiftRight,
    UInt8.toNat_ofNat_of_lt' hsize, Nat.mod_eq_of_lt hshift, UInt8.toNat_one, Nat.and_one_is_mod,
    Nat.shiftRight_eq_div_pow, Nat.testBit_eq_decide_div_mod_eq, decide_eq_true_eq]

/-- The rows and columns of a snapshot as cells. -/
abbrev SnapshotCells := Vector (Vector Bool snapshotSize) snapshotSize

/-- The byte whose bits are the first cells of a row. -/
def packed (row : Vector Bool snapshotSize) : UInt8 :=
  (row.toList.take 8).foldl (fun byte lit => byte + byte + if lit then 1 else 0) 0

/-- Puts the bits of a byte into the cells of a row. -/
def fillRowChecked (byte : UInt8) (row : Vector Bool snapshotSize) :
    Checked (Vector Bool snapshotSize) :=
  (List.range 8).foldlM (fun row column => updated (fun _ => bitChecked byte column) row column) row

/-- The snapshot of a sprite, filled in cell by cell. Rows from the seventeenth on
    are left out. -/
def snapshotChecked (rows : List UInt8) : Checked Snapshot := do
  let blank : SnapshotCells := .replicate _ (.replicate _ false)
  let cells ← (rows.take snapshotSize).zipIdx.foldlM
    (fun cells x => updated (fillRowChecked x.1) cells x.2) blank
  return cells.map packed

theorem fillRowChecked_eq (byte : UInt8) (row : Vector Bool snapshotSize) :
    fillRowChecked byte row =
      .ok (.ofFn fun i => if i.val < 8 then spriteBit byte i.val else row[i]) := by
  have hnumbers : (List.range 8).zipIdx = (List.range 8).map fun k => (k, k) := rfl
  have hupdated := foldlM_updated (f := fun column _ => bitChecked byte column)
    (fun column hcolumn _ => bitChecked_eq byte (List.mem_range.mp hcolumn)) (by decide) row
  rw [hnumbers, List.foldlM_map] at hupdated
  rw [fillRowChecked, hupdated]
  refine congrArg Except.ok (Vector.ext fun i hi => ?_)
  rw [Vector.getElem_ofFn, Vector.getElem_ofFn]
  by_cases inside : i < 8
  · rw [if_pos inside, List.getElem?_range inside]
    rfl
  · have hbeyond : (List.range 8).length ≤ i := by
      rw [List.length_range]
      exact Nat.not_lt.mp inside
    rw [if_neg inside, List.getElem?_eq_none hbeyond]
    rfl

theorem packed_fill (byte : UInt8) :
    packed (.ofFn fun i => if i.val < 8 then spriteBit byte i.val else false) = byte := by
  -- There are few enough bytes to try them all.
  have hbytes : ∀ n < 256,
      packed (.ofFn fun i => if i.val < 8 then spriteBit (.ofNat n) i.val else false) =
        .ofNat n := by
    decide +kernel
  have h := hbytes byte.toNat byte.toNat_lt
  rwa [UInt8.ofNat_toNat] at h

theorem snapshotChecked_eq (rows : List UInt8) : snapshotChecked rows = .ok (.ofRows rows) := by
  let blank : SnapshotCells := .replicate _ (.replicate _ false)
  have hupdated := foldlM_updated (fun byte _ row => fillRowChecked_eq byte row)
    (List.length_take_le snapshotSize rows) blank
  rw [snapshotChecked, hupdated, ok_bind, pure_eq_ok]
  refine congrArg Except.ok (Vector.ext fun i hi => ?_)
  rw [Vector.getElem_map, Vector.getElem_ofFn, Snapshot.ofRows, Vector.getElem_ofFn,
    List.getD_eq_getElem?_getD, List.getElem?_take_of_lt hi]
  have hblank : blank[i] = .replicate _ false := Vector.getElem_replicate hi
  cases rows[i]? with
  | none =>
      change packed blank[i] = 0
      rw [hblank]
      rfl
  | some byte =>
      change packed (.ofFn fun k => if k.val < 8 then spriteBit byte k.val else blank[i][k]) = byte
      simp only [hblank, Fin.getElem_fin, Vector.getElem_replicate]
      exact packed_fill byte

namespace Display

/-- Turns over one pixel of a sprite, if it has a bit there, and keeps in mind
    whether a pixel was erased. -/
def strikeChecked (area : Resolution) (p : Plane) (x row : Nat) (byte : UInt8)
    (state : Bool × Display) (c : Nat) : Checked (Bool × Display) := do
  if ← bitChecked byte c then
    let column ← remainder (← size (x + c)) area.width
    let (erased, d) ← state.2.toggleChecked p column row
    return (state.1 || erased, d)
  else return state

/-- Draws a sprite, pixel by pixel. -/
def drawSpriteChecked (d : Display) (p : Plane) (x y : Nat) (rows : List UInt8) :
    Checked (Bool × Display) := do
  let d := { d with lastSprite := ← snapshotChecked rows }
  rows.zipIdx.foldlM (fun state (byte, r) => do
    let row ← remainder (← size (y + r)) d.height
    (List.range 8).foldlM (strikeChecked d.resolution p x row byte) state) (false, d)

/-- One more pixel of a sprite. -/
def strikeOne (p : Plane) (state : Bool × Display) (cell : Nat × Nat) : Bool × Display :=
  (state.1 || state.2.pixel p cell.1 cell.2, state.2.toggle p cell.1 cell.2)

theorem strikeChecked_eq {area : Resolution} (p : Plane) {x row c : Nat} (byte : UInt8)
    (state : Bool × Display) (column : x < 256) (inside : c < 8) :
    strikeChecked area p x row byte state c =
      .ok (if spriteBit byte c then strikeOne p state ((x + c) % area.width, row) else state) := by
  have hwidth : 0 < area.width := by cases area <;> decide
  rw [strikeChecked, bitChecked_eq byte inside, ok_bind, size_of_lt (by omega), ok_bind,
    remainder_of_pos hwidth, ok_bind, toggleChecked_eq]
  split <;> rfl

/-- A sprite can be drawn at any two bytes as long as it has fewer rows than a byte
    can count. -/
theorem drawSpriteChecked_eq (d : Display) (p : Plane) {x y : Nat} {rows : List UInt8}
    (column : x < 256) (row : y < 256) (short : rows.length < 256) :
    d.drawSpriteChecked p x y rows = .ok (d.drawSprite p x y rows) := by
  have hheight : 0 < d.height := by
    rw [height]
    cases d.resolution <;> decide
  have hrow : ∀ state, ∀ z ∈ rows.zipIdx,
      (do
        let row ← remainder (← size (y + z.2)) d.height
        (List.range 8).foldlM (strikeChecked d.resolution p x row z.1) state) =
      .ok ((((List.range 8).filter (spriteBit z.1)).map fun c =>
        ((x + c) % d.resolution.width, (y + z.2) % d.resolution.height)).foldl
          (strikeOne p) state) := by
    intro state z hz
    have hlt : z.2 < rows.length := List.snd_lt_of_mem_zipIdx hz
    -- Neither the corner nor the number of the row is more than a byte.
    rw [size_of_lt (by omega), ok_bind, remainder_of_pos hheight, ok_bind, List.foldl_map,
      List.foldl_filter]
    exact foldlM_of_ok
      (fun state c hc => strikeChecked_eq p z.1 state column (List.mem_range.mp hc)) state
  rw [drawSpriteChecked, snapshotChecked_eq, ok_bind]
  refine (foldlM_of_ok hrow _).trans ?_
  rw [drawSprite, spriteCells, strike, List.foldl_flatMap]
  rfl

/-! ### Scrolls -/

/-- What comes into a cell from that far back, or nothing from beyond the area. -/
def incomingChecked (area : Resolution) (before : Grid Bool) (dx dy : Int) (x y : Nat) :
    Checked Bool := do
  let sx ← offset (x - dx)
  let sy ← offset (y - dy)
  if 0 ≤ sx ∧ 0 ≤ sy ∧ sx < area.width ∧ sy < area.height then
    before.elementChecked sx.toNat sy.toNat
  else return false

/-- Turns over one pixel if it differs from what comes in. Both are looked up in the
    plane before anything was moved. -/
def shiftCellChecked (area : Resolution) (before : Grid Bool) (p : Plane) (dx dy : Int)
    (d : Display) (x y : Nat) : Checked Display := do
  if (← incomingChecked area before dx dy x y) != (← before.elementChecked x y) then
    return (← d.toggleChecked p x y).2
  else return d

/-- Moves the active area of a plane, cell by cell. -/
def shiftChecked (d : Display) (p : Plane) (dx dy : Int) : Checked Display := do
  let before ← d.planeChecked p
  (List.range d.height).foldlM (fun current y =>
    (List.range d.width).foldlM (fun current x =>
      shiftCellChecked d.resolution before p dx dy current x y) current) d

/-- Moves the active area of the selected planes. -/
def scrollChecked (d : Display) (dx dy : Int) : Checked Display :=
  d.selection.planes.foldlM (fun d p => d.shiftChecked p dx dy) d

/-- Scrolls up by a distance in extended pixels. -/
def scrollUpChecked (d : Display) (n : UInt64) : Checked Display := do
  d.scrollChecked 0 (← offset (-(← offset (d.resolution.scale n).toNat)))

/-- Scrolls down by a distance in extended pixels. -/
def scrollDownChecked (d : Display) (n : UInt64) : Checked Display := do
  d.scrollChecked 0 (← offset (d.resolution.scale n).toNat)

/-- Scrolls left by four extended pixels. -/
def scrollLeftChecked (d : Display) : Checked Display := do
  d.scrollChecked (← offset (-(← offset (d.resolution.scale horizontalScroll).toNat))) 0

/-- Scrolls right by four extended pixels. -/
def scrollRightChecked (d : Display) : Checked Display := do
  d.scrollChecked (← offset (d.resolution.scale horizontalScroll).toNat) 0

variable {dx dy : Int64}

/-- A cell that something comes from lies within the area, and the area on the
    plane. -/
theorem incomingChecked_eq (d : Display) (p : Plane) (columns : -256 ≤ dx.toInt ∧ dx.toInt ≤ 256)
    (rows : -256 ≤ dy.toInt ∧ dy.toInt ≤ 256) {x y : Nat} (column : x < planeWidth)
    (row : y < planeHeight) :
    incomingChecked d.resolution (d.plane p) dx.toInt dy.toInt x y =
      .ok (d.incoming p dx dy x y) := by
  have hplane : planeWidth = 128 ∧ planeHeight = 64 := ⟨rfl, rfl⟩
  have hsize := size_le d.resolution
  rw [incomingChecked, offset_of_mem (by omega) (by omega), ok_bind,
    offset_of_mem (by omega) (by omega), ok_bind, d.incoming_eq p dx dy column row, width, height]
  split
  case isTrue within =>
    rw [Grid.elementChecked_of_lt _ (by omega) (by omega), if_pos (by omega), pixel]
  case isFalse beyond =>
    rw [if_neg (by omega), pure_eq_ok]

theorem shiftCellChecked_eq (d : Display) (p : Plane)
    (columns : -256 ≤ dx.toInt ∧ dx.toInt ≤ 256) (rows : -256 ≤ dy.toInt ∧ dy.toInt ≤ 256)
    (current : Display) {x y : Nat} (column : x < d.width) (row : y < d.height) :
    shiftCellChecked d.resolution (d.plane p) p dx.toInt dy.toInt current x y =
      .ok (if d.incoming p dx dy x y != d.pixel p x y then current.toggle p x y else current) := by
  have hcolumn : x < planeWidth := Nat.lt_of_lt_of_le column (size_le d.resolution).1
  have hrow : y < planeHeight := Nat.lt_of_lt_of_le row (size_le d.resolution).2
  have hget : (d.plane p).get x y = d.pixel p x y := rfl
  rw [shiftCellChecked, d.incomingChecked_eq p columns rows hcolumn hrow, ok_bind,
    Grid.elementChecked_of_lt _ hcolumn hrow, ok_bind, toggleChecked_eq, hget]
  split <;> rfl

theorem shiftChecked_eq (d : Display) (p : Plane) (columns : -256 ≤ dx.toInt ∧ dx.toInt ≤ 256)
    (rows : -256 ≤ dy.toInt ∧ dy.toInt ≤ 256) :
    d.shiftChecked p dx.toInt dy.toInt = .ok (d.shift p dx dy) := by
  rw [shiftChecked, planeChecked_eq, ok_bind, shift, toggleAll, List.foldl_filter]
  exact Resolution.foldlM_cells (r := d.resolution)
    (fun current x y column row => d.shiftCellChecked_eq p columns rows current column row) d

theorem scrollChecked_eq (d : Display) (columns : -256 ≤ dx.toInt ∧ dx.toInt ≤ 256)
    (rows : -256 ≤ dy.toInt ∧ dy.toInt ≤ 256) :
    d.scrollChecked dx.toInt dy.toInt = .ok (d.scroll dx dy) :=
  foldlM_of_ok (fun d p _ => d.shiftChecked_eq p columns rows) d

/-- A distance that is not too large for a size is the same number with a sign, in
    either direction. -/
theorem reach_of_le (r : Resolution) {n : UInt64} (short : n.toNat ≤ 256) :
    (r.scale n).toNat ≤ 256 ∧ (r.reach n).toInt = (r.scale n).toNat ∧
      (-r.reach n).toInt = -(r.scale n).toNat := by
  have hscale : (r.scale n).toNat ≤ 256 := by
    rw [r.toNat_scale]
    split <;> omega
  have fits : (r.scale n).toNat < 0x8000000000000000 := by omega
  exact ⟨hscale, (r.toInt_reach n).trans (if_pos fits), r.toInt_neg_reach fits⟩

theorem toNat_ofNat_le (n : Nibble) : (UInt64.ofNat n.val).toNat ≤ 256 := by
  have hn := n.isLt
  rw [UInt64.toNat_ofNat_of_lt' (Nat.lt_trans hn (by decide))]
  omega

theorem scrollUpChecked_eq (d : Display) (n : Nibble) :
    d.scrollUpChecked (.ofNat n.val) = .ok (d.scrollUp (.ofNat n.val)) := by
  rcases reach_of_le d.resolution (toNat_ofNat_le n) with ⟨hscale, -, hup⟩
  rw [scrollUpChecked, offset_of_mem (by omega) (by omega), ok_bind,
    offset_of_mem (by omega) (by omega), ok_bind, ← hup, ← Int64.toInt_zero]
  exact d.scrollChecked_eq (by decide) (by omega)

theorem scrollDownChecked_eq (d : Display) (n : Nibble) :
    d.scrollDownChecked (.ofNat n.val) = .ok (d.scrollDown (.ofNat n.val)) := by
  rcases reach_of_le d.resolution (toNat_ofNat_le n) with ⟨hscale, hdown, -⟩
  rw [scrollDownChecked, offset_of_mem (by omega) (by omega), ok_bind, ← hdown,
    ← Int64.toInt_zero]
  exact d.scrollChecked_eq (by decide) (by omega)

theorem scrollLeftChecked_eq (d : Display) : d.scrollLeftChecked = .ok d.scrollLeft := by
  rcases reach_of_le d.resolution (n := horizontalScroll) (by decide) with ⟨hscale, -, hleft⟩
  rw [scrollLeftChecked, offset_of_mem (by omega) (by omega), ok_bind,
    offset_of_mem (by omega) (by omega), ok_bind, ← hleft, ← Int64.toInt_zero]
  exact d.scrollChecked_eq (by omega) (by decide)

theorem scrollRightChecked_eq (d : Display) : d.scrollRightChecked = .ok d.scrollRight := by
  rcases reach_of_le d.resolution (n := horizontalScroll) (by decide) with ⟨hscale, hright, -⟩
  rw [scrollRightChecked, offset_of_mem (by omega) (by omega), ok_bind, ← hright,
    ← Int64.toInt_zero]
  exact d.scrollChecked_eq (by omega) (by decide)

/-! ### Rendering -/

/-- The active area as lines of signs. There has to be room for all of them. -/
def renderChecked (d : Display) : Checked String := do
  let _ ← size ((← size (d.width + 1)) * d.height)
  let lines ← (List.range d.height).mapM fun y => do
    let signs ← (List.range d.width).mapM fun x => do
      return cellSign (← d.pixelChecked .a x y) (← d.pixelChecked .b x y)
    return signs ++ ['\n']
  return String.ofList lines.flatten

theorem renderChecked_eq (d : Display) : d.renderChecked = .ok d.render := by
  have hsize : d.width + 1 < 65536 ∧ (d.width + 1) * d.height < 65536 := by
    rw [width, height]
    cases d.resolution <;> decide
  have hline : ∀ y ∈ List.range d.height,
      (do
        let signs ← (List.range d.width).mapM fun x => do
          return cellSign (← d.pixelChecked .a x y) (← d.pixelChecked .b x y)
        return signs ++ ['\n']) =
      (.ok (d.renderRow y ++ ['\n']) : Checked (List Char)) := by
    intro y _
    have hsign : ∀ x ∈ List.range d.width,
        (do return cellSign (← d.pixelChecked .a x y) (← d.pixelChecked .b x y)) =
          (.ok (cellSign (d.pixel .a x y) (d.pixel .b x y)) : Checked Char) := by
      intro x _
      rw [pixelChecked_eq, ok_bind, pixelChecked_eq, ok_bind, pure_eq_ok]
    rw [mapM_of_ok hsign, ok_bind, renderRow, pure_eq_ok]
  rw [renderChecked, size_of_lt hsize.1, ok_bind, size_of_lt hsize.2, ok_bind, mapM_of_ok hline,
    ok_bind, render, List.flatMap_def, pure_eq_ok]

end Display

end ChipEight
