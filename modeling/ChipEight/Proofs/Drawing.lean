import ChipEight.Proofs.Encoding
import ChipEight.Proofs.Machine.Components
import ChipEight.Proofs.Sprites

/-!
# The Drawing Instruction

What `DXYN` does to a machine, from the registers it names to the flag it leaves.

Three things wrap on the way, each at a size of its own: the index register in
sixteen bits, memory at its end, and coordinates at the active area. And VF is
operand and result at once, since X or Y may be F. `SpriteDrawn` says what comes
of it in terms of the machine before, so none of the order in which this happens
is left in it.

The instruction draws one sprite for each selected plane, with rows that follow
those for the plane before. Put together, these sprites are one list of strokes,
and no pixel is in it twice: different planes have different pixels, and a
sprite of at most fifteen rows fits into the area. So the pixels under set bits
are turned over once each, and the flag tells whether one of them was lit
before the first, which for such a list is when one was erased.

## Main definitions

* `Machine.spriteByte`: The rows of the sprites in memory.
* `Machine.Covers`: The pixels under their set bits.
* `SpriteDrawn`: What drawing does to a machine.
* `Machine.drawnSprites`, `Machine.drawnStrokes`: The sprites of one drawing, and
  their strokes.

## Theorems

* `Machine.drawPlanes_eq`: Drawing on all selected planes is one list of strokes.
* `Machine.mem_drawnStrokes`: It is made of the pixels under set bits.
* `Machine.nodup_drawnStrokes`: None of them is in it twice.
* `drawing_strikes_covered_pixels_once`: What `DXYN` does.
-/

namespace ChipEight

namespace Machine

/-- A row of the sprite for the plane that is `turn`-th among the selected ones.
    Rows lie one after another in memory, those for one plane after those for the
    plane before, and wrap around its end. -/
def spriteByte (m : Machine) (n : Nibble) (turn r : Nat) : UInt8 :=
  m.memory.ram.get (Fin.ofNat 4096 (m.memory.index.toNat + turn * n.val + r))

/-- Whether a pixel lies under a set bit when the sprite at I is drawn with its
    corner at (VX, VY). -/
def Covers (m : Machine) (x y : Register) (n : Nibble) (p : Plane) (px py : Nat) : Prop :=
  ∃ turn, m.display.selection.planes[turn]? = some p ∧ ∃ r < n.val, ∃ c < 8,
    (m.spriteByte n turn r).toNat.testBit (7 - c) = true ∧
      px = ((m.reg x).toNat + c) % m.display.width ∧
      py = ((m.reg y).toNat + r) % m.display.height

end Machine

/-- What drawing the sprite at I with its corner at (VX, VY) does to a machine. -/
structure SpriteDrawn (m : Machine) (x y : Register) (n : Nibble) (after : Machine) : Prop where
  /-- The display comes from turning over the pixels under set bits once each. -/
  once : ∃ strokes : List Stroke, strokes.Nodup ∧
    (∀ s, s ∈ strokes ↔ m.Covers x y n s.plane s.x s.y) ∧
    after.display = (m.display.strokeAll strokes).withSnapshot after.display.lastSprite
  covered : ∀ p px py, m.Covers x y n p px py →
    after.display.pixel p px py = !m.display.pixel p px py
  uncovered : ∀ p, ∀ px < planeWidth, ∀ py < planeHeight, ¬m.Covers x y n p px py →
    after.display.pixel p px py = m.display.pixel p px py
  collision : (∃ p px py, m.Covers x y n p px py ∧ m.display.pixel p px py = true) →
    after.reg flagRegister = 1
  noCollision : (¬∃ p px py, m.Covers x y n p px py ∧ m.display.pixel p px py = true) →
    after.reg flagRegister = 0
  registers : ∀ r ≠ flagRegister, after.reg r = m.reg r
  /-- The snapshot shows the sprite for the plane drawn last. -/
  snapshot : ∀ turn, m.display.selection.planes.length = turn + 1 → ∀ row column,
    after.display.lastSprite.lit row column =
      (decide (row < n.val ∧ column < 8) &&
        (m.spriteByte n turn row).toNat.testBit (7 - column))
  snapshotKept : m.display.selection.planes = [] →
    after.display.lastSprite = m.display.lastSprite
  /-- Nothing but registers and the display is touched. -/
  rest : after = { m with
    memory := { m.memory with registers := after.memory.registers }
    display := after.display }

namespace Machine

/-! ### Rows in memory -/

theorem spriteRows_getD (m : Machine) (n : Nibble) (turn r : Nat) :
    (spriteRows m.memory turn n.val).getD r 0 =
      if r < n.val then m.spriteByte n turn r else 0 := by
  rw [spriteRows, Memory.readBlock, List.getD_eq_getElem?_getD, List.getElem?_map]
  by_cases inside : r < n.val
  · -- The two offsets add up before they wrap into memory.
    have hplace : cellOf (m.memory.index + UInt16.ofNat (turn * n.val) + UInt16.ofNat r) =
        Fin.ofNat 4096 (m.memory.index.toNat + turn * n.val + r) := by
      rw [UInt16.add_assoc, ← UInt16.ofNat_add, cellOf_add, Nat.add_assoc]
    rw [if_pos inside, List.getElem?_range inside, Option.map_some, Option.getD_some]
    exact congrArg m.memory.ram.get hplace
  · rw [if_neg inside, List.getElem?_eq_none (by simpa using inside), Option.map_none,
      Option.getD_none]

@[simp] theorem length_spriteRows (m : Memory) (turn rows : Nat) :
    (spriteRows m turn rows).length = rows := by
  rw [spriteRows, Memory.length_readBlock]

/-! ### All sprites of one drawing -/

/-- The sprites of one drawing, one for each selected plane in its turn. -/
def drawnSprites (m : Memory) (d : Display) (x y rows : Nat) : List Sprite :=
  d.selection.planes.zipIdx.map fun turn => ⟨turn.1, x, y, spriteRows m turn.2 rows⟩

/-- Their strokes, plane after plane. -/
def drawnStrokes (m : Memory) (d : Display) (x y rows : Nat) : List Stroke :=
  Sprite.strokesOf d.resolution (drawnSprites m d x y rows)

/-- Drawing on all selected planes is one list of strokes. -/
theorem drawPlanes_eq (m : Memory) (d : Display) (x y rows : Nat) :
    drawPlanes m d x y rows =
      (d.erases (drawnStrokes m d x y rows),
        (d.strokeAll (drawnStrokes m d x y rows)).withSnapshot
          (Sprite.lastSnapshot d.lastSprite (drawnSprites m d x y rows))) := by
  have hfold := d.foldl_drawSprite (drawnSprites m d x y rows) false
  rw [Bool.false_or, Display.drawAll_eq, drawnSprites, List.foldl_map] at hfold
  exact hfold

theorem mem_drawnSprites {m : Memory} {d : Display} {x y rows : Nat} {s : Sprite} :
    s ∈ drawnSprites m d x y rows ↔
      ∃ p turn, d.selection.planes[turn]? = some p ∧ ⟨p, x, y, spriteRows m turn rows⟩ = s := by
  simp only [drawnSprites, List.mem_map, Prod.exists, List.mem_zipIdx_iff_getElem?]

/-- The strokes of one drawing are for the pixels under set bits. -/
theorem mem_drawnStrokes (m : Machine) (x y : Register) (n : Nibble) (s : Stroke) :
    s ∈ drawnStrokes m.memory m.display (m.reg x).toNat (m.reg y).toNat n.val ↔
      m.Covers x y n s.plane s.x s.y := by
  rw [drawnStrokes, Sprite.strokesOf, List.mem_flatMap]
  constructor
  · rintro ⟨sprite, hsprite, hstroke⟩
    rcases mem_drawnSprites.mp hsprite with ⟨p, turn, hturn, rfl⟩
    rcases Plane.mem_strokes.mp hstroke with ⟨rfl, hcell⟩
    rw [Display.spriteCells_eq, List.mem_map] at hcell
    rcases hcell with ⟨⟨r, c⟩, hbit, hplace⟩
    rcases Display.mem_setBits.mp hbit with ⟨hr, hc, hset⟩
    rw [length_spriteRows] at hr
    rw [spriteRows_getD, if_pos hr, spriteBit] at hset
    exact ⟨turn, hturn, r, hr, c, hc, hset, (congrArg Prod.fst hplace).symm,
      (congrArg Prod.snd hplace).symm⟩
  · rintro ⟨turn, hturn, r, hr, c, hc, hset, hx, hy⟩
    refine ⟨_, mem_drawnSprites.mpr ⟨s.plane, turn, hturn, rfl⟩,
      Plane.mem_strokes.mpr ⟨rfl, ?_⟩⟩
    rw [Display.spriteCells_eq, List.mem_map]
    refine ⟨(r, c), Display.mem_setBits.mpr ⟨?_, hc, ?_⟩, Prod.ext hx.symm hy.symm⟩
    · rw [length_spriteRows]
      exact hr
    · rw [spriteRows_getD, if_pos hr]
      exact hset

/-- Each selected plane gets one sprite. -/
theorem pairwise_drawnSprites (m : Memory) (d : Display) (x y rows : Nat) :
    (drawnSprites m d x y rows).Pairwise fun s other => s.plane ≠ other.plane := by
  have distinct : (d.selection.planes.zipIdx.map Prod.fst).Nodup := by
    rw [List.zipIdx_map_fst]
    exact d.selection.nodup_planes
  exact List.pairwise_map.mpr (List.pairwise_map.mp distinct)

/-- No pixel is turned over twice in one drawing. -/
theorem nodup_drawnStrokes (m : Memory) (d : Display) (x y : Nat) (n : Nibble) :
    (drawnStrokes m d x y n.val).Nodup := by
  refine List.nodup_flatMap.mpr ⟨fun sprite hsprite => ?_, ?_⟩
  · rcases mem_drawnSprites.mp hsprite with ⟨p, turn, -, rfl⟩
    have hshort : (spriteRows m turn n.val).length ≤ d.resolution.height := by
      have hn := n.isLt
      have hheight : 16 ≤ d.resolution.height := by cases d.resolution <;> decide
      rw [length_spriteRows]
      omega
    exact Plane.nodup_strokes (Display.nodup_spriteCells x y hshort)
  · refine (pairwise_drawnSprites m d x y n.val).imp fun hne s hs hother => ?_
    exact hne ((Plane.mem_strokes.mp hs).1.symm.trans (Plane.mem_strokes.mp hother).1)

theorem onPlane_drawnStrokes (m : Memory) (d : Display) (x y rows : Nat) :
    ∀ s ∈ drawnStrokes m d x y rows, s.OnPlane :=
  Sprite.onPlane_strokesOf d.resolution (drawnSprites m d x y rows)

/-! ### The snapshot -/

/-- The cells of a snapshot are the bits of the sprite, if it is not too high to be
    kept. -/
theorem lit_ofRows {rows : List UInt8} (short : rows.length ≤ snapshotSize) (row column : Nat) :
    (Snapshot.ofRows rows).lit row column =
      (decide (column < 8) && spriteBit (rows.getD row 0) column) := by
  have hrow : (Snapshot.ofRows rows).toList.getD row 0 = rows.getD row 0 := by
    rw [Snapshot.ofRows, List.getD_eq_getElem?_getD, Vector.getElem?_toList, Vector.getElem?_ofFn]
    by_cases kept : row < snapshotSize
    · rw [dif_pos kept, Option.getD_some]
    · -- No sprite has a row beyond those kept.
      rw [dif_neg kept, Option.getD_none, List.getD_eq_getElem?_getD,
        List.getElem?_eq_none (Nat.le_trans short (Nat.le_of_not_lt kept)), Option.getD_none]
  rw [Snapshot.lit, hrow]

theorem lit_spriteRows (m : Machine) (n : Nibble) (turn row column : Nat) :
    (Snapshot.ofRows (spriteRows m.memory turn n.val)).lit row column =
      (decide (row < n.val ∧ column < 8) &&
        (m.spriteByte n turn row).toNat.testBit (7 - column)) := by
  have short : (spriteRows m.memory turn n.val).length ≤ snapshotSize := by
    rw [length_spriteRows]
    exact Nat.le_of_lt n.isLt
  rw [lit_ofRows short, spriteRows_getD, Bool.decide_and]
  by_cases inside : row < n.val
  · rw [if_pos inside, decide_eq_true inside, Bool.true_and, spriteBit]
  · rw [if_neg inside, decide_eq_false inside, spriteBit, UInt8.toNat_zero, Nat.zero_testBit,
      Bool.and_false, Bool.false_and, Bool.false_and]

/-- The snapshot is of the sprite for the last plane. -/
theorem lastSnapshot_drawnSprites (m : Memory) (d : Display) (x y rows : Nat) {turn : Nat}
    (last : d.selection.planes.length = turn + 1) :
    Sprite.lastSnapshot d.lastSprite (drawnSprites m d x y rows) =
      .ofRows (spriteRows m turn rows) := by
  rw [drawnSprites]
  generalize d.selection.planes = planes at last
  have hsplit : planes = planes.take turn ++ [planes[turn]] := by
    rw [List.take_append_getElem, ← last, List.take_length]
  have hlength : (planes.take turn).length = turn := List.length_take_of_le (by omega)
  rw [hsplit, List.zipIdx_append, hlength, Nat.zero_add, List.map_append, Sprite.lastSnapshot,
    List.foldl_append]
  rfl

/-! ### The machine afterwards -/

/-- The machine after `DXYN`. -/
theorem execute_draw (m : Machine) (x y : Register) (n : Nibble) :
    let strokes := drawnStrokes m.memory m.display (m.reg x).toNat (m.reg y).toNat n.val
    (m.execute (.ofDigits 0xD x y n)).2 = { m with
      memory := m.memory.setFlag (if m.display.erases strokes then 1 else 0)
      display := (m.display.strokeAll strokes).withSnapshot
        (Sprite.lastSnapshot m.display.lastSprite
          (drawnSprites m.memory m.display (m.reg x).toNat (m.reg y).toNat n.val)) } := by
  have hexecute : (m.execute (.ofDigits 0xD x y n)).2 = (m.perform (.draw x y n)).2 :=
    m.execute_word (.draw x y n) trivial
  rw [hexecute, perform, draw, drawPlanes_eq]

/-- A set bit over a lit pixel is what makes a drawing erase something. -/
theorem erases_drawnStrokes_iff (m : Machine) (x y : Register) (n : Nibble) :
    m.display.erases
        (drawnStrokes m.memory m.display (m.reg x).toNat (m.reg y).toNat n.val) = true ↔
      ∃ p px py, m.Covers x y n p px py ∧ m.display.pixel p px py = true := by
  rw [Display.erases_iff_of_nodup m.display (onPlane_drawnStrokes m.memory m.display _ _ n.val)
    (nodup_drawnStrokes m.memory m.display _ _ n)]
  constructor
  · rintro ⟨s, hs, hlit⟩
    exact ⟨s.plane, s.x, s.y, (m.mem_drawnStrokes x y n s).mp hs, hlit⟩
  · rintro ⟨p, px, py, hcovers, hlit⟩
    exact ⟨⟨p, px, py⟩, (m.mem_drawnStrokes x y n _).mpr hcovers, hlit⟩

end Machine

/-- Whatever the state of the machine, drawing turns over the pixels under set bits
    once each and touches no other, sets VF to whether one of them was lit, and
    keeps the sprite it has drawn last. Nothing else changes. -/
theorem drawing_strikes_covered_pixels_once (m : Machine) (x y : Register) (n : Nibble) :
    SpriteDrawn m x y n (m.execute (.ofDigits 0xD x y n)).2 := by
  have distinct := Machine.nodup_drawnStrokes m.memory m.display (m.reg x).toNat (m.reg y).toNat n
  have inside :=
    Machine.onPlane_drawnStrokes m.memory m.display (m.reg x).toNat (m.reg y).toNat n.val
  have hmem := m.mem_drawnStrokes x y n
  have herases := m.erases_drawnStrokes_iff x y n
  have hflag : ∀ flag : UInt8, (m.memory.setFlag flag).reg flagRegister = flag :=
    fun flag => (m.memory.reg_setReg ..).trans (if_pos rfl)
  rw [Machine.execute_draw]
  generalize Machine.drawnStrokes m.memory m.display _ _ n.val = strokes at *
  exact
    { once := ⟨strokes, distinct, hmem, rfl⟩
      covered := fun p px py hcovers => by
        have struck := (hmem ⟨p, px, py⟩).mpr hcovers
        exact (m.display.lit_strokeAll_of_nodup inside distinct (inside _ struck)).trans
          (if_pos struck)
      uncovered := fun p px hx py hy hnot => by
        have spared : ⟨p, px, py⟩ ∉ strokes := fun struck => hnot ((hmem _).mp struck)
        exact (m.display.lit_strokeAll_of_nodup inside distinct ⟨hx, hy⟩).trans (if_neg spared)
      collision := fun hcause => by
        rw [Machine.reg, if_pos (herases.mpr hcause), hflag]
      noCollision := fun hnone => by
        rw [Machine.reg, if_neg (fun h => hnone (herases.mp h)), hflag]
      registers := fun r other => (m.memory.reg_setReg ..).trans (if_neg other.symm)
      snapshot := fun turn last row column => by
        rw [Display.withSnapshot, Machine.lastSnapshot_drawnSprites m.memory m.display _ _ _ last,
          m.lit_spriteRows]
      snapshotKept := fun hnone => by
        rw [Display.withSnapshot, Machine.drawnSprites, hnone]
        rfl
      rest := rfl }

/-- A machine that has drawn the first glyph of the font, with VF still zero. -/
def Machine.glyphDrawn : Machine :=
  let m : Machine :=
    { memory := { Memory.blank with index := fontAddress }
      display := {}
      keypad := .initial
      generator := .ofSeed 0
      dialect := {} }
  (m.execute (.ofDigits 0xD 0xF 0xF 5)).2

open Machine in
/-- Drawing it again, at the place that VF tells, erases it, and VF tells so. -/
theorem drawing_strikes_covered_pixels_once_when_flag_is_place :
    glyphDrawn.Covers 0xF 0xF 5 .a 0 0 ∧ glyphDrawn.display.pixel .a 0 0 = true ∧
      (glyphDrawn.execute (.ofDigits 0xD 0xF 0xF 5)).2.display.pixel .a 0 0 = false ∧
      (glyphDrawn.execute (.ofDigits 0xD 0xF 0xF 5)).2.reg flagRegister = 1 := by
  have hcovers : glyphDrawn.Covers 0xF 0xF 5 .a 0 0 :=
    ⟨0, by decide +kernel, 0, by decide, 0, by decide, by decide +kernel⟩
  have hlit : glyphDrawn.display.pixel .a 0 0 = true := by decide +kernel
  have again := drawing_strikes_covered_pixels_once glyphDrawn 0xF 0xF 5
  refine ⟨hcovers, hlit, ?_, again.collision ⟨.a, 0, 0, hcovers, hlit⟩⟩
  rw [again.covered .a 0 0 hcovers, hlit, Bool.not_true]

end ChipEight
