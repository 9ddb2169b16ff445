import ChipEight.Word

/-!
# Operations That Can Fail

A console is described by functions that cannot fail: places are numbers below
the size of what they are looked up in, addresses count around, and the rest is
done with numbers that have no largest one. A program that does the same with
the numbers of a processor has to stop where a place is out of bounds, where a
sum does not fit, or where something is divided by zero.

The operations here are these partial ones. What is written with them stops at
the first that fails, and so it is a statement about a console that all of it
can be done without stopping, and with the same result. Everything under
`Checked` is written out for the sake of such statements, with the operations
in the order in which a console performs them.

Sizes have no fixed width. They are taken to be sixteen bits wide, which is the
least they can be: what fits there fits in more.

## Main definitions

* `Trap`: Why an operation stops.
* `Checked`: A value, unless something stopped.
* `element`, `replaced`, `updated`, `slice`: Places.
* `sum`, `product`: Addresses.
* `size`, `difference`, `remainder`: Sizes.
* `offset`: Sizes with a sign.
* `shiftedRight`, `shiftedLeft`: Bytes.

## Theorems

* `foldlM_of_ok`, `mapM_of_ok`: A loop whose body never stops.
* `foldlM_range`: A loop that counts.
* `foldlM_updated`: A loop over the places of a vector.
-/

namespace ChipEight

/-- Why an operation stops. -/
inductive Trap where
  | outOfBounds
  | overflow
  | zeroDivisor
  deriving DecidableEq, Repr

/-- A value, unless something stopped. -/
abbrev Checked := Except Trap

namespace Checked

variable {α β : Type} {n : Nat}

@[simp] theorem ok_bind (a : α) (f : α → Checked β) : (Except.ok a >>= f) = f a :=
  rfl

@[simp] theorem pure_eq_ok (a : α) : (pure a : Checked α) = .ok a :=
  rfl

/-! ### Places -/

/-- What is at a place. -/
def element (v : Vector α n) (place : Nat) : Checked α :=
  if h : place < n then .ok v[place] else .error .outOfBounds

/-- Replaces what is at a place. -/
def replaced (v : Vector α n) (place : Nat) (value : α) : Checked (Vector α n) :=
  if h : place < n then .ok (v.set place value) else .error .outOfBounds

/-- What is between two places, the second not included. -/
def slice (v : Vector α n) (first last : Nat) : Checked (List α) :=
  if first ≤ last ∧ last ≤ n then .ok ((v.toList.drop first).take (last - first))
  else .error .outOfBounds

/-- Brings what is at a place up to date. -/
def updated (f : α → Checked α) (v : Vector α n) (place : Nat) : Checked (Vector α n) := do
  replaced v place (← f (← element v place))

theorem element_of_lt (v : Vector α n) (place : Fin n) : element v place.val = .ok v[place] :=
  dif_pos place.isLt

theorem replaced_of_lt (v : Vector α n) (place : Fin n) (value : α) :
    replaced v place.val value = .ok (v.set place value) :=
  dif_pos place.isLt

theorem updated_of_lt {f : α → Checked α} {v : Vector α n} {place : Nat} {a : α}
    (inside : place < n) (ok : f v[place] = .ok a) : updated f v place = .ok (v.set place a) := by
  have helement : element v place = .ok v[place] := dif_pos inside
  rw [updated, helement, ok_bind, ok, ok_bind]
  exact dif_pos inside

/-! ### Numbers -/

/-- The sum of two addresses. -/
def sum (a b : Address) : Checked Address :=
  if a.toNat + b.toNat < 65536 then .ok (a + b) else .error .overflow

/-- The product of two addresses. -/
def product (a b : Address) : Checked Address :=
  if a.toNat * b.toNat < 65536 then .ok (a * b) else .error .overflow

/-- A number as a size. -/
def size (k : Nat) : Checked Nat :=
  if k < 65536 then .ok k else .error .overflow

/-- The difference of two sizes. -/
def difference (k l : Nat) : Checked Nat :=
  if l ≤ k then .ok (k - l) else .error .overflow

/-- The remainder of two sizes. -/
def remainder (k l : Nat) : Checked Nat :=
  if l = 0 then .error .zeroDivisor else .ok (k % l)

/-- A number as a size with a sign. -/
def offset (i : Int) : Checked Int :=
  if -32768 ≤ i ∧ i < 32768 then .ok i else .error .overflow

/-- A byte with its bits moved right. -/
def shiftedRight (b : UInt8) (k : Nat) : Checked UInt8 :=
  if k < 8 then .ok (b >>> UInt8.ofNat k) else .error .overflow

/-- A byte with its bits moved left. Bits may be lost, but not all at once. -/
def shiftedLeft (b : UInt8) (k : Nat) : Checked UInt8 :=
  if k < 8 then .ok (b <<< UInt8.ofNat k) else .error .overflow

theorem sum_of_lt {a b : Address} (fits : a.toNat + b.toNat < 65536) : sum a b = .ok (a + b) :=
  if_pos fits

theorem product_of_lt {a b : Address} (fits : a.toNat * b.toNat < 65536) :
    product a b = .ok (a * b) :=
  if_pos fits

theorem size_of_lt {k : Nat} (fits : k < 65536) : size k = .ok k :=
  if_pos fits

theorem difference_of_le {k l : Nat} (fits : l ≤ k) : difference k l = .ok (k - l) :=
  if_pos fits

theorem remainder_of_pos {k l : Nat} (positive : 0 < l) : remainder k l = .ok (k % l) :=
  if_neg (Nat.ne_of_gt positive)

theorem offset_of_mem {i : Int} (low : -32768 ≤ i) (high : i < 32768) : offset i = .ok i :=
  if_pos ⟨low, high⟩

/-! ### Loops -/

/-- A loop whose body never stops does not stop either. -/
theorem foldlM_of_ok {f : β → α → Checked β} {g : β → α → β} {xs : List α}
    (ok : ∀ b, ∀ a ∈ xs, f b a = .ok (g b a)) (b : β) :
    xs.foldlM f b = .ok (xs.foldl g b) := by
  induction xs generalizing b with
  | nil => rfl
  | cons a rest ih =>
      rcases List.forall_mem_cons.mp fun x hx => ok b x hx with ⟨hfirst, -⟩
      rw [List.foldlM_cons, hfirst, ok_bind, List.foldl_cons]
      exact ih (fun b x hx => ok b x (List.mem_cons_of_mem a hx)) (g b a)

/-- A loop that counts, as long as it is known what it has come to after every
    number of turns. -/
theorem foldlM_range {f : β → Nat → Checked β} {g : Nat → β} {b : β} {count : Nat}
    (start : g 0 = b) (ok : ∀ k < count, f (g k) k = .ok (g (k + 1))) :
    (List.range count).foldlM f b = .ok (g count) := by
  subst start
  induction count with
  | zero => rfl
  | succ k ih =>
      rw [List.range_succ, List.foldlM_append, ih fun i hi => ok i (Nat.lt_succ_of_lt hi), ok_bind,
        List.foldlM_cons, ok k (Nat.lt_succ_self k), ok_bind, List.foldlM_nil, pure_eq_ok]

theorem mapM_of_ok {f : α → Checked β} {g : α → β} {xs : List α}
    (ok : ∀ a ∈ xs, f a = .ok (g a)) : xs.mapM f = .ok (xs.map g) := by
  induction xs with
  | nil => rfl
  | cons a rest ih =>
      rcases List.forall_mem_cons.mp ok with ⟨hfirst, hrest⟩
      rw [List.mapM_cons, hfirst, ok_bind, ih hrest]
      rfl

/-- A loop that brings the places of a vector up to date, one for every member of
    a list. -/
theorem foldlM_updated {f : β → α → Checked α} {g : β → α → α} {xs : List β}
    (ok : ∀ x ∈ xs, ∀ a, f x a = .ok (g x a)) (fits : xs.length ≤ n) (v : Vector α n) :
    xs.zipIdx.foldlM (fun v x => updated (f x.1) v x.2) v =
      .ok (.ofFn fun i => (xs[i.val]?).elim v[i] (g · v[i])) := by
  -- The loop has come to some place, and those before it are done.
  suffices h : ∀ first, first + xs.length ≤ n →
      (xs.zipIdx first).foldlM (fun v x => updated (f x.1) v x.2) v =
        .ok (.ofFn fun i =>
          if i.val < first then v[i] else (xs[i.val - first]?).elim v[i] (g · v[i])) from
    h 0 (by omega)
  clear fits
  induction xs generalizing v with
  | nil =>
      intro first _
      refine congrArg Except.ok (Vector.ext fun i hi => ?_)
      simp
  | cons x rest ih =>
      intro first fits
      rw [List.length_cons] at fits
      rcases List.forall_mem_cons.mp ok with ⟨hfirst, hrest⟩
      have hplace : first < n := by omega
      rw [List.zipIdx_cons, List.foldlM_cons, updated_of_lt hplace (hfirst v[first]), ok_bind,
        ih hrest _ (first + 1) (by omega)]
      refine congrArg Except.ok (Vector.ext fun i hi => ?_)
      rw [Vector.getElem_ofFn, Vector.getElem_ofFn]
      rcases Nat.lt_trichotomy i first with before | rfl | after
      -- A place is done, is done now, or is left to the rest of the loop.
      · simp [before, Nat.lt_succ_of_lt before, Nat.ne_of_gt before]
      · simp
      · have hback : i - first = (i - (first + 1)) + 1 := by omega
        simp [Nat.ne_of_lt after, Nat.not_lt_of_gt after, Nat.not_lt.mpr after, hback]

end Checked

end ChipEight
