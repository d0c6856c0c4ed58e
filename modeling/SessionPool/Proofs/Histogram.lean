import SessionPool.Pool.Statistics

/-!
# Histograms of connect times

A histogram that has all its buckets (`Histogram.IsWhole`) has room for every duration, so that each
that is recorded adds one to the total. Histograms are added bucket by bucket; it does not matter to
a sum which of its parts a duration is recorded in (`Histogram.add_record`).
-/

set_option autoImplicit false

namespace SessionPool.Histogram

variable {h : Histogram}

/-- There is a bucket for each bound and one for what exceeds them all. -/
def IsWhole (h : Histogram) : Prop := h.counts.length = connectTimeBounds.length + 1

theorem isWhole_empty : IsWhole {} := rfl

theorem IsWhole.record (hw : h.IsWhole) (d : Duration) : (h.record d).IsWhole :=
  (List.length_modify ..).trans hw

theorem bucketOf_lt (d : Duration) : bucketOf d < connectTimeBounds.length + 1 :=
  Nat.lt_succ_of_le List.findIdx_le_length

/-- One more is counted in one of the buckets. -/
theorem foldr_modify {counts : List Nat} {i : Nat} (hi : i < counts.length) :
    (counts.modify i (· + 1)).foldr (· + ·) 0 = counts.foldr (· + ·) 0 + 1 := by
  induction counts generalizing i with
  | nil => cases hi
  | cons n counts ih =>
    cases i with
    | zero =>
      rw [List.modify_zero_cons, List.foldr_cons, List.foldr_cons]
      omega
    | succ i =>
      rw [List.modify_succ_cons, List.foldr_cons, List.foldr_cons, ih (Nat.lt_of_succ_lt_succ hi)]
      omega

theorem IsWhole.total_record (hw : h.IsWhole) (d : Duration) : (h.record d).total = h.total + 1 :=
  foldr_modify (hw ▸ bucketOf_lt d)

/-! ## Sums -/

instance : Add Histogram where
  add h k := { counts := List.zipWith (· + ·) h.counts k.counts }

/-- The count of a bucket. -/
def count (h : Histogram) (i : Nat) : Nat := h.counts.getD i 0

theorem count_empty (i : Nat) : count {} i = 0 := by
  rw [count, List.getD_eq_getElem?_getD, List.getElem?_replicate]
  split <;> rfl

theorem zipWith_modify (a b : List Nat) (i : Nat) :
    List.zipWith (· + ·) a (b.modify i (· + 1)) = (List.zipWith (· + ·) a b).modify i (· + 1) := by
  induction a generalizing b i with
  | nil => rw [List.zipWith_nil_left, List.zipWith_nil_left, List.modify_nil]
  | cons m a ih =>
    cases b with
    | nil => cases i <;> rfl
    | cons n b =>
      cases i with
      | zero => rfl
      | succ i =>
        rw [List.modify_succ_cons, List.zipWith_cons_cons, List.zipWith_cons_cons,
          List.modify_succ_cons, ih]

theorem zipWith_getD {a b : List Nat} (h : a.length = b.length) (i : Nat) :
    (List.zipWith (· + ·) a b).getD i 0 = a.getD i 0 + b.getD i 0 := by
  induction a generalizing b i with
  | nil =>
    cases b with
    | nil => rfl
    | cons n b => cases h
  | cons m a ih =>
    cases b with
    | nil => cases h
    | cons n b =>
      cases i with
      | zero => rfl
      | succ i => exact ih (Nat.succ.inj h) i

theorem add_record (h k : Histogram) (d : Duration) : h + k.record d = (h + k).record d :=
  congrArg Histogram.mk (zipWith_modify h.counts k.counts (bucketOf d))

theorem IsWhole.add {k : Histogram} (hw : h.IsWhole) (hk : k.IsWhole) : (h + k).IsWhole := by
  show (List.zipWith (· + ·) h.counts k.counts).length = _
  rw [List.length_zipWith, hw, hk, Nat.min_self]

theorem IsWhole.count_add {k : Histogram} (hw : h.IsWhole) (hk : k.IsWhole) (i : Nat) :
    (h + k).count i = h.count i + k.count i :=
  zipWith_getD (hw.trans hk.symm) i

/-- Nothing is added by a histogram in which nothing was recorded. -/
theorem IsWhole.add_empty (hw : h.IsWhole) : h + {} = h := by
  have zeros (a : List Nat) : List.zipWith (· + ·) a (List.replicate a.length 0) = a := by
    induction a with
    | nil => rfl
    | cons n a ih =>
      rw [List.length_cons, List.replicate_succ, List.zipWith_cons_cons, ih, Nat.add_zero]
  have all := zeros h.counts
  rw [hw] at all
  exact congrArg Histogram.mk all

theorem IsWhole.empty_add (hw : h.IsWhole) : {} + h = h := by
  have swapped : {} + h = h + {} :=
    congrArg Histogram.mk (List.zipWith_comm_of_comm Nat.add_comm)
  rw [swapped, hw.add_empty]

end SessionPool.Histogram
