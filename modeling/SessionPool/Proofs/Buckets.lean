import Mathlib.Data.List.Find
import Mathlib.Data.List.Induction
import Mathlib.Data.List.Nodup
import SessionPool.Proofs.Histogram

/-!
# What the buckets of a histogram count

Each duration is counted in the first bucket whose bound it is within (`boundOf`), and a histogram
`Sorts` durations if all that is read off it agrees with that. Which durations are within a bound is
left open at first. A histogram goes by whole milliseconds: a duration is within a bound as long as
it is shorter than one millisecond more (`isWithinWhole`), in whatever order it is recorded
(`sorts_ofList`). So a duration that exceeds a bound by less than a millisecond is counted below it
(`misplaced`), and only if there is none the buckets mean what their bounds say (`isWithin`).
-/

set_option autoImplicit false

namespace SessionPool.Histogram

def ofList (ds : List Duration) : Histogram := ds.foldl record {}

/-- The bounds of the buckets; the last bucket has none. -/
def bounds : List (Option Nat) := connectTimeBounds.map some ++ [none]

def upTo (h : Histogram) (bound : Nat) : Nat :=
  ((h.buckets.filter fun b => b.1.any (· ≤ bound)).map (·.2)).foldr (· + ·) 0

def isWithin (bound : Nat) (d : Duration) : Bool := d ≤ .ofMillis bound

/-- The whole milliseconds of a duration are at most a number. -/
def isWithinWhole (bound : Nat) (d : Duration) : Bool := d < .ofMillis (bound + 1)

section
variable (fits : Nat → Duration → Bool)

/-- The bound of the first bucket that a duration fits into. -/
def boundOf (d : Duration) : Option Nat := connectTimeBounds.find? (fits · d)

/-- The buckets tell how many durations are within which bound: each duration is counted in one of
them, the first that it fits into. -/
structure Sorts (ds : List Duration) (h : Histogram) : Prop where
  once : ∀ d ∈ ds, bounds.count (boundOf fits d) = 1
  buckets : h.buckets = bounds.map fun b => (b, ds.countP fun d => boundOf fits d = b)
  upTo : ∀ bound ∈ connectTimeBounds, h.upTo bound = ds.countP (fits bound)
  total : h.total = ds.length

end

/-! ## Lists -/

section
variable {α β : Type}

theorem getElem?_findIdx (p : β → Bool) (l : List β) :
    (l.map some ++ [none])[l.findIdx p]? = some (l.find? p) := by
  induction l with
  | nil => rfl
  | cons b l ih =>
    rw [List.findIdx_cons, List.find?_cons]
    cases p b with
    | true => rfl
    | false => exact ih

variable [DecidableEq β]

/-- One more is counted for one of several different values. -/
theorem modify_map {l : List β} (h : l.Nodup) (count : β → Nat) {i : Nat} {x : β}
    (hx : l[i]? = some x) :
    (l.map count).modify i (· + 1) = l.map fun b => count b + if x = b then 1 else 0 := by
  induction l generalizing i with
  | nil => cases hx
  | cons b l ih =>
    obtain ⟨hb, hl⟩ := List.nodup_cons.1 h
    cases i with
    | zero =>
      cases hx
      have others : ∀ b ∈ l, count b = count b + if x = b then 1 else 0 := by
        rintro b hm
        rw [if_neg, Nat.add_zero]
        rintro rfl
        exact hb hm
      rw [List.map_cons, List.modify_zero_cons, List.map_congr_left others, List.map_cons,
        if_pos rfl]
    | succ i =>
      have hm : x ∈ l := List.mem_of_getElem? hx
      have hne : x ≠ b := fun e => hb (e ▸ hm)
      rw [List.map_cons, List.modify_succ_cons, ih hl hx, List.map_cons, if_neg hne, Nat.add_zero]

theorem foldr_countP (f : α → Option Nat) {l : List (Option Nat)} (h : l.Nodup) (xs : List α) :
    (l.map fun b => xs.countP fun x => f x = b).foldr (· + ·) 0 = xs.countP fun x => f x ∈ l := by
  induction l with
  | nil => simp
  | cons b l ih =>
    obtain ⟨hb, hl⟩ := List.nodup_cons.1 h
    rw [List.map_cons, List.foldr_cons, ih hl]
    clear ih h
    induction xs with
    | nil => rfl
    | cons x xs ih =>
      simp only [List.countP_cons, List.mem_cons] at ih ⊢
      by_cases hx : f x = b
      · subst hx
        simp [hb] at ih ⊢
        omega
      · simp [hx] at ih ⊢
        omega

/-- In a row that rises, the first that is large enough is at most any other that is. -/
theorem any_find?_le {l : List Nat} (sorted : l.Pairwise (· < ·)) {p : Nat → Bool}
    (mono : ∀ a b, a ≤ b → p a = true → p b = true) {b : Nat} (hb : b ∈ l) :
    (l.find? p).any (· ≤ b) = p b := by
  induction l with
  | nil => cases hb
  | cons a l ih =>
    obtain ⟨ha, hl⟩ := List.pairwise_cons.1 sorted
    rw [List.find?_cons]
    cases hp : p a with
    | true =>
      have hab : a ≤ b := by
        rcases List.mem_cons.1 hb with rfl | hm
        · exact Nat.le_refl _
        · exact Nat.le_of_lt (ha b hm)
      simp [hab, mono a b hab hp]
    | false =>
      rcases List.mem_cons.1 hb with rfl | hm
      · -- all that is found comes later
        rw [hp, Option.any_eq_false]
        intro c hc
        simpa using ha c (List.mem_of_find?_eq_some hc)
      · exact ih hl hm

end

/-! ## Durations -/

theorem nodup_bounds : bounds.Nodup := by decide

theorem sorted_connectTimeBounds : connectTimeBounds.Pairwise (· < ·) := by decide

theorem wholeMillis_le_iff {d : Duration} {bound : Nat} :
    d.wholeMillis ≤ bound ↔ isWithinWhole bound d = true := by
  rw [isWithinWhole, decide_eq_true_eq, Duration.lt_iff, Duration.wholeMillis, Duration.ofMillis,
    ← Nat.lt_succ_iff, Nat.div_lt_iff_lt_mul (by decide)]

theorem getElem?_bucketOf (d : Duration) :
    bounds[bucketOf d]? = some (boundOf isWithinWhole d) := by
  have same : (fun bound => decide (d.wholeMillis ≤ bound)) = (isWithinWhole · d) := by
    funext bound
    rw [Bool.eq_iff_iff, decide_eq_true_eq, wholeMillis_le_iff]
  rw [bucketOf, same]
  exact getElem?_findIdx _ _

theorem ofList_concat (ds : List Duration) (d : Duration) :
    ofList (ds ++ [d]) = (ofList ds).record d := by
  rw [ofList, List.foldl_append]
  rfl

/-- **Each duration that is recorded** is counted in its bucket. -/
theorem counts_ofList (ds : List Duration) :
    (ofList ds).counts = bounds.map fun b => ds.countP fun d => boundOf isWithinWhole d = b := by
  induction ds using List.reverseRecOn with
  | nil => decide
  | append_singleton ds d ih =>
    rw [ofList_concat, record, ih, modify_map nodup_bounds _ (getElem?_bucketOf d)]
    refine List.map_congr_left fun b _ => ?_
    rw [List.countP_append, List.countP_singleton]
    simp

section
variable {fits : Nat → Duration → Bool} {ds : List Duration} {h : Histogram}

theorem boundOf_mem (fits : Nat → Duration → Bool) (d : Duration) : boundOf fits d ∈ bounds := by
  rw [bounds, List.mem_append]
  cases hf : boundOf fits d with
  | none => exact .inr (.head _)
  | some bound => exact .inl (List.mem_map_of_mem (List.mem_of_find?_eq_some hf))

/-- All that a histogram tells is in its counts. -/
theorem sorts_of_counts (mono : ∀ d a b, a ≤ b → fits a d = true → fits b d = true)
    (counts : h.counts = bounds.map fun b => ds.countP fun d => boundOf fits d = b) :
    Sorts fits ds h := by
  have buckets : h.buckets = bounds.map fun b => (b, ds.countP fun d => boundOf fits d = b) := by
    rw [Histogram.buckets, counts, ← bounds]
    exact List.map_prod_left_eq_zip.symm
  refine ⟨fun d _ => List.count_eq_one_of_mem nodup_bounds (boundOf_mem fits d), buckets, ?_, ?_⟩
  · intro bound hb
    rw [Histogram.upTo, buckets, List.filter_map, List.map_map]
    refine (foldr_countP (boundOf fits) (nodup_bounds.filter _) ds).trans ?_
    refine List.countP_congr fun d _ => ?_
    have first : (boundOf fits d).any (· ≤ bound) = fits bound d :=
      any_find?_le sorted_connectTimeBounds (mono d) hb
    rw [decide_eq_true_eq, List.mem_filter, and_iff_right (boundOf_mem fits d)]
    exact Bool.eq_iff_iff.1 first
  · rw [Histogram.total, counts, foldr_countP _ nodup_bounds, List.countP_eq_length]
    exact fun d _ => by simpa using boundOf_mem fits d

/-- It only matters how the recorded durations compare with the bounds. -/
theorem Sorts.congr {fits' : Nat → Duration → Bool} (sorts : Sorts fits ds h)
    (same : ∀ d ∈ ds, ∀ bound ∈ connectTimeBounds, fits bound d = fits' bound d) :
    Sorts fits' ds h := by
  have first : ∀ d ∈ ds, boundOf fits d = boundOf fits' d :=
    fun d hd => List.find?_congr (same d hd)
  refine ⟨fun d hd => first d hd ▸ sorts.once d hd, ?_, fun bound hb => ?_, sorts.total⟩
  · rw [sorts.buckets]
    refine List.map_congr_left fun b _ => congrArg (Prod.mk b) (List.countP_congr fun d hd => ?_)
    rw [first d hd]
  · rw [sorts.upTo bound hb]
    exact List.countP_congr fun d hd => by rw [same d hd bound hb]

end

theorem isWithinWhole_mono (d : Duration) (a b : Nat) (h : a ≤ b)
    (hd : isWithinWhole a d = true) : isWithinWhole b d = true :=
  wholeMillis_le_iff.1 ((wholeMillis_le_iff.2 hd).trans h)

/-- **The buckets mean what they say, to the millisecond.** Whatever is recorded, in any order: each
duration is counted in the first bucket that has a bound at least as large as its whole
milliseconds, or in the last one, so that up to a bound those are counted that are shorter than one
millisecond more, and the total is their number. If none of them exceeds a bound by less than a
millisecond, those up to a bound are those that are not longer than it. -/
theorem sorts_ofList (ds : List Duration) :
    Sorts isWithinWhole ds (ofList ds) ∧ (∀ ds', ds'.Perm ds → ofList ds' = ofList ds) ∧
      ((∀ d ∈ ds, ∀ bound ∈ connectTimeBounds,
          d < .ofMillis (bound + 1) → d ≤ .ofMillis bound) →
        Sorts isWithin ds (ofList ds)) := by
  have sorts := sorts_of_counts isWithinWhole_mono (counts_ofList ds)
  refine ⟨sorts, fun ds' perm => ?_, fun whole => ?_⟩
  · have counts : (ofList ds').counts = (ofList ds).counts := by
      rw [counts_ofList, counts_ofList]
      exact List.map_congr_left fun b _ => perm.countP_eq _
    exact congrArg Histogram.mk counts
  · apply sorts.congr
    intro d hd bound hb
    rw [isWithinWhole, isWithin, decide_eq_decide]
    refine ⟨whole d hd bound hb, fun h => ?_⟩
    have h : d.nanos ≤ bound * 1000000 := h
    show d.nanos < (bound + 1) * 1000000
    omega

/-- None of these exceeds a bound by less than a millisecond, though one is just below it. -/
theorem sorts_ofList_apart :
    let ds := [.ofParts 0 1000000, .ofParts 0 7500000, .ofParts 0 999999, .ofParts 9 0]
    Sorts isWithin ds (ofList ds) ∧ (ofList ds).counts = [2, 0, 1, 0, 0, 0, 0, 0, 0, 0, 0, 1] :=
  ⟨(sorts_ofList _).2.2 (by decide), by decide⟩

/-- A duration of one and a half milliseconds is counted up to one millisecond. -/
theorem misplaced : (ofList [.ofParts 0 1500000]).upTo 1 = 1 ∧
    ¬ ∀ ds, Sorts isWithin ds (ofList ds) := by
  have counted : (ofList [.ofParts 0 1500000]).upTo 1 = 1 := by decide
  refine ⟨counted, fun claimed => ?_⟩
  have upTo := (claimed [.ofParts 0 1500000]).upTo 1 (by decide)
  rw [counted] at upTo
  exact absurd upTo (by decide)

end SessionPool.Histogram
