import Mathlib.Algebra.BigOperators.Group.List.Basic
import Mathlib.Data.List.Nodup
import SessionPool.Table

/-!
# Tables as collections

A table in which each key occurs once is the entry of any of its keys together with the table
without that key (`perm_of_get?`). What all its values come to (`total`) therefore splits into what
one of them comes to and the rest, which entering, changing and removing that value leave alone.
-/

set_option autoImplicit false

namespace SessionPool.Table

variable {κ ν : Type}

def keys (t : List (κ × ν)) : List κ := t.map Prod.fst

section
variable [DecidableEq κ]

theorem keys_remove (t : List (κ × ν)) (key : κ) :
    keys (remove t key) = (keys t).filter fun k => !decide (k = key) := by
  rw [keys, keys, remove, List.filter_map]
  rfl

theorem keys_put (t : List (κ × ν)) (key : κ) (value : ν) :
    keys (put t key value) = key :: keys (remove t key) := rfl

theorem keys_update (t : List (κ × ν)) (key : κ) (value : ν) :
    keys (update t key value) = keys t := by
  simp only [keys, update, List.map_map]
  refine List.map_congr_left fun p _ => ?_
  by_cases h : p.1 = key <;> simp [h]

theorem keys_remove_nodup {t : List (κ × ν)} (h : (keys t).Nodup) (key : κ) :
    (keys (remove t key)).Nodup := by
  rw [keys_remove]
  exact h.filter _

theorem keys_put_nodup {t : List (κ × ν)} (h : (keys t).Nodup) (key : κ) (value : ν) :
    (keys (put t key value)).Nodup := by
  rw [keys_put, List.nodup_cons, keys_remove]
  exact ⟨by simp, h.filter _⟩

theorem mem_of_get? {t : List (κ × ν)} {key : κ} {value : ν} (h : get? t key = some value) :
    (key, value) ∈ t := by
  induction t with
  | nil => simp at h
  | cons p t ih =>
    obtain ⟨k, v⟩ := p
    unfold get? at h
    split at h
    · rename_i hk
      subst hk
      cases h
      exact List.mem_cons_self
    · exact List.mem_cons_of_mem _ (ih h)

theorem get?_eq_none_iff {t : List (κ × ν)} {key : κ} : get? t key = none ↔ key ∉ keys t := by
  induction t with
  | nil => simp [keys]
  | cons p t ih =>
    obtain ⟨k, v⟩ := p
    by_cases hk : k = key
    · simp [get?, keys, hk]
    · have : keys ((k, v) :: t) = k :: keys t := rfl
      rw [get?, if_neg hk, ih, this, List.mem_cons, not_or]
      exact ⟨fun h => ⟨fun e => hk e.symm, h⟩, fun h => h.2⟩

theorem get?_of_mem {t : List (κ × ν)} (hn : (keys t).Nodup) {key : κ} {value : ν}
    (h : (key, value) ∈ t) : get? t key = some value := by
  induction t with
  | nil => simp at h
  | cons p t ih =>
    obtain ⟨k, v⟩ := p
    obtain ⟨hk, hn⟩ := List.nodup_cons.1 hn
    rcases List.mem_cons.1 h with e | h
    · cases e
      simp [get?]
    · have hne : k ≠ key := by
        rintro rfl
        exact hk (List.mem_map.2 ⟨_, h, rfl⟩)
      rw [get?, if_neg hne]
      exact ih hn h

theorem remove_of_notMem {t : List (κ × ν)} {key : κ} (h : key ∉ keys t) : remove t key = t := by
  refine List.filter_eq_self.2 fun p hp => ?_
  have : p.1 ≠ key := by
    rintro rfl
    exact h (List.mem_map.2 ⟨p, hp, rfl⟩)
  simpa using this

/-- A table is the entry of one of its keys and the table without that key. -/
theorem perm_of_get? {t : List (κ × ν)} (hn : (keys t).Nodup) {key : κ} {value : ν}
    (h : get? t key = some value) : t.Perm ((key, value) :: remove t key) := by
  induction t with
  | nil => simp at h
  | cons p t ih =>
    obtain ⟨k, v⟩ := p
    obtain ⟨hk, hn⟩ := List.nodup_cons.1 hn
    by_cases e : k = key
    · subst e
      have hv : v = value := by simpa [get?] using h
      have hr : remove ((k, v) :: t) k = remove t k := by simp [remove]
      rw [hr, hv, remove_of_notMem hk]
    · rw [get?, if_neg e] at h
      have hr : remove ((k, v) :: t) key = (k, v) :: remove t key := by simp [remove, e]
      rw [hr]
      exact ((ih hn h).cons _).trans (.swap _ _ _)

theorem get?_of_get?_remove {t : List (κ × ν)} (hn : (keys t).Nodup) {key k : κ} {value : ν}
    (h : get? (remove t key) k = some value) : get? t k = some value :=
  get?_of_mem hn (List.mem_filter.1 (mem_of_get? h)).1

theorem get?_remove_self (t : List (κ × ν)) (key : κ) : get? (remove t key) key = none :=
  get?_eq_none_iff.2 (by simp [keys_remove])

theorem mem_keys_of_get? {t : List (κ × ν)} {key : κ} {value : ν} (h : get? t key = some value) :
    key ∈ keys t := List.mem_map_of_mem (mem_of_get? h)

theorem mem_keys_put {t : List (κ × ν)} {key k : κ} {value : ν} :
    k ∈ keys (put t key value) ↔ k ∈ keys t ∨ k = key := by
  rw [keys_put, keys_remove, List.mem_cons, List.mem_filter]
  by_cases h : k = key <;> simp [h]

theorem get?_append (t u : List (κ × ν)) (key : κ) :
    get? (t ++ u) key = (get? t key).or (get? u key) := by
  induction t with
  | nil => rfl
  | cons p t ih =>
    obtain ⟨k, v⟩ := p
    rw [List.cons_append, get?, get?, ih]
    split <;> rfl

theorem get?_append_of_some {t u : List (κ × ν)} {key : κ} {value : ν}
    (h : get? t key = some value) : get? (t ++ u) key = some value := by
  rw [get?_append, h]
  rfl

/-- What stands under a key does not depend on the order of the table. -/
theorem get?_perm {t u : List (κ × ν)} (hn : (keys t).Nodup) (h : t.Perm u) (key : κ) :
    get? t key = get? u key := by
  have hu : (keys u).Nodup := (h.map Prod.fst).nodup_iff.1 hn
  cases ht : get? t key with
  | some value => exact (get?_of_mem hu (h.mem_iff.1 (mem_of_get? ht))).symm
  | none =>
    symm
    rw [get?_eq_none_iff] at ht ⊢
    intro hk
    exact ht ((h.map Prod.fst).mem_iff.2 hk)

theorem get?_update_of_ne {t : List (κ × ν)} {key k : κ} (h : k ≠ key) (new : ν) :
    get? (update t key new) k = get? t k := by
  induction t with
  | nil => rfl
  | cons p t ih =>
    obtain ⟨k', v⟩ := p
    have hu : update ((k', v) :: t) key new =
        (if k' = key then (key, new) else (k', v)) :: update t key new := rfl
    rw [hu]
    by_cases hk : k' = key
    · have hne : key ≠ k := fun e => h e.symm
      rw [if_pos hk, get?, if_neg hne, ih, get?, if_neg (hk ▸ hne)]
    · rw [if_neg hk, get?, get?, ih]

theorem get?_update_self {t : List (κ × ν)} {key : κ} {value : ν} (h : get? t key = some value)
    (new : ν) : get? (update t key new) key = some new := by
  induction t with
  | nil => cases h
  | cons p t ih =>
    obtain ⟨k, v⟩ := p
    have hu : update ((k, v) :: t) key new =
        (if k = key then (key, new) else (k, v)) :: update t key new := rfl
    rw [hu]
    by_cases hk : k = key
    · rw [if_pos hk, get?, if_pos rfl]
    · rw [get?, if_neg hk] at h
      rw [if_neg hk, get?, if_neg hk]
      exact ih h

theorem get?_append_self {t : List (κ × ν)} {key : κ} (h : get? t key = none) (value : ν) :
    get? (t ++ [(key, value)]) key = some value := by
  rw [get?_append, h]
  simp [get?]

theorem get?_append_other {t : List (κ × ν)} {key k : κ} (h : k ≠ key) (value : ν) :
    get? (t ++ [(key, value)]) k = get? t k := by
  rw [get?_append]
  simp [get?, h.symm]

/-- The value that was entered last is changed. -/
theorem update_append_self {t : List (κ × ν)} {key : κ} (h : get? t key = none) (value new : ν) :
    update (t ++ [(key, value)]) key new = t ++ [(key, new)] := by
  rw [update, List.map_append]
  congr 1
  · refine (List.map_congr_left fun p hp => ?_).trans (List.map_id t)
    have : p.1 ≠ key := fun e => get?_eq_none_iff.1 h (e ▸ List.mem_map_of_mem hp)
    simp [this]
  · simp

theorem remove_append_self {t : List (κ × ν)} {key : κ} (h : get? t key = none) (value : ν) :
    remove (t ++ [(key, value)]) key = t := by
  have hr : remove t key = t := remove_of_notMem (get?_eq_none_iff.1 h)
  rw [remove, List.filter_append, ← remove, hr]
  simp

theorem remove_cons_self {t : List (κ × ν)} {key : κ} (h : get? t key = none) (value : ν) :
    remove ((key, value) :: t) key = t := by
  have hr : remove t key = t := remove_of_notMem (get?_eq_none_iff.1 h)
  rw [remove, List.filter_cons_of_neg (by simp), ← remove, hr]

theorem put_cons_self {t : List (κ × ν)} {key : κ} (h : get? t key = none) (value new : ν) :
    put ((key, value) :: t) key new = (key, new) :: t :=
  congrArg (List.cons _) (remove_cons_self h value)

theorem put_of_none {t : List (κ × ν)} {key : κ} (h : get? t key = none) (value : ν) :
    put t key value = (key, value) :: t :=
  congrArg (List.cons _) (remove_of_notMem (get?_eq_none_iff.1 h))

theorem get?_append_cases {t : List (κ × ν)} (hn : (keys t).Nodup) {key k : κ} {new value : ν}
    (h : get? (t ++ [(key, new)]) k = some value) : get? t k = some value ∨ value = new := by
  rcases List.mem_append.1 (mem_of_get? h) with h | h
  · exact .inl (get?_of_mem hn h)
  · cases List.mem_singleton.1 h
    exact .inr rfl

theorem get?_update_cases {t : List (κ × ν)} (hn : (keys t).Nodup) {key k : κ} {new value : ν}
    (h : get? (update t key new) k = some value) :
    get? t k = some value ∨ k = key ∧ value = new := by
  obtain ⟨p, hp, he⟩ := List.mem_map.1 (mem_of_get? h)
  split at he
  · cases he
    exact .inr ⟨rfl, rfl⟩
  · subst he
    exact .inl (get?_of_mem hn hp)

/-- Changing a value is removing it and entering the new one. -/
theorem perm_update {t : List (κ × ν)} (hn : (keys t).Nodup) {key : κ} {value new : ν}
    (h : get? t key = some value) : (update t key new).Perm ((key, new) :: remove t key) := by
  have hp := (perm_of_get? hn h).map fun p => if p.1 = key then (key, new) else p
  refine hp.trans (List.Perm.of_eq ?_)
  rw [List.map_cons, if_pos rfl]
  congr 1
  conv_rhs => rw [← List.map_id (remove t key)]
  refine List.map_congr_left fun p hp => ?_
  have : p.1 ≠ key := by simpa using (List.mem_filter.1 hp).2
  simp [this]

end

/-! ## Tables in the order of their keys -/

section
variable {t u : List (String × ν)} {key : String} {value : ν}

theorem get?_putSorted (t : List (String × ν)) (key other : String) (value : ν) :
    get? (putSorted t key value) other = if key = other then some value else get? t other := by
  induction t with
  | nil => rfl
  | cons p t ih =>
    obtain ⟨k, v⟩ := p
    rw [putSorted]
    by_cases hk : key = k
    · subst hk
      rw [if_pos rfl, get?, get?]
      by_cases ho : key = other
      · rw [if_pos ho, if_pos ho]
      · rw [if_neg ho, if_neg ho, if_neg ho]
    · rw [if_neg hk]
      split
      · rw [get?]
      · rw [get?, get?, ih]
        by_cases ho : key = other
        · have hko : k ≠ other := fun e => hk (ho.trans e.symm)
          rw [if_pos ho, if_pos ho, if_neg hko]
        · rw [if_neg ho, if_neg ho]

/-- The new entry's key stands among the old ones, in its order. -/
theorem keys_putSorted (h : (keys t).Pairwise (· < ·)) :
    (keys (putSorted t key value)).Pairwise (· < ·) ∧
      ∀ k ∈ keys (putSorted t key value), k = key ∨ k ∈ keys t := by
  induction t with
  | nil => simp [putSorted, keys]
  | cons p t ih =>
    obtain ⟨k, v⟩ := p
    obtain ⟨first, rest⟩ := List.pairwise_cons.1 h
    rw [putSorted]
    by_cases hk : key = k
    · subst hk
      rw [if_pos rfl]
      exact ⟨h, fun _ => .inr⟩
    · rw [if_neg hk]
      split
      · rename_i hlt
        refine ⟨List.pairwise_cons.2 ⟨?_, h⟩, fun _ => List.mem_cons.1⟩
        intro k' hk'
        rcases List.mem_cons.1 hk' with rfl | hk'
        · exact hlt
        · exact String.lt_trans hlt (first k' hk')
      · rename_i hlt
        have hgt : k < key := ((Std.lt_trichotomy key k).resolve_left hlt).resolve_left hk
        obtain ⟨sorted, mem⟩ := ih rest
        constructor
        · refine List.pairwise_cons.2 ⟨?_, sorted⟩
          intro k' hk'
          rcases mem k' hk' with rfl | hk'
          · exact hgt
          · exact first k' hk'
        · intro k' hk'
          rcases List.mem_cons.1 hk' with rfl | hk'
          · exact .inr List.mem_cons_self
          · exact (mem k' hk').imp_right (List.mem_cons_of_mem _)

/-- A table in the order of its keys is what is found in it. -/
theorem eq_of_get? (ht : (keys t).Pairwise (· < ·)) (hu : (keys u).Pairwise (· < ·))
    (h : ∀ key, get? t key = get? u key) : t = u := by
  have distinct {t : List (String × ν)} (ht : (keys t).Pairwise (· < ·)) : (keys t).Nodup := by
    refine ht.imp ?_
    rintro a b hlt rfl
    exact String.lt_irrefl _ hlt
  have found {t u : List (String × ν)} (ht : (keys t).Pairwise (· < ·))
      (h : ∀ key, get? t key = get? u key) {p : String × ν} (hp : p ∈ t) : p ∈ u :=
    mem_of_get? ((h p.1).symm.trans (get?_of_mem (distinct ht) hp))
  have perm : t.Perm u := by
    refine (List.perm_ext_iff_of_nodup (List.Nodup.of_map Prod.fst (distinct ht))
      (List.Nodup.of_map Prod.fst (distinct hu))).2 fun p => ?_
    exact ⟨found ht h, found hu fun key => (h key).symm⟩
  have ordered : t.Pairwise fun p r => p.1 < r.1 := List.pairwise_map.1 ht
  have ordered' : u.Pairwise fun p r => p.1 < r.1 := List.pairwise_map.1 hu
  refine perm.eq_of_pairwise ?_ ordered ordered'
  intro p r _ _ hlt hgt
  exact absurd hgt (String.lt_asymm hlt)

end

/-! ## What the values of a table come to -/

variable {M : Type} [AddCommMonoid M] (f : ν → M)

/-- What the values of a table come to together. -/
def total (t : List (κ × ν)) : M := (t.map fun p => f p.2).sum

theorem total_perm {t u : List (κ × ν)} (h : t.Perm u) : total f t = total f u :=
  (h.map _).sum_eq

@[simp] theorem total_nil : total f ([] : List (κ × ν)) = 0 := rfl

@[simp] theorem total_cons (p : κ × ν) (t : List (κ × ν)) : total f (p :: t) = f p.2 + total f t :=
  List.sum_cons

theorem total_append (t u : List (κ × ν)) : total f (t ++ u) = total f t + total f u := by
  simp [total]

section
variable [DecidableEq κ]

theorem total_of_get? {t : List (κ × ν)} (hn : (keys t).Nodup) {key : κ} {value : ν}
    (h : get? t key = some value) : total f t = f value + total f (remove t key) := by
  rw [total_perm f (perm_of_get? hn h), total_cons]

theorem total_put (t : List (κ × ν)) (key : κ) (value : ν) :
    total f (put t key value) = f value + total f (remove t key) := total_cons f _ _

theorem total_put_of_none {t : List (κ × ν)} {key : κ} (h : get? t key = none) (value : ν) :
    total f (put t key value) = f value + total f t := by
  rw [total_put, remove_of_notMem (get?_eq_none_iff.1 h)]

theorem total_update {t : List (κ × ν)} (hn : (keys t).Nodup) {key : κ} {value : ν}
    (h : get? t key = some value) (new : ν) :
    total f (update t key new) = f new + total f (remove t key) := by
  rw [total_perm f (perm_update hn h), total_cons]

end

end SessionPool.Table
