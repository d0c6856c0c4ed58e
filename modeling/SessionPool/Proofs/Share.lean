import Mathlib.Data.List.Nodup
import Mathlib.Tactic.Abel
import SessionPool.Pool.Site
import SessionPool.Proofs.Table

/-!
# What a site comes to

What users, jobs and operations have in hand adds up (`Site.sum`). Each of them has its share in the
sum, and what one of them does leaves the shares of the others alone.
-/

set_option autoImplicit false

namespace SessionPool

/-- A member is taken out of a list by its number. -/
theorem Member.perm_find {ms : List Member} (hd : (ms.map Member.id).Nodup) {id : Nat} {m : Member}
    (h : ms.find? (fun m => m.id = id) = some m) :
    ms.Perm (m :: ms.filter fun m => !decide (m.id = id)) := by
  have hm := List.mem_of_find?_eq_some h
  have hi : m.id = id := by simpa using List.find?_some h
  have hf : (ms.filter fun m => !decide (m.id = id)) = ms.erase m := by
    rw [(List.Nodup.of_map _ hd).erase_eq_filter]
    refine List.filter_congr fun x hx => ?_
    have : x.id = id ↔ x = m := ⟨fun e => List.inj_on_of_nodup_map hd hx hm (e.trans hi.symm),
      fun e => e ▸ hi⟩
    by_cases e : x = m <;> simp [e, hi, this]
  rw [hf]
  exact List.perm_cons_erase hm

namespace Site

variable {M : Type} [AddCommMonoid M] (f : Member → M) (g : Job → M) (h : Operation → M)
  {s : Site}

/-- What the members that users hold, the jobs and the operations come to together. -/
def sum (s : Site) : M :=
  (s.held.map f).sum + Table.total g s.jobs + Table.total h s.operations

/-- What users are handed at the end of an operation. -/
def handed : Outcome → M
  | .served m => f m
  | .done | .failed _ => 0

/-- A job has its share, and the others have theirs. -/
theorem sum_job (hk : (Table.keys s.jobs).Nodup) {k : Nat} {j : Job}
    (hg : Table.get? s.jobs k = some j) :
    s.sum f g h = g j + { s with jobs := Table.remove s.jobs k }.sum f g h := by
  rw [sum, Table.total_of_get? g hk hg]
  simp only [sum]
  abel

theorem sum_putJob (k : Nat) (j : Job) :
    { s with jobs := Table.put s.jobs k j }.sum f g h =
      g j + { s with jobs := Table.remove s.jobs k }.sum f g h := by
  simp only [sum, Table.total_put]
  abel

/-- A worker takes up a job. -/
theorem sum_takeJob {k : Nat} (hg : Table.get? s.jobs k = none) (j : Job) :
    { s with jobs := Table.put s.jobs k j }.sum f g h = g j + s.sum f g h := by
  simp only [sum, Table.total_put_of_none _ hg]
  abel

theorem sum_operation (hk : (Table.keys s.operations).Nodup) {n : Nat} {o : Operation}
    (hg : Table.get? s.operations n = some o) :
    s.sum f g h = h o + { s with operations := Table.remove s.operations n }.sum f g h := by
  rw [sum, Table.total_of_get? h hk hg]
  simp only [sum]
  abel

theorem sum_updateOperation (hk : (Table.keys s.operations).Nodup) {n : Nat} {o : Operation}
    (hg : Table.get? s.operations n = some o) (o' : Operation) :
    { s with operations := Table.update s.operations n o' }.sum f g h =
      h o' + { s with operations := Table.remove s.operations n }.sum f g h := by
  simp only [sum, Table.total_update _ hk hg]
  abel

theorem sum_start (n : Nat) (o : Operation) :
    (s.start n o).sum f g h = s.sum f g h + h o := by
  simp only [sum, start, Table.total_append, Table.total_cons, Table.total_nil]
  abel

theorem sum_conclude (n : Nat) (outcome : Outcome) :
    (s.conclude n outcome).sum f g h =
      handed f outcome + { s with operations := Table.remove s.operations n }.sum f g h := by
  cases outcome with
  | served m =>
    simp only [sum, conclude, handed, List.map_append, List.sum_append, List.map_singleton,
      List.sum_singleton]
    abel
  | done => exact (zero_add _).symm
  | failed e => exact (zero_add _).symm

theorem sum_hold (m : Member) :
    { s with held := s.held ++ [m] }.sum f g h = f m + s.sum f g h := by
  simp only [sum, List.map_append, List.sum_append, List.map_singleton, List.sum_singleton]
  abel

/-- A member that a user lets go is in the hands of whoever takes it. -/
theorem sum_letGo {id : Nat} {m : Member} (hp : s.held.Perm (m :: (s.letGo id).held)) :
    s.sum f g h = f m + (s.letGo id).sum f g h := by
  rw [sum, (hp.map f).sum_eq, List.map_cons, List.sum_cons]
  simp only [sum, letGo]
  abel

end Site

end SessionPool
