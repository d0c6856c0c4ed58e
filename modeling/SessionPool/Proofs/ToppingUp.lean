import SessionPool.Pool.State
import SessionPool.Proofs.Crew

/-!
# How many sessions are opened

To top up, a pool goes round as long as it wants one session more (`Pool.Round`). Each round lowers
the number of those that are missing by one (`Pool.missing_round`), and a pool that misses none goes
round no more; so it comes to an end, and what it has ordered by then is what was missing in the
beginning (`Pool.topUp_exact`).
-/

set_option autoImplicit false

namespace SessionPool

namespace Pool

variable {p q : Pool}

/-! ## What is missing -/

/-- How many more sessions the pool needs: as many as `minSize` asks for, and one on its way for
each request that waits. -/
def need (p : Pool) : Nat := max (p.minSize - p.size) (p.waiting.length - p.opening)

/-- How many more there is room for; `none` if there is no limit. -/
def room? (p : Pool) : Option Nat := p.maxSize.map fun limit => limit - p.size

def missing (p : Pool) : Nat := p.room?.elim p.need fun room => min p.need room

/-- The pool with `n` more sessions on their way, none of them for a certain request. -/
def order (p : Pool) (n : Nat) : Pool :=
  { p with
    size := p.size + n
    opening := p.opening + n
    crew := { p.crew with tasks := p.crew.tasks ++ List.replicate n (.add none) } }

@[simp] theorem order_zero (p : Pool) : p.order 0 = p := by simp [order]

theorem order_order (p : Pool) (m n : Nat) : (p.order m).order n = p.order (m + n) := by
  simp only [order, Nat.add_assoc, List.append_assoc, List.replicate_append_replicate]

/-- What was ordered is not missing any more. -/
theorem missing_order (p : Pool) (n : Nat) : (p.order n).missing = p.missing - n := by
  have need : (p.order n).need = p.need - n := by
    simp only [Pool.need, order]
    omega
  have room : (p.order n).room? = p.room?.map fun room => room - n := by
    simp only [room?, order, Option.map_map, Nat.sub_add_eq]
    rfl
  unfold missing
  rw [need, room]
  cases p.room? with
  | none => rfl
  | some room =>
    simp only [Option.map_some, Option.elim_some]
    omega

theorem wantsMore_iff : p.wantsMore = true ↔ 0 < p.missing := by
  unfold wantsMore isFull missing need room?
  cases p.maxSize with
  | none =>
    simp only [Option.any_none, Option.map_none, Option.elim_none, Bool.not_false, Bool.and_true,
      Bool.or_eq_true, decide_eq_true_eq]
    omega
  | some limit =>
    simp only [Option.any_some, Option.map_some, Option.elim_some, Bool.and_eq_true,
      Bool.or_eq_true, Bool.not_eq_true', decide_eq_true_eq, decide_eq_false_iff_not]
    omega

/-! ## Round by round -/

/-- The pool wants one more session, and has it opened. -/
def Round (p q : Pool) : Prop := p.wantsMore = true ∧ p.dispatchAdd none = (q, true)

theorem order_of_dispatchAdd (h : p.dispatchAdd none = (q, true)) : q = p.order 1 := by
  rw [dispatchAdd_of_true h]
  rfl

theorem missing_round (h : p.Round q) : q.missing + 1 = p.missing := by
  have wanted : 0 < p.missing := wantsMore_iff.1 h.1
  rw [order_of_dispatchAdd h.2, missing_order]
  omega

/-- No pool goes round for ever. -/
theorem wellFounded_round : WellFounded fun q p : Pool => p.Round q := by
  refine Subrelation.wf (fun {q p} h => ?_) (measure missing).wf
  have round := missing_round h
  show q.missing < p.missing
  omega

/-- With its crew at work, a pool goes round until nothing is missing. -/
theorem addWanted_eq (hs : p.crew.stopped = false) : p.addWanted = p.order p.missing := by
  fun_induction addWanted p with
  | case1 p hw q hq ih =>
    have round : p.Round q := ⟨hw, hq⟩
    have one : q = p.order 1 := order_of_dispatchAdd hq
    have rest : q.addWanted = q.order q.missing := ih (by rw [one]; exact hs)
    rw [rest, one, order_order, ← one, Nat.add_comm, missing_round round]
  | case2 p hw q hq =>
    -- Only a crew that was stopped refuses a task.
    rcases p.crew.dispatch_cases (.add none) with ⟨h, -⟩ | ⟨-, hd⟩
    · rw [hs] at h
      cases h
    · unfold dispatchAdd at hq
      rw [hd] at hq
      cases hq
  | case3 p hw =>
    have nothing : p.missing = 0 := by
      rw [wantsMore_iff] at hw
      omega
    rw [nothing, order_zero]

/-! ## All at once -/

/-- How many sessions a pool has opened when it tops up. -/
def due (p : Pool) : Nat := if p.closed || p.crew.stopped then 0 else p.missing

theorem due_order (p : Pool) (n : Nat) : (p.order n).due = p.due - n := by
  have same : ((p.order n).closed || (p.order n).crew.stopped) = (p.closed || p.crew.stopped) := rfl
  unfold due
  rw [same, missing_order]
  split
  · exact (Nat.zero_sub n).symm
  · rfl

theorem topUp_eq (p : Pool) : p.topUp = p.order p.due := by
  unfold topUp due
  split
  · exact (order_zero p).symm
  · rename_i running
    simp only [Bool.or_eq_true, not_or, Bool.not_eq_true] at running
    exact addWanted_eq running.2

/-- Only a pool to which nothing is due stays as it is. -/
theorem topUp_eq_self_iff : p.topUp = p ↔ p.due = 0 := by
  rw [topUp_eq]
  constructor
  · intro same
    have size : p.size + p.due = p.size := congrArg Pool.size same
    omega
  · intro nothing
    rw [nothing, order_zero]

theorem topUp_topUp (p : Pool) : p.topUp.topUp = p.topUp := by
  rw [topUp_eq_self_iff, topUp_eq p, due_order, Nat.sub_self]

theorem due_le_need (p : Pool) : p.due ≤ p.need := by
  unfold due missing
  split
  · exact Nat.zero_le _
  · cases p.room? with
    | none => exact Nat.le_refl _
    | some room => exact Nat.min_le_left _ _

/-- **Topping up comes to an end and orders what is due**: nothing if the pool is closed or its crew
was stopped, and otherwise as many sessions as it needs, so far as there is room for them. To top up
once more changes nothing. -/
theorem topUp_exact :
    (WellFounded fun q p : Pool => p.Round q) ∧
      ∀ p : Pool, p.topUp = p.order p.due ∧ p.topUp.topUp = p.topUp :=
  ⟨wellFounded_round, fun p => ⟨p.topUp_eq, p.topUp_topUp⟩⟩

example :
    let p : Pool := {
      name := "p", minSize := 4, maxSize := some 6, size := 3, opening := 1
      waiting := { requests := List.replicate 5 default } }
    (p.need, p.room?, p.due, { p with size := 7 }.due) = (4, some 3, 3, 0) := by
  decide

end Pool

end SessionPool
