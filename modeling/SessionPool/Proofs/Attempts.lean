import SessionPool.Proofs.Course
import SessionPool.Proofs.Errand

/-!
# Attempts to open a session

A worker that is to add a member makes its attempts one after the other. If it gives up the room for
the session because of an error, each of its attempts has failed, the last one with this error; if
it does so because the pool is closed, then the pool is closed (`Site.Course.tried`).
-/

set_option autoImplicit false

namespace SessionPool

def Opening.Fails (o : Opening) (env : Env) (p : Pool) (e : SessionError) : Prop :=
  ∃ env' q, o.step env p = some (env', q, .done (.error e))

namespace Site

variable {env env' : Env} {s s' : Site} {past : List Moment} {mv : Move} {k i : Nat}
  {waiter : Option Nat} {e : SessionError}

def Moment.FailsAttempt (y : Moment) (k : Nat) (waiter : Option Nat) (i : Nat) (e : SessionError) :
    Prop :=
  y.move = .step (.worker k) ∧ ∃ a o, Table.get? y.site.jobs k = some (.adding a) ∧
    a.waiter = waiter ∧ a.attempt = i ∧ a.phase = .opening o ∧ o.Fails y.env y.site.pool e

/-- An attempt that the worker has made in its present job has failed. -/
def HasFailed (past : List Moment) (k : Nat) (waiter : Option Nat) (i : Nat) (e : SessionError) :
    Prop :=
  ∃ later y earlier, past = later ++ y :: earlier ∧ y.FailsAttempt k waiter i e ∧
    ∀ z ∈ later, ∃ a, Table.get? z.site.jobs k = some (.adding a) ∧ a.waiter = waiter

theorem HasFailed.later (h : HasFailed past k waiter i e) {a : Adding}
    (hg : Table.get? s.jobs k = some (.adding a)) (hw : a.waiter = waiter) :
    HasFailed (⟨env, s, mv⟩ :: past) k waiter i e := by
  obtain ⟨later, y, earlier, rfl, hy, hs⟩ := h
  refine ⟨⟨env, s, mv⟩ :: later, y, earlier, rfl, hy, ?_⟩
  rintro z (_ | ⟨_, hz⟩)
  · exact ⟨a, hg, hw⟩
  · exact hs z hz

/-- What has come before the phase in which the job is. -/
def PhaseTried (past : List Moment) (k : Nat) (waiter : Option Nat) (i : Nat) (p : Pool) :
    AddingPhase → Prop
  | .opening _ | .joining _ _ => True
  | .failing e => HasFailed past k waiter i e
  | .resting _ => i < Adding.attempts p ∧ ∃ e, HasFailed past k waiter i e
  | .releasing e => (e = .closed ∧ p.closed = true) ∨
    ∃ e', e = .connect e' ∧ i = Adding.attempts p ∧ HasFailed past k waiter i e'

/-- How a worker has come to where it is with the session that it adds. -/
structure Tried (past : List Moment) (k : Nat) (a : Adding) (p : Pool) : Prop where
  first : 1 ≤ a.attempt
  last : a.attempt ≤ Adding.attempts p
  failed : ∀ i, 1 ≤ i → i < a.attempt → ∃ e, HasFailed past k a.waiter i e
  phase : PhaseTried past k a.waiter a.attempt p a.phase

theorem Tried.later {a : Adding} {q : Pool} (h : Tried past k a s.pool)
    (hg : Table.get? s.jobs k = some (.adding a)) (hs : s.pool.Steady q) :
    Tried (⟨env, s, mv⟩ :: past) k a q := by
  have attempts := hs.attempts
  refine ⟨h.first, attempts ▸ h.last, fun i hi hl => ?_, ?_⟩
  · exact (h.failed i hi hl).imp fun e he => he.later hg rfl
  · have hp := h.phase
    revert hp
    cases a.phase with
    | opening | joining => exact id
    | failing e => exact fun hp => HasFailed.later hp hg rfl
    | resting timer => exact fun ⟨hl, e, hp⟩ => ⟨attempts ▸ hl, e, hp.later hg rfl⟩
    | releasing e =>
      exact Or.imp (fun ⟨he, hc⟩ => ⟨he, hs.closed hc⟩)
        fun ⟨e', he, hi, hp⟩ => ⟨e', he, attempts ▸ hi, hp.later hg rfl⟩

theorem Tried.inPhase {a : Adding} {p : Pool} (h : Tried past k a p) {phase : AddingPhase}
    (hp : PhaseTried past k a.waiter a.attempt p phase) : Tried past k (a.inPhase phase) p :=
  ⟨h.first, h.last, h.failed, hp⟩

theorem tried_fail {a a' : Adding} {q : Pool} (h : Tried past k a q)
    (hf : HasFailed past k a.waiter a.attempt e) (hsteady : s.pool.Steady q)
    (hs : a.fail env s.pool e = (env', q, .more a')) : Tried past k a' q := by
  unfold Adding.fail at hs
  dsimp only at hs
  split at hs
  · rename_i hn
    cases hs
    exact h.inPhase (.inl ⟨rfl, hsteady.closed hn⟩)
  · split at hs
    · rename_i hl
      cases hs
      exact h.inPhase (.inr ⟨e, rfl, hl, hf⟩)
    · rename_i hl
      cases hs
      exact h.inPhase ⟨Nat.lt_of_le_of_ne h.last hl, e, hf⟩

theorem tried_step {a a' : Adding} {q : Pool} (h : Tried past k a s.pool) (ho : s.OrderlyShut)
    (hg : Table.get? s.jobs k = some (.adding a)) (hsteady : s.pool.Steady q)
    (hs : a.step env s.pool = some (env', q, .more a')) :
    Tried (⟨env, s, .step (.worker k)⟩ :: past) k a' q := by
  have kept : Tried (⟨env, s, .step (.worker k)⟩ :: past) k a q := h.later hg hsteady
  have shut (hc : s.pool.crew.stopped = true) :
      Tried (⟨env, s, .step (.worker k)⟩ :: past) k (a.inPhase (.releasing .closed)) q :=
    kept.inPhase (.inl ⟨rfl, hsteady.closed (ho.stopped hc)⟩)
  have hk := kept.phase
  unfold Adding.step at hs
  split at hs <;> rename_i hp <;> rw [hp] at hk
  · rename_i o
    split at hs
    · rename_i hc
      obtain ⟨-, -, rfl⟩ := by simpa using hs
      exact shut hc
    · obtain ⟨⟨env₁, p, next⟩, hopen, he⟩ := Option.map_eq_some_iff.1 hs
      rcases next with o' | (e | ⟨m, elapsed⟩) <;> cases he
      · exact kept.inPhase trivial
      · refine kept.inPhase ⟨[], _, past, rfl, ⟨rfl, a, o, hg, rfl, rfl, hp, _, _, hopen⟩, ?_⟩
        simp
      · exact kept.inPhase trivial
  · cases hs
  · exact tried_fail kept hk hsteady (Option.some.inj hs)
  · split at hs
    · rename_i hc
      obtain ⟨-, -, rfl⟩ := by simpa using hs
      exact shut hc
    · obtain ⟨-, -, -, rfl⟩ := by simpa using hs
      -- the attempt that came before the rest is one of those that have failed now
      refine ⟨Nat.le_add_left 1 _, hk.1, fun i hi hl => ?_, trivial⟩
      rcases Nat.lt_succ_iff_lt_or_eq.1 hl with hl | rfl
      · exact kept.failed i hi hl
      · exact hk.2
  · cases hs

/-- **A worker gives up a room** when all its attempts have failed, or when the pool is closed. -/
theorem Course.tried (h : Course past env s) {a : Adding}
    (hg : Table.get? s.jobs k = some (.adding a)) : Tried past k a s.pool := by
  induction h generalizing a with
  | created h =>
    obtain ⟨p, -, -, -, -, -, -, rfl⟩ := create_ok h
    cases hg
  | @moved past env env' s s' mv hp hm ih =>
    have hr := hp.reachable
    have steady := hr.steady hm
    rcases job_origin hr.keyed hm hg with hj | ⟨j, rfl, hj, hs⟩ | ⟨c, t, -, -, ht⟩
    · exact (ih hj).later hj steady
    · cases Job.goesOn hs with
      | adding ha => exact tried_step (ih hj) hr.orderlyShut hj steady ha
    · cases t with
      | add waiter =>
        cases ht
        exact ⟨le_rfl, le_max_right _ _, fun i hi hl => absurd hl (Nat.not_lt.2 hi), trivial⟩
      | restore | close | maintain => cases ht

end Site

end SessionPool
