import SessionPool.Proofs.Powers
import SessionPool.Proofs.Staff

/-!
# Moves made outside

A member that nobody is to wait for is closed on the side if the crew cannot do it. Where a user
makes a move outside, there is nobody who could: the members that were to be closed on the side are
dropped as they are (`Site.stranded`), and everything else goes as usual (`Site.outside`).

A pool that has dropped a member could also have come to be what it is by closing it, so that
whatever is true of a pool in all runs is true of it then, too (`Site.Reachable.outside`). An open
pool drops no member but one whose reset or probe is broken off (`Site.interrupted_of_stranded`).
-/

set_option autoImplicit false

namespace SessionPool.Site

variable {env env' : Env} {s s' : Site} {mv : Move}

/-- Whether it is for the users to make the move. -/
def Move.isUsers : Move → Bool
  | .step (.user _) | .acquire _ _ | .wait _ _ | .check _ | .close _ | .release _ _ | .misplace _ _
  | .cancel _ | .tryAcquire | .giveBack _ | .leaveBehind _ | .detach _ | .use _ _ | .resize _ _
  | .resetCounters | .readOutcome _ => true
  | .step (.worker _) | .step (.ticker _) | .step (.closer _) | .pass _ => false

/-- The members that are to be closed on the side since the move that has led to `s'`. -/
def stranded (s s' : Site) : List Member := s'.pool.leaving.drop s.pool.leaving.length

/-- What `s` comes to if the move that leads to `s'` is made outside. -/
def outside (s s' : Site) : Site :=
  { s' with pool := { s'.pool with leaving := s.pool.leaving } }

theorem not_departing (hu : mv.isUsers = true) : ¬ s.powers mv .depart := by
  intro h
  cases wields h with
  | @job _ j _ _ h => cases hu
  | @operation _ o _ _ h =>
    cases o with
    | acquire | release | close | misplace | wait | check => exact h.elim
  | depart => cases hu

theorem leaving_eq (hs : s.OrderlyShut) (hm : s.move? env mv = some (env', s'))
    (hu : mv.isUsers = true) : s'.pool.leaving = s.pool.leaving ++ s.stranded s' :=
  List.prefix_iff_eq_append.1 ((changes_move hs hm).leaving (not_departing hu)) |>.symm

/-! ## Closing instead of dropping -/

/-- A pool comes to have fewer members that are about to be closed. -/
theorem moves?_closers (env : Env) {kept gone : List Member}
    (hl : s.pool.leaving = kept ++ gone) (ha : (s.pool.leaving.map Member.id).Nodup) :
    ∃ mvs, moves? env s mvs = some (env, { s with pool := { s.pool with leaving := kept } }) := by
  induction gone using List.reverseRecOn generalizing s with
  | nil =>
    rw [List.append_nil] at hl
    exact ⟨[], by rw [← hl]; rfl⟩
  | append_singleton gone m ih =>
    rw [← List.append_assoc] at hl
    have closed := step_closer_last env hl ha
    rw [hl, List.map_append] at ha
    obtain ⟨mvs, hm⟩ := ih (s := { s with pool := { s.pool with leaving := kept ++ gone } }) rfl
      ha.of_append_left
    have back (t : Site) : t.move? (m.close env) (.pass env) = some (env, t) :=
      if_pos (Nat.le_refl env.now.nanos)
    refine ⟨.step (.closer m.id) :: .pass env :: mvs, ?_⟩
    exact Option.bind_eq_some_iff.2 ⟨_, closed, Option.bind_eq_some_iff.2 ⟨_, back _, hm⟩⟩

theorem Lawful.moves {mvs : List Move} (h : s.Lawful)
    (hm : moves? env s mvs = some (env', s')) : s'.Lawful := by
  induction mvs generalizing env s with
  | nil =>
    cases hm
    exact h
  | cons mv rest ih =>
    obtain ⟨x, hx, hm⟩ := Option.bind_eq_some_iff.1 hm
    exact ih (h.move hx) hm

/-- **A pool that drops members could also have closed them.** -/
theorem Reachable.outside (h : Reachable env s) (hm : s.move? env mv = some (env', s'))
    (hu : mv.isUsers = true) : Reachable env' (s.outside s') := by
  obtain ⟨mvs, hc⟩ := moves?_closers env' (leaving_eq h.orderlyShut hm hu)
    (leavingApart (h.moved hm).balanced)
  exact (h.moved hm).moves hc

theorem Lawful.outside (h : s.Lawful) (hm : s.move? env mv = some (env', s'))
    (hu : mv.isUsers = true) : (s.outside s').Lawful := by
  obtain ⟨mvs, hc⟩ := moves?_closers env' (leaving_eq h.shut hm hu)
    (leavingApart (h.move hm).balanced)
  exact (h.move hm).moves hc

/-! ## Open pools -/

theorem leaving_breakOff (p : Pool) (m : Member) : (p.breakOff m).leaving = p.leaving ++ [m] := by
  show (p.drop 1).topUp.leaving ++ [m] = p.leaving ++ [m]
  rw [Pool.topUp_eq]
  rfl

theorem cancel_of_interrupted {o : Operation} {m : Member} (h : o.interrupted? = some m)
    (env : Env) (p : Pool) : (o.cancel env p).2 = p.breakOff m := by
  cases o with
  | release r =>
    cases r <;> cases h
    rfl
  | check c =>
    cases c <;> cases h
    rfl
  | acquire | misplace | wait | close => cases h

/-- Nobody stops the crew of a pool before the pool is closed. -/
theorem Lawful.working (h : s.Lawful) (hc : s.pool.closed = false)
    (hm : s.move? env mv = some (env', s')) : s'.pool.crew.stopped = false := by
  rcases (staffing_move hm).goesOn h.staffed.busy with goesOn | ⟨n, idle, hg, -⟩
  · exact goesOn.stopped.trans (Bool.eq_false_iff.2 fun hs => by simp [h.shut.stopped hs] at hc)
  · cases hc.symm.trans (h.shut.operations n _ hg rfl)

/-- **An open pool drops no member outside** but one whose reset or probe is broken off. -/
theorem interrupted_of_stranded (h : s.Lawful) (hc : s.pool.closed = false)
    (hm : s.move? env mv = some (env', s')) (hu : mv.isUsers = true) {m : Member}
    (hs : m ∈ s.stranded s') :
    ∃ n o, mv = .cancel n ∧ Table.get? s.operations n = some o ∧ o.interrupted? = some m := by
  by_cases hb : s.powers mv .breakOff
  · cases wields hb with
    | @job _ j _ _ h => cases hu
    | @operation _ o _ _ h =>
      cases o with
      | acquire | release | close | misplace | wait | check => exact h.elim
    | @breakOff n o m' hg hi =>
      have one : s.stranded s' = [m'] := by
        cases moved hm with
        | @cancelled _ o' hg' _ =>
          obtain rfl := Option.some.inj (hg.symm.trans hg')
          rw [stranded, cancel_of_interrupted hi, leaving_breakOff]
          exact List.drop_left
        | unheld hv => rcases hv with hv | hv | hv <;> cases hv
      rw [one, List.mem_singleton] at hs
      exact ⟨n, o, rfl, hg, hs ▸ hi⟩
  · have same := (changes_move h.shut hm).leaving_eq hb (not_departing hu) (h.working hc hm)
    rw [stranded, same, List.drop_length] at hs
    cases hs

end SessionPool.Site
