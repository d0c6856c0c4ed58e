import SessionPool.Proofs.Run

/-!
# Courses

A course (`Site.Course`) is what a pool has gone through since it was opened: each state that it was
in, with the move that was made there. It is what statements about the past are made of; every state
that can be reached has one (`Site.Reachable.course`).
-/

set_option autoImplicit false

namespace SessionPool.Site

/-- A pool and its surroundings, and the move that is made there. -/
structure Moment where
  env : Env
  site : Site
  move : Move

/-- What a pool has gone through since it was opened, the latest first, and where it is now. -/
inductive Course : List Moment → Env → Site → Prop
  | created {env env' : Env} {settings : PoolSettings} {options : ConnectOptions} {hooks : Hooks}
      {s : Site} (h : create env settings options hooks = (env', .ok s)) : Course [] env' s
  | moved {past : List Moment} {env env' : Env} {s s' : Site} {mv : Move} (h : Course past env s)
      (hm : s.move? env mv = some (env', s')) : Course (⟨env, s, mv⟩ :: past) env' s'

variable {env env' : Env} {s s' : Site} {past : List Moment}

theorem Course.reachable (h : Course past env s) : Reachable env s := by
  induction h with
  | created h => exact .created h
  | moved _ hm ih => exact ih.moved hm

theorem Reachable.course (h : Reachable env s) : ∃ past, Course past env s := by
  induction h with
  | created h => exact ⟨[], .created h⟩
  | moved _ hm ih =>
    obtain ⟨past, hp⟩ := ih
    exact ⟨_, hp.moved hm⟩

/-- Moves in a row are the latest of the course that they lead to. -/
theorem Course.moves {mvs : List Move} (h : Course past env s)
    (hm : moves? env s mvs = some (env', s')) :
    ∃ later, later.map Moment.move = mvs.reverse ∧ Course (later ++ past) env' s' := by
  induction mvs generalizing past env s with
  | nil =>
    cases hm
    exact ⟨[], rfl, h⟩
  | cons mv rest ih =>
    obtain ⟨x, hx, hm⟩ := Option.bind_eq_some_iff.1 hm
    obtain ⟨later, hl, course⟩ := ih (h.moved hx) hm
    refine ⟨later ++ [⟨env, s, mv⟩], ?_, ?_⟩
    · rw [List.map_append, hl, List.reverse_cons]
      rfl
    · rwa [List.append_assoc, List.singleton_append]

/-- What a replay comes to has a course of just these moves. -/
theorem Course.of_replay (settings : PoolSettings) (mvs : List Move) (P : Env × Site → Bool)
    (h : (replay settings mvs).any P = true) :
    ∃ past x, P x = true ∧ past.map Moment.move = mvs.reverse ∧ Course past x.1 x.2 := by
  obtain ⟨x, hx, hP⟩ := (Option.any_eq_true _ _).1 h
  unfold replay at hx
  split at hx
  · rename_i hc
    obtain ⟨later, hl, course⟩ := (Course.created hc).moves hx
    exact ⟨later ++ [], x, hP, by rw [List.append_nil, hl], course⟩
  · cases hx

end SessionPool.Site
