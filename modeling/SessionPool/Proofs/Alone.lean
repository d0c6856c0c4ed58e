import SessionPool.Pool.Hooks
import SessionPool.Process.Step

/-!
# A process that has its pool to itself

`Alone step moments` says what a process comes to when nobody else makes a step: `moments` are the
surroundings in which it makes its own steps, one after the other, and in between time passes. A
process of which every step leaves less to do, and which makes a step if it waits long enough, comes
to its end (`Alone.length_le`, `Alone.completes`).

A script goes on in the same way after each of its pauses (`Script.Ends`).
-/

set_option autoImplicit false

namespace SessionPool

/-- Time passes, and the surroundings change, but nothing is logged. -/
structure Env.Later (env env' : Env) : Prop where
  now : env.now ≤ env'.now
  log : env'.log = env.log

/-! ## Processes -/

section
variable {π π' ρ ρ' : Type}

/-- A process comes from one stage to another, with a step at each of the moments. -/
inductive Alone (step : Env → Pool → π → Option (Stepped π ρ)) :
    List Env → Env → Pool → Next π ρ → Env → Pool → Next π ρ → Prop
  | here {env : Env} {p : Pool} {next : Next π ρ} : Alone step [] env p next env p next
  | step {env moment env₁ env' : Env} {moments : List Env} {p p₁ p' : Pool} {r : π}
      {next next' : Next π ρ} (later : env.Later moment)
      (h : step moment p r = some (env₁, p₁, next))
      (rest : Alone step moments env₁ p₁ next env' p' next') :
      Alone step (moment :: moments) env p (.more r) env' p' next'

namespace Alone

variable {step : Env → Pool → π → Option (Stepped π ρ)}
  {step' : Env → Pool → π' → Option (Stepped π' ρ')} {f : π → π'} {g : ρ → ρ'}
  {moments : List Env} {env env' : Env} {p p' : Pool} {next next' : Next π ρ}

theorem of_done {outcome : ρ} (h : Alone step moments env p (.done outcome) env' p' next) :
    moments = [] ∧ env' = env ∧ p' = p := by
  cases h
  exact ⟨rfl, rfl, rfl⟩

theorem first {r : π} {outcome : ρ}
    (h : Alone step moments env p (.more r) env' p' (.done outcome)) :
    ∃ moment rest x, moments = moment :: rest ∧ env.Later moment ∧ step moment p r = some x ∧
      Alone step rest x.1 x.2.1 x.2.2 env' p' (.done outcome) := by
  cases h with
  | step later h rest => exact ⟨_, _, _, rfl, later, h, rest⟩

theorem map (hs : ∀ env p r, step' env p (f r) =
      (step env p r).map fun x => (x.1, x.2.1, x.2.2.map f g))
    (h : Alone step moments env p next env' p' next') :
    Alone step' moments env p (next.map f g) env' p' (next'.map f g) := by
  induction h with
  | here => exact .here
  | @step env moment env₁ env' moments p p₁ p' r next next' later h _ ih =>
    apply Alone.step later _ ih
    rw [hs, h]
    rfl

/-- A process that is the part of a larger one comes to what that one comes to. -/
theorem of_map (hs : ∀ env p r, step' env p (f r) =
      (step env p r).map fun x => (x.1, x.2.1, x.2.2.map f g)) {goal : Next π' ρ'}
    (h : Alone step' moments env p (next.map f g) env' p' goal) :
    ∃ next', goal = next'.map f g ∧ Alone step moments env p next env' p' next' := by
  generalize hn : next.map f g = start at h
  induction h generalizing next with
  | here => exact ⟨next, hn.symm, .here⟩
  | step later h _ ih =>
    cases next with
    | done x => cases hn
    | more r =>
      cases hn
      rw [hs] at h
      obtain ⟨⟨env₁, p₁, next₁⟩, hr, he⟩ := Option.map_eq_some_iff.1 h
      cases he
      obtain ⟨next', hg, ha⟩ := ih rfl
      exact ⟨next', hg, .step later hr ha⟩

/-! ### Coming to an end -/

variable {left : Pool → π → Nat}

/-- What is left to do after a step. -/
def leftAfter (left : Pool → π → Nat) (p : Pool) : Next π ρ → Nat
  | .more r => left p r
  | .done _ => 0

def Shrinks (step : Env → Pool → π → Option (Stepped π ρ)) (left : Pool → π → Nat) : Prop :=
  ∀ env p r x, step env p r = some x → leftAfter left x.2.1 x.2.2 < left p r

theorem length_le (hl : Shrinks step left) (h : Alone step moments env p next env' p' next') :
    moments.length + leftAfter left p' next' ≤ leftAfter left p next := by
  induction h with
  | here => simp
  | step later h _ ih =>
    have := hl _ _ _ _ h
    rw [List.length_cons]
    simp only [leftAfter] at this ih ⊢
    omega

/-- A process that never waits forever comes to its end. -/
theorem completes (hl : Shrinks step left)
    (hs : ∀ (env : Env) p r, ∃ moment x, env.Later moment ∧ step moment p r = some x)
    (env : Env) (p : Pool) (next : Next π ρ) :
    ∃ moments env' p' outcome, Alone step moments env p next env' p' (.done outcome) := by
  -- by induction on what is left to do, from any stage
  induction hn : leftAfter left p next using Nat.strongRecOn generalizing env p next with
  | ind n ih =>
    cases next with
    | done outcome => exact ⟨[], env, p, outcome, .here⟩
    | more r =>
      obtain ⟨moment, ⟨env₁, p₁, next⟩, later, h⟩ := hs env p r
      obtain ⟨moments, env', p', outcome, rest⟩ := ih _ (hn ▸ hl _ _ _ _ h) env₁ p₁ next rfl
      exact ⟨moment :: moments, env', p', outcome, .step later h rest⟩

end Alone

end

/-! ## Scripts -/

namespace Script

/-- A script that has run as far as it could comes to its end, and goes on at each of the moments
after a pause. -/
inductive Ends : List Env → Env × Session × Progress → Env → Session → Except SessionError Unit →
    Prop
  | finished {env : Env} {s : Session} {result : Except SessionError Unit} :
      Ends [] (env, s, .finished result) env s result
  | paused {env moment env' : Env} {s s' : Session} {moments : List Env} {pause : Pause}
      {result : Except SessionError Unit} (later : env.Later moment)
      (due : pause.timer.isDue moment.now = true)
      (rest : Ends moments (resume moment s pause) env' s' result) :
      Ends (moment :: moments) (env, s, .paused pause) env' s' result

@[simp] theorem log_run (env : Env) (s : Session) (script : List Action) :
    (run env s script).1.log = env.log := by
  fun_induction run env s script with
  | case5 env s sql needed rest s' wait he timer env' ht hd ih =>
    cases ht
    exact ih
  | case6 env s sql needed rest s' wait he timer env' ht hd =>
    cases ht
    rfl
  | _ => first | rfl | assumption

@[simp] theorem log_resume (env : Env) (s : Session) (pause : Pause) :
    (resume env s pause).1.log = env.log := by
  unfold resume
  split
  · exact log_run _ _ _
  · split
    · rfl
    · exact log_run _ _ _

theorem length_rest_run {env env' : Env} {s s' : Session} {script : List Action} {pause : Pause}
    (h : run env s script = (env', s', .paused pause)) : pause.rest.length < script.length := by
  fun_induction run env s script with
  | case1 | case3 | case8 | case12 => cases h
  | case6 env s sql needed rest s' wait he timer env' ht hd =>
    cases h
    exact Nat.lt_succ_self _
  | _ =>
    rename_i ih
    exact Nat.lt_succ_of_lt (ih h)

theorem length_rest_resume {env env' : Env} {s s' : Session} {pause pause' : Pause}
    (h : resume env s pause = (env', s', .paused pause')) :
    pause'.rest.length < pause.rest.length := by
  unfold resume at h
  split at h
  · exact length_rest_run h
  · split at h
    · cases h
    · exact length_rest_run h

end Script

end SessionPool
