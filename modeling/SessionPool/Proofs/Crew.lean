import SessionPool.Crew.Basic

/-!
# What a crew does to its queue of tasks

Only dispatching a task and a ticker whose time has come add to the queue, at its end; only a
worker that takes a task and whoever collects what is left remove from it, at its front.
-/

set_option autoImplicit false

namespace SessionPool.Crew

variable {τ : Type} {c c' : Crew τ}

theorem dispatch_cases (c : Crew τ) (t : τ) :
    (c.stopped = true ∧ c.dispatch t = (c, some t)) ∨
    (c.stopped = false ∧ c.dispatch t = ({ c with tasks := c.tasks ++ [t] }, none)) := by
  unfold dispatch send
  cases c.stopped <;> simp

@[simp] theorem tasks_leave (k : Nat) : (c.leave k).tasks = c.tasks := by
  unfold leave
  dsimp only
  split <;> rfl

@[simp] theorem stopped_leave (k : Nat) : (c.leave k).stopped = c.stopped := by
  unfold leave
  dsimp only
  split <;> rfl

theorem take_cases {k : Nat} {o : Option τ} (h : c.take k true = (c', o)) :
    c'.stopped = c.stopped ∧ c.tasks = o.toList ++ c'.tasks := by
  unfold take at h
  split at h
  · rename_i ht
    cases h
    exact ⟨rfl, by simp [ht, assign]⟩
  · rename_i t rest ht
    cases h
    exact ⟨rfl, by simp [ht, assign, passTurn]⟩

/-- A worker that looks for a task takes the first of the queue or none. -/
theorem seek_cases {k : Nat} {o : Option τ} (h : c.seek k true = some (c', o)) :
    c'.stopped = c.stopped ∧ c.tasks = o.toList ++ c'.tasks := by
  unfold seek at h
  split at h
  · split at h
    · cases h
      exact ⟨by simp, by simp⟩
    · split at h
      · exact take_cases (c := { c with turn := some k }) (Option.some.inj h)
      · cases h
        exact ⟨rfl, rfl⟩
  · split at h
    · cases h
      exact ⟨by simp, by simp⟩
    · split at h
      · exact take_cases (Option.some.inj h)
      · cases h
  · split at h
    · cases h
      exact ⟨by simp, by simp⟩
    · split at h
      · cases h
      · exact take_cases (Option.some.inj h)
  all_goals cases h

/-- A worker takes no task after the crew was stopped. -/
theorem stopped_of_seek {k : Nat} {employed : Bool} {t : τ}
    (h : c.seek k employed = some (c', some t)) : c.stopped = false := by
  cases hs : c.stopped with
  | false => rfl
  | true =>
    unfold seek at h
    split at h <;> simp [hs] at h

theorem tick_cases {env env' : Env} {j : Nat} {t : τ} (h : c.tick env j t = some (env', c')) :
    env'.now = env.now ∧ env'.server = env.server ∧ c'.stopped = c.stopped ∧
      (c'.tasks = c.tasks ∨ c'.tasks = c.tasks ++ [t]) := by
  unfold tick at h
  dsimp only at h
  split at h
  · split at h <;> cases h <;> exact ⟨rfl, rfl, rfl, .inl rfl⟩
  · split at h
    · cases h
      exact ⟨rfl, rfl, rfl, .inl rfl⟩
    · split at h
      · cases h
        exact ⟨rfl, rfl, rfl, .inr rfl⟩
      · cases h
  all_goals cases h

/-- A ticker has nothing to do with the workers. -/
theorem tick_frame {env env' : Env} {j : Nat} {t : τ} (h : c.tick env j t = some (env', c')) :
    c'.workers = c.workers ∧ c'.turn = c.turn ∧ c'.line = c.line := by
  unfold tick at h
  dsimp only at h
  split at h
  · split at h <;> cases h <;> exact ⟨rfl, rfl, rfl⟩
  · split at h
    · cases h
      exact ⟨rfl, rfl, rfl⟩
    · split at h <;> cases h
      exact ⟨rfl, rfl, rfl⟩
  all_goals cases h

theorem hire_cases (env : Env) (c : Crew τ) (workers : Nat) (period : Duration) :
    (c.hire env workers period).1.now = env.now ∧
      (c.hire env workers period).2.stopped = c.stopped ∧
      (c.hire env workers period).2.tasks = c.tasks := by
  unfold hire
  dsimp only
  split <;> exact ⟨rfl, rfl, rfl⟩

theorem collect_eq {t : τ} (h : c.collect = some (t, c')) :
    ∃ rest, c.tasks = t :: rest ∧ c' = { c with tasks := rest } := by
  unfold collect at h
  split at h
  · cases h
  · rename_i rest ht
    cases h
    exact ⟨rest, ht, rfl⟩

theorem collect_some {t : τ} (h : c.collect = some (t, c')) :
    c.tasks = t :: c'.tasks ∧ c'.stopped = c.stopped := by
  unfold collect at h
  split at h
  · cases h
  · rename_i ht
    cases h
    exact ⟨ht, rfl⟩

end SessionPool.Crew
