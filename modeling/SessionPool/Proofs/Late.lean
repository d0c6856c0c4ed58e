import SessionPool.Proofs.Outside

/-!
# Moves made late

Whoever sends a task to the crew looks first whether it was stopped, and a member of the crew looks
first whether it has to leave. If the crew is stopped between that look and what follows, then the
move is made late: it goes as if the crew was still at work (`Site.unstopped`). What is always true
of a pool stays true with that (`Site.Lawful.late`), but a task that is sent late may come to lie in
the queue when nobody is there any more who could take it.
-/

set_option autoImplicit false

namespace SessionPool.Site

variable {env env' : Env} {s s' : Site} {mv : Move} {n : Nat}

/-- The site as somebody sees it who has looked before the crew was stopped. -/
def unstopped (s : Site) : Site := { s with pool := { s.pool with crew := s.pool.crew.unstopped } }

def stopped (s : Site) : Site := { s with pool := { s.pool with crew := s.pool.crew.stop } }

/-- Whether the move is that of somebody who is closing the pool. -/
def isClosing (s : Site) : Move → Bool
  | .step (.user n) | .cancel n => (Table.get? s.operations n).any Operation.hasShut
  | _ => false

theorem Regular.unstopped (h : s.Regular) : s.unstopped.Regular :=
  ⟨⟨h.keyed.jobs, h.keyed.operations⟩, h.balanced.congr rfl, nofun, h.shut.operations⟩

theorem Regular.stopped (h : s.Regular) (hc : s.pool.closed = true) : s.stopped.Regular :=
  ⟨⟨h.keyed.jobs, h.keyed.operations⟩, h.balanced.congr rfl, fun _ => hc, fun _ _ _ _ => hc⟩

theorem Lawful.goesOn_late (h : s.Lawful) (hs : s.pool.crew.stopped = true)
    (hm : s.unstopped.move? env mv = some (env', s')) :
    s.pool.crew.GoesOn s'.stopped.pool.crew := by
  rcases (staffing_move hm).goesOn h.staffed.busy with goesOn | ⟨k, idle, hg, -⟩
  · exact ⟨goesOn.left, goesOn.hands, hs.symm, goesOn.crowd⟩
  · cases hs.symm.trans (h.staffed.known k _ hg)

/-- Whoever closes the pool after a late move did so before. -/
theorem Lawful.closing_late (h : s.Lawful) (hs : s.pool.crew.stopped = true)
    (hm : s.unstopped.move? env mv = some (env', s')) (hc : s.isClosing mv = false)
    {c : Closing} (hb : c.begun = true)
    (hg : Table.get? s'.operations n = some (.close c)) :
    Table.get? s.operations n = some (.close c) := by
  rcases operation_origin h.toRegular.unstopped.keyed hm hg with hg | ⟨o, rfl, hg, hstep⟩ | hn
  · exact hg
  · cases Operation.goesOn hstep with
    | @close c₀ _ hstep =>
      cases c₀ with
      | starting =>
        have closed : s.unstopped.pool.closed = true := h.shut.stopped hs
        simp [Closing.step, Closing.start, closed] at hstep
      | stopping | joining | draining | emptying =>
        simp [isClosing, show Table.get? s.operations n = _ from hg, Operation.hasShut,
          Closing.begun] at hc
  · cases c with
    | starting => cases hb
    | stopping | joining | draining | emptying => cases hn

/-- **What is always true of a pool stays true** with a move that is made late. -/
theorem Lawful.late (h : s.Lawful) (hs : s.pool.crew.stopped = true)
    (hm : s.unstopped.move? env mv = some (env', s')) (hc : s.isClosing mv = false) :
    s'.stopped.Lawful := by
  have wanes := wanes_move hm (h.shut.stopped hs)
  have goesOn := h.goesOn_late hs hm
  obtain ⟨idle, requests⟩ := h.vacated (h.shut.stopped hs)
  exact {
    toRegular := (h.toRegular.unstopped.move hm).stopped wanes.closed
    vacated := fun _ => ⟨wanes.idle idle, wanes.requests requests⟩
    staffed := {
      busy := (staffing_move hm).busy h.staffed.busy
      listed := nofun
      known := fun n c hg => by
        by_cases hb : c.begun = true
        · exact (h.staffed.known n c (h.closing_late hs hm hc hb hg)).goesOn goesOn
        · cases c with
          | starting => trivial
          | stopping | joining | draining | emptying => exact absurd rfl hb
      alone := fun n n' c c' hg hb hg' hb' =>
        h.staffed.alone n n' c c' (h.closing_late hs hm hc hb hg) hb
          (h.closing_late hs hm hc hb' hg') hb' } }

theorem Deserted.late (hd : s.Deserted) (h : s.Lawful)
    (hm : s.unstopped.move? env mv = some (env', s')) (hc : s.isClosing mv = false) :
    s'.stopped.Deserted := by
  have goesOn := h.goesOn_late hd.stopped hm
  have closed := (wanes_move hm hd.closed).closed
  refine (h.late hd.stopped hm hc).staffed.deserted closed rfl fun hand hn => ?_
  cases hn.symm.trans (goesOn.left hand (hd.left hand))

/-- The tasks after a late move were there before or have been added. -/
theorem Lawful.tasks_late (h : s.Lawful) (hm : s.unstopped.move? env mv = some (env', s'))
    (hc : s.isClosing mv = false) {t : Task Member}
    (ht : t ∈ s'.pool.crew.tasks) :
    t ∈ s.pool.crew.tasks ∨ t ∈ s'.pool.crew.tasks.drop s.pool.crew.tasks.length := by
  by_cases hG : s.unstopped.powers mv .take
  · refine .inl ?_
    cases wields hG with
    | @job _ j _ hg hp => cases j <;> exact hp.elim
    | @operation n o _ hg hp =>
      cases o with
      | close c =>
        obtain ⟨disposed, idle, rfl⟩ := hp
        simp [isClosing, show Table.get? s.operations n = _ from hg, Operation.hasShut,
          Closing.begun] at hc
      | acquire | release | misplace | wait | check => exact hp.elim
    | @take k hg =>
      -- a worker takes the first of the tasks or finds none
      have taken {o : Option (Task Member)} {c : Crew (Task Member)}
          (hk : s.unstopped.pool.crew.seek k true = some (c, o)) (ht : t ∈ c.tasks) :
          t ∈ s.pool.crew.tasks := by
        rw [show s.pool.crew.tasks = o.toList ++ c.tasks from (Crew.seek_cases hk).2]
        exact List.mem_append_right _ ht
      cases moved hm with
      | worked hg' | finished hg' => cases hg.symm.trans hg'
      | sought _ hk | took _ hk => exact taken hk ht
      | unheld hv => rcases hv with hv | hv | hv <;> cases hv
  · obtain ⟨new, he⟩ := (changes_move h.toRegular.unstopped.shut hm).tasks hG
    rw [← he] at ht ⊢
    rw [show (s.unstopped.pool.crew.tasks ++ new).drop s.pool.crew.tasks.length = new from
      List.drop_left]
    exact List.mem_append.1 ht

end SessionPool.Site
