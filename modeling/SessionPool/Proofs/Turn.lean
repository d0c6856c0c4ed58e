import SessionPool.Proofs.Powers
import SessionPool.Proofs.Staff

/-!
# Whose turn it is

Of the workers of a crew that are not busy at most one has the turn, and the others that wait stand
in line, each once (`Crew.Order`). Whatever a worker does keeps it so, and nobody else touches it
(`Site.Reachable.inOrder`). If a worker is there and nobody has anything to do, the one who has the
turn waits for a task (`Site.waiting_worker`); a task that comes then finds somebody who takes it
(`Crew.Order.taker`).
-/

set_option autoImplicit false

namespace SessionPool

namespace Crew

variable {τ : Type} {c c' : Crew τ} {w : List Duty} {t : Option Nat} {l : List Nat} {j k : Nat}
  {d x : Duty}

/-- Who waits has the turn or stands in line, and nobody else does. -/
structure Order (w : List Duty) (t : Option Nat) (l : List Nat) : Prop where
  nodup : l.Nodup
  apart : ∀ k, t = some k → k ∉ l
  line : ∀ k ∈ l, w[k]? = some .inLine
  turn : ∀ k, t = some k → w[k]? = some .inLine ∨ w[k]? = some .taking
  placed : ∀ k, w[k]? = some .inLine → k ∈ l ∨ t = some k
  taking : ∀ k, w[k]? = some .taking → t = some k
  /-- Nobody stands in line for a turn that is free. -/
  free : t = none → l = []

def InOrder (c : Crew τ) : Prop := Order c.workers c.turn c.line

/-- A worker that does not wait before or after leaves it open who does. -/
theorem duty_set (hk : w[k]? ≠ some x) (hd : d ≠ x) :
    (w.set k d)[j]? = some x ↔ w[j]? = some x := by
  by_cases hj : k = j
  · subst hj
    simp [List.getElem?_set, hk, hd]
  · rw [List.getElem?_set_ne hj]

theorem duty_set_self (hk : (w[k]?).isSome) : (w.set k d)[k]? = some d := by
  have := (List.getElem?_eq_some_iff.1 (Option.eq_some_of_isSome hk)).1
  simp [this]

namespace Order

/-- A worker that does not wait does something else and does not wait either. -/
theorem assign (h : Order w t l) (hi : w[k]? ≠ some .inLine) (ht : w[k]? ≠ some .taking)
    (hd : d ≠ .inLine) (hd' : d ≠ .taking) : Order (w.set k d) t l where
  nodup := h.nodup
  apart := h.apart
  line := fun j hj => (duty_set hi hd).2 (h.line j hj)
  turn := fun j hj => (h.turn j hj).imp (duty_set hi hd).2 (duty_set ht hd').2
  placed := fun j hj => h.placed j ((duty_set hi hd).1 hj)
  taking := fun j hj => h.taking j ((duty_set ht hd').1 hj)
  free := h.free

/-- A worker gets in line for a turn that another one has. -/
theorem join (h : Order w t l) (hk : w[k]? = some .looking) (ht : t ≠ none) :
    Order (w.set k .inLine) t (l ++ [k]) := by
  have away (x : Duty) (hx : x ≠ .looking) : w[k]? ≠ some x := by
    rw [hk]
    simpa using hx.symm
  have same {j : Nat} (hj : j ≠ k) : (w.set k .inLine)[j]? = w[j]? :=
    List.getElem?_set_ne hj.symm
  have fresh : k ∉ l := fun hl => away _ (by simp) (h.line k hl)
  have noturn : t ≠ some k := fun e => (h.turn k e).elim (away _ (by simp)) (away _ (by simp))
  refine {
    nodup := ?_
    apart := fun j hj => ?_
    line := fun j hj => ?_
    turn := fun j hj => ?_
    placed := fun j hj => ?_
    taking := fun j hj => h.taking j ((duty_set (away _ (by simp)) (by simp)).1 hj)
    free := fun hn => absurd hn ht }
  · exact List.nodup_append.2 ⟨h.nodup, List.nodup_singleton k, fun a ha b hb => by
      rw [List.mem_singleton.1 hb]
      exact fun e => fresh (e ▸ ha)⟩
  · rw [List.mem_append, List.mem_singleton, not_or]
    exact ⟨h.apart j hj, fun e => noturn (e ▸ hj)⟩
  · rcases List.mem_append.1 hj with hj | hj
    · rw [same fun e => fresh (e ▸ hj)]
      exact h.line j hj
    · rw [List.mem_singleton.1 hj]
      exact duty_set_self (by simp [hk])
  · rw [same fun e => noturn (e ▸ hj)]
    exact h.turn j hj
  · by_cases e : j = k
    · exact .inl (List.mem_append_right _ (by simp [e]))
    · rw [same e] at hj
      exact (h.placed j hj).imp_left (List.mem_append_left _)

/-- A worker that has the turn, or finds it free, waits for a task. -/
theorem take (h : Order w t l) (hk : (w[k]?).isSome) (ht : t = some k ∨ t = none) :
    Order (w.set k .taking) (some k) l := by
  have same {j : Nat} (hj : j ≠ k) : (w.set k .taking)[j]? = w[j]? :=
    List.getElem?_set_ne hj.symm
  have fresh : k ∉ l := by
    rcases ht with ht | ht
    · exact h.apart k ht
    · simp [h.free ht]
  have others {j : Nat} (e : t = some j) : j = k := by
    rcases ht with ht | ht <;> rw [ht] at e <;> cases e
    rfl
  refine {
    nodup := h.nodup
    apart := fun j hj => Option.some.inj hj ▸ fresh
    line := fun j hj => ?_
    turn := fun j hj => .inr (Option.some.inj hj ▸ duty_set_self hk)
    placed := fun j hj => ?_
    taking := fun j hj => ?_
    free := nofun }
  · rw [same fun e => fresh (e ▸ hj)]
    exact h.line j hj
  · by_cases e : j = k
    · exact .inr (e ▸ rfl)
    · rw [same e] at hj
      exact (h.placed j hj).imp_right fun ht => absurd (others ht) e
  · by_cases e : j = k
    · exact e ▸ rfl
    · rw [same e] at hj
      exact absurd (others (h.taking j hj)) e

/-- Who has the turn does not wait any more, and the turn passes on. -/
theorem pass (h : Order w (some k) l) (hd : d ≠ .inLine) (hd' : d ≠ .taking) :
    Order (w.set k d) l.head? l.tail := by
  have fresh : k ∉ l := h.apart k rfl
  have same {j : Nat} (hj : j ≠ k) : (w.set k d)[j]? = w[j]? := List.getElem?_set_ne hj.symm
  have gone {j : Nat} {x : Duty} (hx : d ≠ x) (hj : (w.set k d)[j]? = some x) : j ≠ k := by
    rintro rfl
    rw [List.getElem?_set] at hj
    split at hj
    · split at hj
      · exact hx (Option.some.inj hj)
      · cases hj
    · exact absurd rfl ‹_›
  cases l with
  | nil =>
    refine ⟨.nil, nofun, nofun, nofun, fun j hj => ?_, fun j hj => ?_, fun _ => rfl⟩
    · have hne := gone hd hj
      rw [same hne] at hj
      rcases h.placed j hj with hj | hj
      · cases hj
      · exact absurd (Option.some.inj hj).symm hne
    · have hne := gone hd' hj
      rw [same hne] at hj
      exact absurd (Option.some.inj (h.taking j hj)).symm hne
  | cons i l =>
    obtain ⟨hi, hl⟩ := List.nodup_cons.1 h.nodup
    have hne : i ≠ k := fun e => fresh (e ▸ .head _)
    refine ⟨hl, fun j hj => Option.some.inj hj ▸ hi, fun j hj => ?_, fun j hj => ?_,
      fun j hj => ?_, fun j hj => ?_, nofun⟩
    · rw [same fun e => fresh (e ▸ .tail _ hj)]
      exact h.line j (.tail _ hj)
    · rw [← Option.some.inj hj, same hne]
      exact .inl (h.line i (.head _))
    · have hk := gone hd hj
      rw [same hk] at hj
      rcases h.placed j hj with hj | hj
      · exact (List.mem_cons.1 hj).elim (fun e => .inr (e ▸ rfl)) .inl
      · exact absurd (Option.some.inj hj).symm hk
    · have hk := gone hd' hj
      rw [same hk] at hj
      exact absurd (Option.some.inj (h.taking j hj)).symm hk

/-- A worker that does not have the turn leaves the line. -/
theorem depart (h : Order w t l) (ht : t ≠ some k) :
    Order (w.set k .gone) t (l.filter fun j => !decide (j = k)) := by
  have same {j : Nat} (hj : j ≠ k) : (w.set k .gone)[j]? = w[j]? := List.getElem?_set_ne hj.symm
  have gone {j : Nat} {x : Duty} (hx : Duty.gone ≠ x) (hj : (w.set k .gone)[j]? = some x) :
      j ≠ k := by
    rintro rfl
    rw [List.getElem?_set] at hj
    split at hj
    · split at hj
      · exact hx (Option.some.inj hj)
      · cases hj
    · exact absurd rfl ‹_›
  have mem {j : Nat} : j ∈ l.filter (fun j => !decide (j = k)) ↔ j ∈ l ∧ j ≠ k := by
    simp [List.mem_filter]
  refine {
    nodup := h.nodup.filter _
    apart := fun j hj hl => h.apart j hj (mem.1 hl).1
    line := fun j hj => by
      rw [same (mem.1 hj).2]
      exact h.line j (mem.1 hj).1
    turn := fun j hj => by
      rw [same fun e => ht (e ▸ hj)]
      exact h.turn j hj
    placed := fun j hj => ?_
    taking := fun j hj => ?_
    free := fun hn => by simp [h.free hn] }
  · have hne := gone (by simp) hj
    rw [same hne] at hj
    exact (h.placed j hj).imp_left fun hl => mem.2 ⟨hl, hne⟩
  · rw [same (gone (by simp) hj)] at hj
    exact h.taking j hj

end Order

/-! ## What workers do -/

theorem InOrder.finish (h : c.InOrder) (hk : c.workers[k]? = some .busy) : (c.finish k).InOrder :=
  Order.assign h (by simp [hk]) (by simp [hk]) (by simp) (by simp)

theorem InOrder.leave (h : c.InOrder) (k : Nat) : (c.leave k).InOrder := by
  unfold Crew.leave
  dsimp only
  split
  · rename_i ht
    have ht : c.turn = some k := ht
    have fresh : c.line.filter (fun j => !decide (j = k)) = c.line :=
      List.filter_eq_self.2 fun j hj => by
        have : j ≠ k := fun e => h.apart k ht (e ▸ hj)
        simpa using this
    have order : Order c.workers (some k) c.line := ht ▸ h
    show Order (c.workers.set k .gone) (c.line.filter _).head? (c.line.filter _).tail
    rw [fresh]
    exact order.pass (by simp) (by simp)
  · rename_i ht
    exact Order.depart h ht

/-- A worker that has the turn takes a task and passes the turn on, or waits for a task. -/
theorem InOrder.take {o : Option τ} (hk : (c.workers[k]?).isSome)
    (h : Order c.workers c.turn c.line) (ht : c.turn = some k ∨ c.turn = none)
    (he : ({ c with turn := some k }.take k true) = (c', o)) : c'.InOrder := by
  have taking := h.take hk ht
  unfold Crew.take at he
  split at he <;> cases he
  · exact taking
  · have passed := taking.pass (d := .busy) (by simp) (by simp)
    rw [List.set_set] at passed
    exact passed

theorem InOrder.seek {o : Option τ} (h : c.InOrder) (he : c.seek k true = some (c', o)) :
    c'.InOrder := by
  have turn (ht : c.turn = some k) : { c with turn := some k } = c := by rw [← ht]
  unfold Crew.seek at he
  split at he
  · rename_i hk
    split at he
    · cases he
      exact h.leave k
    · split at he
      · rename_i hn
        exact .take (by simp [hk]) h (.inr (by simpa using hn)) (Option.some.inj he)
      · rename_i hn
        cases he
        exact Order.join h hk fun e : c.turn = none => hn (by rw [e]; rfl)
  · rename_i hk
    split at he
    · cases he
      exact h.leave k
    · split at he
      · rename_i ht
        refine .take (o := o) (by simp [hk]) h (.inl ht) ?_
        rw [turn ht]
        exact Option.some.inj he
      · cases he
  · rename_i hk
    split at he
    · cases he
      exact h.leave k
    · split at he
      · cases he
      · have ht := h.taking k hk
        refine .take (o := o) (by simp [hk]) h (.inl ht) ?_
        rw [turn ht]
        exact Option.some.inj he
  all_goals cases he

/-- A worker that waits for a task takes the next one. -/
theorem seek_taking (hs : c.stopped = false) {task : τ} {rest : List τ}
    (ht : c.tasks = task :: rest) (hw : c.workers[k]? = some .taking) :
    c.seek k true = some ({ c with tasks := rest }.passTurn.assign k .busy, some task) := by
  simp [Crew.seek, hw, hs, Crew.take, ht, passTurn, assign]

/-- A task finds somebody who takes it, unless the turn is free and nobody comes for it. -/
theorem InOrder.taker (h : c.InOrder) (hs : c.stopped = false) {task : τ} {rest : List τ}
    (ht : c.tasks = task :: rest) (hk : c.turn ≠ none ∨ c.workers[k]? = some .looking) :
    ∃ i b, c.workers[i]? = some b ∧ b ≠ .busy ∧ c.seek i true =
      some ({ c with tasks := rest }.passTurn.assign i .busy, some task) := by
  cases hn : c.turn with
  | some i =>
    rcases h.turn i hn with hw | hw
    · refine ⟨i, _, hw, by simp, ?_⟩
      simp [Crew.seek, hw, hs, hn, Crew.take, ht]
    · exact ⟨i, _, hw, by simp, seek_taking hs ht hw⟩
  | none =>
    have hw := hk.resolve_left fun hk => hk hn
    refine ⟨k, _, hw, by simp, ?_⟩
    simp [Crew.seek, hw, hs, hn, Crew.take, ht, passTurn, assign]

end Crew

namespace Site

variable {env env' : Env} {s s' : Site} {mv : Move}

theorem powers_staff (h : s.powers mv .staff) : ∃ k, mv = .step (.worker k) := by
  cases wields h with
  | @job _ j _ _ h => cases j <;> exact h.elim
  | @operation _ o _ _ h => cases o <;> exact h.elim
  | @staff k => exact ⟨k, rfl⟩

theorem inOrder_of_staffing {c c' : Crew (Task Member)} (h : c.InOrder)
    (hs : c'.workers = c.workers ∧ c'.turn = c.turn ∧ c'.line = c.line) : c'.InOrder := by
  obtain ⟨hw, ht, hl⟩ := hs
  rw [Crew.InOrder, hw, ht, hl]
  exact h

/-- Whatever a worker does, the others that wait keep their places. -/
theorem inOrder_worker {k : Nat} (h : s.pool.crew.InOrder) (hst : s.Staffed)
    (hm : s.move? env (.step (.worker k)) = some (env', s')) : s'.pool.crew.InOrder := by
  have job {j : Job} : ¬ j.powers .staff := by cases j <;> exact id
  cases moved hm with
  | worked _ hs => exact inOrder_of_staffing h ((Job.changes hs).staffing job)
  | finished hg hs =>
    have staffing := (Job.changes hs).staffing job
    refine (inOrder_of_staffing h staffing).finish ?_
    rw [staffing.1]
    exact (hst.busy k).1 (Table.mem_keys_of_get? hg)
  | sought _ hs | took _ hs => exact h.seek hs
  | unheld hv => rcases hv with hv | hv | hv <;> cases hv

theorem inOrder_create {settings : PoolSettings} {options : ConnectOptions} {hooks : Hooks}
    (h : create env settings options hooks = (env', .ok s)) : s.pool.crew.InOrder := by
  have hired (w : List Duty) (hw : ∀ d ∈ w, d = Duty.looking) : Crew.Order w none [] := {
    nodup := .nil
    apart := nofun
    line := nofun
    turn := nofun
    placed := fun k hk => by cases hw _ (List.mem_of_getElem? hk)
    taking := fun k hk => by cases hw _ (List.mem_of_getElem? hk)
    free := fun _ => rfl }
  unfold create at h
  split at h
  · cases h
  · cases h
  · cases h
    refine inOrder_of_staffing ?_ ((changes_fill _).staffing (by simp))
    refine inOrder_of_staffing (c := Crew.hireWorkers {} settings.workers) ?_ ?_
    · exact hired _ fun d hd => List.eq_of_mem_replicate (by simpa [Crew.hireWorkers] using hd)
    · dsimp only [Crew.hire]
      split <;> exact ⟨rfl, rfl, rfl⟩

/-- **At most one worker has the turn**, and the others that wait stand in line. -/
theorem Reachable.inOrder (h : Reachable env s) : s.pool.crew.InOrder := by
  induction h with
  | created h => exact inOrder_create h
  | @moved env env' s s' mv hr hm ih =>
    by_cases hG : s.powers mv .staff
    · obtain ⟨k, rfl⟩ := powers_staff hG
      exact inOrder_worker ih hr.staffed hm
    · exact inOrder_of_staffing ih ((changes_move hr.orderlyShut hm).staffing hG)

/-- If a worker is there that has no job, and no worker has anything to do, one waits for a task,
and there is none. -/
theorem waiting_worker (h : Reachable env s) (hs : s.pool.crew.stopped = false)
    (hq : ∀ k, s.step env (.worker k) = none) {k : Nat} {d : Duty}
    (hk : s.pool.crew.workers[k]? = some d) (hb : d ≠ .busy) (hg : d ≠ .gone) :
    ∃ i : Nat, s.pool.crew.workers[i]? = some .taking ∧ s.pool.crew.tasks = [] := by
  have order := h.inOrder
  have still (i : Nat) (hi : s.pool.crew.workers[i]? ≠ some .busy) :
      s.pool.crew.seek i true = none := by
    have hq := hq i
    rw [step, stepWorker, h.staffed.idle hi] at hq
    exact Option.map_eq_none_iff.1 hq
  have taking (i : Nat) (hi : s.pool.crew.workers[i]? = some .taking) :
      s.pool.crew.tasks = [] := by
    have hn := still i (by simp [hi])
    simp only [Crew.seek, hi, hs] at hn
    simpa using hn
  obtain ⟨i, ht⟩ : ∃ i, s.pool.crew.turn = some i := by
    have hn := still k (by simp [hk, hb])
    cases d with
    | looking => simp [Crew.seek, hk, hs] at hn; split at hn <;> simp at hn
    | inLine =>
      cases ht : s.pool.crew.turn with
      | some i => exact ⟨i, rfl⟩
      | none =>
        have hl := (order.placed k hk).resolve_right (by simp [ht])
        rw [order.free ht] at hl
        cases hl
    | taking => exact ⟨k, order.taking k hk⟩
    | busy => exact absurd rfl hb
    | gone => exact absurd rfl hg
  rcases order.turn i ht with hi | hi
  · have hn := still i (by simp [hi])
    simp [Crew.seek, hi, hs, ht] at hn
  · exact ⟨i, hi, taking i hi⟩

end Site

end SessionPool
