import SessionPool.Proofs.Shift

/-!
# The order of the tasks

No task of a whole shift is lost, doubled or overtaken: the tasks whose runs have started, followed
by those that were disposed of and by those that still lie in the queue, are the tasks that were
accepted. Of any shift the same is true of the tasks as they were taken, and of the started ones but
for the order of those in hand at the same time; what lies in the queue after the end was sent after
the end, by somebody who had looked before (`Shift.Worked.in_order`).

Each act keeps what is true of a shift (`Shift.Sound.act`), while at most one worker has a task in
hand also the order of the runs (`Shift.Straight.act`), and in a whole shift also that nobody goes
on with anything when the crew was stopped (`Shift.Undivided.act`).
-/

set_option autoImplicit false

namespace SessionPool

namespace ShiftEnding

variable {τ : Type} {c c' : Crew τ} {e : ShiftEnding}

def hasGathered : ShiftEnding → Bool
  | draining | disposing | ended => true
  | pending | joining _ => false

/-- What whoever ends a shift has come to know of the crew. -/
def Knows (c : Crew τ) : ShiftEnding → Prop
  | pending => c.Listed c.hands
  | joining hands => c.stopped = true ∧ c.Listed hands
  | draining | disposing | ended => c.stopped = true ∧ c.Listed []

theorem Knows.goesOn (h : e.Knows c) (hg : c.GoesOn c') : e.Knows c' := by
  cases e with
  | pending =>
    show c'.Listed c'.hands
    rw [hg.hands]
    exact hg.listed h
  | joining | draining | disposing | ended => exact ⟨hg.stopped.trans h.1, hg.listed h.2⟩

theorem Knows.stop (h : e.Knows c) : e.Knows c.stop := by
  cases e with
  | pending => exact h
  | joining | draining | disposing | ended => exact ⟨rfl, h.2⟩

theorem Knows.gathered (h : e.Knows c) (he : e.hasGathered = true) :
    c.stopped = true ∧ ∀ hand, c.hasLeft hand = true := by
  obtain ⟨hs, hl⟩ : c.stopped = true ∧ c.Listed [] := by
    cases e with
    | pending | joining => cases he
    | draining | disposing | ended => exact h
  refine ⟨hs, fun hand => ?_⟩
  by_contra hn
  cases hl hand (Bool.eq_false_iff.2 hn)

end ShiftEnding

namespace Shift

variable {τ : Type} {s s' : Shift τ} {a : ShiftAct τ}

/-- As many runs of each worker have come to an end as have started. -/
def AllFinished (log : List (ShiftEvent τ)) : Prop :=
  ∀ k, log.countP (ShiftEvent.isStart k) = log.countP (ShiftEvent.isFinish k)

structure Sound (s : Shift τ) : Prop where
  known : s.ending.Knows s.crew
  /-- Nothing is disposed of before everybody has left. -/
  undiscarded : s.ending.hasGathered = false → s.discarded = []
  tasks : s.accepted = s.taken ++ s.discarded ++ s.crew.tasks
  keys : (Table.keys s.inHand).Nodup
  /-- Whoever has a task in hand is busy. -/
  holding : ∀ k ∈ Table.keys s.inHand, s.crew.isBusy (.worker k) = true
  starts : s.taken.Perm (s.started ++ s.inHand.map Prod.snd)
  /-- A worker is busy from the moment when it takes a task to the end of the run. -/
  busy : ∀ k : Nat, s.log.countP (ShiftEvent.isTake k) =
    s.log.countP (ShiftEvent.isFinish k) + (s.crew.isBusy (.worker k)).toNat
  hands : ∀ k : Nat, s.log.countP (ShiftEvent.isTake k) =
    s.log.countP (ShiftEvent.isStart k) + (decide (k ∈ Table.keys s.inHand)).toNat
  stopped : s.crew.stopped = true ↔ .stopped ∈ s.log
  patient : ∀ before t, before ++ [.discarded t] <+: s.log → AllFinished before
  /-- What lies in the queue after the end has come after the end. -/
  late : s.ending = .ended → ∃ before after, s.log = before ++ .ended :: after ∧
    s.crew.tasks = after.filterMap ShiftEvent.accepted?

theorem not_gathered (h : s.Sound) {hand : Hand} (hl : s.crew.hasLeft hand = false) :
    s.ending.hasGathered = false :=
  Bool.eq_false_iff.2 fun he => by simp [(h.known.gathered he).2 hand] at hl

theorem goesOn_send (c : Crew τ) (t : τ) : c.GoesOn (c.send t) :=
  ⟨fun _ hl => hl, rfl, rfl, rfl⟩

theorem known_act (h : s.Sound) (ha : s.Acted a s') : s'.ending.Knows s'.crew := by
  cases ha with
  | gaveBack | looked | began | started => exact h.known
  | @sent _ t _ => exact h.known.goesOn (goesOn_send s.crew t)
  | waited _ hc _ _ | took _ _ _ hc _ _ | ticked _ _ hc _ _ => exact h.known.goesOn hc
  | finished hb _ => exact h.known.goesOn (Crew.goesOn_finish hb)
  | cancelled => exact h.known.stop
  | shutDown he =>
    have known := h.known
    rw [he] at known
    exact ⟨rfl, known⟩
  | @joined hand hands he hl =>
    have known := h.known
    rw [he] at known
    refine ⟨known.1, fun other hn => (List.mem_cons.1 (known.2 other hn)).resolve_left ?_⟩
    rintro rfl
    rw [hl] at hn
    cases hn
  | gathered he | disposed he | discarded he _ | ended he _ =>
    have known := h.known
    rw [he] at known
    exact ⟨known.1, known.2⟩

theorem undiscarded_act (h : s.Sound) (ha : s.Acted a s') (he : s'.ending.hasGathered = false) :
    s'.discarded = [] := by
  cases ha with
  | gaveBack | sent | took | ticked | started | finished | cancelled =>
    simpa [Shift.discarded] using h.undiscarded he
  | looked | began | waited => exact h.undiscarded he
  | shutDown hp =>
    have none := h.undiscarded (by rw [hp]; rfl)
    simpa [Shift.discarded] using none
  | joined hp _ => exact h.undiscarded (by rw [hp]; rfl)
  | gathered | discarded | disposed | ended => cases he

theorem tasks_act (h : s.Sound) (ha : s.Acted a s') :
    s'.accepted = s'.taken ++ s'.discarded ++ s'.crew.tasks := by
  have tasks := h.tasks
  simp only [accepted, taken, discarded] at tasks ⊢
  cases ha with
  | sent => simp [List.filterMap_cons, tasks, Crew.send]
  | ticked _ _ _ _ ht => simp [List.filterMap_cons, tasks, ht]
  | took _ hl _ _ _ ht =>
    -- nothing has been disposed of, as the worker has not left
    have none : s.log.filterMap ShiftEvent.discarded? = [] := h.undiscarded (not_gathered h hl)
    simp [List.filterMap_cons, tasks, none, ht]
  | discarded _ ht => simp [List.filterMap_cons, tasks, ht]
  | waited _ _ _ ht =>
    rw [ht]
    exact tasks
  | gaveBack | started | finished | cancelled | shutDown | ended =>
    simpa [List.filterMap_cons, Crew.finish, Crew.assign, Crew.stop, Crew.releaseHands] using tasks
  | looked | began | joined | gathered | disposed => exact tasks

theorem keys_act (h : s.Sound) (ha : s.Acted a s') : (Table.keys s'.inHand).Nodup := by
  cases ha with
  | @took k _ _ _ _ hn _ _ _ =>
    have fresh : k ∉ Table.keys s.inHand := fun hk => by simp [h.holding k hk] at hn
    rw [Table.keys, List.map_append]
    exact h.keys.append (List.nodup_singleton k) (by simpa using fresh)
  | started => exact Table.keys_remove_nodup h.keys _
  | gaveBack | looked | sent | began | waited | ticked | finished | cancelled | shutDown | joined
  | gathered | discarded | disposed | ended => exact h.keys

theorem holding_act (h : s.Sound) (ha : s.Acted a s') {k : Nat} (hk : k ∈ Table.keys s'.inHand) :
    s'.crew.isBusy (.worker k) = true := by
  cases ha with
  | took _ _ _ _ hw _ =>
    rw [hw]
    rw [Table.keys, List.map_append] at hk
    rcases List.mem_append.1 hk with hk | hk
    · simp [h.holding k hk]
    · simp [List.mem_singleton.1 hk]
  | waited _ _ hw _ | ticked _ _ _ hw _ =>
    rw [hw]
    exact h.holding k hk
  | started =>
    rw [Table.keys_remove] at hk
    exact h.holding k (List.mem_of_mem_filter hk)
  | @finished j _ hi =>
    have hne : j ≠ k := fun e => Table.get?_eq_none_iff.1 hi (e ▸ hk)
    have held := h.holding k hk
    simpa [Crew.isBusy, Crew.finish, Crew.assign, List.getElem?_set_ne hne] using held
  | gaveBack | looked | sent | began | cancelled | shutDown | joined | gathered | discarded
  | disposed | ended => exact h.holding k hk

theorem starts_act (h : s.Sound) (ha : s.Acted a s') :
    s'.taken.Perm (s'.started ++ s'.inHand.map Prod.snd) := by
  have starts := h.starts
  simp only [taken, started] at starts ⊢
  cases ha with
  | took =>
    rw [List.filterMap_append, List.filterMap_append, List.map_append, ← List.append_assoc]
    simpa [List.filterMap_cons] using starts.append_right _
  | @started k t hi =>
    have hand := ((Table.perm_of_get? h.keys hi).map Prod.snd).append_left
      (s.log.filterMap ShiftEvent.started?)
    simpa [List.filterMap_cons] using starts.trans hand
  | gaveBack | sent | ticked | finished | cancelled | shutDown | discarded | ended =>
    simpa [List.filterMap_cons] using starts
  | looked | began | waited | joined | gathered | disposed => exact starts

theorem busy_act (h : s.Sound) (ha : s.Acted a s') (k : Nat) :
    s'.log.countP (ShiftEvent.isTake k) =
      s'.log.countP (ShiftEvent.isFinish k) + (s'.crew.isBusy (.worker k)).toNat := by
  have busy := h.busy k
  cases ha with
  | waited _ _ hw _ =>
    rw [hw]
    exact busy
  | ticked _ _ _ hw _ =>
    rw [hw]
    simpa using busy
  | @took j _ _ _ _ hn _ hw _ =>
    rw [hw]
    by_cases hk : k = j
    · subst hk
      rw [hn] at busy
      simpa [hn] using busy
    · simpa [hk, Ne.symm hk] using busy
  | @finished j hb _ =>
    have at_j : (s.crew.finish j).workers[j]? = some .looking := Crew.duty_set_self (by simp [hb])
    by_cases hk : k = j
    · subst hk
      simpa [Crew.isBusy, hb, at_j] using busy
    · have same : (s.crew.finish j).workers[k]? = s.crew.workers[k]? :=
        List.getElem?_set_ne (Ne.symm hk)
      simpa [Crew.isBusy, same, Ne.symm hk] using busy
  | gaveBack | sent | started | cancelled | shutDown | discarded | ended =>
    rw [List.countP_append, List.countP_append]
    exact busy
  | looked | began | joined | gathered | disposed => exact busy

theorem hands_act (h : s.Sound) (ha : s.Acted a s') (k : Nat) :
    s'.log.countP (ShiftEvent.isTake k) = s'.log.countP (ShiftEvent.isStart k) +
      (decide (k ∈ Table.keys s'.inHand)).toNat := by
  have hands := h.hands k
  cases ha with
  | @took j t _ _ _ hn _ _ _ =>
    have fresh : j ∉ Table.keys s.inHand := fun hj => by simp [h.holding j hj] at hn
    by_cases hk : k = j
    · subst hk
      simp only [fresh] at hands
      simpa [Table.keys] using hands
    · have same : k ∈ Table.keys (s.inHand ++ [(j, t)]) ↔ k ∈ Table.keys s.inHand := by
        simp [Table.keys, hk]
      simpa [same, Ne.symm hk] using hands
  | @started j t hi =>
    have held := Table.mem_keys_of_get? hi
    have rest : k ∈ Table.keys (Table.remove s.inHand j) ↔ k ∈ Table.keys s.inHand ∧ k ≠ j := by
      simp [Table.keys_remove, List.mem_filter]
    by_cases hk : k = j
    · subst hk
      simp only [held] at hands
      simpa [rest] using hands
    · simpa [rest, hk, Ne.symm hk] using hands
  | gaveBack | sent | ticked | finished | cancelled | shutDown | discarded | ended =>
    rw [List.countP_append, List.countP_append]
    exact hands
  | looked | began | waited | joined | gathered | disposed => exact hands

theorem stopped_act (h : s.Sound) (ha : s.Acted a s') :
    s'.crew.stopped = true ↔ .stopped ∈ s'.log := by
  have stopped := h.stopped
  cases ha with
  | waited _ hc _ _ => simpa [hc.stopped] using stopped
  | took _ _ _ hc _ _ | ticked _ _ hc _ _ => simpa [hc.stopped] using stopped
  | gaveBack | sent | started | finished | discarded | ended =>
    simpa [Crew.finish, Crew.assign, Crew.send] using stopped
  | cancelled | shutDown => simp [Crew.stop, Crew.releaseHands]
  | looked | began | joined | gathered | disposed => exact stopped

/-- When everybody has left, every run that has started has come to its end. -/
theorem Sound.allFinished (h : s.Sound) (he : s.ending.hasGathered = true) :
    AllFinished s.log := by
  intro k
  have idle : s.crew.isBusy (.worker k) = false := by
    have left := (h.known.gathered he).2 (.worker k)
    cases hw : s.crew.workers[k]? with
    | none => simp [Crew.isBusy, hw]
    | some d => 
      have gone : d = .gone := by simpa [Crew.hasLeft, hw] using left
      simp [Crew.isBusy, hw, gone]
  have empty : k ∉ Table.keys s.inHand := fun hk => by simp [h.holding k hk] at idle
  have busy := h.busy k
  have hands := h.hands k
  simp only [idle, empty] at busy hands
  simpa using hands.symm.trans busy

theorem patient_act (h : s.Sound) (ha : s.Acted a s') {before : List (ShiftEvent τ)} {t : τ}
    (hp : before ++ [.discarded t] <+: s'.log) : AllFinished before := by
  cases ha with
  | gaveBack | sent | took | ticked | started | finished | cancelled | shutDown | ended =>
    rcases List.prefix_concat_iff.1 hp with he | hp
    · simpa using congrArg List.getLast? he
    · exact h.patient before t hp
  | discarded he _ =>
    rcases List.prefix_concat_iff.1 hp with hb | hp
    · obtain rfl := (List.append_inj' hb rfl).1
      exact h.allFinished (by rw [he]; rfl)
    · exact h.patient before t hp
  | looked | began | waited | joined | gathered | disposed => exact h.patient before t hp

theorem late_act (h : s.Sound) (ha : s.Acted a s') (he : s'.ending = .ended) :
    ∃ before after, s'.log = before ++ .ended :: after ∧
      s'.crew.tasks = after.filterMap ShiftEvent.accepted? := by
  have later (he : s.ending = .ended) (e : ShiftEvent τ) {tasks : List τ}
      (ht : tasks = s.crew.tasks ++ e.accepted?.toList) :
      ∃ before after, s.log ++ [e] = before ++ .ended :: after ∧
        tasks = after.filterMap ShiftEvent.accepted? := by
    obtain ⟨before, after, hl, hq⟩ := h.late he
    refine ⟨before, after ++ [e], by simp [hl], ?_⟩
    rw [ht, hq, List.filterMap_append]
    cases e <;> rfl
  cases ha with
  | gaveBack | started | finished | cancelled => exact later he _ (List.append_nil _).symm
  | sent => exact later he _ rfl
  | took _ hl _ _ _ _ | ticked _ hl _ _ _ =>
    have none := not_gathered h hl
    rw [show s.ending = .ended from he] at none
    cases none
  | waited _ _ _ ht =>
    rw [ht]
    exact h.late he
  | ended _ ht => exact ⟨s.log, [], rfl, ht⟩
  | looked | began => exact h.late he
  | shutDown | joined | gathered | discarded | disposed => cases he

theorem Sound.act (h : s.Sound) (ha : s.act a = some s') : s'.Sound where
  known := known_act h (acted ha)
  undiscarded := undiscarded_act h (acted ha)
  tasks := tasks_act h (acted ha)
  keys := keys_act h (acted ha)
  holding := fun _ => holding_act h (acted ha)
  starts := starts_act h (acted ha)
  busy := busy_act h (acted ha)
  hands := hands_act h (acted ha)
  stopped := stopped_act h (acted ha)
  patient := fun _ _ => patient_act h (acted ha)
  late := late_act h (acted ha)

theorem sound_hire (env : Env) (workers : Nat) (period : Duration) :
    (hire env workers period : Shift τ).Sound := by
  obtain ⟨-, stopped, tasks⟩ := Crew.hire_cases env ({} : Crew τ) workers period
  obtain ⟨idle, listed⟩ := @Crew.hire_listed τ env workers period
  exact {
    known := listed
    undiscarded := fun _ => rfl
    tasks := tasks.symm
    keys := .nil
    holding := nofun
    starts := .nil
    busy := fun k => by simp [hire, Crew.isBusy, idle k]
    hands := fun k => by simp [hire, Table.keys]
    stopped := by simp [hire, stopped]
    patient := fun before t hp => by
      have none := List.prefix_nil.1 hp
      simp at none
    late := nofun }

variable {whole : Bool}

theorem Worked.sound (h : Worked whole s) : s.Sound := by
  induction h with
  | hired env workers period => exact sound_hire env workers period
  | acted _ ha ih => exact ih.act ha

/-! ## The order of the runs -/

/-- The runs start in the order in which their tasks were taken. -/
def Straight (s : Shift τ) : Prop := s.taken = s.started ++ s.inHand.map Prod.snd

/-- While at most one worker has a task in hand, nobody overtakes anybody. -/
theorem Straight.act (h : s.Straight) (hf : s.inHand.length ≤ 1) (ha : s.Acted a s') :
    s'.Straight := by
  simp only [Straight, taken, started] at h ⊢
  cases ha with
  | took => simp [List.filterMap_cons, h]
  | @started k t hi =>
    obtain ⟨x, hx⟩ : ∃ x, s.inHand = [x] := by
      cases hl : s.inHand with
      | nil => simp [hl] at hi
      | cons x rest =>
        rw [hl, List.length_cons] at hf
        exact ⟨x, by rw [List.length_eq_zero_iff.1 (Nat.le_zero.1 (Nat.le_of_succ_le_succ hf))]⟩
    obtain ⟨rfl, rfl⟩ : x.1 = k ∧ x.2 = t := by
      rw [hx, Table.get?] at hi
      simpa using hi
    simp [List.filterMap_cons, h, hx, Table.remove]
  | gaveBack | sent | ticked | finished | cancelled | shutDown | discarded | ended =>
    simpa [List.filterMap_cons] using h
  | looked | began | waited | joined | gathered | disposed => exact h

theorem Sound.few_inHand (h : s.Sound) : s.inHand.length ≤ s.crew.workers.length := by
  have there (k : Nat) (hk : k ∈ Table.keys s.inHand) : k ∈ List.range s.crew.workers.length := by
    have busy := h.holding k hk
    rw [Crew.isBusy, decide_eq_true_eq] at busy
    exact List.mem_range.2 (List.getElem?_eq_some_iff.1 busy).1
  simpa [Table.keys] using (h.keys.subperm there).length_le

theorem crowd_act (ha : s.Acted a s') : s'.crew.workers.length = s.crew.workers.length := by
  cases ha with
  | waited _ hc _ _ | took _ _ _ hc _ _ | ticked _ _ hc _ _ => exact hc.crowd
  | finished hb _ => exact (Crew.goesOn_finish hb).crowd
  | gaveBack | looked | sent | began | started | cancelled | shutDown | joined | gathered
  | discarded | disposed | ended => rfl

/-- A worker that is alone runs the tasks in the order in which it takes them. -/
theorem Worked.alone (h : Worked whole s) (hw : s.crew.workers.length ≤ 1) : s.Straight := by
  induction h with
  | hired => rfl
  | acted hr ha ih =>
    have ha := Shift.acted ha
    rw [crowd_act ha] at hw
    exact (ih hw).act (hr.sound.few_inHand.trans hw) ha

/-! ## Whole shifts -/

/-- Nobody is interrupted in the middle of a dispatch, a tick or a step of a worker. -/
structure Undivided (s : Shift τ) : Prop where
  few : s.entrants.length + s.begun.length + s.inHand.length ≤ 1
  straight : s.Straight
  /-- Once the crew was stopped, nobody goes on with anything that was begun before. -/
  still : s.crew.stopped = true → s.isMidway = false
  ended : s.ending = .ended → s.crew.tasks = []

theorem isMidway_eq_false :
    s.isMidway = false ↔ s.entrants = [] ∧ s.begun = [] ∧ s.inHand = [] := by
  simp [isMidway, and_assoc]

theorem Undivided.stopped (h : s.Undivided) (hs : s.crew.stopped = true) :
    s.entrants = [] ∧ s.begun = [] ∧ s.inHand = [] :=
  isMidway_eq_false.1 (h.still hs)

theorem Undivided.act (h : s.Undivided) (hs : s.Sound) (hm : s.isMidway = false ∨ a.continues)
    (ha : s.Acted a s') : s'.Undivided where
  few := by
    have few := h.few
    cases ha with
    | looked | began =>
      obtain ⟨he, hb, hi⟩ := isMidway_eq_false.1 (hm.resolve_right (by simp [ShiftAct.continues]))
      simp [he, hb, hi]
    | @sent i t he =>
      have fewer := (s.entrants.eraseIdx_sublist i).length_le
      dsimp only
      omega
    | waited hb _ _ _ =>
      have fewer := hb.length_le
      dsimp only
      omega
    | took hb _ _ _ _ _ =>
      have fewer := List.length_erase_add_one hb
      simp only [List.length_append, List.length_singleton]
      omega
    | ticked hb _ _ _ _ =>
      have fewer := List.length_erase_add_one hb
      dsimp only
      omega
    | @started k _ _ =>
      have fewer : (Table.remove s.inHand k).length ≤ s.inHand.length := List.length_filter_le _ _
      dsimp only
      omega
    | gaveBack | finished | cancelled | shutDown | joined | gathered | discarded | disposed
    | ended => exact few
  straight := h.straight.act (Nat.le_of_add_left_le h.few) ha
  still := fun hs => by
    cases ha with
    | looked hn | began hn => cases hn.symm.trans hs
    | cancelled | shutDown => exact hm.resolve_right (by simp [ShiftAct.continues])
    | sent he =>
      rw [(h.stopped hs).1] at he
      cases he
    | waited hb hc _ _ =>
      obtain ⟨he, hn, hi⟩ := h.stopped (hc.stopped.symm.trans hs)
      rw [hn] at hb
      exact isMidway_eq_false.2 ⟨he, List.sublist_nil.1 hb, hi⟩
    | took hb _ _ hc _ _ | ticked hb _ hc _ _ =>
      rw [(h.stopped (hc.stopped.symm.trans hs)).2.1] at hb
      cases hb
    | started hi =>
      rw [(h.stopped hs).2.2] at hi
      cases hi
    | gaveBack | finished | joined | gathered | discarded | disposed | ended => exact h.still hs
  ended := fun he => by
    cases ha with
    | sent hn =>
      -- the one who sends has looked before the crew was stopped
      have gathered := hs.known.gathered (by rw [show s.ending = .ended from he]; rfl)
      rw [(h.stopped gathered.1).1] at hn
      cases hn
    | took _ hl _ _ _ _ | ticked _ hl _ _ _ =>
      have none := not_gathered hs hl
      rw [show s.ending = .ended from he] at none
      cases none
    | waited _ _ _ ht => exact ht.trans (h.ended he)
    | ended _ ht => exact ht
    | gaveBack | looked | began | started | finished | cancelled => exact h.ended he
    | shutDown | joined | gathered | discarded | disposed => cases he

/-- No task of a shift is lost or doubled, and none is overtaken if nobody was interrupted. -/
structure InOrder (s : Shift τ) (whole : Bool) : Prop where
  /-- The tasks whose runs have started, the one that a worker has just taken, those that were
  disposed of and those that wait are those that were accepted. -/
  tasks : whole = true →
    s.accepted = s.started ++ s.inHand.map Prod.snd ++ s.discarded ++ s.crew.tasks
  ended : whole = true → s.ending = .ended → s.accepted = s.started ++ s.discarded
  /-- Tasks are taken and disposed of in their order, whoever is interrupted. -/
  taken : s.accepted = s.taken ++ s.discarded ++ s.crew.tasks
  /-- Each task that was taken is run once. -/
  starts : s.taken.Perm (s.started ++ s.inHand.map Prod.snd)
  alone : s.crew.workers.length ≤ 1 → s.taken = s.started ++ s.inHand.map Prod.snd
  /-- A task that lies in the queue after the end was sent after the end. -/
  late : s.ending = .ended → ∃ before after, s.log = before ++ .ended :: after ∧
    s.crew.tasks = after.filterMap ShiftEvent.accepted?
  stopped : s.crew.stopped = true ↔ .stopped ∈ s.log
  /-- Once the crew was stopped, whoever wants to dispatch a task keeps it. -/
  refuses : s.crew.stopped = true →
    ∀ t, s.act (.look t) = some { s with log := s.log ++ [.givenBack t] }
  /-- Once the crew was stopped, a worker that goes on leaves. -/
  rests : s.crew.stopped = true → (∀ hand, s.act (.begin hand) = none) ∧
    ∀ k s', .worker k ∉ s.begun → s.act (.seek k) = some s' →
      s'.log = s.log ∧ s'.crew.tasks = s.crew.tasks
  /-- Whenever a task was disposed of, every run that had started before had come to its end. -/
  patient : ∀ before t, before ++ [.discarded t] <+: s.log → AllFinished before

/-- Acts one after the other, and whether nobody was interrupted. -/
def replay (whole : Bool) (s : Shift τ) : List (ShiftAct τ) → Option (Bool × Shift τ)
  | [] => some (whole, s)
  | a :: acts => (s.act a).bind fun s' => s'.replay (whole && (!s.isMidway || a.continues)) acts

theorem Worked.of_replay {acts : List (ShiftAct τ)} {whole' : Bool} (h : Worked whole s)
    (hr : s.replay whole acts = some (whole', s')) : Worked whole' s' := by
  induction acts generalizing s whole with
  | nil =>
    cases hr
    exact h
  | cons a acts ih =>
    obtain ⟨s₁, ha, hr⟩ := Option.bind_eq_some_iff.1 hr
    exact ih (h.acted ha) hr

/-- Two workers are interrupted with a task in hand each, and somebody who wants to dispatch a task
is interrupted until the shift is over. -/
example : ((hire {} 2 ⟨1000000000⟩ : Shift Nat).replay true [
    .look 1, .send 0, .look 2, .send 0, .begin (.worker 0), .seek 0, .begin (.worker 1), .seek 1,
    .start 1, .start 0, .finish 0, .finish 1, .look 3, .shutDown, .seek 0, .seek 1, .tick {} 0 9,
    .close, .close, .close, .close, .close, .send 0]).map (fun (whole, s) =>
      (whole, s.started, s.ending, s.crew.tasks)) = some (false, [2, 1], .ended, [3]) := by
  decide

end Shift

end SessionPool
