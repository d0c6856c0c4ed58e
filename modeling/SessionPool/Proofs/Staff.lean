import SessionPool.Proofs.Closed

/-!
# Workers, and whoever waits for them

Exactly the busy workers have jobs, everybody who has not left is on the list of the crew, and
whoever closes the pool takes that list over and waits until all on it have left (`Site.Staffed`).
What a move does to the crew and to the jobs is said once (`Site.Staffing`); with every move the
crew goes on, so that nobody comes back who has left (`Crew.GoesOn`). When the closing of a pool
comes to its end, all have left (`Site.deserted_of_closed`), and that stays so
(`Site.Deserted.move`); its books are about what others still have of it (`Site.Deserted.size_eq`).
-/

set_option autoImplicit false

namespace SessionPool

namespace Crew

variable {τ : Type} {c c' : Crew τ} {k j : Nat}

/-- A crew goes on with its work: nobody comes back who has left, and nobody joins it. -/
structure GoesOn (c c' : Crew τ) : Prop where
  left : ∀ hand, c.hasLeft hand = true → c'.hasLeft hand = true
  hands : c'.hands = c.hands
  stopped : c'.stopped = c.stopped
  crowd : c'.workers.length = c.workers.length

theorem hasLeft_congr (hw : c'.workers = c.workers) (ht : c'.tickers = c.tickers) (hand : Hand) :
    c'.hasLeft hand = c.hasLeft hand := by
  cases hand with
  | worker k => rw [hasLeft, hasLeft, hw]
  | ticker j => rw [hasLeft, hasLeft, ht]

theorem GoesOn.trans {c'' : Crew τ} (h : c.GoesOn c') (h' : c'.GoesOn c'') : c.GoesOn c'' where
  left := fun hand hl => h'.left hand (h.left hand hl)
  hands := h'.hands.trans h.hands
  stopped := h'.stopped.trans h.stopped
  crowd := h'.crowd.trans h.crowd

theorem Lasts.goesOn (h : c.Lasts c') : c.GoesOn c' where
  left := fun hand hl => (hasLeft_congr h.workers h.tickers hand).trans hl
  hands := h.hands
  stopped := h.stopped
  crowd := by rw [h.workers]

theorem all_set {α : Type} [DecidableEq α] {l : List α} {i k : Nat} {a b d : α}
    (hb : l[k]? = some b) (hn : b ≠ a) (h : l[i]?.all (fun x => x = a) = true) :
    (l.set k d)[i]?.all (fun x => x = a) = true := by
  by_cases hi : k = i
  · subst hi
    simp [hb, hn] at h
  · rwa [List.getElem?_set_ne hi]

theorem left_of_worker {b d : Duty} (hb : c.workers[k]? = some b) (hn : b ≠ .gone)
    (hw : c'.workers = c.workers.set k d) (ht : c'.tickers = c.tickers) (hand : Hand)
    (h : c.hasLeft hand = true) : c'.hasLeft hand = true := by
  cases hand with
  | worker i =>
    rw [hasLeft, hw]
    exact all_set hb hn h
  | ticker j =>
    rw [hasLeft, ht]
    exact h

theorem left_of_ticker {b d : Ticker} (hb : c.tickers[j]? = some b) (hn : b ≠ .gone)
    (hw : c'.workers = c.workers) (ht : c'.tickers = c.tickers.set j d) (hand : Hand)
    (h : c.hasLeft hand = true) : c'.hasLeft hand = true := by
  cases hand with
  | worker k =>
    rw [hasLeft, hw]
    exact h
  | ticker i =>
    rw [hasLeft, ht]
    exact all_set hb hn h

/-! ## What workers and tickers do -/

/-- A worker that is not busy does something else: it is busy from now on if it takes a task. -/
structure Assigns (c : Crew τ) (k : Nat) (busy : Bool) (c' : Crew τ) : Prop where
  workers : ∃ d, c'.workers = c.workers.set k d ∧ (d = .busy ↔ busy = true)
  tickers : c'.tickers = c.tickers
  hands : c'.hands = c.hands

theorem Assigns.of_eq {b : Crew τ} {busy : Bool} (h : b.Assigns k busy c')
    (hw : b.workers = c.workers) (ht : b.tickers = c.tickers) (hh : b.hands = c.hands) :
    c.Assigns k busy c' where
  workers := hw ▸ h.workers
  tickers := h.tickers.trans ht
  hands := h.hands.trans hh

theorem assigns_leave (c : Crew τ) (k : Nat) : c.Assigns k false (c.leave k) := by
  unfold leave
  dsimp only
  split <;> exact ⟨⟨.gone, rfl, by simp⟩, rfl, rfl⟩

theorem assigns_take {o : Option τ} (h : c.take k true = (c', o)) : c.Assigns k o.isSome c' := by
  unfold take at h
  split at h <;> cases h
  · exact ⟨⟨.taking, rfl, by simp⟩, rfl, rfl⟩
  · exact ⟨⟨.busy, rfl, by simp⟩, rfl, rfl⟩

/-- A worker that looks for a task is neither busy nor gone. -/
theorem assigns_seek {o : Option τ} (h : c.seek k true = some (c', o)) :
    (∃ b, c.workers[k]? = some b ∧ b ≠ .busy ∧ b ≠ .gone) ∧ c.Assigns k o.isSome c' := by
  unfold seek at h
  split at h
  · rename_i hk
    refine ⟨⟨_, hk, by simp, by simp⟩, ?_⟩
    split at h
    · cases h
      exact assigns_leave c k
    · split at h
      · exact (assigns_take (Option.some.inj h)).of_eq rfl rfl rfl
      · cases h
        exact ⟨⟨.inLine, rfl, by simp⟩, rfl, rfl⟩
  · rename_i hk
    refine ⟨⟨_, hk, by simp, by simp⟩, ?_⟩
    split at h
    · cases h
      exact assigns_leave c k
    · split at h
      · exact assigns_take (Option.some.inj h)
      · cases h
  · rename_i hk
    refine ⟨⟨_, hk, by simp, by simp⟩, ?_⟩
    split at h
    · cases h
      exact assigns_leave c k
    · split at h
      · cases h
      · exact assigns_take (Option.some.inj h)
  all_goals cases h

theorem goesOn_seek {o : Option τ} (h : c.seek k true = some (c', o)) : c.GoesOn c' := by
  obtain ⟨⟨b, hb, -, hn⟩, ⟨d, hw, -⟩, ht, hh⟩ := assigns_seek h
  exact ⟨left_of_worker hb hn hw ht, hh, (seek_cases h).1, by rw [hw, List.length_set]⟩

theorem goesOn_finish (h : c.workers[k]? = some .busy) : c.GoesOn (c.finish k) where
  left := left_of_worker h (by simp) rfl rfl
  hands := rfl
  stopped := rfl
  crowd := List.length_set

theorem goesOn_tick {env env' : Env} {t : τ} (h : c.tick env j t = some (env', c')) :
    c.GoesOn c' ∧ c'.workers = c.workers := by
  unfold tick at h
  dsimp only at h
  split at h
  · rename_i hj
    split at h <;> cases h <;>
      exact ⟨⟨left_of_ticker hj (by simp) rfl rfl, rfl, rfl, rfl⟩, rfl⟩
  · rename_i hj
    split at h
    · cases h
      exact ⟨⟨left_of_ticker hj (by simp) rfl rfl, rfl, rfl, rfl⟩, rfl⟩
    · split at h <;> cases h
      exact ⟨⟨left_of_ticker hj (by simp) rfl rfl, rfl, rfl, rfl⟩, rfl⟩
  all_goals cases h

/-- A ticker adds no task after the crew was stopped. -/
theorem tasks_tick {env env' : Env} {t : τ} (hs : c.stopped = true)
    (h : c.tick env j t = some (env', c')) : c'.tasks = c.tasks := by
  unfold tick at h
  dsimp only at h
  split at h
  · rw [if_pos hs] at h
    cases h
    rfl
  · rw [if_pos hs] at h
    cases h
    rfl
  all_goals cases h

theorem collect_none (h : c.collect = none) : c.tasks = [] := by
  unfold collect at h
  split at h
  · assumption
  · cases h

/-! ## The list -/

/-- Everybody who has not left is on the list. -/
def Listed (c : Crew τ) (hands : List Hand) : Prop := ∀ hand, c.hasLeft hand = false → hand ∈ hands

theorem GoesOn.listed (h : c.GoesOn c') {hands : List Hand} (hl : c.Listed hands) :
    c'.Listed hands := fun hand hn =>
  hl hand (Bool.eq_false_iff.2 fun hy => by simp [h.left hand hy] at hn)

theorem listed_hireWorkers (n : Nat) :
    (({} : Crew τ).hireWorkers n).Listed (({} : Crew τ).hireWorkers n).hands := by
  intro hand h
  cases hand with
  | worker i =>
    have hi : i < n := by
      by_contra hn
      have : (({} : Crew τ).hireWorkers n).workers[i]? = none := by
        simp only [hireWorkers, List.nil_append]
        exact List.getElem?_eq_none (by simpa using hn)
      simp [hasLeft, this] at h
    exact List.mem_map.2 ⟨i, List.mem_range.2 hi, by simp⟩
  | ticker j => cases h

theorem listed_hireTicker (h : c.Listed c.hands) (first : Instant) (period : Duration) :
    (c.hireTicker first period).Listed (c.hireTicker first period).hands := by
  intro hand hn
  cases hand with
  | worker i => exact List.mem_append_left _ (h (.worker i) hn)
  | ticker j =>
    by_cases hj : j < c.tickers.length
    · have he : (c.hireTicker first period).hasLeft (.ticker j) = c.hasLeft (.ticker j) := by
        simp only [hasLeft, hireTicker]
        rw [List.getElem?_append_left hj]
      exact List.mem_append_left _ (h (.ticker j) (he ▸ hn))
    · obtain rfl | hlt : j = c.tickers.length ∨ c.tickers.length < j := by omega
      · exact List.mem_append_right _ (.head _)
      · have : (c.hireTicker first period).tickers[j]? = none := by
          simp only [hireTicker]
          exact List.getElem?_eq_none (by simp; omega)
        simp [hasLeft, this] at hn

/-- A crew that was just hired has everybody on its list, and nobody is busy yet. -/
theorem hire_listed (env : Env) (workers : Nat) (period : Duration) :
    (∀ k : Nat, (hire env ({} : Crew τ) workers period).2.workers[k]? ≠ some Duty.busy) ∧
      (hire env ({} : Crew τ) workers period).2.Listed
        (hire env ({} : Crew τ) workers period).2.hands := by
  have idle (k : Nat) : (({} : Crew τ).hireWorkers workers).workers[k]? ≠ some Duty.busy := by
    intro h
    have hm : Duty.busy ∈ List.replicate workers Duty.looking := List.mem_of_getElem? h
    cases List.eq_of_mem_replicate hm
  unfold hire
  dsimp only
  split
  · exact ⟨idle, listed_hireTicker (listed_hireWorkers workers) _ period⟩
  · exact ⟨idle, listed_hireWorkers workers⟩

end Crew

namespace Operation

variable {env env' : Env} {p q : Pool} {o o' : Operation}

/-- An operation leaves the crew as it is but for its tasks, unless it stops the crew. -/
theorem lasts {s : Stepped Operation Outcome} (h : o.step env p = some s) :
    p.crew.Lasts s.2.1.crew ∨
      ∃ idle, o = .close (.stopping idle) ∧ s.2.1.crew = p.crew.stop.releaseHands.1 ∧
        s.2.2 = .more (.close (.joining p.crew.hands idle)) := by
  cases ho : o.shuts with
  | false => exact .inl (deed ho h).crew
  | true =>
    rcases shut_cases ho h with ⟨-, ⟨hs, -⟩ | ⟨hs, -⟩⟩ | ⟨idle, rfl, hs, hn⟩
    · exact .inl (hs ▸ .refl _)
    · exact .inl (hs ▸ .refl _)
    · exact .inr ⟨idle, rfl, congrArg Pool.crew hs, hn⟩

end Operation

namespace Site

variable {env env' : Env} {s s' : Site} {mv : Move}

/-! ## What a move does to the crew -/

/-- What a move does to the crew of a pool and to the jobs of its workers. -/
inductive Staffing (s : Site) : Move → Site → Prop
  /-- Somebody else acts. -/
  | lasts {mv : Move} {s' : Site} (hc : s.pool.crew.Lasts s'.pool.crew)
      (hj : ∀ k, k ∈ Table.keys s'.jobs ↔ k ∈ Table.keys s.jobs) : Staffing s mv s'
  | finished {k : Nat} {c : Crew (Task Member)} {s' : Site} (hk : k ∈ Table.keys s.jobs)
      (hc : s.pool.crew.Lasts c) (he : s'.pool.crew = c.finish k)
      (hj : s'.jobs = Table.remove s.jobs k) : Staffing s (.step (.worker k)) s'
  /-- A worker looks for a task, and has a job from now on if it takes one. -/
  | sought {k : Nat} {o : Option (Task Member)} {s' : Site}
      (hs : s.pool.crew.seek k true = some (s'.pool.crew, o))
      (hj : ∀ i, i ∈ Table.keys s'.jobs ↔ i ∈ Table.keys s.jobs ∨ i = k ∧ o.isSome = true) :
      Staffing s (.step (.worker k)) s'
  | ticked {j : Nat} {env env' : Env} {s' : Site}
      (hc : s.pool.crew.tick env j .maintain = some (env', s'.pool.crew)) (hj : s'.jobs = s.jobs) :
      Staffing s (.step (.ticker j)) s'
  /-- Whoever closes the pool stops the crew and takes over its list. -/
  | stopped {n : Nat} {idle : List Member} {s' : Site}
      (hg : Table.get? s.operations n = some (.close (.stopping idle)))
      (hc : s'.pool.crew = s.pool.crew.stop.releaseHands.1) (hj : s'.jobs = s.jobs)
      (ho : s'.operations =
        Table.update s.operations n (.close (.joining s.pool.crew.hands idle))) :
      Staffing s (.step (.user n)) s'

/-- **What a move does to the crew** and to the jobs of its workers. -/
theorem staffing_move (h : s.move? env mv = some (env', s')) : s.Staffing mv s' := by
  have same : ∀ k, k ∈ Table.keys s.jobs ↔ k ∈ Table.keys s.jobs := fun _ => Iff.rfl
  cases moved h with
  | @worked k _ _ _ _ hg hs =>
    refine .lasts (Job.deed hs).crew fun i => Table.mem_keys_put.trans ?_
    exact ⟨fun hi => hi.elim id fun e => e ▸ Table.mem_keys_of_get? hg, .inl⟩
  | finished hg hs => exact .finished (Table.mem_keys_of_get? hg) (Job.deed hs).crew rfl rfl
  | sought _ hs => exact .sought hs fun i => by simp
  | took _ hs => exact .sought hs fun i => Table.mem_keys_put.trans (by simp)
  | ticked ht => exact .ticked ht rfl
  | wentOn hg hs =>
    rcases Operation.lasts hs with hc | ⟨idle, rfl, hc, hn⟩
    · exact .lasts hc same
    · cases hn
      exact .stopped hg hc rfl rfl
  | ended hg hs =>
    rcases Operation.lasts hs with hc | ⟨idle, rfl, hc, hn⟩
    · exact .lasts hc same
    · cases hn
  | @cancelled _ o hg hs => exact .lasts (o.deed_cancel env s.pool).crew same
  | taken ht | untaken ht _ =>
    have hq := Pool.Quiet.tryTake (p := s.pool) env.now
    rw [ht] at hq
    exact .lasts hq.crew same
  | giveBack _ => exact .lasts Pool.Quiet.returnLater.crew same
  | @leaveBehind _ m _ _ hd =>
    rcases s.pool.crew.dispatch_cases (.restore m) with ⟨-, he⟩ | ⟨hn, he⟩ <;> rw [he] at hd <;>
      cases hd
    exact .lasts (.accept hn _) same
  | detach _ => exact .lasts Pool.Quiet.forget.crew same
  | resized hq => exact .lasts (Pool.Quiet.resize hq).crew same
  | closed | abandoned | resetCounters | acquire | wait | check | close | release | misplace
  | unheld | use | unsized | readOutcome | passed => exact .lasts (.refl _) same

/-- After the crew was stopped, tasks are only taken from the queue. -/
theorem Staffing.tasks (hf : s.Staffing mv s') (hs : s.pool.crew.stopped = true) :
    s'.pool.crew.tasks.Sublist s.pool.crew.tasks := by
  cases hf with
  | lasts hc _ => exact hc.tasks hs
  | finished _ hc he _ => exact he ▸ hc.tasks hs
  | sought ht _ => exact (Crew.seek_cases ht).2 ▸ List.sublist_append_right _ _
  | ticked hc _ => exact (Crew.tasks_tick hs hc) ▸ .refl _
  | stopped _ hc _ _ => exact hc ▸ .refl _

/-! ## Who waits for whom -/

end Site

/-- What whoever closes a pool has come to know of the crew. -/
def Closing.Knows (c : Crew (Task Member)) : Closing → Prop
  | starting => True
  | stopping _ => c.stopped = false
  | joining hands _ => c.stopped = true ∧ c.Listed hands
  | draining _ _ => c.stopped = true ∧ c.Listed []
  | emptying _ => c.stopped = true ∧ c.Listed []

namespace Closing

variable {env env' : Env} {p q : Pool} {c c' : Closing} {w w' : Crew (Task Member)}

theorem Knows.goesOn (hc : c.Knows w) (h : w.GoesOn w') : c.Knows w' := by
  cases c with
  | starting => trivial
  | stopping idle => exact h.stopped.trans hc
  | joining hands idle => exact ⟨h.stopped.trans hc.1, h.listed hc.2⟩
  | draining disposed idle => exact ⟨h.stopped.trans hc.1, h.listed hc.2⟩
  | emptying idle => exact ⟨h.stopped.trans hc.1, h.listed hc.2⟩

/-- Nobody on the list is left out: whoever closes the pool waits for all of them. -/
theorem Knows.step (hc : c.Knows p.crew) (ho : p.closed = false → p.crew.stopped = false)
    (hl : p.crew.stopped = false → p.crew.Listed p.crew.hands)
    (h : c.step env p = some (env', q, .more c')) : c'.Knows q.crew := by
  cases c with
  | starting =>
    simp only [Closing.step, start, Option.some.injEq] at h
    split at h <;> cases h
    rename_i hn
    exact ho (by simpa using hn)
  | stopping idle =>
    cases h
    exact ⟨rfl, hl hc⟩
  | joining hands idle =>
    cases hands with
    | nil =>
      cases h
      exact hc
    | cons hand hands =>
      simp only [Closing.step, Option.ite_none_right_eq_some, Option.some.injEq] at h
      obtain ⟨hleft, he⟩ := h
      cases he
      refine ⟨hc.1, fun other hn => (List.mem_cons.1 (hc.2 other hn)).resolve_left ?_⟩
      rintro rfl
      rw [hleft] at hn
      cases hn
  | draining disposed idle =>
    have hd : drain env p disposed idle = (env', q, .more c') := Option.some.inj h
    have quiet : p.Quiet (drain env p disposed idle).2.1 := quiet_drain disposed idle
    rw [hd] at quiet
    have known := Knows.goesOn (c := .draining disposed idle) hc quiet.crew.goesOn
    unfold drain at hd
    split at hd <;> cases hd <;> exact known
  | emptying idle =>
    cases idle with
    | nil => cases h
    | cons m idle =>
      cases h
      exact hc

end Closing

namespace Site

variable {env env' : Env} {s s' : Site} {mv : Move} {n : Nat}

/-- Who works for a pool, and who waits for them. -/
structure Staffed (s : Site) : Prop where
  /-- Exactly the busy workers have jobs. -/
  busy : ∀ k, k ∈ Table.keys s.jobs ↔ s.pool.crew.workers[k]? = some .busy
  listed : s.pool.crew.stopped = false → s.pool.crew.Listed s.pool.crew.hands
  known : ∀ n c, Table.get? s.operations n = some (.close c) → c.Knows s.pool.crew
  /-- Nobody else is closing a pool that is being closed. -/
  alone : ∀ n n' c c', Table.get? s.operations n = some (.close c) → c.begun = true →
    Table.get? s.operations n' = some (.close c') → c'.begun = true → n = n'

theorem Staffed.idle {k : Nat} (h : s.Staffed) (hk : s.pool.crew.workers[k]? ≠ some .busy) :
    Table.get? s.jobs k = none :=
  Table.get?_eq_none_iff.2 fun hj => hk ((h.busy k).1 hj)

/-- The crew goes on with every move but the one that stops it. -/
theorem Staffing.goesOn (hf : s.Staffing mv s')
    (hb : ∀ k, k ∈ Table.keys s.jobs ↔ s.pool.crew.workers[k]? = some .busy) :
    s.pool.crew.GoesOn s'.pool.crew ∨
      ∃ n idle, Table.get? s.operations n = some (.close (.stopping idle)) ∧
        s'.pool.crew.stopped = true ∧ s'.operations =
          Table.update s.operations n (.close (.joining s.pool.crew.hands idle)) := by
  cases hf with
  | lasts hc _ => exact .inl hc.goesOn
  | @finished k c _ hk hc he _ =>
    have busy : c.workers[k]? = some .busy := by
      rw [hc.workers]
      exact (hb k).1 hk
    have finish := Crew.goesOn_finish busy
    rw [he]
    exact .inl (hc.goesOn.trans finish)
  | sought hs _ => exact .inl (Crew.goesOn_seek hs)
  | ticked hc _ => exact .inl (Crew.goesOn_tick hc).1
  | @stopped n idle _ hg hc _ ho => exact .inr ⟨n, idle, hg, hc ▸ rfl, ho⟩

theorem Staffing.busy (hf : s.Staffing mv s')
    (hb : ∀ k, k ∈ Table.keys s.jobs ↔ s.pool.crew.workers[k]? = some .busy) (i : Nat) :
    i ∈ Table.keys s'.jobs ↔ s'.pool.crew.workers[i]? = some .busy := by
  cases hf with
  | lasts hc hj => rw [hj, hc.workers, hb]
  | @finished k c _ hk hc he hj =>
    have hw : s'.pool.crew.workers = s.pool.crew.workers.set k .looking := by
      rw [he, ← hc.workers]
      rfl
    rw [hj, Table.keys_remove, List.mem_filter, hb, hw]
    by_cases hi : k = i
    · subst hi
      simp [List.getElem?_set]
    · rw [List.getElem?_set_ne hi]
      simp [Ne.symm hi]
  | @sought k o _ hs hj =>
    obtain ⟨⟨b, hd', hne, -⟩, ⟨d, hw, hd⟩, -, -⟩ := Crew.assigns_seek hs
    rw [hj, hb, hw]
    by_cases hi : k = i
    · subst hi
      obtain ⟨hlt, rfl⟩ := List.getElem?_eq_some_iff.1 hd'
      simp [hlt, hne, hd]
    · rw [List.getElem?_set_ne hi]
      simp [Ne.symm hi]
  | ticked hc hj => rw [hj, (Crew.goesOn_tick hc).2, hb]
  | stopped _ hc hj _ =>
    rw [hj, hc]
    exact hb i

/-- An operation that is closing the pool did so before, or it has just begun with an open pool. -/
theorem begun_move (hk : s.Keyed) (hm : s.move? env mv = some (env', s')) {c : Closing}
    (hg : Table.get? s'.operations n = some (.close c)) (hb : c.begun = true) :
    (∃ c₀, Table.get? s.operations n = some (.close c₀) ∧ c₀.begun = true) ∨
      mv = .step (.user n) ∧ s.pool.closed = false := by
  rcases operation_origin hk hm hg with hg | ⟨o₀, rfl, hg, hs⟩ | hn
  · exact .inl ⟨c, hg, hb⟩
  · cases Operation.goesOn hs with
    | @close c₀ _ hc =>
      cases c₀ with
      | starting =>
        refine .inr ⟨rfl, Bool.eq_false_iff.2 fun hp => ?_⟩
        simp [Closing.step, Closing.start, hp] at hc
      | stopping | joining | draining | emptying => exact .inl ⟨_, hg, rfl⟩
  · cases c with
    | starting => cases hb
    | stopping | joining | draining | emptying => cases hn

theorem Staffed.known_move (h : s.Staffed) (hk : s.Keyed) (ho : s.OrderlyShut)
    (hm : s.move? env mv = some (env', s')) {c : Closing}
    (hg : Table.get? s'.operations n = some (.close c)) : c.Knows s'.pool.crew := by
  have working (hc : s.pool.closed = false) : s.pool.crew.stopped = false :=
    Bool.eq_false_iff.2 fun hs => by simp [ho.stopped hs] at hc
  rcases operation_origin hk hm hg with hg₀ | ⟨o₀, rfl, hg₀, hs⟩ | hn
  · rcases (staffing_move hm).goesOn h.busy with goesOn | ⟨k, idle, hi, -, hu⟩
    · exact (h.known n c hg₀).goesOn goesOn
    · -- the crew is stopped: the one who stops it is the only one who is closing the pool
      cases c with
      | starting => trivial
      | stopping =>
        obtain rfl := h.alone n k _ _ hg₀ rfl hi rfl
        rw [hu, Table.get?_update_self hi] at hg
        cases hg
      | joining | draining | emptying =>
        obtain rfl := h.alone n k _ _ hg₀ rfl hi rfl
        cases hi.symm.trans hg₀
  · cases Operation.goesOn hs with
    | @close c₀ _ hc => exact (h.known n c₀ hg₀).step working h.listed hc
  · cases c with
    | starting => trivial
    | stopping | joining | draining | emptying => cases hn

theorem Staffed.alone_move (h : s.Staffed) (hk : s.Keyed) (ho : s.OrderlyShut)
    (hm : s.move? env mv = some (env', s')) {n' : Nat} {c c' : Closing}
    (hg : Table.get? s'.operations n = some (.close c)) (hb : c.begun = true)
    (hg' : Table.get? s'.operations n' = some (.close c')) (hb' : c'.begun = true) : n = n' := by
  rcases begun_move hk hm hg hb, begun_move hk hm hg' hb' with
    ⟨⟨c₀, hg, hb⟩ | ⟨hn, ho₁⟩, ⟨c₁, hg', hb'⟩ | ⟨hn', ho₂⟩⟩
  · exact h.alone n n' c₀ c₁ hg hb hg' hb'
  · cases ho₂.symm.trans (ho.operations n _ hg hb)
  · cases ho₁.symm.trans (ho.operations n' _ hg' hb')
  · cases hn.symm.trans hn'
    rfl

theorem Staffed.move (h : s.Staffed) (hk : s.Keyed) (ho : s.OrderlyShut)
    (hm : s.move? env mv = some (env', s')) : s'.Staffed where
  busy := (staffing_move hm).busy h.busy
  listed := fun hs => by
    rcases (staffing_move hm).goesOn h.busy with goesOn | ⟨k, idle, -, ht, -⟩
    · rw [goesOn.hands]
      exact goesOn.listed (h.listed (goesOn.stopped.symm.trans hs))
    · rw [ht] at hs
      cases hs
  known := fun _ _ hg => h.known_move hk ho hm hg
  alone := fun _ _ _ _ hg hb hg' hb' => h.alone_move hk ho hm hg hb hg' hb'

/-! ## New pools -/

theorem quiet_fill {p : Pool} (h : p.closed = false) : p.Quiet (fill p) := by
  unfold fill
  split
  · refine Pool.Quiet.trans ?_ .topUp
    split
    · exact .aside rfl rfl le_rfl le_rfl
    · exact .refl p
  · exact .dispatchAdd h none

theorem crew_create {settings : PoolSettings} {options : ConnectOptions} {hooks : Hooks}
    (h : create env settings options hooks = (env', .ok s)) :
    (Crew.hire env {} settings.workers settings.maintenance).2.Lasts s.pool.crew := by
  unfold create at h
  split at h
  · cases h
  · cases h
  · rename_i lo hi _ _
    cases h
    exact (quiet_fill (p := { fresh env settings options hooks lo hi with
      crew := (Crew.hire env {} settings.workers settings.maintenance).2 }) rfl).crew

theorem staffed_create {settings : PoolSettings} {options : ConnectOptions} {hooks : Hooks}
    (h : create env settings options hooks = (env', .ok s)) : s.Staffed := by
  obtain ⟨idle, listed⟩ := @Crew.hire_listed (Task Member) env settings.workers
    settings.maintenance
  have hc := crew_create h
  obtain ⟨p, -, -, -, -, -, -, rfl⟩ := create_ok h
  exact {
    busy := fun k => by
      rw [hc.workers]
      exact iff_of_false List.not_mem_nil (idle k)
    listed := fun _ => by
      rw [hc.hands]
      exact hc.goesOn.listed listed
    known := fun _ _ hg => by cases hg
    alone := fun _ _ _ _ hg => by cases hg }

/-- **Whoever works for a pool has a job or waits for one**, and whoever closes it waits for all of
them. -/
theorem Reachable.staffed (h : Reachable env s) : s.Staffed := by
  induction h with
  | created h => exact staffed_create h
  | moved hr hm ih => exact ih.move hr.keyed hr.orderlyShut hm

/-! ## What always holds -/

/-- What is true of a pool and of all that goes on in it, whatever moves are made. -/
structure Lawful (s : Site) : Prop extends Regular s where
  staffed : s.Staffed
  vacated : s.Vacated

theorem Lawful.move (h : s.Lawful) (hm : s.move? env mv = some (env', s')) : s'.Lawful where
  toRegular := h.toRegular.move hm
  staffed := h.staffed.move h.keyed h.shut hm
  vacated := h.vacated.move hm

theorem Reachable.lawful (h : Reachable env s) : s.Lawful := ⟨h.regular, h.staffed, h.vacant⟩

/-! ## Pools without a crew -/

/-- The pool is closed, and nobody works for it any more. -/
structure Deserted (s : Site) : Prop where
  closed : s.pool.closed = true
  stopped : s.pool.crew.stopped = true
  left : ∀ hand, s.pool.crew.hasLeft hand = true
  jobs : s.jobs = []

theorem Staffed.deserted (h : s.Staffed) (hc : s.pool.closed = true)
    (hs : s.pool.crew.stopped = true) (hl : s.pool.crew.Listed []) : s.Deserted := by
  have left (hand : Hand) : s.pool.crew.hasLeft hand = true := by
    by_contra hn
    cases hl hand (Bool.eq_false_iff.2 hn)
  refine ⟨hc, hs, left, ?_⟩
  cases hj : s.jobs with
  | nil => rfl
  | cons x _ =>
    have busy := (h.busy x.1).1 (List.mem_map_of_mem (hj ▸ List.mem_cons_self))
    have gone := left (.worker x.1)
    simp [Crew.hasLeft, busy] at gone

/-- The last step of an operation that is closing the pool leaves the pool as it is. -/
theorem closing_end {p q : Pool} {c : Closing} {outcome : Outcome} (hb : c.begun = true)
    (h : (Operation.close c).step env p = some (env', q, .done outcome)) :
    c = .emptying [] ∧ q = p := by
  obtain ⟨⟨env₁, q₁, next⟩, hc, he⟩ := Option.map_eq_some_iff.1 h
  cases next <;> cases he
  cases c with
  | starting => cases hb
  | stopping idle => cases hc
  | joining hands idle =>
    cases hands with
    | nil => cases hc
    | cons hand hands => simp [Closing.step] at hc
  | draining disposed idle =>
    have hd : Closing.drain env p disposed idle = (env', q, .done ()) := Option.some.inj hc
    unfold Closing.drain at hd
    split at hd <;> cases hd
  | emptying idle =>
    cases idle <;> cases hc
    exact ⟨rfl, rfl⟩

theorem closed_cases {c : Closing} (hg : Table.get? s.operations n = some (.close c))
    (hb : c.begun = true) (hm : s.move? env (.step (.user n)) = some (env', s'))
    (he : Table.get? s'.operations n = none) : c = .emptying [] ∧ s'.pool = s.pool := by
  cases moved hm with
  | wentOn hg' => cases he.symm.trans (Table.get?_update_self hg' _)
  | ended hg' hs =>
    obtain rfl : _ = Operation.close c := Option.some.inj (hg'.symm.trans hg)
    exact closing_end hb hs
  | unheld hv => rcases hv with hv | hv | hv <;> cases hv

/-- **When the closing of a pool has come to its end, nobody works for it.** -/
theorem deserted_of_closed (h : s.Lawful) {c : Closing}
    (hg : Table.get? s.operations n = some (.close c)) (hb : c.begun = true)
    (hm : s.move? env (.step (.user n)) = some (env', s'))
    (he : Table.get? s'.operations n = none) : s'.Deserted := by
  obtain ⟨rfl, hp⟩ := closed_cases hg hb hm he
  obtain ⟨stopped, listed⟩ := h.staffed.known n _ hg
  rw [← hp] at stopped listed
  exact (h.move hm).staffed.deserted (hp ▸ h.shut.operations n _ hg rfl) stopped listed

theorem Deserted.move (hd : s.Deserted) (h : s.Lawful) (hm : s.move? env mv = some (env', s')) :
    s'.Deserted := by
  have goesOn : s.pool.crew.GoesOn s'.pool.crew := by
    rcases (staffing_move hm).goesOn h.staffed.busy with goesOn | ⟨k, idle, hi, -, -⟩
    · exact goesOn
    · have working : s.pool.crew.stopped = false := h.staffed.known k _ hi
      cases working.symm.trans hd.stopped
  refine (h.move hm).staffed.deserted ((h.toRegular.steady hm).closed hd.closed)
    (goesOn.stopped.trans hd.stopped) fun hand hn => ?_
  cases hn.symm.trans (goesOn.left hand (hd.left hand))

/-! ## What is left in the books -/

/-- No session is to be opened for a pool that nobody works for but by those who do it themselves,
unless somebody has sent a task for it. -/
theorem Deserted.opening_eq (hd : s.Deserted) (h : s.Lawful) (ha : s.pool.adds = 0) :
    s.pool.opening = s.operations.countP fun o => o.2.isDialing := by
  rw [h.balanced.opening, Stake.rooms_add, Pool.rooms_stake, rooms_stake, ha, hd.jobs]
  simp

/-- **The books of a pool that nobody works for** are about those who open a session themselves,
what was handed over, what users hold, release or probe, and what nobody took back. -/
theorem Deserted.size_eq (hd : s.Deserted) (h : s.Lawful) (ha : s.pool.adds = 0) :
    s.pool.size = s.operations.countP (fun o => o.2.isDialing) +
      s.pool.waiting.delivered.length + s.held.length +
        (s.operations.flatMap fun o => o.2.counted).length + s.pool.returns.length := by
  have hs := h.balanced.size
  rw [hd.opening_eq h ha, Stake.counted_add, Pool.counted_stake, counted_stake, Multiset.card_add,
    card_idsOf, card_idsOf, (h.vacated hd.closed).1, hd.jobs] at hs
  simp only [List.length_append, List.nil_append, List.flatMap_nil, List.length_nil] at hs
  omega

end Site

end SessionPool
