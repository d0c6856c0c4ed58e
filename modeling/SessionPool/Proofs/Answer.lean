import SessionPool.Proofs.Accounting
import SessionPool.Proofs.Errand

/-!
# Waiting requests and their answers

The line holds exactly the requests whose callers are there and have no answer yet
(`Site.tickets_perm`). An answer that was given stays until its caller takes it
(`Pool.Row.answered`), so that a request that was answered returns that answer and no other
(`Site.settled_moves`); and if its caller goes away, the pool has the session back at once
(`Pool.hasBack_abandon`). All of it together is `Site.nothing_forgotten`.
-/

set_option autoImplicit false

namespace SessionPool

/-! ## Answers in the queue -/

namespace WaitQueue

variable {α : Type} {q w : WaitQueue α} {ticket : Nat} {result : Except PoolError α}

/-- A ticket has been answered, and its caller has the answer or finds it ready. -/
def Answered (q : WaitQueue α) (ticket : Nat) (result : Except PoolError α) : Prop :=
  q.reply? ticket = some result ∨ ticket ∉ q.listening ∧ ticket < q.nextTicket

namespace Answered

theorem of_append (h : q.Answered ticket result) {replies : List (Nat × Except PoolError α)}
    (hr : w.replies = q.replies ++ replies) (hl : w.listening = q.listening)
    (hn : w.nextTicket = q.nextTicket) : w.Answered ticket result := by
  rcases h with h | ⟨h, ht⟩
  · refine .inl ?_
    rw [reply?, hr]
    exact Table.get?_append_of_some h
  · exact .inr ⟨hl ▸ h, hn ▸ ht⟩

theorem hangUp (h : q.Answered ticket result) (hs : q.Sound) (other : Nat) :
    Answered (q.hangUp other) ticket result := by
  have gone (hl : ticket ∉ q.listening) : ticket ∉ (q.hangUp other).listening :=
    fun hm => hl (List.mem_filter.1 hm).1
  rcases h with h | ⟨h, ht⟩
  · by_cases he : ticket = other
    · have hk : ticket ∈ Table.keys q.replies := List.mem_map_of_mem (Table.mem_of_get? h)
      have hl : ticket ∈ q.listening := hs.placed.mem_iff.2 (List.mem_append_right _ hk)
      refine .inr ⟨fun hm => ?_, hs.issued _ hl⟩
      have := (List.mem_filter.1 hm).2
      simp [he] at this
    · exact .inl ((Table.get?_filter_ne _ other ticket he).trans h)
  · exact .inr ⟨gone h, ht⟩

theorem enqueue (h : q.Answered ticket result) (now : Instant) (timeout : Duration) :
    (q.enqueue now timeout).1.Answered ticket result := by
  rcases h with h | ⟨h, ht⟩
  · exact .inl h
  · refine .inr ⟨fun hm => ?_, Nat.lt_succ_of_lt ht⟩
    rcases List.mem_append.1 hm with hm | hm
    · exact h hm
    · exact Nat.ne_of_lt ht (List.mem_singleton.1 hm)

end Answered

end WaitQueue

namespace Pool

variable {now : Instant} {l : Line} {p q : Pool} {a b k : Stake} {m : Member} {ticket : Nat}
  {result : Acquired}

theorem Entry.answered (h : Entry now l p a q b) (hs : p.waiting.Sound)
    (hp : p.waiting.Answered ticket result) : q.waiting.Answered ticket result := by
  cases h with
  | aside h _ =>
    have hw : q.waiting = p.waiting := congrArg Books.waiting h
    rwa [hw]
  | expire =>
    rw [WaitQueue.expire_eq]
    exact hp.of_append rfl rfl rfl
  | @sweep _ _ m _ =>
    rcases p.waiting.fulfill_cases m now with ⟨before, r, after, -, -, -, hf⟩ | ⟨-, hf⟩ <;> rw [hf]
    · exact hp.of_append rfl rfl rfl
    · exact hp.of_append rfl rfl rfl
  | @hand _ m _ _ =>
    rcases p.waiting.fulfill_cases m now with ⟨before, r, after, -, -, -, hf⟩ | ⟨-, hf⟩ <;> rw [hf]
    · exact hp.of_append rfl rfl rfl
    · exact hp.of_append rfl rfl rfl
  | collect _ => exact hp.hangUp hs _
  | @withdraw _ other _ =>
    rcases hp.hangUp hs other with hp | ⟨hl, ht⟩
    · exact .inl hp
    · exact .inr ⟨hl, ht⟩
  | fail other e =>
    rw [WaitQueue.fail_eq]
    split
    · exact hp.of_append rfl rfl rfl
    · exact hp
  | failAll e =>
    rw [WaitQueue.failAll_eq]
    exact hp.of_append rfl rfl rfl
  | enroll timeout _ => exact hp.enqueue now timeout
  | reserve | unreserve | furnish | countLive | number | drop | lose | leave | depart | queueTask
  | takeTask | unpark | park => exact hp

theorem Entries.answered (h : Entries now l p a q b) (hb : p.Balanced (a + k))
    (hp : p.waiting.Answered ticket result) : q.waiting.Answered ticket result := by
  induction h with
  | refl => exact hp
  | step h e ih => exact e.answered (h.balanced hb).sound ih

/-- **No row of entries takes an answer back.** -/
theorem Row.answered (h : Row now p a q b) (hb : p.Balanced (a + k))
    (hp : p.waiting.Answered ticket result) : q.waiting.Answered ticket result := by
  cases h with
  | changing h => exact h.answered hb hp
  | @serving p' q' a' b' k' before e after =>
    have hb' := before.balanced hb
    have hq' : q'.Balanced (b' + k' + k) := by
      rw [add_assoc] at hb' ⊢
      exact e.balanced hb'
    exact after.answered hq' (e.answered hb'.sound (before.answered hb hp))

/-! ## Members of callers that went away -/

/-- The pool has a member: it is unused, or lies ready for a request; or it is to be closed, if the
pool was closed or keeps none. -/
def HasBack (p : Pool) (m : Member) : Prop :=
  ∃ m', m'.id = m.id ∧ m'.session = m.session ∧
    (m' ∈ p.idle ∨ m' ∈ p.waiting.delivered ∨
      (p.closed = true ∨ p.isNull = true) ∧ (.close m' ∈ p.crew.tasks ∨ m' ∈ p.leaving))

theorem HasBack.of_stage {stage : Stage} (h : p.HasBack (m.inStage stage)) : p.HasBack m := h

theorem hasBack_discard (hc : p.closed = true ∨ p.isNull = true) : (p.discard m).HasBack m := by
  have hf : (p.discard m).closed = p.closed ∧ (p.discard m).isNull = p.isNull := by
    have hf := front_discard p m
    exact ⟨congrArg Front.closed hf,
      congrArg (fun f : Front => decide (f.settings.kind = PoolKind.null)) hf⟩
  refine ⟨m, rfl, rfl, .inr (.inr ⟨hf.1 ▸ hf.2 ▸ hc, ?_⟩)⟩
  unfold discard dispatchClose
  rcases (p.drop 1).crew.dispatch_cases (.close m) with ⟨-, hd⟩ | ⟨-, hd⟩ <;> rw [hd]
  · exact .inr (List.mem_append_right _ (.head _))
  · exact .inl (List.mem_append_right _ (.head _))

theorem hasBack_deliver (p : Pool) (m : Member) (now : Instant) : (p.deliver m now).HasBack m := by
  unfold deliver
  split
  · rename_i hc
    refine hasBack_discard ?_
    simp only [Bool.or_eq_true, Bool.and_eq_true] at hc
    exact hc.imp_right And.left
  · dsimp only
    rcases p.waiting.fulfill_cases (m.inStage .idle) now with
      ⟨before, r, after, -, -, -, hf⟩ | ⟨-, hf⟩ <;> rw [hf]
    · refine ⟨m.inStage .idle, rfl, rfl, .inr (.inl ?_)⟩
      simp [count, WaitQueue.delivered]
    · dsimp only
      split
      · rename_i hn
        exact (hasBack_discard (.inr hn)).of_stage
      · exact ⟨m.inStage .idle, rfl, rfl, .inl (List.mem_append_right _ (.head _))⟩

theorem hasBack_abandon (hs : p.waiting.Sound) (hr : p.waiting.reply? ticket = some (.ok m)) :
    (p.abandon ticket now).HasBack m := by
  have hu : p.undelivered? ticket = some m := by
    unfold undelivered?
    rw [if_neg (by simp [hs.not_waiting_of_reply hr]), hr]
  unfold abandon
  rw [hu]
  exact hasBack_deliver _ m now

end Pool

namespace Site

variable {env env' : Env} {s s' : Site} {n : Nat} {result : Acquired}

/-! ## The line and the callers -/

/-- The tickets of the requests whose callers are there and that have no answer yet. -/
def unanswered (s : Site) : List Nat :=
  s.operations.filterMap fun o => o.2.ticket?.filter fun t => (s.pool.waiting.reply? t).isNone

/-- **The line holds the requests that have no answer yet**, and no others. -/
theorem tickets_perm (h : Reachable env s) : s.pool.waiting.tickets.Perm s.unanswered := by
  have hb := h.balanced
  have hl : s.pool.waiting.listening.Perm (s.operations.filterMap fun o => o.2.ticket?) :=
    Multiset.coe_eq_coe.1 (hb.tickets_eq.trans (tickets_stake s))
  have hp := (hb.sound.placed.symm.trans hl).filter fun t => (s.pool.waiting.reply? t).isNone
  -- who waits has no answer, and who has an answer does not wait
  have hw : s.pool.waiting.tickets.filter (fun t => (s.pool.waiting.reply? t).isNone) =
      s.pool.waiting.tickets := by
    refine List.filter_eq_self.2 fun t ht => ?_
    rw [hb.sound.reply?_of_waiting (WaitQueue.isWaiting_iff.2 ht)]
    rfl
  have hr : (Table.keys s.pool.waiting.replies).filter
      (fun t => (s.pool.waiting.reply? t).isNone) = [] := by
    refine List.filter_eq_nil_iff.2 fun t ht hn => ?_
    exact Table.get?_eq_none_iff.1 (Option.isNone_iff_eq_none.1 hn) ht
  rwa [List.filter_append, hw, hr, List.append_nil, List.filter_filterMap] at hp

theorem Reachable.lineFits (h : Reachable env s) : s.pool.LineFits := by
  induction h with
  | created h =>
    obtain ⟨p, hp, -, -, -, -, -, rfl⟩ := create_ok h
    refine (handled_fill p).line fun _ => ?_
    rw [hp.waiting]
    exact Nat.zero_le _
  | moved hr hm ih => exact (hr.steady hm).line ih

/-! ## Requests that were answered -/

/-- The request of an operation has been answered. -/
def Resolved (s : Site) (n : Nat) (result : Acquired) : Prop :=
  ∃ a t, Table.get? s.operations n = some (.acquire a) ∧ a.ticket? = some t ∧
    s.pool.waiting.reply? t = some result

def Failing (s : Site) (n : Nat) (result : Acquired) : Prop :=
  ∃ e, Table.get? s.operations n = some (.acquire (.failing e)) ∧ result = .error e

/-- The next step of an operation is its last one, and it returns a result; a member is handed out
with it. -/
def Returns (env : Env) (s : Site) (n : Nat) (result : Acquired) (env' : Env) (s' : Site) : Prop :=
  s.step env (.user n) = some (env', s') ∧
    s'.outcomes =
      s.outcomes ++ [(n, .ofAcquired (result.map fun m => m.handOut env.now))]

theorem Resolved.move (hr : s.Resolved n result) (h : Reachable env s) {mv : Move}
    (hm : s.move? env mv = some (env', s')) (hs : mv ≠ .step (.user n)) (hc : mv ≠ .cancel n) :
    s'.Resolved n result := by
  obtain ⟨a, t, hg, ht, hr⟩ := hr
  have hg' := operation_move hm hg hs hc
  have hb := h.balanced
  have hb' := (h.moved hm).balanced
  have hp : s.pool.waiting.Answered t result := .inl hr
  have hq : s'.pool.waiting.Answered t result := by
    rcases move_cases h.keyed hb hm with
      ⟨lo, hi, -, -, rfl | ⟨q, hq, rfl⟩⟩ | ⟨-, -, rfl⟩ | ⟨a, b, k, ha, -, hl⟩
    · exact hp
    · obtain ⟨lo, hi, he⟩ : ∃ lo hi, Pool.Entries .origin .still _ 0 q 0 := Pool.resize_entries hq
      have hb : Pool.Balanced { s.pool with minSize := lo, maxSize := hi } (0 + s.stake) :=
        (zero_add s.stake).symm ▸ hb.congr rfl
      exact he.answered hb hp
    · exact hp
    · rw [ha] at hb
      exact hl.row.answered hb hp
  -- the caller still listens, for the operation is there
  have hl : t ∈ s'.pool.waiting.listening := by
    rw [← Multiset.mem_coe, hb'.tickets_eq, tickets_stake, Multiset.mem_coe]
    exact List.mem_filterMap.2 ⟨(n, .acquire a), Table.mem_of_get? hg', ht⟩
  exact ⟨a, t, hg', ht, hq.resolve_right fun hn => hn.1 hl⟩

theorem stepUser_more {o o' : Operation} {q : Pool} (hg : Table.get? s.operations n = some o)
    (ho : o.step env s.pool = some (env', q, .more o')) :
    s.step env (.user n) =
      some (env', { s with pool := q, operations := Table.update s.operations n o' }) := by
  rw [step, stepUser, hg, Option.bind_some, ho]
  rfl

theorem stepUser_done {o : Operation} {q : Pool} {outcome : Outcome}
    (hg : Table.get? s.operations n = some o)
    (ho : o.step env s.pool = some (env', q, .done outcome)) :
    s.step env (.user n) = some (env', { s with pool := q }.conclude n outcome) := by
  rw [step, stepUser, hg, Option.bind_some, ho]
  rfl

/-- A request that was answered reads the answer, whether its time is up or not. -/
theorem step_of_reply (env : Env) {p : Pool} {a : Acquiring} {t : Nat} (hs : p.waiting.Sound)
    (ht : a.ticket? = some t) (hr : p.waiting.reply? t = some result) :
    a.step env p = some (Acquiring.conclude env (p.collectReply t, result)) := by
  cases a with
  | queued ticket cutoff timeout =>
    cases ht
    simp only [Acquiring.step, hr]
  | givingUp ticket timeout =>
    cases ht
    have hg : p.giveUp t timeout = (p.collectReply t, result) := by
      rw [Pool.giveUp, if_neg (by simp [hs.not_waiting_of_reply hr]), hr]
    rw [Acquiring.step, hg]
  | arriving | calling | dialing | takingOver | countingFailure | vacating | failing => cases ht

/-- A request that was answered returns the answer with its next step, or goes on to say that it
failed. -/
theorem Resolved.step (env : Env) (hr : s.Resolved n result) (hs : s.pool.waiting.Sound) :
    ∃ env' s', s.step env (.user n) = some (env', s') ∧
      (s.Returns env n result env' s' ∨ s'.Failing n result) := by
  obtain ⟨a, t, hg, ht, hr⟩ := hr
  have ha := step_of_reply env hs ht hr
  have ho : (Operation.acquire a).step env s.pool = _ := congrArg (Option.map _) ha
  cases result with
  | ok m =>
    have hstep := stepUser_done hg ho
    exact ⟨_, _, hstep, .inl ⟨hstep, rfl⟩⟩
  | error e =>
    by_cases he : e = .closed
    · simp only [Acquiring.conclude, Acquiring.refuse, if_pos he] at ho
      have hstep := stepUser_done hg ho
      exact ⟨_, _, hstep, .inl ⟨hstep, rfl⟩⟩
    · simp only [Acquiring.conclude, Acquiring.refuse, if_neg he] at ho
      exact ⟨_, _, stepUser_more hg ho, .inr ⟨e, Table.get?_update_self hg _, rfl⟩⟩

theorem Failing.step (env : Env) (hf : s.Failing n result) :
    ∃ env' s', s.Returns env n result env' s' := by
  obtain ⟨e, hg, rfl⟩ := hf
  have ho : (Operation.acquire (.failing e)).step env s.pool =
      some (env, s.pool.countFailure, .done (.failed e)) := rfl
  have hstep := stepUser_done hg ho
  exact ⟨_, _, hstep, rfl⟩

theorem settled_move (hs : s.Resolved n result ∨ s.Failing n result) (h : Reachable env s)
    {mv : Move} (hm : s.move? env mv = some (env', s')) (hc : mv ≠ .cancel n) :
    (s'.Resolved n result ∨ s'.Failing n result) ∨
    mv = .step (.user n) ∧ s.Returns env n result env' s' := by
  by_cases hu : mv = .step (.user n)
  · subst hu
    have he : s.step env (.user n) = some (env', s') := hm
    rcases hs with hs | hs
    · obtain ⟨env₁, s₁, hstep, hn⟩ := hs.step env h.balanced.sound
      rw [he] at hstep
      cases hstep
      exact hn.elim (fun hn => .inr ⟨rfl, hn⟩) fun hn => .inl (.inr hn)
    · obtain ⟨env₁, s₁, hstep, ho⟩ := hs.step env
      rw [he] at hstep
      cases hstep
      exact .inr ⟨rfl, he, ho⟩
  · rcases hs with hs | ⟨e, hg, hr⟩
    · exact .inl (.inl (hs.move h hm hu hc))
    · exact .inl (.inr ⟨e, operation_move hm hg hu hc, hr⟩)

/-- A run in which nobody gives the request up leaves its result settled, or comes to the step that
returns it. -/
theorem settled_moves {mvs : List Move} (hs : s.Resolved n result ∨ s.Failing n result)
    (h : Reachable env s) (hm : moves? env s mvs = some (env', s')) (hc : .cancel n ∉ mvs) :
    (s'.Resolved n result ∨ s'.Failing n result) ∨
    ∃ before after env₁ s₁ env₂ s₂, mvs = before ++ .step (.user n) :: after ∧
      moves? env s before = some (env₁, s₁) ∧ s₁.Returns env₁ n result env₂ s₂ := by
  induction mvs generalizing env s with
  | nil =>
    cases hm
    exact .inl hs
  | cons mv rest ih =>
    obtain ⟨⟨env₁, s₁⟩, hx, hm⟩ := Option.bind_eq_some_iff.1 hm
    obtain ⟨hne, hc⟩ := not_or.1 (mt List.mem_cons.2 hc)
    rcases settled_move hs h hx (fun e => hne e.symm) with hs | ⟨rfl, hr⟩
    · refine (ih hs (h.moved hx) hm hc).imp_right ?_
      rintro ⟨before, after, env₂, s₂, env₃, s₃, rfl, hb, hr⟩
      refine ⟨mv :: before, after, env₂, s₂, env₃, s₃, rfl, ?_, hr⟩
      exact Option.bind_eq_some_iff.2 ⟨_, hx, hb⟩
    · exact .inr ⟨[], rest, env, s, env₁, s₁, rfl, rfl, hr⟩

theorem Resolved.prompt (hr : s.Resolved n result) (h : Reachable env s) :
    ∃ k ≤ 1, ∃ env₁ s₁ env₂ s₂,
      moves? env s (List.replicate k (.step (.user n))) = some (env₁, s₁) ∧
        s₁.Returns env₁ n result env₂ s₂ := by
  obtain ⟨env₁, s₁, hstep, hn⟩ := hr.step env h.balanced.sound
  rcases hn with hn | hn
  · exact ⟨0, Nat.zero_le 1, env, s, env₁, s₁, rfl, hn⟩
  · obtain ⟨env₂, s₂, hr⟩ := hn.step env₁
    exact ⟨1, le_rfl, env₁, s₁, env₂, s₂, Option.bind_eq_some_iff.2 ⟨_, hstep, rfl⟩, hr⟩

theorem hasBack_cancel (h : Reachable env s) {a : Acquiring} {t : Nat}
    (hg : Table.get? s.operations n = some (.acquire a)) (ht : a.ticket? = some t)
    (hm : s.move? env (.cancel n) = some (env', s')) :
    t ∉ s'.pool.waiting.tickets ∧
      ∀ m, s.pool.waiting.reply? t = some (.ok m) → s'.pool.HasBack m := by
  have hb := h.balanced
  have hb' := (h.moved hm).balanced
  cases moved hm with
  | unheld hv => rcases hv with hv | hv | hv <;> cases hv
  | cancelled hg' hs =>
    cases hg.symm.trans hg'
    -- of the requests that can be given up only those in the line have a ticket
    cases a with
    | queued ticket cutoff timeout =>
      cases ht
      refine ⟨fun hw => ?_, fun m hr => Pool.hasBack_abandon hb.sound hr⟩
      -- the ticket was the caller's alone, so the requests that are left have others
      have hd := Multiset.coe_nodup.2 hb.sound.distinct
      rw [hb.tickets_eq, stake_operation h.keyed hg, Stake.tickets_add] at hd
      have hl := Multiset.mem_coe.2 (hb'.sound.placed.mem_iff.2 (List.mem_append_left _ hw))
      rw [hb'.tickets_eq] at hl
      exact Multiset.disjoint_left.1 (Multiset.nodup_add.1 hd).2.2
        (Multiset.mem_singleton_self t) hl
    | arriving _ | dialing _ _ _ => cases ht
    | givingUp _ _ | calling _ _ | takingOver _ _ | countingFailure _ | vacating _ | failing _ =>
      cases hs

/-! ## The whole -/

/-- No request is forgotten and no answer is lost. -/
structure NothingForgotten (env : Env) (s : Site) : Prop where
  /-- The line holds exactly the requests whose callers are there and that have no answer yet. -/
  line : s.pool.waiting.tickets.Perm s.unanswered
  limit : 0 < s.pool.settings.maxWaiting → s.pool.waiting.length ≤ s.pool.settings.maxWaiting
  /-- A request that was answered returns the answer after two steps of its own at the latest. -/
  prompt : ∀ n result, s.Resolved n result → ∃ k ≤ 1, ∃ env₁ s₁ env₂ s₂,
    moves? env s (List.replicate k (.step (.user n))) = some (env₁, s₁) ∧
      s₁.Returns env₁ n result env₂ s₂
  /-- It returns that answer and no other, whatever happens meanwhile, if it is not given up. -/
  faithful : ∀ n result mvs env' s', s.Resolved n result →
    moves? env s mvs = some (env', s') → .cancel n ∉ mvs →
    (s'.Resolved n result ∨ s'.Failing n result) ∨
    ∃ before after env₁ s₁ env₂ s₂, mvs = before ++ .step (.user n) :: after ∧
      moves? env s before = some (env₁, s₁) ∧ s₁.Returns env₁ n result env₂ s₂
  /-- If it is given up, it leaves nothing behind, and the pool has the member back with the same
  move. -/
  returned : ∀ n a t env' s', Table.get? s.operations n = some (.acquire a) →
    a.ticket? = some t → s.move? env (.cancel n) = some (env', s') →
    t ∉ s'.pool.waiting.tickets ∧
      ∀ m, s.pool.waiting.reply? t = some (.ok m) → s'.pool.HasBack m

/-- **No request is forgotten and no answer is lost**, in every state that a pool comes to. -/
theorem nothing_forgotten (h : Reachable env s) : s.NothingForgotten env where
  line := tickets_perm h
  limit := h.lineFits
  prompt := fun _ _ hr => hr.prompt h
  faithful := fun _ _ _ _ _ hr hm hc => settled_moves (.inl hr) h hm hc
  returned := fun _ _ _ _ _ hg ht hm => hasBack_cancel h hg ht hm

theorem nothing_forgotten_handed :
    ∃ x, replay smallPool (twoRequests ++ [.step (.worker 0)]) = some x ∧
      x.2.pool.waiting.delivered.length = 1 ∧ x.2.unanswered = [2] ∧ x.2.NothingForgotten x.1 := by
  obtain ⟨x, hx, hd, hr⟩ := Reachable.of_replay smallPool (twoRequests ++ [.step (.worker 0)])
    (fun x => x.2.pool.waiting.delivered.length = 1 ∧ x.2.unanswered = [2]) (by decide +kernel)
  have hd : x.2.pool.waiting.delivered.length = 1 ∧ x.2.unanswered = [2] := by simpa using hd
  exact ⟨x, hx, hd.1, hd.2, nothing_forgotten hr⟩

end Site

end SessionPool
