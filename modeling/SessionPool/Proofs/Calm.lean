import SessionPool.Proofs.Handling
import SessionPool.Proofs.Line

/-!
# What the functions on a pool leave as it is

Most of what is done to a pool makes no member free: none becomes unused that was not, those that
stay so keep their order, and none is handed over (`Pool.Calm`). Once the pool is closed it only
shrinks (`Pool.Wanes`). Its crew stays as it is but for its tasks (`Crew.Lasts`), and what is calm
and leaves the crew to itself is quiet (`Pool.Quiet`). There is one lemma for each function on a
pool; only those that end in `Pool.deliver` make a member free: it is the last of the unused ones
after that, or a request is served with it (`Pool.Admits`).
-/

set_option autoImplicit false

namespace SessionPool

/-- A crew stays as it is but for its tasks, and takes on none after it was stopped. -/
structure Crew.Lasts {τ : Type} (c c' : Crew τ) : Prop where
  workers : c'.workers = c.workers
  tickers : c'.tickers = c.tickers
  hands : c'.hands = c.hands
  stopped : c'.stopped = c.stopped
  tasks : c.stopped = true → c'.tasks.Sublist c.tasks

namespace Crew.Lasts

variable {τ : Type} {c c' c'' : Crew τ}

theorem refl (c : Crew τ) : c.Lasts c := ⟨rfl, rfl, rfl, rfl, fun _ => .refl _⟩

theorem trans (h : c.Lasts c') (h' : c'.Lasts c'') : c.Lasts c'' where
  workers := h'.workers.trans h.workers
  tickers := h'.tickers.trans h.tickers
  hands := h'.hands.trans h.hands
  stopped := h'.stopped.trans h.stopped
  tasks := fun hs => (h'.tasks (h.stopped.trans hs)).trans (h.tasks hs)

/-- A crew that is at work takes on a task. -/
theorem accept (hs : c.stopped = false) (t : τ) : c.Lasts { c with tasks := c.tasks ++ [t] } :=
  ⟨rfl, rfl, rfl, rfl, fun hn => by simp [hs] at hn⟩

end Crew.Lasts

namespace Pool

variable {p q r : Pool} {m : Member} {ms : List Member} {now : Instant}

/-- A pool that is closed shrinks: nothing becomes unused, nobody waits, and no session is opened
that was not being opened before. -/
structure Wanes (p q : Pool) : Prop where
  closed : q.closed = true
  size : q.size ≤ p.size
  opening : q.opening ≤ p.opening
  adds : (q.crew.tasks.filter Task.isAdd).Sublist (p.crew.tasks.filter Task.isAdd)
  idle : p.idle = [] → q.idle = []
  requests : p.waiting.requests = [] → q.waiting.requests = []

/-- No member becomes free: none becomes unused, and none is handed over. -/
structure Calm (p q : Pool) : Prop where
  idle : q.idle.Sublist p.idle
  served : NoneServed p q
  wanes : p.closed = true → p.Wanes q

/-- In addition, the pool stays open or closed, and nobody but the crew itself does anything to
it. -/
structure Quiet (p q : Pool) : Prop extends Calm p q where
  closed : q.closed = p.closed
  crew : p.crew.Lasts q.crew

/-- At most one member becomes free, and if it is unused then it is the last one. -/
structure Admits (m : Member) (p q : Pool) : Prop where
  idle : q.idle.Sublist (p.idle ++ [m])
  served : ∀ t m', (t, .ok m') ∈ q.waiting.replies → (t, .ok m') ∈ p.waiting.replies ∨ m' = m

/-- A request was served with no other member. -/
def ServesOnly (m : Member) (p q : Pool) : Prop :=
  ∀ t m', (t, .ok m') ∈ q.waiting.replies →
    (t, .ok m') ∈ p.waiting.replies ∨ m'.id = m.id ∧ m'.notes.expiresAt = m.notes.expiresAt

theorem Wanes.trans (h : p.Wanes q) (h' : q.Wanes r) : p.Wanes r where
  closed := h'.closed
  size := h'.size.trans h.size
  opening := h'.opening.trans h.opening
  adds := h'.adds.trans h.adds
  idle := fun hp => h'.idle (h.idle hp)
  requests := fun hp => h'.requests (h.requests hp)

theorem Wanes.refl (h : p.closed = true) : p.Wanes p := ⟨h, le_rfl, le_rfl, .refl _, id, id⟩

theorem Calm.idle_eq_nil (h : p.Calm q) (hp : p.idle = []) : q.idle = [] :=
  List.sublist_nil.1 (hp ▸ h.idle)

theorem Calm.trans (h : p.Calm q) (h' : q.Calm r) : p.Calm r where
  idle := h'.idle.trans h.idle
  served := h.served.trans h'.served
  wanes := fun hc => (h.wanes hc).trans (h'.wanes (h.wanes hc).closed)

namespace Quiet

theorem refl (p : Pool) : p.Quiet p where
  closed := rfl
  crew := .refl _
  wanes := .refl
  idle := .refl _
  served := .of_eq rfl

theorem trans (h : p.Quiet q) (h' : q.Quiet r) : p.Quiet r where
  toCalm := h.toCalm.trans h'.toCalm
  closed := h'.closed.trans h.closed
  crew := h.crew.trans h'.crew

/-- The crew and the members stay where they are, and no number grows. -/
theorem aside (hf : q.front = p.front) (hc : q.crew = p.crew) (hs : q.size ≤ p.size)
    (ho : q.opening ≤ p.opening) : p.Quiet q := by
  have hi : q.idle = p.idle := congrArg Front.idle hf
  have hw : q.waiting = p.waiting := congrArg Front.waiting hf
  exact {
    closed := congrArg Front.closed hf
    crew := hc ▸ .refl _
    wanes := fun hcl => ⟨(congrArg Front.closed hf).trans hcl, hs, ho, hc ▸ .refl _,
      fun hp => hi.trans hp, fun hp => hw ▸ hp⟩
    idle := hi ▸ .refl _
    served := .of_eq hw }

theorem count (f : Counters → Counters) : p.Quiet (p.count f) := aside rfl rfl le_rfl le_rfl

theorem drop (n : Nat) : p.Quiet (p.drop n) := aside rfl rfl (Nat.sub_le _ _) le_rfl

theorem unreserve : p.Quiet p.unreserve := aside rfl rfl (Nat.sub_le _ _) (Nat.sub_le _ _)

/-- Some of the members stay unused. -/
theorem unpark {rest : List Member} (h : rest.Sublist p.idle) :
    p.Quiet { p with idle := rest } where
  closed := rfl
  crew := .refl _
  wanes := fun hc => ⟨hc, le_rfl, le_rfl, .refl _, fun hp => List.sublist_nil.1 (hp ▸ h), id⟩
  idle := h
  served := .of_eq rfl

/-- What is done to an open pool whose crew is given tasks or left alone. -/
theorem of_open (h : p.closed = false) (hq : q.closed = false) (hc : p.crew.Lasts q.crew)
    (hi : q.idle.Sublist p.idle) (hs : NoneServed p q) : p.Quiet q where
  closed := hq.trans h.symm
  crew := hc
  wanes := fun hn => by simp [h] at hn
  idle := hi
  served := hs

/-! ## Closing members -/

theorem dispatchClose : p.Quiet (p.dispatchClose m) := by
  unfold Pool.dispatchClose
  rcases p.crew.dispatch_cases (.close m) with ⟨-, h⟩ | ⟨hs, h⟩ <;> rw [h]
  · exact aside rfl rfl le_rfl le_rfl
  · exact {
      closed := rfl
      crew := .accept hs _
      wanes := fun hc => ⟨hc, le_rfl, le_rfl, by simp [List.filter_append, Task.isAdd], id, id⟩
      idle := .refl _
      served := .of_eq rfl }

theorem closeAll : ∀ (ms : List Member) (p : Pool), p.Quiet (ms.foldl Pool.dispatchClose p)
  | [], p => .refl p
  | _ :: ms, _ => dispatchClose.trans (closeAll ms _)

theorem discard : p.Quiet (p.discard m) := (drop 1).trans dispatchClose

theorem discardAll : ∀ (ms : List Member) (p : Pool), p.Quiet (p.discardAll ms)
  | [], p => .refl p
  | _ :: ms, _ => discard.trans (discardAll ms _)

/-! ## Having sessions opened -/

theorem fail (ticket : Nat) (e : PoolError) :
    p.Quiet { p with waiting := (p.waiting.fail ticket e).1 } where
  closed := rfl
  crew := .refl _
  wanes := fun hc => ⟨hc, le_rfl, le_rfl, .refl _, id, fun hp =>
    List.sublist_nil.1 (hp ▸ p.waiting.requests_fail ticket e)⟩
  idle := .refl _
  served := by
    rw [WaitQueue.fail_eq]
    split
    · refine .of_append rfl fun x hx => ?_
      split at hx
      · rw [List.mem_singleton.1 hx]
        exact ⟨e, rfl⟩
      · cases hx
    · exact .of_eq rfl

theorem dispatchAdd (h : p.closed = false) (waiter : Option Nat) :
    p.Quiet (p.dispatchAdd waiter).1 := by
  unfold Pool.dispatchAdd
  rcases p.crew.dispatch_cases (.add waiter) with ⟨-, hd⟩ | ⟨hs, hd⟩ <;> rw [hd]
  · cases waiter with
    | none => exact .refl p
    | some ticket => exact fail ticket .closed
  · exact .of_open h h (.accept hs _) (.refl _) (.of_eq rfl)

theorem addWanted (h : p.closed = false) : p.Quiet p.addWanted := by
  fun_induction Pool.addWanted p with
  | case1 p hw q hq ih =>
    have hp := dispatchAdd h none
    have hf := front_dispatchAdd_none p
    rw [hq] at hp hf
    exact hp.trans (ih ((congrArg Front.closed hf).trans h))
  | case2 p hw q hq =>
    have hp := dispatchAdd h none
    rwa [hq] at hp
  | case3 p hw => exact .refl p

/-- A pool that is closed has no session opened. -/
theorem topUp : p.Quiet p.topUp := by
  unfold Pool.topUp
  split
  · exact .refl p
  · rename_i h
    rw [Bool.not_eq_true, Bool.or_eq_false_iff] at h
    exact addWanted h.1

/-! ## Sessions that were opened -/

theorem countOpened (elapsed : Duration) : p.Quiet (p.countOpened elapsed) := by
  have hf (p : Pool) : p.Quiet p.noteFilled := by
    unfold Pool.noteFilled
    split
    · exact aside rfl rfl le_rfl le_rfl
    · dsimp only
      split <;> exact aside rfl rfl le_rfl le_rfl
  have hp : p.Quiet p.furnish := aside rfl rfl le_rfl (Nat.sub_le _ _)
  exact (hp.trans (.count _)).trans (hf _)

theorem takeOver (elapsed : Duration) : p.Quiet (p.takeOver m elapsed).1 := by
  unfold Pool.takeOver
  dsimp only
  split
  · exact (countOpened elapsed).trans discard
  · exact countOpened elapsed

theorem releaseRoom (waiter : Option Nat) (e : PoolError) : p.Quiet (p.releaseRoom waiter e) := by
  cases waiter with
  | none => exact unreserve
  | some ticket => exact unreserve.trans (fail ticket e)

theorem vacateRoom : p.Quiet p.vacateRoom := unreserve.trans topUp

/-! ## Requests -/

theorem expire : p.Quiet { p with waiting := (p.waiting.expire now).1 } where
  closed := rfl
  crew := .refl _
  wanes := fun hc => ⟨hc, le_rfl, le_rfl, .refl _, id, fun hp =>
    List.sublist_nil.1 (hp ▸ p.waiting.requests_expire now)⟩
  idle := .refl _
  served := .of_append (congrArg WaitQueue.replies (p.waiting.expire_eq now))
    fun _ hx => error_of_mem_lateReplies hx

theorem takeIdle (now : Instant) : p.Quiet (p.takeIdle now).1 := by
  have taken : p.Quiet { p with idle := (p.idle.dropWhile (·.isExpired now)).tail } :=
    unpark ((List.tail_sublist _).trans (List.dropWhile_sublist _))
  unfold Pool.takeIdle
  dsimp only
  split
  · exact taken.trans (discardAll _ _)
  · exact (taken.trans (discardAll _ _)).trans topUp

theorem enroll (h : p.closed = false) (now : Instant) (timeout : Duration) :
    p.Quiet { p with waiting := (p.waiting.enqueue now timeout).1 } :=
  .of_open h h (.refl _) (.refl _) fun _ _ ht => ht

theorem enqueue (h : p.closed = false) (now : Instant) (timeout : Duration) :
    p.Quiet (p.enqueue now timeout).1 := by
  have joined : p.Quiet _ :=
    (count fun c => { c with requestsQueued := c.requestsQueued + 1 }).trans
      (enroll (p := p.count _) h now timeout)
  unfold Pool.enqueue
  dsimp only
  split
  · exact joined.trans (dispatchAdd (p := { p.count _ with waiting := _ }) h _)
  · exact joined

theorem checkoutElse (h : p.closed = false) (now : Instant) (timeout : Duration) :
    p.Quiet (p.checkoutElse now timeout).1 := by
  unfold Pool.checkoutElse
  dsimp only
  split
  · exact .refl p
  · split
    · exact .of_open h h (.refl _) (.refl _) (.of_eq rfl)
    · exact enqueue h now timeout

theorem checkout (now : Instant) (timeout : Duration) : p.Quiet (p.checkout now timeout).1 := by
  unfold Pool.checkout
  split
  · exact .refl p
  · rename_i h
    rw [Bool.not_eq_true] at h
    have greeted : p.Quiet (p.greet now) :=
      (count fun c => { c with requestsNum := c.requestsNum + 1 }).trans expire
    dsimp only
    split
    · have taken := takeIdle (p := p.greet now) now
      have hc : ((p.greet now).takeIdle now).1.closed = false := by
        have ht := (Handled.takeIdle (p := p.greet now) now).terms
        exact (congrArg Terms.closed ht).trans h
      split
      · rename_i ht
        rw [ht] at taken
        exact greeted.trans taken
      · rename_i ht
        rw [ht] at taken hc
        exact (greeted.trans taken).trans (checkoutElse hc now timeout)
    · exact greeted.trans (checkoutElse (p := p.greet now) h now timeout)

theorem tryTake (now : Instant) : p.Quiet (p.tryTake now).1 := by
  unfold Pool.tryTake
  split
  · exact .refl p
  · dsimp only
    split
    · exact (count _).trans (takeIdle now)
    · exact count fun c => { c with requestsNum := c.requestsNum + 1 }

theorem collectReply (ticket : Nat) : p.Quiet (p.collectReply ticket) where
  closed := rfl
  crew := .refl _
  wanes := fun hc => ⟨hc, le_rfl, le_rfl, .refl _, id, id⟩
  idle := .refl _
  served := .of_remove rfl

theorem withdraw (ticket : Nat) :
    p.Quiet { p with waiting := (p.waiting.withdraw ticket).1.hangUp ticket } where
  closed := rfl
  crew := .refl _
  wanes := fun hc => ⟨hc, le_rfl, le_rfl, .refl _, id, fun hp => by
    rw [WaitQueue.hangUp_withdraw, hp]
    rfl⟩
  idle := .refl _
  served := .of_remove rfl

theorem giveUp (ticket : Nat) (timeout : Duration) : p.Quiet (p.giveUp ticket timeout).1 := by
  unfold Pool.giveUp
  split
  · exact withdraw ticket
  · split <;> exact collectReply ticket

/-- A request whose caller goes away has not been served. -/
theorem abandon {ticket : Nat} (h : p.undelivered? ticket = none) :
    p.Quiet (p.abandon ticket now) := by
  unfold Pool.abandon
  rw [h]
  exact withdraw ticket

/-! ## Sessions that come back -/

theorem receive (server : Server) : p.Quiet (p.receive server m now).1 := by
  have used : p.Quiet (p.countUse m now) := by
    unfold Pool.countUse
    split
    · exact count _
    · exact .refl p
  unfold Pool.receive
  dsimp only
  split
  · exact used.trans (drop 1)
  · split
    · refine used.trans (Quiet.trans ?_ (drop 1))
      split
      · exact count _
      · exact .refl _
    · exact used

theorem returnLater : p.Quiet (p.returnLater m) := by
  unfold Pool.returnLater
  rcases p.crew.dispatch_cases (.restore m) with ⟨-, h⟩ | ⟨hs, h⟩ <;> rw [h]
  · exact (drop 1).trans (aside rfl rfl le_rfl le_rfl)
  · exact {
      closed := rfl
      crew := .accept hs _
      wanes := fun hc => ⟨hc, le_rfl, le_rfl, by simp [List.filter_append, Task.isAdd], id, id⟩
      idle := .refl _
      served := .of_eq rfl }

theorem forget : p.Quiet p.forget := (drop 1).trans topUp

theorem breakOff : p.Quiet (p.breakOff m) :=
  ((drop 1).trans topUp).trans (aside rfl rfl le_rfl le_rfl)

/-- A member is given up, and another one may be opened in its place. -/
theorem replace : p.Quiet (p.discard m).topUp := discard.trans topUp

/-- A member that came back is closed unless it is fit, has not expired and is not one too many. -/
theorem settle {f : Fitness} (h : f = .fit → m.isExpired now = true ∨ p.isOverfull = true) :
    p.Quiet (p.settle m now f) := by
  cases f with
  | fit =>
    unfold Pool.settle
    dsimp only
    split
    · exact replace
    · rename_i he
      rw [if_pos ((h rfl).resolve_left he)]
      exact discard
  | unfit => exact (count _).trans replace
  | lost => exact (count _).trans ((count _).trans replace)

/-! ## Upkeep -/

theorem weedExpired : p.Quiet (p.weedExpired now).1 :=
  (unpark List.filter_sublist).trans (drop _)

theorem weedOverripe : p.Quiet (p.weedOverripe now).1 := by
  unfold Pool.weedOverripe
  split
  · exact .refl p
  · exact (unpark (List.drop_sublist _ _)).trans (drop _)

theorem weedExcess : p.Quiet p.weedExcess.1 := (unpark (List.take_sublist _ _)).trans (drop _)

theorem weed (now : Instant) : p.Quiet (p.weed now).1 :=
  (weedExpired.trans weedOverripe).trans weedExcess

theorem maintain (now : Instant) : p.Quiet (p.maintain now) := by
  unfold Pool.maintain
  split
  · exact .refl p
  · exact ((expire.trans (weed now)).trans (closeAll _ _)).trans topUp

theorem pickProbe : p.Quiet p.pickProbe.1 := by
  unfold Pool.pickProbe
  split
  · exact .refl p
  · exact unpark (List.tail_sublist _)

theorem judge {health : Health} (h : health.isHealthy = false) :
    p.Quiet (p.judge m health now) := by
  unfold Pool.judge
  rw [if_neg (by simp [h])]
  exact (count _).trans replace

theorem resize {lo : Nat} {hi : Option Nat} (h : p.resize lo hi = .ok q) : p.Quiet q := by
  unfold Pool.resize at h
  split at h
  · cases h
  · rename_i lo hi _
    split at h
    · cases h
    · rename_i ho
      rw [Bool.not_eq_true] at ho
      have sized : p.Quiet { p with minSize := lo, maxSize := hi } :=
        .of_open ho ho (.refl _) (.refl _) (.of_eq rfl)
      have shed := (sized.trans weedExcess).trans
        (closeAll (Pool.weedExcess { p with minSize := lo, maxSize := hi }).2 _)
      dsimp only at h
      split at h
      · cases h
        exact shed.trans topUp
      · cases h
        refine (shed.trans ?_).trans topUp
        exact aside rfl rfl le_rfl le_rfl

/-! ## Shutdown -/

theorem dispose (t : Task Member) : p.Quiet (p.dispose t) := by
  cases t with
  | add waiter => exact releaseRoom waiter .closed
  | restore m => exact drop 1
  | close _ | maintain => exact .refl p

end Quiet

/-- The crew of a pool goes on with its work. -/
theorem Calm.crew {c : Crew (Task Member)}
    (ht : (c.tasks.filter Task.isAdd).Sublist (p.crew.tasks.filter Task.isAdd)) :
    p.Calm { p with crew := c } where
  idle := .refl _
  served := .of_eq rfl
  wanes := fun hc => ⟨hc, le_rfl, le_rfl, ht, id, id⟩

/-- Requests that wait are told that the pool was closed, and nobody is served any more. -/
theorem Calm.shut : p.Calm p.shut.1 where
  wanes := fun _ => ⟨rfl, Nat.sub_le _ _, le_rfl, .refl _, fun _ => rfl, fun _ =>
    p.waiting.requests_failAll .closed⟩
  idle := List.nil_sublist _
  served := by
    refine .of_append (congrArg WaitQueue.replies (p.waiting.failAll_eq .closed)) fun x hx => ?_
    obtain ⟨r, -, rfl⟩ := List.mem_map.1 hx
    exact ⟨.closed, rfl⟩

/-! ## Members that become free -/

theorem Admits.of_calm (h : p.Calm q) : Admits m p q where
  idle := h.idle.trans (List.sublist_append_left _ _)
  served := fun t m' ht => .inl (h.served t m' ht)

/-- A pool that is closed closes a member that becomes free. -/
theorem Quiet.deliver (h : p.closed = true) : p.Quiet (p.deliver m now) := by
  unfold Pool.deliver
  rw [if_pos (by simp [h])]
  exact discard

theorem lasts_deliver : p.crew.Lasts (p.deliver m now).crew := by
  have discarded (w : WaitQueue Member) (m : Member) :
      p.crew.Lasts (discard { p with waiting := w } m).crew :=
    (Quiet.discard (p := { p with waiting := w })).crew
  unfold Pool.deliver
  split
  · exact discarded _ _
  · dsimp only
    rcases p.waiting.fulfill_cases (m.inStage .idle) now with
      ⟨before, r, after, -, -, -, hf⟩ | ⟨-, hf⟩ <;> rw [hf]
    · exact .refl _
    · dsimp only
      split
      · exact discarded _ _
      · exact .refl _

/-- A member that becomes free is the only one that is handed over or becomes unused. -/
theorem admits_deliver : Admits (m.inStage .idle) p (p.deliver m now) := by
  unfold Pool.deliver
  split
  · exact .of_calm Quiet.discard.toCalm
  · dsimp only
    rcases p.waiting.fulfill_cases (m.inStage .idle) now with
      ⟨before, r, after, -, -, -, hf⟩ | ⟨-, hf⟩ <;> rw [hf]
    · refine ⟨List.sublist_append_left _ _, fun t m' ht => ?_⟩
      rcases List.mem_append.1 ht with ht | ht
      · exact .inl ht
      · rcases List.mem_append.1 ht with ht | ht
        · obtain ⟨e, he⟩ := error_of_mem_lateReplies ht
          cases he
        · cases List.mem_singleton.1 ht
          exact .inr rfl
    · have swept : NoneServed p { p with waiting := { p.waiting with
          requests := []
          replies := p.waiting.replies ++ p.waiting.lateReplies now p.waiting.requests } } :=
        .of_append rfl fun x hx => error_of_mem_lateReplies hx
      dsimp only
      split
      · exact ⟨Quiet.discard.idle.trans (List.sublist_append_left _ _),
          fun t m' ht => .inl (swept t m' (Quiet.discard.served t m' ht))⟩
      · exact ⟨.refl _, fun t m' ht => .inl (swept t m' ht)⟩

/-- What was done before a member became free makes no other one free. -/
theorem Admits.after (h : Admits m q r) (hc : p.Calm q) : Admits m p r where
  idle := h.idle.trans (hc.idle.append_right _)
  served := fun t m' ht => (h.served t m' ht).imp_left (hc.served t m')

end Pool

end SessionPool
