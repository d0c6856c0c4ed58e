import SessionPool.Proofs.Upkeep

/-!
# Changes to a pool

Whatever is done to a pool is a row of small changes (`Pool.Changes`), each of which does one thing
(`Pool.Change`). Most of them anybody may make who has to do with the pool. Some take a power
(`Power`): only whoever has opened a session enters it, only whoever opens one on behalf of a
request fails that request, and so on. There is one lemma for each function on a pool, which says
what power it takes. What may become of a pool, and through whom, can therefore be read off the
constructors of `Pool.Change`.
-/

set_option autoImplicit false

namespace SessionPool

/-- What only some of the parties may do to a pool. -/
inductive Power
  /-- To enter a session that was opened. -/
  | enter
  /-- To call the hook for sessions that come back. -/
  | reset
  /-- To fail a request with an error. -/
  | fail (ticket : Nat) (e : PoolError)
  | resize
  /-- To close the pool in the books and to stop its crew. -/
  | close
  /-- To take a task out of the queue of the crew. -/
  | take
  /-- To take members out of those that are about to be closed. -/
  | depart
  /-- To change what workers do and whose turn it is. -/
  | staff
  /-- To have a member closed on the side while there is a crew that could do it. -/
  | breakOff

namespace Pool

/-- What changes are about. -/
structure View where
  settings : PoolSettings
  hooks : Hooks
  idle : List Member
  waiting : WaitQueue Member
  size : Nat
  opening : Nat
  minSize : Nat
  maxSize : Option Nat
  closed : Bool
  filled : Bool
  resets : Nat
  tasks : List (Task Member)
  stopped : Bool
  workers : List Duty
  turn : Option Nat
  line : List Nat
  leaving : List Member

def view (p : Pool) : View where
  settings := p.settings
  hooks := p.hooks
  idle := p.idle
  waiting := p.waiting
  size := p.size
  opening := p.opening
  minSize := p.minSize
  maxSize := p.maxSize
  closed := p.closed
  filled := p.filled
  resets := p.hookCalls.reset
  tasks := p.crew.tasks
  stopped := p.crew.stopped
  workers := p.crew.workers
  turn := p.crew.turn
  line := p.crew.line
  leaving := p.leaving

/-- One change to a pool, made `now` by somebody who has the powers `G`. -/
inductive Change (now : Instant) (G : Power → Prop) (p : Pool) : Pool → Prop
  | aside {q : Pool} (h : q.view = p.view) : Change now G p q
  | reserve : Change now G p p.reserve
  | unreserve : Change now G p p.unreserve
  | drop (n : Nat) : Change now G p (p.drop n)
  /-- The crew accepts a task. -/
  | queue (t : Task Member) :
      Change now G p { p with crew := { p.crew with tasks := p.crew.tasks ++ [t] } }
  | leave (m : Member) (h : G .breakOff ∨ p.crew.stopped = true) :
      Change now G p { p with leaving := p.leaving ++ [m] }
  | unpark {rest : List Member} (h : rest.Sublist p.idle) : Change now G p { p with idle := rest }
  | park (m : Member) (h : p.isNull = false) : Change now G p { p with idle := p.idle ++ [m] }
  | expire : Change now G p { p with waiting := (p.waiting.expire now).1 }
  /-- A member is offered to the requests that wait. -/
  | offer (m : Member) :
      Change now G p { p with waiting := (p.waiting.fulfill (some m) now).queue }
  /-- Anybody may tell a request that the pool is closed, once it is. -/
  | fail (ticket : Nat) (e : PoolError)
      (h : G (.fail ticket e) ∨ e = .closed ∧ (p.closed = true ∨ p.crew.stopped = true)) :
      Change now G p { p with waiting := (p.waiting.fail ticket e).1 }
  | hangUp (ticket : Nat) : Change now G p { p with waiting := p.waiting.hangUp ticket }
  | withdraw (ticket : Nat) : Change now G p { p with waiting := (p.waiting.withdraw ticket).1 }
  | enroll (timeout : Duration) :
      Change now G p { p with waiting := (p.waiting.enqueue now timeout).1 }
  | enter (h : G .enter) (elapsed : Duration) : Change now G p (p.countOpened elapsed)
  | reset (h : G .reset) : Change now G p p.resetCall.1
  | size (h : G .resize) (lo : Nat) (hi : Option Nat) :
      Change now G p { p with minSize := lo, maxSize := hi }
  | fill (h : G .resize) (filled : Bool) : Change now G p { p with filled }
  | shut (h : G .close) : Change now G p p.shut.1
  | stop (h : G .close) : Change now G p { p with crew := p.crew.stop.releaseHands.1 }
  | take (h : G .take) {t : Task Member} {rest : List (Task Member)}
      (ht : p.crew.tasks = t :: rest) :
      Change now G p { p with crew := { p.crew with tasks := rest } }
  | depart (h : G .depart) {rest : List Member} (hr : rest.Sublist p.leaving) :
      Change now G p { p with leaving := rest }
  | staff (h : G .staff) {c : Crew (Task Member)} (ht : c.tasks = p.crew.tasks)
      (hs : c.stopped = p.crew.stopped) : Change now G p { p with crew := c }

/-- Changes that are made in a row. -/
inductive Changes (now : Instant) (G : Power → Prop) (p : Pool) : Pool → Prop
  | refl : Changes now G p p
  | step {q r : Pool} (h : Changes now G p q) (c : Change now G q r) : Changes now G p r

variable {now : Instant} {G H : Power → Prop} {p q r : Pool} {m : Member} {ms : List Member}

theorem Change.changes (h : Change now G p q) : Changes now G p q := .step .refl h

theorem Change.mono (h : Change now G p q) (hG : ∀ x, G x → H x) : Change now H p q := by
  cases h with
  | aside h => exact .aside h
  | reserve => exact .reserve
  | unreserve => exact .unreserve
  | drop n => exact .drop n
  | queue t => exact .queue t
  | leave m h => exact .leave m (h.imp_left (hG _))
  | unpark h => exact .unpark h
  | park m h => exact .park m h
  | expire => exact .expire
  | offer m => exact .offer m
  | fail ticket e h => exact .fail ticket e (h.imp_left (hG _))
  | hangUp ticket => exact .hangUp ticket
  | withdraw ticket => exact .withdraw ticket
  | enroll timeout => exact .enroll timeout
  | enter h elapsed => exact .enter (hG _ h) elapsed
  | reset h => exact .reset (hG _ h)
  | size h lo hi => exact .size (hG _ h) lo hi
  | fill h filled => exact .fill (hG _ h) filled
  | shut h => exact .shut (hG _ h)
  | stop h => exact .stop (hG _ h)
  | take h ht => exact .take (hG _ h) ht
  | depart h hr => exact .depart (hG _ h) hr
  | staff h ht hs => exact .staff (hG _ h) ht hs

/-! ## Open sessions -/

@[simp] theorem live_reserve (p : Pool) : p.reserve.live = p.live := by
  simp only [live, reserve]
  omega

/-- Sessions that are being opened are not open. -/
@[simp] theorem live_topUp (p : Pool) : p.topUp.live = p.live := by
  rw [topUp_eq]
  simp only [live, order]
  omega

/-- A session that was opened takes up its room, and the pool looks whether it is filled now. -/
theorem view_countOpened (p : Pool) (elapsed : Duration) :
    (p.countOpened elapsed).view =
      { p.view with
        opening := p.opening - 1
        filled := p.filled || p.isNull || decide (p.minSize ≤ p.size - (p.opening - 1)) } := by
  unfold countOpened noteFilled
  split
  · rename_i hn
    have hn : p.isNull = true := hn
    simp [view, furnish, count, hn]
  · rename_i hn
    have hn : p.isNull = false := Bool.eq_false_iff.2 hn
    dsimp only
    split <;> rename_i hm <;> simp_all [view, furnish, count, countLive, live]

section Furnished

variable {elapsed : Duration}

@[simp] theorem settings_countOpened : (p.countOpened elapsed).settings = p.settings :=
  congrArg View.settings (p.view_countOpened elapsed)

@[simp] theorem isNull_countOpened : (p.countOpened elapsed).isNull = p.isNull := by
  rw [isNull, isNull, settings_countOpened]

@[simp] theorem waiting_countOpened : (p.countOpened elapsed).waiting = p.waiting :=
  congrArg View.waiting (p.view_countOpened elapsed)

@[simp] theorem size_countOpened : (p.countOpened elapsed).size = p.size :=
  congrArg View.size (p.view_countOpened elapsed)

@[simp] theorem minSize_countOpened : (p.countOpened elapsed).minSize = p.minSize :=
  congrArg View.minSize (p.view_countOpened elapsed)

@[simp] theorem closed_countOpened : (p.countOpened elapsed).closed = p.closed :=
  congrArg View.closed (p.view_countOpened elapsed)

end Furnished

namespace Changes

theorem trans (h : Changes now G p q) (h' : Changes now G q r) : Changes now G p r := by
  induction h' with
  | refl => exact h
  | step _ c ih => exact ih.step c

/-- Who has more powers may do as much. -/
theorem mono (h : Changes now G p q) (hG : ∀ x, G x → H x) : Changes now H p q := by
  induction h with
  | refl => exact .refl
  | step _ c ih => exact ih.step (c.mono hG)

theorem aside (h : q.view = p.view) : Changes now G p q := (Change.aside h).changes

theorem count (f : Counters → Counters) : Changes now G p (p.count f) := aside rfl

theorem drop (n : Nat) : Changes now G p (p.drop n) := (Change.drop n).changes

theorem accept (t : Task Member) :
    Changes now G p { p with crew := { p.crew with tasks := p.crew.tasks ++ [t] } } :=
  (Change.queue t).changes

/-! ## Closing members -/

theorem dispatchClose : Changes now G p (p.dispatchClose m) := by
  unfold Pool.dispatchClose
  rcases p.crew.dispatch_cases (.close m) with ⟨hs, h⟩ | ⟨-, h⟩ <;> rw [h]
  · exact (Change.leave m (.inr hs)).changes
  · exact accept (.close m)

theorem closeAll : ∀ (ms : List Member) (p : Pool), Changes now G p (ms.foldl Pool.dispatchClose p)
  | [], _ => .refl
  | _ :: ms, _ => dispatchClose.trans (closeAll ms _)

theorem discard : Changes now G p (p.discard m) := (drop 1).trans dispatchClose

theorem discardAll : ∀ (ms : List Member) (p : Pool), Changes now G p (p.discardAll ms)
  | [], _ => .refl
  | _ :: ms, _ => discard.trans (discardAll ms _)

/-! ## Having sessions opened -/

/-- A request whose session nobody will open is told that the pool is closed. -/
theorem dispatchAdd (waiter : Option Nat) : Changes now G p (p.dispatchAdd waiter).1 := by
  unfold Pool.dispatchAdd
  rcases p.crew.dispatch_cases (.add waiter) with ⟨hs, hd⟩ | ⟨-, hd⟩ <;> rw [hd]
  · cases waiter with
    | none => exact .refl
    | some ticket => exact (Change.fail ticket .closed (.inr ⟨rfl, .inr hs⟩)).changes
  · exact Change.reserve.changes.trans (accept (p := p.reserve) (.add waiter))

theorem addWanted (p : Pool) : Changes now G p p.addWanted := by
  fun_induction Pool.addWanted p with
  | case1 p hw q hq ih =>
    have h : Changes now G p _ := dispatchAdd none
    rw [hq] at h
    exact h.trans ih
  | case2 p hw q hq =>
    have h : Changes now G p _ := dispatchAdd none
    rwa [hq] at h
  | case3 p hw => exact .refl

theorem topUp : Changes now G p p.topUp := by
  unfold Pool.topUp
  split
  · exact .refl
  · exact addWanted p

/-! ## Members that are free -/

/-- A free member goes to a request or is closed, or becomes unused if the pool keeps any. -/
theorem deliver : Changes now G p (p.deliver m now) := by
  unfold Pool.deliver
  split
  · exact discard
  · have offered : Changes now G p _ := (Change.offer (m.inStage .idle)).changes
    dsimp only
    refine offered.trans ?_
    rcases p.waiting.fulfill_cases (m.inStage .idle) now with
      ⟨before, r, after, -, -, -, hf⟩ | ⟨-, hf⟩ <;> rw [hf]
    · exact count _
    · dsimp only
      split
      · exact discard
      · rename_i hn
        exact (Change.park _ (by simpa using hn)).changes

/-! ## Sessions that were opened -/

theorem join (h : G .enter) (elapsed : Duration) : Changes now G p (p.join m elapsed now) :=
  (Change.enter h elapsed).changes.trans deliver

theorem takeOver (h : G .enter) (elapsed : Duration) :
    Changes now G p (p.takeOver m elapsed).1 := by
  have entered : Changes now G p _ := (Change.enter h elapsed).changes
  unfold Pool.takeOver
  dsimp only
  split
  · exact entered.trans discard
  · exact entered

theorem releaseRoom {waiter : Option Nat} {e : PoolError}
    (h : ∀ ticket, waiter = some ticket → G (.fail ticket e) ∨
      e = .closed ∧ (p.closed = true ∨ p.crew.stopped = true)) :
    Changes now G p (p.releaseRoom waiter e) := by
  have released : Changes now G p p.unreserve := Change.unreserve.changes
  cases waiter with
  | none => exact released
  | some ticket =>
    exact released.trans (Change.fail (p := p.unreserve) ticket e (h ticket rfl)).changes

theorem vacateRoom : Changes now G p p.vacateRoom := Change.unreserve.changes.trans topUp

/-! ## Requests -/

theorem greet : Changes now G p (p.greet now) := (count _).trans Change.expire.changes

theorem takeIdle : Changes now G p (p.takeIdle now).1 := by
  have taken : Changes now G p { p with idle := (p.idle.dropWhile (·.isExpired now)).tail } :=
    (Change.unpark ((List.tail_sublist _).trans (List.dropWhile_sublist _))).changes
  unfold Pool.takeIdle
  dsimp only
  split
  · exact taken.trans (discardAll _ _)
  · exact (taken.trans (discardAll _ _)).trans topUp

theorem enqueue (timeout : Duration) : Changes now G p (p.enqueue now timeout).1 := by
  have joined : Changes now G p _ :=
    (count fun c => { c with requestsQueued := c.requestsQueued + 1 }).trans
      (Change.enroll (p := p.count _) timeout).changes
  unfold Pool.enqueue
  dsimp only
  split
  · exact joined.trans (dispatchAdd _)
  · exact joined

theorem checkoutElse (timeout : Duration) : Changes now G p (p.checkoutElse now timeout).1 := by
  unfold Pool.checkoutElse
  dsimp only
  split
  · exact .refl
  · split
    · exact Change.reserve.changes
    · exact enqueue timeout

theorem checkout (timeout : Duration) : Changes now G p (p.checkout now timeout).1 := by
  unfold Pool.checkout
  split
  · exact .refl
  · dsimp only
    refine greet.trans ?_
    split
    · have taken : Changes now G (p.greet now) ((p.greet now).takeIdle now).1 := takeIdle
      split <;> rename_i ht <;> rw [ht] at taken
      · exact taken
      · exact taken.trans (checkoutElse timeout)
    · exact checkoutElse timeout

theorem tryTake : Changes now G p (p.tryTake now).1 := by
  unfold Pool.tryTake
  split
  · exact .refl
  · dsimp only
    split
    · exact (count _).trans takeIdle
    · exact count fun c => { c with requestsNum := c.requestsNum + 1 }

theorem collectReply (ticket : Nat) : Changes now G p (p.collectReply ticket) :=
  (Change.hangUp ticket).changes

theorem retire (ticket : Nat) :
    Changes now G p { p with waiting := (p.waiting.withdraw ticket).1.hangUp ticket } :=
  (Change.withdraw ticket).changes.trans
    (Change.hangUp (p := { p with waiting := _ }) ticket).changes

theorem giveUp (ticket : Nat) (timeout : Duration) :
    Changes now G p (p.giveUp ticket timeout).1 := by
  unfold Pool.giveUp
  split
  · exact retire ticket
  · split <;> exact collectReply ticket

theorem abandon (ticket : Nat) : Changes now G p (p.abandon ticket now) := by
  unfold Pool.abandon
  split
  · exact (collectReply ticket).trans deliver
  · exact retire ticket

/-! ## Sessions that come back -/

theorem receive (server : Server) : Changes now G p (p.receive server m now).1 := by
  have used : Changes now G p (p.countUse m now) := by
    unfold Pool.countUse
    split
    · exact count _
    · exact .refl
  unfold Pool.receive
  dsimp only
  split
  · exact used.trans (drop 1)
  · split
    · refine used.trans (Changes.trans ?_ (drop 1))
      split
      · exact count _
      · exact .refl
    · exact used

theorem returnLater : Changes now G p (p.returnLater m) := by
  unfold Pool.returnLater
  rcases p.crew.dispatch_cases (.restore m) with ⟨hs, h⟩ | ⟨-, h⟩ <;> rw [h]
  · exact (drop 1).trans (Change.leave (p := p.drop 1) m (.inr hs)).changes
  · exact accept (.restore m)

theorem forget : Changes now G p p.forget := (drop 1).trans topUp

theorem breakOff (hG : G .breakOff) : Changes now G p (p.breakOff m) :=
  ((drop 1).trans topUp).trans (Change.leave m (.inl hG)).changes

/-- A member is given up, and another one may be opened in its place. -/
theorem replace : Changes now G p (p.discard m).topUp := discard.trans topUp

theorem settle (f : Fitness) : Changes now G p (p.settle m now f) := by
  cases f with
  | fit =>
    unfold Pool.settle
    dsimp only
    split
    · exact replace
    · split
      · exact discard
      · exact deliver
  | unfit => exact (count _).trans replace
  | lost => exact (count _).trans ((count _).trans replace)

/-! ## Upkeep -/

theorem weedExpired : Changes now G p (p.weedExpired now).1 :=
  (drop _).trans (Change.unpark (p := p.drop _) List.filter_sublist).changes

theorem weedOverripe : Changes now G p (p.weedOverripe now).1 := by
  unfold Pool.weedOverripe
  split
  · exact .refl
  · exact (drop _).trans (Change.unpark (p := p.drop _) (List.drop_sublist _ _)).changes

theorem weedExcess : Changes now G p p.weedExcess.1 :=
  (drop _).trans (Change.unpark (p := p.drop _) (List.take_sublist _ _)).changes

theorem weed : Changes now G p (p.weed now).1 := (weedExpired.trans weedOverripe).trans weedExcess

theorem maintain : Changes now G p (p.maintain now) := by
  unfold Pool.maintain
  split
  · exact .refl
  · exact ((Change.expire.changes.trans weed).trans (closeAll _ _)).trans topUp

theorem pickProbe : Changes now G p p.pickProbe.1 := by
  unfold Pool.pickProbe
  split
  · exact .refl
  · exact (Change.unpark (List.tail_sublist _)).changes

theorem judge (health : Health) : Changes now G p (p.judge m health now) := by
  unfold Pool.judge
  split
  · exact deliver
  · exact (count _).trans replace

theorem resize {lo : Nat} {hi : Option Nat} (hG : G .resize) (h : p.resize lo hi = .ok q) :
    Changes now G p q := by
  unfold Pool.resize at h
  split at h
  · cases h
  · rename_i lo hi _
    split at h
    · cases h
    · have sized : Changes now G p _ := (Change.size hG lo hi).changes
      have shed : Changes now G p _ := (sized.trans weedExcess).trans
        (closeAll (Pool.weedExcess { p with minSize := lo, maxSize := hi }).2 _)
      dsimp only at h
      split at h
      · cases h
        exact shed.trans topUp
      · cases h
        have counted (x : Pool) : Changes now G x x.countLive.1 := aside rfl
        exact ((shed.trans (counted _)).trans (Change.fill hG _).changes).trans topUp

/-- Room is given up, and a request that waits for it is told that the pool is closed. -/
theorem dispose (h : p.closed = true) (t : Task Member) : Changes now G p (p.dispose t) := by
  cases t with
  | add waiter => exact releaseRoom fun _ _ => .inr ⟨rfl, .inl h⟩
  | restore m => exact drop 1
  | close _ | maintain => exact .refl

end Changes

/-- Who does not change what workers do leaves them alone. -/
theorem Change.staffing (h : Change now G p q) (hG : ¬ G .staff) :
    q.crew.workers = p.crew.workers ∧ q.crew.turn = p.crew.turn ∧ q.crew.line = p.crew.line := by
  cases h with
  | aside h =>
    exact ⟨congrArg View.workers h, congrArg View.turn h, congrArg View.line h⟩
  | enter _ elapsed =>
    have hv := p.view_countOpened elapsed
    exact ⟨congrArg View.workers hv, congrArg View.turn hv, congrArg View.line hv⟩
  | staff hG' _ _ => exact absurd hG' hG
  | reserve | unreserve | drop | queue | leave | unpark | park | expire | offer | fail | hangUp
  | withdraw | enroll | reset | size | fill | shut | stop | take | depart => exact ⟨rfl, rfl, rfl⟩

theorem Changes.staffing (h : Changes now G p q) (hG : ¬ G .staff) :
    q.crew.workers = p.crew.workers ∧ q.crew.turn = p.crew.turn ∧ q.crew.line = p.crew.line := by
  induction h with
  | refl => exact ⟨rfl, rfl, rfl⟩
  | step _ c ih =>
    obtain ⟨hw, ht, hl⟩ := c.staffing hG
    exact ⟨hw.trans ih.1, ht.trans ih.2.1, hl.trans ih.2.2⟩

/-! ## What stays until somebody takes it -/

theorem Change.tasks (h : Change now G p q) (hG : ¬ G .take) : p.crew.tasks <+: q.crew.tasks := by
  cases h with
  | aside h =>
    have ht : q.crew.tasks = p.crew.tasks := congrArg View.tasks h
    exact ht ▸ List.prefix_rfl
  | queue t => exact List.prefix_append _ _
  | enter _ elapsed =>
    have ht : (p.countOpened elapsed).crew.tasks = p.crew.tasks :=
      congrArg View.tasks (p.view_countOpened elapsed)
    exact ht ▸ List.prefix_rfl
  | take hG' _ => exact absurd hG' hG
  | staff _ ht _ => exact ht ▸ List.prefix_rfl
  | reserve | unreserve | drop | leave | unpark | park | expire | offer | fail | hangUp | withdraw
  | enroll | reset | size | fill | shut | stop | depart => exact List.prefix_rfl

theorem Changes.tasks (h : Changes now G p q) (hG : ¬ G .take) :
    p.crew.tasks <+: q.crew.tasks := by
  induction h with
  | refl => exact List.prefix_rfl
  | step _ c ih => exact ih.trans (c.tasks hG)

theorem Change.leaving (h : Change now G p q) (hG : ¬ G .depart) : p.leaving <+: q.leaving := by
  cases h with
  | aside h =>
    have hl : q.leaving = p.leaving := congrArg View.leaving h
    exact hl ▸ List.prefix_rfl
  | leave m => exact List.prefix_append _ _
  | enter _ elapsed =>
    have hl : (p.countOpened elapsed).leaving = p.leaving :=
      congrArg View.leaving (p.view_countOpened elapsed)
    exact hl ▸ List.prefix_rfl
  | depart hG' _ => exact absurd hG' hG
  | reserve | unreserve | drop | queue | unpark | park | expire | offer | fail | hangUp | withdraw
  | enroll | reset | size | fill | shut | stop | take | staff => exact List.prefix_rfl

theorem Changes.leaving (h : Changes now G p q) (hG : ¬ G .depart) : p.leaving <+: q.leaving := by
  induction h with
  | refl => exact List.prefix_rfl
  | step _ c ih => exact ih.trans (c.leaving hG)

theorem Change.stopped (h : Change now G p q) (hs : p.crew.stopped = true) :
    q.crew.stopped = true := by
  cases h with
  | aside h => exact (congrArg View.stopped h).trans hs
  | enter _ elapsed => exact (congrArg View.stopped (p.view_countOpened elapsed)).trans hs
  | staff _ _ he => exact he.trans hs
  | stop => rfl
  | reserve | unreserve | drop | queue | leave | unpark | park | expire | offer | fail | hangUp
  | withdraw | enroll | reset | size | fill | shut | take | depart => exact hs

/-- Who does not break anything off has no member closed on the side while there is a crew. -/
theorem Change.leaving_eq (h : Change now G p q) (hb : ¬ G .breakOff) (hd : ¬ G .depart)
    (hs : p.crew.stopped = false) : q.leaving = p.leaving := by
  cases h with
  | aside h => exact congrArg View.leaving h
  | leave m h => exact (h.elim hb fun hn => by simp [hs] at hn).elim
  | enter _ elapsed => exact congrArg View.leaving (p.view_countOpened elapsed)
  | depart hG' _ => exact absurd hG' hd
  | reserve | unreserve | drop | queue | unpark | park | expire | offer | fail | hangUp | withdraw
  | enroll | reset | size | fill | shut | stop | take | staff => rfl

theorem Changes.leaving_eq (h : Changes now G p q) (hb : ¬ G .breakOff) (hd : ¬ G .depart)
    (hs : q.crew.stopped = false) : q.leaving = p.leaving := by
  induction h with
  | refl => rfl
  | step _ c ih =>
    have working := mt c.stopped (by simp [hs])
    rw [Bool.not_eq_true] at working
    exact (c.leaving_eq hb hd working).trans (ih working)

end Pool

end SessionPool
