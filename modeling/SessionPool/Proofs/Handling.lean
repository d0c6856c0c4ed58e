import Mathlib.Tactic.Abel
import SessionPool.Proofs.Charge
import SessionPool.Proofs.Upkeep

/-!
# What the functions on a pool do with sessions

`Handled p a q b`: whoever had `a` in hand turned the pool `p` into `q` and has `b` in hand after
it, and no session came or went: those in the pool and in hand are the same (`kept`). None of them
became fit for a request in between (`fit`), the pool goes by the same terms (`terms`), and not more
requests wait than it lets in (`line`). Every function on a pool handles sessions in this way.
-/

set_option autoImplicit false

namespace SessionPool.Pool

/-! ## What lies in a pool -/

/-- The sessions that may be given to a request, or have been given to one that waited. -/
def stock (p : Pool) : Multiset Session := sessionsOf p.idle + sessionsOf p.waiting.delivered

/-- The sessions that the tasks of the crew are about. -/
def tasked (p : Pool) : Multiset Session := sessionsOf (p.crew.tasks.filterMap Task.item?)

/-- All sessions that lie in the pool itself. -/
def sessions (p : Pool) : Multiset Session := p.stock + p.tasked + sessionsOf p.leaving

/-- What a pool goes by. -/
structure Terms where
  settings : PoolSettings
  hooks : Hooks
  closed : Bool
  stopped : Bool

def terms (p : Pool) : Terms := ⟨p.settings, p.hooks, p.closed, p.crew.stopped⟩

/-- Not more requests wait than the settings allow. -/
def LineFits (p : Pool) : Prop :=
  0 < p.settings.maxWaiting → p.waiting.length ≤ p.settings.maxWaiting

structure Handled (p : Pool) (a : Charge) (q : Pool) (b : Charge) : Prop where
  terms : q.terms = p.terms
  line : p.LineFits → q.LineFits
  kept : q.sessions + b.all = p.sessions + a.all
  fit : q.stock + b.fit ≤ p.stock + a.fit

variable {p q r : Pool} {a b c k : Charge} {m : Member} {ms : List Member} {x : Multiset Session}

theorem LineFits.of_le (h : p.LineFits) (ht : q.terms = p.terms)
    (hl : q.waiting.length ≤ p.waiting.length) : q.LineFits := by
  have hs : q.settings = p.settings := congrArg Terms.settings ht
  intro hm
  rw [hs] at hm ⊢
  exact hl.trans (h hm)

namespace Handled

theorem refl : Handled p a p a := ⟨rfl, id, rfl, le_rfl⟩

theorem trans (h : Handled p a q b) (h' : Handled q b r c) : Handled p a r c where
  terms := h'.terms.trans h.terms
  line := fun hp => h'.line (h.line hp)
  kept := h'.kept.trans h.kept
  fit := h'.fit.trans h.fit

/-- What others have in hand does not matter. -/
theorem frame (h : Handled p a q b) (k : Charge) : Handled p (a + k) q (b + k) where
  terms := h.terms
  line := h.line
  kept := by
    rw [Charge.all_add, Charge.all_add, ← add_assoc, ← add_assoc, h.kept]
  fit := by
    rw [Charge.fit_add, Charge.fit_add, ← add_assoc, ← add_assoc]
    exact add_le_add_left h.fit _

theorem along (h : Handled p 0 q 0) : Handled p k q k := by
  simpa using h.frame k

theorem gain (h : Handled p 0 q b) : Handled p k q (k + b) := by
  simpa [add_comm] using h.frame k

theorem spend (h : Handled p a q 0) : Handled p (a + k) q k := by
  simpa using h.frame k

/-- A session that is fit need not be treated as such. -/
theorem wear : Handled p (.ofFit x) p (.ofWorn x) where
  terms := rfl
  line := id
  kept := by simp
  fit := add_le_add_right (Multiset.zero_le x) _

/-- Nothing is done to any session or request. -/
theorem aside (ht : q.terms = p.terms) (hi : q.idle = p.idle) (hw : q.waiting = p.waiting)
    (hc : q.crew.tasks = p.crew.tasks) (hl : q.leaving = p.leaving) : Handled p a q a where
  terms := ht
  line := fun h => h.of_le ht (hw ▸ le_rfl)
  kept := by
    rw [sessions, stock, tasked, hi, hw, hc, hl]
    rfl
  fit := by
    rw [stock, hi, hw]
    rfl

theorem count (f : Counters → Counters) : Handled p a (p.count f) a := .aside rfl rfl rfl rfl rfl

/-! ## One thing at a time -/

theorem unpark {taken rest : List Member} (h : p.idle.Perm (taken ++ rest)) :
    Handled p 0 { p with idle := rest } (.ofFit (sessionsOf taken)) where
  terms := rfl
  line := id
  kept := by
    simp only [sessions, stock, tasked, sessionsOf_perm h, sessionsOf_append, Charge.all_ofFit,
      Charge.all_zero]
    abel
  fit := by
    simp only [stock, sessionsOf_perm h, sessionsOf_append, Charge.ofFit_fit, Charge.fit_zero]
    exact le_of_eq (by abel)

theorem park (m : Member) :
    Handled p (.ofFit {m.session}) { p with idle := p.idle ++ [m] } 0 where
  terms := rfl
  line := id
  kept := by
    simp only [sessions, stock, tasked, sessionsOf_append, sessionsOf_singleton, Charge.all_ofFit,
      Charge.all_zero]
    abel
  fit := by
    simp only [stock, sessionsOf_append, sessionsOf_singleton, Charge.ofFit_fit, Charge.fit_zero]
    exact le_of_eq (by abel)

theorem leave (m : Member) :
    Handled p (.ofWorn {m.session}) { p with leaving := p.leaving ++ [m] } 0 where
  terms := rfl
  line := id
  kept := by
    simp only [sessions, stock, tasked, sessionsOf_append, sessionsOf_singleton, Charge.all_ofWorn,
      Charge.all_zero]
    abel
  fit := le_rfl

theorem depart {gone rest : List Member} (h : p.leaving.Perm (gone ++ rest)) :
    Handled p 0 { p with leaving := rest } (.ofWorn (sessionsOf gone)) where
  terms := rfl
  line := id
  kept := by
    simp only [sessions, stock, tasked, sessionsOf_perm h, sessionsOf_append, Charge.all_ofWorn,
      Charge.all_zero]
    abel
  fit := le_rfl

variable {t : Task Member} {crew : Crew (Task Member)}

/-- A task is taken over by the crew, with the session that it is about. -/
theorem queueTask (hc : crew.tasks = p.crew.tasks ++ [t]) (hs : crew.stopped = p.crew.stopped) :
    Handled p (.ofWorn (sessionsOf t.item?.toList)) { p with crew } 0 where
  terms := by simp only [Pool.terms, hs]
  line := id
  kept := by
    have ht : [t].filterMap Task.item? = t.item?.toList := by cases t <;> rfl
    simp only [sessions, stock, tasked, hc, List.filterMap_append, ht, sessionsOf_append,
      Charge.all_ofWorn, Charge.all_zero]
    abel
  fit := le_rfl

theorem takeTask (hc : p.crew.tasks = t :: crew.tasks) (hs : crew.stopped = p.crew.stopped) :
    Handled p 0 { p with crew } (.ofWorn (sessionsOf t.item?.toList)) where
  terms := by simp only [Pool.terms, hs]
  line := id
  kept := by
    have ht : (t :: crew.tasks).filterMap Task.item? =
        t.item?.toList ++ crew.tasks.filterMap Task.item? := by
      cases t <;> rfl
    simp only [sessions, stock, tasked, hc, ht, sessionsOf_append, Charge.all_ofWorn,
      Charge.all_zero]
    abel
  fit := le_rfl

variable {w : WaitQueue Member}

/-- Something happens in the line, but nobody joins it and nothing is handed over. -/
theorem requeue (hd : w.delivered = p.waiting.delivered) (hl : w.length ≤ p.waiting.length) :
    Handled p a { p with waiting := w } a where
  terms := rfl
  line := fun h => h.of_le rfl hl
  kept := by simp only [sessions, stock, tasked, hd]
  fit := by simp only [stock, hd, le_refl]

theorem hand (hd : w.delivered = p.waiting.delivered ++ [m])
    (hl : w.length ≤ p.waiting.length) :
    Handled p (.ofFit {m.session}) { p with waiting := w } 0 where
  terms := rfl
  line := fun h => h.of_le rfl hl
  kept := by
    simp only [sessions, stock, tasked, hd, sessionsOf_append, sessionsOf_singleton,
      Charge.all_ofFit, Charge.all_zero]
    abel
  fit := by
    simp only [stock, hd, sessionsOf_append, sessionsOf_singleton, Charge.ofFit_fit,
      Charge.fit_zero]
    exact le_of_eq (by abel)

/-- A caller hangs up and takes along what lies ready for it. -/
theorem collectReply (hs : p.waiting.Sound) (ticket : Nat) :
    Handled p 0 (p.collectReply ticket)
      (.ofFit (sessionsOf ((p.waiting.reply? ticket).bind Except.toOption).toList)) := by
  have hp := WaitQueue.delivered_hangUp hs.replies_nodup ticket
  exact {
    terms := rfl
    line := id
    kept := by
      simp only [Pool.collectReply, sessions, stock, tasked, sessionsOf_perm hp, sessionsOf_append,
        Charge.all_ofFit, Charge.all_zero]
      abel
    fit := by
      simp only [Pool.collectReply, stock, sessionsOf_perm hp, sessionsOf_append, Charge.ofFit_fit,
        Charge.fit_zero]
      exact le_of_eq (by abel) }

/-! ## Closing members -/

theorem dispatchClose : Handled p (.ofWorn {m.session}) (p.dispatchClose m) 0 := by
  unfold Pool.dispatchClose
  rcases p.crew.dispatch_cases (.close m) with ⟨-, h⟩ | ⟨-, h⟩ <;> rw [h]
  · exact leave m
  · exact queueTask (t := .close m) rfl rfl

theorem closeAll : ∀ (ms : List Member) (p : Pool),
    Handled p (.ofWorn (sessionsOf ms)) (ms.foldl Pool.dispatchClose p) 0
  | [], _ => .refl
  | m :: ms, p => by
    rw [sessionsOf_cons, Charge.ofWorn_add]
    exact dispatchClose.spend.trans (closeAll ms _)

theorem drop (n : Nat) : Handled p a (p.drop n) a := .aside rfl rfl rfl rfl rfl

theorem discard : Handled p (.ofWorn {m.session}) (p.discard m) 0 := (drop 1).trans dispatchClose

theorem discardAll : ∀ (ms : List Member) (p : Pool),
    Handled p (.ofWorn (sessionsOf ms)) (p.discardAll ms) 0
  | [], _ => .refl
  | m :: ms, p => by
    rw [sessionsOf_cons, Charge.ofWorn_add]
    exact discard.spend.trans (discardAll ms _)

/-! ## Having sessions opened -/

theorem fail (ticket : Nat) (e : PoolError) :
    Handled p a { p with waiting := (p.waiting.fail ticket e).1 } a :=
  requeue (by simp) (p.waiting.requests_fail ticket e).length_le

theorem dispatchAdd (waiter : Option Nat) : Handled p 0 (p.dispatchAdd waiter).1 0 := by
  unfold Pool.dispatchAdd
  rcases p.crew.dispatch_cases (.add waiter) with ⟨-, hc⟩ | ⟨-, hc⟩ <;> rw [hc]
  · cases waiter with
    | none => exact .refl
    | some ticket => exact fail ticket .closed
  · have hr : Handled p 0 p.reserve 0 := .aside rfl rfl rfl rfl rfl
    exact hr.trans (queueTask (p := p.reserve) (t := .add waiter) rfl rfl)

theorem addWanted (p : Pool) : Handled p 0 p.addWanted 0 := by
  fun_induction Pool.addWanted p with
  | case1 p hw q hq ih =>
    have h : Handled p 0 _ 0 := dispatchAdd none
    rw [hq] at h
    exact h.trans ih
  | case2 p hw q hq =>
    have h : Handled p 0 _ 0 := dispatchAdd none
    rwa [hq] at h
  | case3 p hw => exact .refl

theorem topUp : Handled p a p.topUp a := by
  refine along ?_
  unfold Pool.topUp
  split
  · exact .refl
  · exact addWanted p

/-! ## Sessions that were opened -/

theorem countOpened (elapsed : Duration) : Handled p a (p.countOpened elapsed) a := by
  have hf (p : Pool) : Handled p a p.noteFilled a := by
    unfold Pool.noteFilled
    split
    · exact .aside rfl rfl rfl rfl rfl
    · dsimp only
      split <;> exact .aside rfl rfl rfl rfl rfl
  refine Handled.trans ?_ (hf _)
  exact .aside rfl rfl rfl rfl rfl

theorem takeOver (elapsed : Duration) :
    Handled p (.ofFit {m.session}) (p.takeOver m elapsed).1 (.won (p.takeOver m elapsed).2) := by
  unfold Pool.takeOver
  dsimp only
  split
  · exact (countOpened elapsed).trans (wear.trans discard)
  · exact countOpened elapsed

theorem releaseRoom (waiter : Option Nat) (e : PoolError) :
    Handled p a (p.releaseRoom waiter e) a := by
  have hu : Handled p a p.unreserve a := .aside rfl rfl rfl rfl rfl
  cases waiter with
  | none => exact hu
  | some ticket => exact hu.trans (fail ticket e)

theorem vacateRoom : Handled p a p.vacateRoom a := by
  have hu : Handled p a p.unreserve a := .aside rfl rfl rfl rfl rfl
  exact hu.trans topUp

/-! ## Handing members out -/

theorem expire {now : Instant} : Handled p a { p with waiting := (p.waiting.expire now).1 } a :=
  requeue (by simp) (p.waiting.requests_expire now).length_le

/-- The first unused member that has not expired is taken; those before it are closed. -/
theorem takeIdle (now : Instant) :
    Handled p 0 (p.takeIdle now).1 (.ofFit (sessionsOf (p.takeIdle now).2.toList)) := by
  have ht : Handled p 0 _ _ := unpark (.of_eq (p.idle_takeIdle now))
  rw [sessionsOf_append, Charge.ofFit_add] at ht
  refine (ht.trans (wear.frame _)).trans ((discardAll (p.spoiled now) _).spend.trans ?_)
  rw [Pool.takeIdle]
  dsimp only
  split
  · exact .refl
  · exact topUp

/-- A free member goes to a request, is unused from now on, or is closed. -/
theorem deliver (m : Member) (now : Instant) :
    Handled p (.ofFit {m.session}) (p.deliver m now) 0 := by
  unfold Pool.deliver
  split
  · exact wear.trans discard
  · dsimp only
    rcases p.waiting.fulfill_cases (m.inStage .idle) now with
      ⟨before, r, after, hr, -, -, hf⟩ | ⟨-, hf⟩ <;> rw [hf]
    · refine Handled.trans (hand (m := m.inStage .idle) ?_ ?_) (.count _)
      · simp [WaitQueue.delivered]
      · simp only [WaitQueue.length, hr, List.length_append, List.length_cons]
        omega
    · -- nobody took the member, so nobody waits any more
      have hq : Handled p (.ofFit {m.session}) { p with waiting := _ } (.ofFit {m.session}) :=
        requeue (w := { p.waiting with
          requests := []
          replies := p.waiting.replies ++ p.waiting.lateReplies now p.waiting.requests })
          (by simp [WaitQueue.delivered]) (Nat.zero_le _)
      refine hq.trans ?_
      dsimp only
      split
      · exact wear.trans (discard (m := m.inStage .idle))
      · exact park (m.inStage .idle)

/-! ## Requests -/

/-- A request joins the line if there is room for it. -/
theorem enqueue (now : Instant) (timeout : Duration)
    (h : 0 < p.settings.maxWaiting → p.waiting.length < p.settings.maxWaiting) :
    Handled p 0 (p.enqueue now timeout).1 0 := by
  have he (q : Pool) (hq : q.settings = p.settings) (hw : q.waiting = p.waiting) :
      Handled q 0 { q with waiting := (q.waiting.enqueue now timeout).1 } 0 := {
    terms := rfl
    line := fun _ hm => by
      have hlt : p.waiting.requests.length < p.settings.maxWaiting := h (hq ▸ hm)
      simp only [WaitQueue.length, WaitQueue.enqueue, List.length_append, List.length_singleton,
        hw, hq]
      omega
    kept := rfl
    fit := le_rfl }
  have counted : Handled p 0 _ 0 :=
    count fun c => { c with requestsQueued := c.requestsQueued + 1 }
  have hp := counted.trans (he (p.count _) rfl rfl)
  unfold Pool.enqueue
  dsimp only
  split
  · exact hp.trans (dispatchAdd _)
  · exact hp

theorem checkoutElse (now : Instant) (timeout : Duration) :
    Handled p 0 (p.checkoutElse now timeout).1 (p.checkoutElse now timeout).2.charge := by
  unfold Pool.checkoutElse
  dsimp only
  split
  · exact .refl
  · rename_i hl
    split
    · exact .aside rfl rfl rfl rfl rfl
    · refine enqueue now timeout fun hm => ?_
      simpa [hm] using hl

theorem checkout (now : Instant) (timeout : Duration) :
    Handled p 0 (p.checkout now timeout).1 (p.checkout now timeout).2.charge := by
  unfold Pool.checkout
  split
  · exact .refl
  · dsimp only
    have hg : Handled p 0 (p.greet now) 0 :=
      (count fun c => { c with requestsNum := c.requestsNum + 1 }).trans expire
    refine hg.trans ?_
    split
    · have ht : Handled (p.greet now) 0 _ _ := takeIdle now
      split
      · rename_i hm
        rwa [hm] at ht
      · rename_i hm
        rw [hm] at ht
        exact ht.trans (checkoutElse now timeout)
    · exact checkoutElse now timeout

theorem tryTake (now : Instant) :
    Handled p 0 (p.tryTake now).1 (.tried (p.tryTake now).2) := by
  unfold Pool.tryTake
  split
  · exact .refl
  · dsimp only
    split
    · exact (count _).trans (takeIdle now)
    · exact count fun c => { c with requestsNum := c.requestsNum + 1 }

/-- A caller that was answered takes what it was given. -/
theorem collect (hs : p.waiting.Sound) {ticket : Nat} {result : Acquired}
    (hr : p.waiting.reply? ticket = some result) :
    Handled p 0 (p.collectReply ticket) (.won result) := by
  have hc := collectReply hs ticket
  rw [hr] at hc
  cases result <;> exact hc

theorem collect_of_none (hs : p.waiting.Sound) {ticket : Nat}
    (hr : p.waiting.reply? ticket = none) : Handled p 0 (p.collectReply ticket) 0 := by
  have hc := collectReply hs ticket
  rwa [hr] at hc

/-- A caller whose request waits withdraws it and hangs up. -/
theorem withdraw (hs : p.waiting.Sound) {ticket : Nat} (hw : p.waiting.isWaiting ticket = true) :
    Handled p 0 { p with waiting := (p.waiting.withdraw ticket).1.hangUp ticket } 0 := by
  have hd := WaitQueue.delivered_hangUp hs.replies_nodup ticket
  rw [hs.reply?_of_waiting hw] at hd
  have hq : Handled p 0 { p with waiting := (p.waiting.withdraw ticket).1 } 0 :=
    requeue rfl (List.length_filter_le _ _)
  have hs' : (p.waiting.withdraw ticket).1.delivered = p.waiting.delivered := rfl
  exact {
    terms := rfl
    line := hq.line
    kept := by
      have hp := sessionsOf_perm hd
      simp only [Option.bind_none, Option.toList_none, List.nil_append] at hp
      simp only [sessions, stock, tasked, hp]
      rfl
    fit := by
      have hp := sessionsOf_perm hd
      simp only [Option.bind_none, Option.toList_none, List.nil_append] at hp
      simp only [stock, hp]
      rfl }

theorem giveUp (hs : p.waiting.Sound) (ticket : Nat) (timeout : Duration) :
    Handled p 0 (p.giveUp ticket timeout).1 (.won (p.giveUp ticket timeout).2) := by
  unfold Pool.giveUp
  split
  · rename_i hw
    exact withdraw hs hw
  · split
    · rename_i result hr
      exact collect hs hr
    · rename_i hr
      exact collect_of_none hs hr

/-- A request whose caller goes is withdrawn, or else passes on what it was given. -/
theorem abandon (hs : p.waiting.Sound) (ticket : Nat) (now : Instant) :
    Handled p 0 (p.abandon ticket now) 0 := by
  unfold Pool.abandon Pool.undelivered?
  split
  · rename_i m hm
    split at hm
    · cases hm
    · split at hm
      · rename_i hr
        cases hm
        exact (collect hs hr).trans (deliver _ now)
      · cases hm
  · rename_i hm
    split at hm
    · rename_i hw
      exact withdraw hs hw
    · rename_i hw
      have hw := Bool.eq_false_iff.2 hw
      rw [← WaitQueue.hangUp_of_not_waiting hw]
      cases hr : p.waiting.reply? ticket with
      | none => exact collect_of_none hs hr
      | some result =>
        cases result with
        | error e => exact collect hs hr
        | ok m => simp [hr] at hm

/-! ## Sessions that join the pool and that come back -/

theorem join (elapsed : Duration) (now : Instant) :
    Handled p (.ofFit {m.session}) (p.join m elapsed now) 0 :=
  (countOpened elapsed).trans (deliver m now)

/-- A member that comes back keeps its session, whatever is to be done with it. -/
theorem receive (server : Server) (now : Instant) :
    Handled p a (p.receive server m now).1 a ∧
      (p.receive server m now).2.1.session = m.session := by
  have use : Handled p a (p.countUse m now) a := by
    unfold Pool.countUse
    split
    · exact count _
    · exact .refl
  unfold Pool.receive
  dsimp only
  split
  · exact ⟨use.trans (drop 1), rfl⟩
  · split
    · refine ⟨use.trans (Handled.trans ?_ (drop 1)), rfl⟩
      split
      · exact count _
      · exact .refl
    · exact ⟨use, rfl⟩

theorem returnLater : Handled p (.ofWorn {m.session}) (p.returnLater m) 0 := by
  unfold Pool.returnLater
  rcases p.crew.dispatch_cases (.restore m) with ⟨-, h⟩ | ⟨-, h⟩ <;> rw [h]
  · exact (drop 1).trans (leave m)
  · exact queueTask (t := .restore m) rfl rfl

theorem forget : Handled p a p.forget a := (drop 1).trans topUp

theorem breakOff : Handled p (.ofWorn {m.session}) (p.breakOff m) 0 :=
  ((drop 1).trans topUp).trans (leave m)

/-- A member is given up, and another one may be opened in its place. -/
theorem replace : Handled p (.ofWorn {m.session}) (p.discard m).topUp 0 := discard.trans topUp

/-- A member is used again only if it was found fit. -/
theorem settle (now : Instant) (f : Fitness) :
    Handled p (Returning.settling m f).charge (p.settle m now f) 0 := by
  cases f with
  | fit =>
    unfold Pool.settle
    dsimp only
    split
    · exact wear.trans (replace (m := touch m now))
    · split
      · exact wear.trans (discard (m := touch m now))
      · exact deliver (touch m now) now
  | unfit => exact (count _).trans (replace (m := m.inStage .broken))
  | lost => exact (count _).trans ((count _).trans (replace (m := m.inStage .broken)))

/-! ## Upkeep -/

theorem weeded (h : p.Weeded q ms) : Handled p 0 q (.ofWorn (sessionsOf ms)) := by
  obtain ⟨rest, hp, rfl⟩ := h
  exact ((unpark hp).trans wear).trans (drop (p := { p with idle := rest }) ms.length)

theorem weed (now : Instant) :
    Handled p 0 (p.weed now).1 (.ofWorn (sessionsOf (p.weed now).2)) := by
  unfold Pool.weed
  dsimp only
  rw [sessionsOf_append, sessionsOf_append, Charge.ofWorn_add, Charge.ofWorn_add]
  have expired := weeded (p.weeded_weedExpired now)
  have old := weeded ((p.weedExpired now).1.weeded_weedOverripe now)
  exact (expired.trans old.gain).trans (weeded (weeded_weedExcess _)).gain

theorem maintain (now : Instant) : Handled p 0 (p.maintain now) 0 := by
  unfold Pool.maintain
  split
  · exact .refl
  · exact ((expire.trans (weed now)).trans (closeAll _ _)).trans topUp

theorem pickProbe : Handled p 0 p.pickProbe.1 (.ofFit (sessionsOf p.pickProbe.2.toList)) := by
  unfold Pool.pickProbe
  split
  · exact .refl
  · cases hi : p.idle with
    | nil =>
      have h : p.idle.Perm ([] ++ []) := .of_eq hi
      exact unpark h
    | cons m rest =>
      have h : p.idle.Perm ([m] ++ rest) := .of_eq hi
      have taken : Handled p 0 { p with idle := rest } (.ofFit (sessionsOf [m])) := unpark h
      exact taken

/-- A member that was probed is used again only if it was found healthy. -/
theorem judge (left : Nat) (health : Health) (now : Instant) :
    Handled p (Checking.judging left m health).charge (p.judge m health now) 0 := by
  cases health with
  | healthy => exact deliver m now
  | unhealthy reason => exact (count _).trans (replace (m := m.inStage .broken))

/-! ## Size -/

/-- A change of the sizes leaves the terms and the line alone. -/
theorem resize {lo : Nat} {hi : Option Nat} (h : p.resize lo hi = .ok q) : Handled p 0 q 0 := by
  unfold Pool.resize at h
  split at h
  · cases h
  · rename_i lo hi _
    split at h
    · cases h
    · have hs : Handled p 0 { p with minSize := lo, maxSize := hi } 0 := .aside rfl rfl rfl rfl rfl
      have hc : Handled p 0 _ 0 := (hs.trans (weeded (weeded_weedExcess _))).trans (closeAll _ _)
      dsimp only at h
      split at h
      · cases h
        exact hc.trans topUp
      · cases h
        refine (hc.trans ?_).trans topUp
        exact .aside rfl rfl rfl rfl rfl

/-! ## Shutdown -/

/-- What else is done when a pool has been closed. -/
theorem shut : Handled { p with closed := true } 0 p.shut.1 (.ofWorn (sessionsOf p.shut.2)) := by
  have hw : Handled { p with closed := true } 0 _ (.ofWorn (sessionsOf p.idle)) :=
    weeded ⟨[], .of_eq (List.append_nil p.idle).symm, rfl⟩
  refine hw.trans (requeue (p.waiting.delivered_failAll .closed) ?_)
  rw [WaitQueue.length, p.waiting.requests_failAll]
  exact Nat.zero_le _

/-- A task is disposed of, apart from the session that it is about. -/
theorem dispose (t : Task Member) : Handled p a (p.dispose t) a := by
  cases t with
  | add waiter => exact releaseRoom waiter .closed
  | restore m => exact drop 1
  | close m => exact .refl
  | maintain => exact .refl

end Handled

end SessionPool.Pool
