import SessionPool.Pool.Shutdown
import SessionPool.Pool.Upkeep
import SessionPool.Proofs.Entry
import SessionPool.Proofs.ToppingUp

/-!
# What the functions on a pool enter

For each function on a pool the row of entries that it makes, with the stake that it takes and the
one that it gives back. Nothing else about these functions is needed to see that the books
balance, that the pool keeps to its limit, and that requests are served in turn.
-/

set_option autoImplicit false

namespace SessionPool

def Checkout.stake : Checkout → Stake
  | ready m => .ofCounted [m]
  | dial => .room
  | queued ticket => .ticket ticket
  | refused _ => 0

def Stake.tried : Except PoolError (Option Member) → Stake
  | .ok m => .ofCounted m.toList
  | .error _ => 0

namespace Pool

/-! ## Behind the counter -/

/-- What those see of a pool who come for a member or bring one back. -/
structure Front where
  idle : List Member
  waiting : WaitQueue Member
  closed : Bool
  settings : PoolSettings
  minSize : Nat
  maxSize : Option Nat

def front (p : Pool) : Front where
  idle := p.idle
  waiting := p.waiting
  closed := p.closed
  settings := p.settings
  minSize := p.minSize
  maxSize := p.maxSize

@[simp] theorem front_discard (p : Pool) (m : Member) : (p.discard m).front = p.front := by
  unfold discard dispatchClose
  split <;> rfl

@[simp] theorem front_discardAll : ∀ (ms : List Member) (p : Pool),
    (p.discardAll ms).front = p.front
  | [], _ => rfl
  | m :: ms, p => (front_discardAll ms _).trans (front_discard p m)

@[simp] theorem front_dispatchAdd_none (p : Pool) : (p.dispatchAdd none).1.front = p.front := by
  unfold dispatchAdd
  split <;> rfl

@[simp] theorem front_topUp (p : Pool) : p.topUp.front = p.front := by
  rw [topUp_eq]
  rfl

/-- The first unused member that has not expired is taken, those before it are given up, and those
behind it stay. -/
theorem idle_takeIdle (p : Pool) (now : Instant) :
    p.idle = (p.spoiled now ++ (p.takeIdle now).2.toList) ++
      (p.idle.dropWhile (·.isExpired now)).tail := by
  have h := List.takeWhile_append_dropWhile (p := fun m : Member => m.isExpired now) (l := p.idle)
  rw [List.append_assoc, spoiled, takeIdle]
  dsimp only
  cases hd : p.idle.dropWhile (·.isExpired now) with
  | nil => simpa [hd] using h.symm
  | cons m rest => simpa [hd] using h.symm

/-- If no unused member is left to be taken, none is left at all. -/
theorem idle_takeIdle_of_none {p : Pool} {now : Instant} (h : (p.takeIdle now).2 = none) :
    (p.takeIdle now).1.idle = [] := by
  have hd : p.idle.dropWhile (·.isExpired now) = [] := List.head?_eq_none_iff.1 h
  have hf : (p.takeIdle now).1.front = { p.front with idle := [] } := by
    unfold takeIdle
    rw [hd]
    dsimp only
    split
    · exact front_discardAll _ _
    · exact (front_topUp _).trans (front_discardAll _ _)
  exact congrArg Front.idle hf

namespace Entries

variable {now : Instant} {l : Line} {p q : Pool} {m : Member}

theorem aside (h : q.books = p.books) (hm : q.maxSize = p.maxSize) : Entries now l p 0 q 0 :=
  (Entry.aside h hm).entries

theorem count (f : Counters → Counters) : Entries now l p 0 (p.count f) 0 :=
  aside rfl rfl

/-! ## Closing members -/

theorem dispatchClose : Entries now l p (.ofSpare [m]) (p.dispatchClose m) 0 := by
  unfold Pool.dispatchClose
  rcases p.crew.dispatch_cases (.close m) with ⟨-, h⟩ | ⟨-, h⟩ <;> rw [h]
  · exact (Entry.leave m).entries
  · exact (Entry.queueTask (t := .close m) rfl).entries

theorem closeAll : ∀ (ms : List Member) (p : Pool),
    Entries now l p (.ofSpare ms) (ms.foldl Pool.dispatchClose p) 0
  | [], _ => .refl
  | m :: ms, p => by
    rw [Stake.ofSpare_cons]
    exact dispatchClose.spend.trans (closeAll ms _)

theorem discard : Entries now l p (.ofCounted [m]) (p.discard m) 0 :=
  (Entry.drop [m]).entries.trans dispatchClose

theorem discardAll : ∀ (ms : List Member) (p : Pool),
    Entries now l p (.ofCounted ms) (p.discardAll ms) 0
  | [], _ => .refl
  | m :: ms, p => by
    rw [Stake.ofCounted_cons]
    exact discard.spend.trans (discardAll ms _)

/-! ## Having sessions opened -/

theorem dispatchAdd_none (h : p.isFull = false) : Entries now l p 0 (p.dispatchAdd none).1 0 := by
  unfold Pool.dispatchAdd
  rcases p.crew.dispatch_cases (.add none) with ⟨-, hc⟩ | ⟨-, hc⟩ <;> rw [hc]
  · exact .refl
  · refine (Entry.reserve h).entries.trans ?_
    exact (Entry.queueTask (p := p.reserve) (t := .add none) rfl).entries

theorem dispatchAdd_some (ticket : Nat) (h : p.isFull = false) :
    Entries now .changing p 0 (p.dispatchAdd (some ticket)).1 0 := by
  unfold Pool.dispatchAdd
  rcases p.crew.dispatch_cases (.add (some ticket)) with ⟨-, hc⟩ | ⟨-, hc⟩ <;> rw [hc]
  · exact (Entry.fail ticket .closed).entries
  · refine (Entry.reserve h).entries.trans ?_
    exact (Entry.queueTask (p := p.reserve) (t := .add (some ticket)) rfl).entries

theorem isFull_of_wantsMore (h : p.wantsMore = true) : p.isFull = false := by
  simpa using (Bool.and_eq_true_iff.1 h).2

/-- Nothing is opened without room for it. -/
theorem addWanted (p : Pool) : Entries now l p 0 p.addWanted 0 := by
  fun_induction Pool.addWanted p with
  | case1 p hw q hq ih =>
    have h : Entries now l p 0 _ 0 := dispatchAdd_none (isFull_of_wantsMore hw)
    rw [hq] at h
    exact h.trans ih
  | case2 p hw q hq =>
    have h : Entries now l p 0 _ 0 := dispatchAdd_none (isFull_of_wantsMore hw)
    rwa [hq] at h
  | case3 p hw => exact .refl

theorem topUp : Entries now l p 0 p.topUp 0 := by
  unfold Pool.topUp
  split
  · exact .refl
  · exact addWanted p

/-! ## Sessions that were opened -/

theorem noteFilled : Entries now l p 0 p.noteFilled 0 := by
  have filled (p : Pool) : Entries now l p 0 { p with filled := true } 0 :=
    aside rfl rfl
  unfold Pool.noteFilled
  split
  · exact filled p
  · dsimp only
    split
    · exact Entry.countLive.entries.trans (filled _)
    · exact Entry.countLive.entries

theorem countOpened (elapsed : Duration) :
    Entries now l p (.room + .ofSpare [m]) (p.countOpened elapsed) (.ofCounted [m]) := by
  exact (Entry.furnish m).entries.trans ((count (·.countOpened elapsed)).trans noteFilled).along

/-! ## Handing members out -/

/-- The first unused member that has not expired is taken; those before it are closed. -/
theorem takeIdle : Entries now l p 0 (p.takeIdle now).1 (.ofCounted (p.takeIdle now).2.toList) := by
  have ht : Entries now l p 0 _ _ := (Entry.unpark (.of_eq (p.idle_takeIdle now))).entries
  rw [Stake.ofCounted_append] at ht
  refine (ht.trans (discardAll (p.spoiled now) _).spend).trans ?_
  rw [Pool.takeIdle]
  dsimp only
  split
  · exact .refl
  · exact topUp.along

/-- A request has to wait: it has found no unused member, or others wait already. -/
theorem enqueue (timeout : Duration) (h : p.idle = [] ∨ p.waiting.requests ≠ []) :
    Entries now .changing p 0 (p.enqueue now timeout).1
      (.ticket (p.enqueue now timeout).2) := by
  have he : Entries now .changing p 0 _ (.ticket p.waiting.nextTicket) :=
    (count fun c => { c with requestsQueued := c.requestsQueued + 1 }).trans
      (Entry.enroll (p := p.count _) timeout h).entries
  unfold Pool.enqueue
  dsimp only
  split
  · rename_i hr
    have hf := (Bool.and_eq_true_iff.1 hr).2
    refine he.trans (dispatchAdd_some _ ?_).along
    simpa using hf
  · exact he

theorem greet : Entries now l p 0 (p.greet now) 0 :=
  (count fun c => { c with requestsNum := c.requestsNum + 1 }).trans Entry.expire.entries

theorem checkoutElse (timeout : Duration) (h : p.idle = [] ∨ p.waiting.requests ≠ []) :
    Entries now .changing p 0 (p.checkoutElse now timeout).1
      (p.checkoutElse now timeout).2.stake := by
  unfold Pool.checkoutElse
  dsimp only
  split
  · exact .refl
  · split
    · rename_i hr
      refine (Entry.reserve ?_).entries
      simpa using (Bool.and_eq_true_iff.1 hr).2
    · exact enqueue timeout h

theorem checkout (timeout : Duration) :
    Entries now .changing p 0 (p.checkout now timeout).1 (p.checkout now timeout).2.stake := by
  unfold Pool.checkout
  split
  · exact .refl
  · dsimp only
    refine greet.trans ?_
    split
    · have ht : Entries now .changing (p.greet now) 0 _ _ := takeIdle
      split
      · rename_i hm
        rwa [hm] at ht
      · rename_i hm
        have hi := idle_takeIdle_of_none (congrArg Prod.snd hm)
        rw [hm] at ht hi
        exact ht.trans (checkoutElse timeout (.inl hi))
    · rename_i hw
      exact checkoutElse timeout (.inr (by simpa [WaitQueue.isEmpty] using hw))

theorem tryTake : Entries now l p 0 (p.tryTake now).1 (.tried (p.tryTake now).2) := by
  unfold Pool.tryTake
  split
  · exact .refl
  · dsimp only
    split
    · exact (count _).trans takeIdle
    · exact count fun c => { c with requestsNum := c.requestsNum + 1 }

/-! ## Waiting requests -/

/-- A caller that was answered takes what it was given. -/
theorem collectReply {ticket : Nat} {result : Acquired} (h : p.waiting.isWaiting ticket = false)
    (hr : p.waiting.reply? ticket = some result) :
    Entries now l p (.ticket ticket) (p.collectReply ticket) (.won result) := by
  have hc : Entry now l p (.ticket ticket) (p.collectReply ticket) _ := .collect h
  rw [hr] at hc
  cases result <;> exact hc.entries

theorem collectReply_of_none {ticket : Nat} (h : p.waiting.isWaiting ticket = false)
    (hr : p.waiting.reply? ticket = none) :
    Entries now l p (.ticket ticket) (p.collectReply ticket) 0 := by
  have hc : Entry now l p (.ticket ticket) (p.collectReply ticket) _ := .collect h
  rw [hr] at hc
  exact hc.entries

theorem giveUp (ticket : Nat) (timeout : Duration) :
    Entries now .changing p (.ticket ticket) (p.giveUp ticket timeout).1
      (.won (p.giveUp ticket timeout).2) := by
  unfold Pool.giveUp
  split
  · rename_i hw
    exact (Entry.withdraw hw).entries
  · rename_i hw
    have hw := Bool.eq_false_iff.2 hw
    split
    · rename_i result hr
      exact collectReply hw hr
    · rename_i hr
      exact collectReply_of_none hw hr

end Entries

/-! ## Handing members over -/

namespace Row

variable {now : Instant} {p : Pool} {m : Member}

/-- A free member goes to a request, is unused from now on, or is closed. -/
theorem deliver : Row now p (.ofCounted [m]) (p.deliver m now) 0 := by
  unfold Pool.deliver
  split
  · exact .changing .discard
  · dsimp only
    rcases p.waiting.fulfill_cases (m.inStage .idle) now with
      ⟨before, r, after, -, -, -, hf⟩ | ⟨-, hf⟩
    · have h : Entry now .serving p (.ofCounted [m.inStage .idle]) _ 0 :=
        .hand (s := ⟨r.ticket, now.since r.arrived⟩) (by rw [hf])
      rw [hf] at h ⊢
      exact (Row.of_entry h).before fun _ => .count _
    · have h : Entry now .changing p 0 _ 0 := .sweep (m := m.inStage .idle) (by rw [hf])
      rw [hf] at h ⊢
      -- nobody took the member, so nobody waits any more
      refine .changing (h.entries.along.trans ?_)
      dsimp only
      split
      · exact .discard (m := m.inStage .idle)
      · exact (Entry.park (m.inStage .idle) rfl).entries

/-- A request whose caller goes is withdrawn, or else passes on what it was given. -/
theorem abandon (ticket : Nat) : Row now p (.ticket ticket) (p.abandon ticket now) 0 := by
  unfold Pool.abandon Pool.undelivered?
  split
  · rename_i m hm
    split at hm
    · cases hm
    · rename_i hw
      split at hm
      · rename_i hr
        cases hm
        exact deliver.after fun l => .collectReply (Bool.eq_false_iff.2 hw) hr
      · cases hm
  · rename_i hm
    split at hm
    · rename_i hw
      exact .changing (Entry.withdraw hw).entries
    · rename_i hw
      have hw := Bool.eq_false_iff.2 hw
      rw [← WaitQueue.hangUp_of_not_waiting hw]
      cases hr : p.waiting.reply? ticket with
      | none => exact .changing (.collectReply_of_none hw hr)
      | some result =>
        cases result with
        | error e => exact .changing (.collectReply hw hr)
        | ok m => simp [hr] at hm

end Row

end Pool

end SessionPool
