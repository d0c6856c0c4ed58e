import SessionPool.Proofs.Books

/-!
# Entries in the books

Whatever a party does to a pool while nobody else looks at it is a row of entries (`Row`), each of
which touches one thing in the books (`Entry`), takes a part of the party's stake and gives another
back. What may happen to a pool at all can therefore be read off the constructors of `Entry`, and
what all of them preserve holds after every step of every party (`Row.balanced`). One row serves
at most one request, and then it lets none join or leave the line.
-/

set_option autoImplicit false

namespace SessionPool.Pool

inductive Line
  /-- Nothing, but that late requests may leave it. -/
  | still
  | serving
  /-- Requests join the line, leave it, or fail. -/
  | changing

/-- `Entry now l p a q b`: one entry, made `now`, turns the pool `p` into `q` and the part `a` of
the stake of whoever makes it into `b`. -/
inductive Entry (now : Instant) : Line → Pool → Stake → Pool → Stake → Prop
  /-- Something that the books do not show. -/
  | aside {l : Line} {p q : Pool} (h : q.books = p.books) (hm : q.maxSize = p.maxSize) :
      Entry now l p 0 q 0
  | reserve {l : Line} {p : Pool} (h : p.isFull = false) : Entry now l p 0 p.reserve .room
  | unreserve {l : Line} {p : Pool} : Entry now l p .room p.unreserve 0
  /-- A session takes up its room. -/
  | furnish {l : Line} {p : Pool} (m : Member) :
      Entry now l p (.room + .ofSpare [m]) p.furnish (.ofCounted [m])
  | countLive {l : Line} {p : Pool} : Entry now l p 0 p.countLive.1 0
  /-- A new member is given its number. -/
  | number {l : Line} {p : Pool} {m : Member} (h : m.id = p.nextId) :
      Entry now l p 0 { p with nextId := p.nextId + 1 } (.ofSpare [m])
  | drop {l : Line} {p : Pool} (ms : List Member) :
      Entry now l p (.ofCounted ms) (p.drop ms.length) (.ofSpare ms)
  /-- A member that the pool is not responsible for is closed or left to itself. -/
  | lose {l : Line} {p : Pool} (ms : List Member) : Entry now l p (.ofSpare ms) p 0
  /-- A member is to be closed without anybody waiting for it. -/
  | leave {l : Line} {p : Pool} (m : Member) :
      Entry now l p (.ofSpare [m]) { p with leaving := p.leaving ++ [m] } 0
  /-- Members that were to be closed are closed. -/
  | depart {l : Line} {p : Pool} {ms : List Member} (h : ms.Sublist p.leaving) :
      Entry now l p 0 { p with leaving := ms } 0
  | queueTask {l : Line} {p : Pool} {t : Task Member} {c : Crew (Task Member)}
      (h : c.tasks = p.crew.tasks ++ [t]) : Entry now l p (.ofTask t) { p with crew := c } 0
  | takeTask {l : Line} {p : Pool} {t : Task Member} {c : Crew (Task Member)}
      (h : p.crew.tasks = t :: c.tasks) : Entry now l p 0 { p with crew := c } (.ofTask t)
  | unpark {l : Line} {p : Pool} {taken rest : List Member} (h : p.idle.Perm (taken ++ rest)) :
      Entry now l p 0 { p with idle := rest } (.ofCounted taken)
  /-- A member becomes an unused one, if nobody waits. -/
  | park {l : Line} {p : Pool} (m : Member) (h : p.waiting.requests = []) :
      Entry now l p (.ofCounted [m]) { p with idle := p.idle ++ [m] } 0
  | expire {l : Line} {p : Pool} : Entry now l p 0 { p with waiting := (p.waiting.expire now).1 } 0
  /-- A member is offered to the line, and all requests are late. -/
  | sweep {l : Line} {p : Pool} {m : Member}
      (h : (p.waiting.fulfill (some m) now).served = none) :
      Entry now l p 0 { p with waiting := (p.waiting.fulfill (some m) now).queue } 0
  /-- A member is offered to the line, and the first request that is not late gets it. -/
  | hand {p : Pool} {m : Member} {s : Served}
      (h : (p.waiting.fulfill (some m) now).served = some s) :
      Entry now .serving p (.ofCounted [m])
        { p with waiting := (p.waiting.fulfill (some m) now).queue } 0
  /-- A caller whose request does not wait reads its answer and hangs up. -/
  | collect {l : Line} {p : Pool} {ticket : Nat} (h : p.waiting.isWaiting ticket = false) :
      Entry now l p (.ticket ticket) { p with waiting := p.waiting.hangUp ticket }
        (.ofCounted ((p.waiting.reply? ticket).bind Except.toOption).toList)
  /-- A caller whose request waits withdraws it and hangs up. -/
  | withdraw {p : Pool} {ticket : Nat} (h : p.waiting.isWaiting ticket = true) :
      Entry now .changing p (.ticket ticket)
        { p with waiting := (p.waiting.withdraw ticket).1.hangUp ticket } 0
  | fail {p : Pool} (ticket : Nat) (e : PoolError) :
      Entry now .changing p 0 { p with waiting := (p.waiting.fail ticket e).1 } 0
  | failAll {p : Pool} (e : PoolError) :
      Entry now .changing p 0 { p with waiting := (p.waiting.failAll e).1 } 0
  /-- A request joins the line: it has found no unused member, or others wait already. -/
  | enroll {p : Pool} (timeout : Duration) (h : p.idle = [] ∨ p.waiting.requests ≠ []) :
      Entry now .changing p 0 { p with waiting := (p.waiting.enqueue now timeout).1 }
        (.ticket p.waiting.nextTicket)

/-- `Entries now l p a q b`: entries of one kind turn `p` into `q` and `a` into `b`. An entry leaves
that part of the stake alone which it does not need. -/
inductive Entries (now : Instant) (l : Line) (p : Pool) (a : Stake) : Pool → Stake → Prop
  | refl : Entries now l p a p a
  | step {q r : Pool} {b c k : Stake} (h : Entries now l p a q (b + k)) (e : Entry now l q b r c) :
      Entries now l p a r (c + k)

variable {now : Instant} {l : Line} {p q r : Pool} {a b c k : Stake}

theorem Entry.entries (h : Entry now l p a q b) : Entries now l p a q b := by
  have : Entries now l p a p (a + 0) := by
    rw [add_zero]
    exact .refl
  simpa using this.step h

namespace Entries

theorem trans (h : Entries now l p a q b) (h' : Entries now l q b r c) : Entries now l p a r c := by
  induction h' with
  | refl => exact h
  | step _ e ih => exact ih.step e

theorem frame (h : Entries now l p a q b) (k : Stake) : Entries now l p (a + k) q (b + k) := by
  induction h with
  | refl => exact .refl
  | step _ e ih =>
    rw [add_assoc] at ih ⊢
    exact ih.step e

theorem along (h : Entries now l p 0 q 0) : Entries now l p k q k := by
  simpa using h.frame k

theorem gain (h : Entries now l p 0 q b) : Entries now l p k q (k + b) := by
  simpa [add_comm] using h.frame k

theorem spend (h : Entries now l p a q 0) : Entries now l p (a + k) q k := by
  simpa using h.frame k

end Entries

/-- **Every entry keeps the books balanced**, whatever others have in hand. -/
theorem Entry.balanced (h : Entry now l p a q b) (hp : p.Balanced (a + k)) :
    q.Balanced (b + k) := by
  cases h with
  | aside h _ => exact hp.congr h
  | reserve _ => exact balanced_add.2 (zero_add k ▸ hp : p.Balanced k).reserve
  | unreserve => exact (zero_add k).symm ▸ (balanced_add.1 hp).unreserve
  | furnish m =>
    rw [add_assoc, balanced_add, add_left_comm p.stake] at hp
    exact balanced_add.2 hp.furnish
  | countLive => exact hp.countLive
  | number h => exact balanced_add.2 ((zero_add k ▸ hp : p.Balanced k).number h)
  | drop ms => exact balanced_add.2 (balanced_add.1 hp).drop
  | lose ms => exact (zero_add k).symm ▸ hp.lose
  | leave m => exact (zero_add k).symm ▸ hp.leave
  | depart h => exact hp.depart h
  | queueTask h => exact (zero_add k).symm ▸ hp.queueTask h
  | takeTask h => exact (zero_add k ▸ hp).takeTask h
  | unpark h => exact (zero_add k ▸ hp).unpark h
  | park m _ => exact (zero_add k).symm ▸ hp.park
  | expire => exact hp.requeue (hp.sound.expire now) (by simp) (by simp)
  | sweep h =>
    exact hp.requeue (hp.sound.fulfill _ now) (by simp [WaitQueue.delivered_fulfill, h]) (by simp)
  | hand h =>
    have : p.Balanced (.ofCounted [_] + k) := hp
    refine (zero_add k).symm ▸ this.hand (hp.sound.fulfill _ now) ?_ (by simp)
    simp [WaitQueue.delivered_fulfill, h]
  | collect h =>
    rw [WaitQueue.hangUp_of_not_waiting h]
    exact hp.release
  | withdraw h =>
    have := hp.release
    rw [hp.sound.reply?_of_waiting h] at this
    exact this
  | fail ticket e => exact hp.requeue (hp.sound.fail ticket e) (by simp) (by simp)
  | failAll e => exact hp.requeue (hp.sound.failAll e) (by simp) (by simp)
  | enroll timeout _ => exact balanced_add.2 ((zero_add k ▸ hp : p.Balanced k).enroll now timeout)

theorem Entries.balanced (h : Entries now l p a q b) (hp : p.Balanced (a + k)) :
    q.Balanced (b + k) := by
  induction h with
  | refl => exact hp
  | step _ e ih =>
    rw [add_assoc] at ih ⊢
    exact e.balanced ih

/-! ## Rows -/

/-- What a party enters in one go: it serves one request, or lets requests join and leave the line,
or neither. -/
inductive Row (now : Instant) (p : Pool) (a : Stake) (q : Pool) (b : Stake) : Prop
  | changing (h : Entries now .changing p a q b)
  | serving {p' q' : Pool} {a' b' k : Stake} (before : Entries now .still p a p' (a' + k))
      (e : Entry now .serving p' a' q' b') (after : Entries now .still q' (b' + k) q b)

namespace Row

theorem of_entry (e : Entry now .serving p a q b) : Row now p a q b := by
  refine .serving (k := 0) ?_ e ?_
  · rw [add_zero]
    exact .refl
  · rw [add_zero]
    exact .refl

theorem after (h : Row now q b r c) (e : ∀ l, Entries now l p a q b) : Row now p a r c := by
  cases h with
  | changing h => exact .changing ((e .changing).trans h)
  | serving before e' after => exact .serving ((e .still).trans before) e' after

theorem before (h : Row now p a q b) (e : ∀ l, Entries now l q b r c) : Row now p a r c := by
  cases h with
  | changing h => exact .changing (h.trans (e .changing))
  | serving before e' after => exact .serving before e' (after.trans (e .still))

theorem frame (h : Row now p a q b) (k : Stake) : Row now p (a + k) q (b + k) := by
  cases h with
  | changing h => exact .changing (h.frame k)
  | serving before e after =>
    have before := before.frame k
    have after := after.frame k
    rw [add_assoc] at before after
    exact .serving before e after

theorem gain (h : Row now p 0 q b) : Row now p k q (k + b) := by
  simpa [add_comm] using h.frame k

theorem balanced (h : Row now p a q b) (hp : p.Balanced (a + k)) : q.Balanced (b + k) := by
  cases h with
  | changing h => exact h.balanced hp
  | serving before e after =>
    have hp := before.balanced hp
    rw [add_assoc] at hp
    have hq := e.balanced hp
    rw [← add_assoc] at hq
    exact after.balanced hq

end Row

end SessionPool.Pool
