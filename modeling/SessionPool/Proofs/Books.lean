import Mathlib.Tactic.Abel
import SessionPool.Proofs.Crew
import SessionPool.Proofs.Stake
import SessionPool.Proofs.WaitQueue

/-!
# The books of a pool balance

`p.Covers t`: if `t` is all that there is, then the numbers in the books of `p` are what they stand
for, no member is in two places, and the tickets on which callers listen are those in `t`.
`p.Balanced k`: the books of `p` cover what lies in the pool (`Pool.stake`) together with `k`, which
the parties that work on it have in hand.

An entry in the books takes its part from that and gives another back, whatever the others have:
`p.Balanced (a + k) → q.Balanced (b + k)`. Most entries only carry something from somebody's hand
into the pool or out of it (`Balanced.carry`); the others change a number together with what it
stands for (`Covers`).
-/

set_option autoImplicit false

namespace SessionPool

/-- The member that is to be made fit for use again. -/
def Task.restored? : Task Member → Option Member
  | .restore m => some m
  | .add _ | .close _ | .maintain => none

def Task.isAdd : Task Member → Bool
  | .add _ => true
  | .restore _ | .close _ | .maintain => false

namespace Pool

/-- The members that were given back and wait for a worker. -/
def returns (p : Pool) : List Member := p.crew.tasks.filterMap Task.restored?

/-- How many sessions wait for a worker to open them. -/
def adds (p : Pool) : Nat := p.crew.tasks.countP Task.isAdd

/-- The members that lie in the pool itself. -/
def members (p : Pool) : List Member :=
  p.idle ++ p.waiting.delivered ++ p.crew.tasks.filterMap Task.item? ++ p.leaving

/-! ## What lies in the pool -/

def stake (p : Pool) : Stake :=
  .ofCounted p.idle + .ofCounted p.waiting.delivered + .ofTasks p.crew.tasks + .ofSpare p.leaving

theorem rooms_ofTasks (ts : List (Task Member)) :
    (Stake.ofTasks ts).rooms = ts.countP Task.isAdd := by
  induction ts with
  | nil => rfl
  | cons t ts ih =>
    rw [Stake.ofTasks_cons, Stake.rooms_add, ih, List.countP_cons, add_comm]
    cases t <;> rfl

theorem counted_ofTasks (ts : List (Task Member)) :
    (Stake.ofTasks ts).counted = idsOf (ts.filterMap Task.restored?) := by
  induction ts with
  | nil => rfl
  | cons t ts ih =>
    rw [Stake.ofTasks_cons, Stake.counted_add, ih]
    cases t with
    | restore m => rfl
    | add _ | close _ | maintain => exact zero_add _

theorem members_ofTasks (ts : List (Task Member)) :
    (Stake.ofTasks ts).counted + (Stake.ofTasks ts).spare = idsOf (ts.filterMap Task.item?) := by
  induction ts with
  | nil => rfl
  | cons t ts ih =>
    have hi : idsOf ((t :: ts).filterMap Task.item?) =
        (Stake.ofTask t).counted + (Stake.ofTask t).spare + idsOf (ts.filterMap Task.item?) := by
      cases t <;> simp [List.filterMap_cons, Task.item?, Stake.ofTask, -Multiset.singleton_add]
    rw [hi, ← ih, Stake.ofTasks_cons, Stake.counted_add, Stake.spare_add]
    abel

theorem tickets_ofTasks (ts : List (Task Member)) : (Stake.ofTasks ts).tickets = 0 := by
  induction ts with
  | nil => rfl
  | cons t ts ih =>
    rw [Stake.ofTasks_cons, Stake.tickets_add, ih]
    cases t <;> rfl

theorem rooms_stake (p : Pool) : p.stake.rooms = p.adds := by
  simp [stake, adds, rooms_ofTasks]

theorem counted_stake (p : Pool) :
    p.stake.counted = idsOf (p.idle ++ p.waiting.delivered ++ p.returns) := by
  simp [stake, returns, counted_ofTasks, add_assoc]

theorem members_stake (p : Pool) : p.stake.counted + p.stake.spare = idsOf p.members := by
  simp only [stake, members, idsOf_append, Stake.counted_add, Stake.spare_add, ← members_ofTasks,
    Stake.ofCounted_counted, Stake.ofCounted_spare, Stake.ofSpare_counted, Stake.ofSpare_spare]
  abel

theorem tickets_stake (p : Pool) : p.stake.tickets = 0 := by
  simp [stake, tickets_ofTasks]

/-! ## The books -/

structure Figures where
  size : Nat
  opening : Nat
  nextId : Nat
  overdrawn : Bool

/-- What the books of a pool show. -/
structure Books extends Figures where
  idle : List Member
  waiting : WaitQueue Member
  tasks : List (Task Member)
  leaving : List Member

def books (p : Pool) : Books where
  size := p.size
  opening := p.opening
  nextId := p.nextId
  overdrawn := p.overdrawn
  idle := p.idle
  waiting := p.waiting
  tasks := p.crew.tasks
  leaving := p.leaving

def figures (p : Pool) : Figures := p.books.toFigures

theorem books_crew {p : Pool} {c : Crew (Task Member)} (h : c.tasks = p.crew.tasks) :
    books { p with crew := c } = p.books := by
  simp only [books, h]

/-- Numbers of members, each given once and none of them still to be given. -/
def Numbered (next : Nat) (ids : Multiset Nat) : Prop := ids.Nodup ∧ ∀ i ∈ ids, i < next

theorem Numbered.of_le {next : Nat} {a b : Multiset Nat} (h : Numbered next a) (hb : b ≤ a) :
    Numbered next b :=
  ⟨Multiset.nodup_of_le hb h.1, fun i hi => h.2 i (Multiset.mem_of_le hb hi)⟩

/-- The books are in order if `t` is all that there is. -/
structure Covers (p : Pool) (t : Stake) : Prop where
  size : p.size = p.opening + t.counted.card
  opening : p.opening = t.rooms
  numbered : Numbered p.nextId (t.counted + t.spare)
  tickets : (p.waiting.listening : Multiset Nat) = t.tickets
  sound : p.waiting.Sound
  solvent : p.overdrawn = false

namespace Covers

variable {p q : Pool} {t : Stake} {m : Member} {ms : List Member}

theorem congr (h : p.Covers t) (hf : q.figures = p.figures)
    (hl : q.waiting.listening = p.waiting.listening) (hs : q.waiting.Sound) : q.Covers t := by
  have hopening : q.opening = p.opening := congrArg Figures.opening hf
  have hnext : q.nextId = p.nextId := congrArg Figures.nextId hf
  exact {
    size := by
      rw [hopening]
      exact (congrArg Figures.size hf).trans h.size
    opening := hopening.trans h.opening
    numbered := hnext ▸ h.numbered
    tickets := hl ▸ h.tickets
    sound := hs
    solvent := (congrArg Figures.overdrawn hf).trans h.solvent }

theorem reserve (h : p.Covers t) : p.reserve.Covers (.room + t) where
  size := by
    have hs := h.size
    show p.size + 1 = p.opening + 1 + (0 + t.counted).card
    rw [zero_add]
    omega
  opening := by
    show p.opening + 1 = 1 + t.rooms
    rw [h.opening, add_comm]
  numbered := by simpa [Pool.reserve] using h.numbered
  tickets := h.tickets.trans (zero_add _).symm
  sound := h.sound
  solvent := h.solvent

theorem unreserve (h : p.Covers (.room + t)) : p.unreserve.Covers t := by
  have hs : p.size = p.opening + t.counted.card := by simpa using h.size
  have ho : p.opening = 1 + t.rooms := h.opening
  exact {
    size := by
      show p.size - 1 = p.opening - 1 + t.counted.card
      omega
    opening := by
      show p.opening - 1 = t.rooms
      omega
    numbered := by simpa [Pool.unreserve] using h.numbered
    tickets := h.tickets.trans (zero_add _)
    sound := h.sound
    solvent := by
      simp only [Pool.unreserve, h.solvent, Bool.false_or, Bool.or_eq_false_iff,
        decide_eq_false_iff_not]
      omega }

/-- A session that was opened takes up its room. -/
theorem furnish (h : p.Covers (.room + (.ofSpare [m] + t))) :
    p.furnish.Covers (.ofCounted [m] + t) := by
  have hs : p.size = p.opening + t.counted.card := by simpa using h.size
  have ho : p.opening = 1 + (0 + t.rooms) := h.opening
  exact {
    size := by
      show p.size = p.opening - 1 + (idsOf [m] + t.counted).card
      rw [Multiset.card_add, card_idsOf, List.length_singleton]
      omega
    opening := by
      show p.opening - 1 = 0 + t.rooms
      omega
    numbered := by
      refine h.numbered.of_le (le_of_eq ?_)
      show idsOf [m] + t.counted + (0 + t.spare) = 0 + (0 + t.counted) + (0 + (idsOf [m] + t.spare))
      abel
    tickets := h.tickets.trans (zero_add _)
    sound := h.sound
    solvent := by
      simp only [Pool.furnish, h.solvent, Bool.false_or, decide_eq_false_iff_not]
      omega }

/-- The pool is no longer responsible for members. -/
theorem drop (h : p.Covers (.ofCounted ms + t)) :
    (p.drop ms.length).Covers (.ofSpare ms + t) := by
  have hs : p.size = p.opening + (ms.length + t.counted.card) := by simpa using h.size
  exact {
    size := by
      show p.size - ms.length = p.opening + (0 + t.counted).card
      rw [zero_add]
      omega
    opening := h.opening
    numbered := by
      refine h.numbered.of_le (le_of_eq ?_)
      show 0 + t.counted + (idsOf ms + t.spare) = idsOf ms + t.counted + (0 + t.spare)
      abel
    tickets := h.tickets
    sound := h.sound
    solvent := by
      simp only [Pool.drop, h.solvent, Bool.false_or, decide_eq_false_iff_not]
      omega }

/-- Not more sessions can be on their way than the pool is responsible for. -/
theorem countLive (h : p.Covers t) : p.countLive.1.Covers t where
  size := h.size
  opening := h.opening
  numbered := h.numbered
  tickets := h.tickets
  sound := h.sound
  solvent := by
    have hs := h.size
    simp only [Pool.countLive, h.solvent, Bool.false_or, decide_eq_false_iff_not]
    omega

theorem number (h : p.Covers t) (hm : m.id = p.nextId) :
    Covers { p with nextId := p.nextId + 1 } (.ofSpare [m] + t) where
  size := by simpa using h.size
  opening := h.opening.trans (zero_add _).symm
  numbered := by
    obtain ⟨hd, hn⟩ := h.numbered
    have he : (Stake.ofSpare [m] + t).counted + (Stake.ofSpare [m] + t).spare =
        p.nextId ::ₘ (t.counted + t.spare) := by
      rw [← Multiset.singleton_add, ← hm]
      show 0 + t.counted + ({m.id} + t.spare) = {m.id} + (t.counted + t.spare)
      abel
    rw [he]
    refine ⟨Multiset.nodup_cons.2 ⟨fun hi => Nat.lt_irrefl _ (hn _ hi), hd⟩, fun i hi => ?_⟩
    rcases Multiset.mem_cons.1 hi with rfl | hi
    · exact Nat.lt_succ_self _
    · exact Nat.lt_succ_of_lt (hn i hi)
  tickets := h.tickets.trans (zero_add _).symm
  sound := h.sound
  solvent := h.solvent

/-- What does not count in the books may get lost. -/
theorem lose (h : p.Covers (.ofSpare ms + t)) : p.Covers t where
  size := by simpa using h.size
  opening := h.opening.trans (zero_add _)
  numbered := by
    refine h.numbered.of_le ?_
    show t.counted + t.spare ≤ 0 + t.counted + (idsOf ms + t.spare)
    rw [zero_add]
    exact Multiset.add_le_add_left (Multiset.le_add_left _ _)
  tickets := h.tickets.trans (zero_add _)
  sound := h.sound
  solvent := h.solvent

theorem enroll (h : p.Covers t) (now : Instant) (timeout : Duration) :
    Covers { p with waiting := (p.waiting.enqueue now timeout).1 }
      (.ticket p.waiting.nextTicket + t) where
  size := by simpa using h.size
  opening := h.opening.trans (zero_add _).symm
  numbered := by simpa using h.numbered
  tickets := by
    rw [Stake.tickets_add, Stake.ticket_tickets, ← h.tickets, WaitQueue.enqueue,
      ← Multiset.coe_add, add_comm]
    rfl
  sound := h.sound.enqueue now timeout
  solvent := h.solvent

/-- A caller goes, and its ticket with it. -/
theorem hangUp {ticket : Nat} (h : p.Covers (.ticket ticket + t)) :
    Covers { p with waiting := (p.waiting.withdraw ticket).1.hangUp ticket } t where
  size := by simpa using h.size
  opening := h.opening.trans (zero_add _)
  numbered := by simpa using h.numbered
  tickets := by
    have ht : (p.waiting.listening : Multiset Nat) = ticket ::ₘ t.tickets := h.tickets
    have hn : (ticket ::ₘ t.tickets).Nodup := ht ▸ Multiset.coe_nodup.2 h.sound.distinct
    obtain ⟨hm, -⟩ := Multiset.nodup_cons.1 hn
    have hf : Multiset.filter (fun x => ¬ x = ticket) (ticket ::ₘ t.tickets) = t.tickets := by
      rw [Multiset.filter_cons_of_neg _ (by simp)]
      exact Multiset.filter_eq_self.2 fun x hx e => hm (e ▸ hx)
    rw [WaitQueue.hangUp_withdraw, ← hf, ← ht, Multiset.filter_coe]
    simp
  sound := h.sound.forget ticket
  solvent := h.solvent

end Covers

/-! ## Hands -/

/-- The books are in order while the parties have a stake in hand. -/
def Balanced (p : Pool) (k : Stake) : Prop := p.Covers (p.stake + k)

variable {p q : Pool} {a k k' : Stake} {m : Member} {ms : List Member}

/-- A part of what is in hand may be looked at first. -/
theorem balanced_add : p.Balanced (a + k) ↔ p.Covers (a + (p.stake + k)) := by
  rw [Balanced, add_left_comm]

namespace Balanced

/-- What lies in the pool goes into somebody's hand, or the other way round. -/
theorem carry (h : p.Balanced k) (hs : q.stake + k' = p.stake + k) (hf : q.figures = p.figures)
    (hl : q.waiting.listening = p.waiting.listening) (hq : q.waiting.Sound) : q.Balanced k' := by
  rw [Balanced, hs]
  exact h.congr hf hl hq

/-- Entries elsewhere in the books. -/
theorem congr (h : p.Balanced k) (hq : q.books = p.books) : q.Balanced k := by
  have hw : q.waiting = p.waiting := congrArg Books.waiting hq
  have hs : q.stake = p.stake := congrArg (fun b : Books => Stake.ofCounted b.idle +
    .ofCounted b.waiting.delivered + .ofTasks b.tasks + .ofSpare b.leaving) hq
  exact h.carry (hs ▸ rfl) (congrArg Books.toFigures hq) (hw ▸ rfl) (hw ▸ h.sound)

theorem unpark {taken rest : List Member} (h : p.Balanced k) (hp : p.idle.Perm (taken ++ rest)) :
    Balanced { p with idle := rest } (.ofCounted taken + k) := by
  refine h.carry ?_ rfl rfl h.sound
  simp only [stake, Stake.ofCounted_perm hp, Stake.ofCounted_append]
  abel

theorem park (h : p.Balanced (.ofCounted [m] + k)) :
    Balanced { p with idle := p.idle ++ [m] } k := by
  refine h.carry ?_ rfl rfl h.sound
  simp only [stake, Stake.ofCounted_append]
  abel

theorem leave (h : p.Balanced (.ofSpare [m] + k)) :
    Balanced { p with leaving := p.leaving ++ [m] } k := by
  refine h.carry ?_ rfl rfl h.sound
  simp only [stake, Stake.ofSpare_append]
  abel

theorem lose (h : p.Balanced (.ofSpare ms + k)) : p.Balanced k := (balanced_add.1 h).lose

theorem depart (h : p.Balanced k) (hs : ms.Sublist p.leaving) :
    Balanced { p with leaving := ms } k := by
  obtain ⟨gone, hp⟩ := hs.exists_perm_append
  have hg : Balanced { p with leaving := ms } (.ofSpare gone + k) := by
    refine h.carry ?_ rfl rfl h.sound
    simp only [stake, Stake.ofSpare_perm hp, Stake.ofSpare_append]
    abel
  exact hg.lose

variable {t : Task Member} {c : Crew (Task Member)}

theorem queueTask (h : p.Balanced (.ofTask t + k)) (hc : c.tasks = p.crew.tasks ++ [t]) :
    Balanced { p with crew := c } k := by
  refine h.carry ?_ rfl rfl h.sound
  simp only [stake, hc, Stake.ofTasks_append, Stake.ofTasks_cons, Stake.ofTasks_nil]
  abel

theorem takeTask (h : p.Balanced k) (hc : p.crew.tasks = t :: c.tasks) :
    Balanced { p with crew := c } (.ofTask t + k) := by
  refine h.carry ?_ rfl rfl h.sound
  simp only [stake, hc, Stake.ofTasks_cons]
  abel

variable {w : WaitQueue Member}

/-- The queue changes while nothing is handed over and nobody hangs up. -/
theorem requeue (h : p.Balanced k) (sound : w.Sound) (delivered : w.delivered = p.waiting.delivered)
    (listening : w.listening = p.waiting.listening) : Balanced { p with waiting := w } k := by
  refine h.carry ?_ rfl listening sound
  simp only [stake, delivered]

theorem hand (h : p.Balanced (.ofCounted [m] + k)) (sound : w.Sound)
    (delivered : w.delivered = p.waiting.delivered ++ [m])
    (listening : w.listening = p.waiting.listening) : Balanced { p with waiting := w } k := by
  refine h.carry ?_ rfl listening sound
  simp only [stake, delivered, Stake.ofCounted_append]
  abel

/-- The caller of a request goes and takes along what lies ready for it. -/
theorem release {ticket : Nat} (h : p.Balanced (.ticket ticket + k)) :
    Balanced { p with waiting := (p.waiting.withdraw ticket).1.hangUp ticket }
      (.ofCounted ((p.waiting.reply? ticket).bind Except.toOption).toList + k) := by
  have hp := WaitQueue.delivered_hangUp h.sound.replies_nodup ticket
  have hd : ((p.waiting.withdraw ticket).1.hangUp ticket).delivered =
      (p.waiting.hangUp ticket).delivered := rfl
  have hs : stake { p with waiting := (p.waiting.withdraw ticket).1.hangUp ticket } +
      (.ofCounted ((p.waiting.reply? ticket).bind Except.toOption).toList + k) = p.stake + k := by
    simp only [stake, hd, Stake.ofCounted_perm hp, Stake.ofCounted_append]
    abel
  rw [Balanced, hs]
  exact (balanced_add.1 h).hangUp

/-- No two members in the pool and in somebody's hand have the same number. -/
theorem numbered_members (h : p.Balanced k) :
    Numbered p.nextId (idsOf p.members + k.counted + k.spare) := by
  refine h.numbered.of_le (le_of_eq ?_)
  rw [← members_stake, Stake.counted_add, Stake.spare_add]
  abel

theorem tickets_eq (h : p.Balanced k) : (p.waiting.listening : Multiset Nat) = k.tickets := by
  rw [h.tickets, Stake.tickets_add, tickets_stake, zero_add]

end Balanced

end Pool

end SessionPool
