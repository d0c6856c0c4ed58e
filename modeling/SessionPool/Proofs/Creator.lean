import SessionPool.Proofs.Histogram
import SessionPool.Proofs.Tally

/-!
# Whoever opens sessions

A session is opened by a request or by a worker that adds a member (`Creator`). How either of them
goes on with a step: what comes of its attempt to open a session (`Acquiring.Proceeds`,
`Adding.Proceeds`), and what is counted (`Acquiring.gains`, `Adding.gains`).
-/

set_option autoImplicit false

namespace SessionPool

namespace Next

variable {π ρ : Type}

/-- What is left to do. -/
def process? : Next π ρ → Option π
  | more p => some p
  | done _ => none

def result? : Next π ρ → Option ρ
  | more _ => none
  | done r => some r

/-- A request fails, and not because the pool is closed. -/
def fails : Next Acquiring Acquired → Bool
  | done (.error e) => e ≠ .closed
  | done (.ok _) | more _ => false

end Next

/-- What comes of the opening of a session with its next step, if it comes to its end. -/
def Opening.ends? (env : Env) (p : Pool) (o : Opening) : Option Opened :=
  (o.step env p).bind fun s => s.2.2.result?

/-! ## What is counted -/

namespace Counters

variable {c : Counters}

/-- What is counted with a step: that a request is let in, that it gets in line, that one fails,
that a session is entered which was opened, or that none could be opened. -/
structure Gains (c c' : Counters) (admits queues fails opened unopened : Bool) : Prop where
  requestsNum : c'.requestsNum = c.requestsNum + admits.toNat
  requestsQueued : c'.requestsQueued = c.requestsQueued + queues.toNat
  requestsErrors : c'.requestsErrors = c.requestsErrors + fails.toNat
  connectionsNum : c'.connectionsNum = c.connectionsNum + opened.toNat
  connectionsErrors : c'.connectionsErrors = c.connectionsErrors + unopened.toNat
  whole : c.connectTime.IsWhole → c'.connectTime.IsWhole
  total : c.connectTime.IsWhole → c'.connectTime.total = c.connectTime.total + opened.toNat

namespace Gains

theorem nothing : c.Gains c false false false false false :=
  ⟨rfl, rfl, rfl, rfl, rfl, id, fun _ => rfl⟩

theorem greeted (queued : Bool) : c.Gains (c.greeted queued) true queued false false false :=
  ⟨rfl, rfl, rfl, rfl, rfl, id, fun _ => rfl⟩

theorem opened (elapsed : Duration) :
    c.Gains (c.countOpened elapsed) false false false true false :=
  ⟨rfl, rfl, rfl, rfl, rfl, fun h => h.record elapsed, fun h => h.total_record elapsed⟩

theorem unopened :
    c.Gains { c with connectionsErrors := c.connectionsErrors + 1 } false false false false true :=
  ⟨rfl, rfl, rfl, rfl, rfl, id, fun _ => rfl⟩

theorem failed :
    c.Gains { c with requestsErrors := c.requestsErrors + 1 } false false true false false :=
  ⟨rfl, rfl, rfl, rfl, rfl, id, fun _ => rfl⟩

theorem of_tally {c' : Counters} {admits queues fails opened unopened : Bool}
    (h : c.tally.Gains c'.tally admits queues fails opened unopened) :
    c.Gains c' admits queues fails opened unopened :=
  ⟨h.requestsNum, h.requestsQueued, h.requestsErrors, h.connectionsNum, h.connectionsErrors,
    h.whole, h.total⟩

end Gains

end Counters

/-- What is counted when somebody asks for a session and does not wait for it. -/
theorem Pool.gains_tryTake (p : Pool) (now : Instant) :
    p.tally.Gains (p.tryTake now).1.tally (!p.closed) false false false false := by
  cases hc : p.closed with
  | false =>
    rw [tally_tryTake hc]
    exact .greeted false
  | true =>
    have same : (p.tryTake now).1 = p := congrArg Prod.fst (if_pos hc)
    rw [same]
    exact .nothing

/-! ## Requests -/

namespace Acquiring

variable {env env' : Env} {p q : Pool} {a : Acquiring} {next : Next Acquiring Acquired}

def isFailing : Acquiring → Bool
  | failing _ => true
  | _ => false

def isTakingOver : Acquiring → Bool
  | takingOver _ _ => true
  | _ => false

/-- Its attempt to open a session has failed, which it is about to enter. -/
def isTakingNote : Acquiring → Bool
  | countingFailure _ => true
  | _ => false

/-- What comes of its attempt to open a session, if that comes to its end with the next step. -/
def attempted? (env : Env) (p : Pool) (a : Acquiring) : Option Opened :=
  a.opening?.bind (·.ends? env p)

/-- If it is about to fail, then not because the pool is closed. -/
def isExcused : Acquiring → Bool
  | vacating e | failing e => e ≠ .closed
  | _ => true

/-- A request that is answered is served, or it is refused by a closed pool, or it is about to
fail. -/
inductive Settles : Next Acquiring Acquired → Prop
  | served (m : Member) : Settles (.done (.ok m))
  | refused : Settles (.done (.error .closed))
  | failing {e : PoolError} (he : e ≠ .closed) : Settles (.more (.failing e))

theorem settles_refuse (e : PoolError) : Settles (refuse env p e).2.2 := by
  unfold refuse
  split
  · rename_i he
    rw [he]
    exact .refused
  · rename_i he
    exact .failing he

theorem settles_conclude (x : Pool × Acquired) : Settles (conclude env x).2.2 := by
  obtain ⟨q, e | m⟩ := x
  · exact settles_refuse e
  · exact .served _

/-- How a request goes on with a step. -/
structure Proceeds (env : Env) (p : Pool) (a : Acquiring) (next : Next Acquiring Acquired) :
    Prop where
  refused : a.hasArrived = false → p.closed = true → next = .done (.error .closed)
  queues : next.queues = true → a.hasArrived = false
  fails : a.isExcused = true → next.fails = a.isFailing
  takingOver : next.process?.any isTakingOver = (a.attempted? env p).any (·.isOk)
  takingNote : next.process?.any isTakingNote = (a.attempted? env p).any (!·.isOk)
  excused : a.isExcused = true → next.process?.all isExcused = true

namespace Proceeds

/-- A request is answered. -/
theorem of_settles (hc : a.hasArrived = true ∨ p.closed = false) (hn : Settles next)
    (ho : a.attempted? env p = none) (hf : a.isFailing = false) : Proceeds env p a next := by
  replace hc (h : a.hasArrived = false) : p.closed = false := hc.resolve_left (by simp [h])
  cases hn <;> constructor <;> simp_all [Next.queues, Next.fails, Next.process?,
    isTakingOver, isTakingNote, isExcused]

/-- A request goes on without opening a session. -/
theorem of_more {a' : Acquiring} (hc : a.hasArrived = true ∨ p.closed = false)
    (hq : Next.queues (.more a') = false ∨ a.hasArrived = false)
    (ho : a.attempted? env p = none) (hf : a.isFailing = false)
    (ht : a'.isTakingOver = false) (hn : a'.isTakingNote = false)
    (he : a.isExcused = true → a'.isExcused = true) : Proceeds env p a (.more a') where
  refused h h' := absurd hc (by simp [h, h'])
  queues h := hq.resolve_left (by simp [h])
  fails _ := hf.symm
  takingOver := by simp [ho, Next.process?, ht]
  takingNote := by simp [ho, Next.process?, hn]
  excused h := by simpa [Next.process?] using he h

/-- A request comes in. -/
theorem arrive (timeout : Duration) (hc : p.closed = false) :
    Proceeds env p (.arriving timeout) (Acquiring.arrive env p timeout).2.2 := by
  unfold Acquiring.arrive
  dsimp only
  split
  · exact of_settles (.inr hc) (.served _) rfl rfl
  · exact of_more (.inr hc) (.inl rfl) rfl rfl rfl rfl fun _ => rfl
  · exact of_more (.inr hc) (.inr rfl) rfl rfl rfl rfl fun _ => rfl
  · exact of_settles (.inr hc) (settles_refuse _) rfl rfl

/-- A request comes in when the pool is closed. -/
theorem arrive_closed (timeout : Duration) (hc : p.closed = true) :
    Proceeds env p (.arriving timeout) (Acquiring.arrive env p timeout).2.2 := by
  have refused : (Acquiring.arrive env p timeout).2.2 = .done (.error .closed) := by
    unfold Acquiring.arrive
    dsimp only
    rw [Pool.checkout_closed hc]
    rfl
  rw [refused]
  exact ⟨fun _ _ => rfl, fun _ => rfl, fun _ => rfl, rfl, rfl, fun _ => rfl⟩

/-- A request goes on with the opening of a session. -/
theorem afterOpening {o : Opening} {resume : Opening → Env → Env × Acquiring}
    {x : Stepped Opening Opened} (ho : a.opening? = some o) (hs : o.step env p = some x)
    (hf : a.isFailing = false) (hc : a.hasArrived = true ∨ p.closed = false)
    (hr : ∀ o env, ∃ cutoff timeout, (resume o env).2 = .dialing o cutoff timeout) :
    Proceeds env p a (Acquiring.afterOpening resume x).2.2 := by
  have ended : a.attempted? env p = x.2.2.result? := by
    rw [attempted?, ho, Option.bind_some, Opening.ends?, hs, Option.bind_some]
  obtain ⟨env', q, o' | opened⟩ := x
  · obtain ⟨cutoff, timeout, hr⟩ := hr o' env'
    have same : (Acquiring.afterOpening resume (env', q, .more o')).2.2 =
      .more (.dialing o' cutoff timeout) := congrArg Next.more hr
    rw [same]
    exact of_more hc (.inl rfl) ended hf rfl rfl fun _ => rfl
  · exact {
      refused := fun h h' => absurd hc (by simp [h, h'])
      queues := fun h => by rcases opened with e | ⟨m, elapsed⟩ <;> cases h
      fails := fun _ => hf ▸ by rcases opened with e | ⟨m, elapsed⟩ <;> rfl
      takingOver := ended ▸ by rcases opened with e | ⟨m, elapsed⟩ <;> rfl
      takingNote := ended ▸ by rcases opened with e | ⟨m, elapsed⟩ <;> rfl
      excused := fun _ => by rcases opened with e | ⟨m, elapsed⟩ <;> rfl }

end Proceeds

/-- **How a request goes on.** -/
theorem proceeds {s : Stepped Acquiring Acquired} (h : a.step env p = some s) :
    Proceeds env p a s.2.2 := by
  cases a with
  | arriving timeout =>
    cases h
    cases hc : p.closed with
    | false => exact .arrive timeout hc
    | true => exact .arrive_closed timeout hc
  | queued ticket cutoff timeout =>
    simp only [step] at h
    split at h
    · cases h
      exact .of_settles (.inl rfl) (settles_conclude _) rfl rfl
    · split at h
      · cases h
        exact .of_settles (.inl rfl) (settles_refuse _) rfl rfl
      · simp only [Option.ite_none_right_eq_some, Option.some.injEq] at h
        obtain ⟨-, rfl⟩ := h
        exact .of_more (.inl rfl) (.inl rfl) rfl rfl rfl rfl fun _ => rfl
  | givingUp ticket timeout =>
    cases h
    exact .of_settles (.inl rfl) (settles_conclude _) rfl rfl
  | calling deadline timeout =>
    simp only [step] at h
    obtain ⟨x, ho, rfl⟩ := Option.map_eq_some_iff.1 h
    exact .afterOpening rfl ho rfl (.inl rfl) fun _ _ => ⟨_, _, rfl⟩
  | dialing o cutoff timeout =>
    simp only [step] at h
    split at h
    · rename_i x ho
      cases h
      exact .afterOpening rfl ho rfl (.inl rfl) fun _ _ => ⟨_, _, rfl⟩
    · rename_i ho
      simp only [Option.ite_none_right_eq_some, Option.some.injEq] at h
      obtain ⟨-, rfl⟩ := h
      have waits : (dialing o cutoff timeout).attempted? env p = none := by
        rw [attempted?, opening?, Option.bind_some, Opening.ends?, ho, Option.bind_none]
      exact .of_more (.inl rfl) (.inl rfl) waits rfl rfl rfl fun _ => rfl
  | takingOver m elapsed =>
    cases h
    exact .of_settles (.inl rfl) (settles_conclude _) rfl rfl
  | countingFailure e =>
    cases h
    exact .of_more (.inl rfl) (.inl rfl) rfl rfl rfl rfl fun _ => rfl
  | vacating e =>
    cases h
    exact .of_more (.inl rfl) (.inl rfl) rfl rfl rfl rfl id
  | failing e =>
    cases h
    exact ⟨(by cases ·), (by cases ·), id, rfl, rfl, fun _ => rfl⟩

/-- A request that is let in is one more that may fail. -/
theorem Proceeds.admitted (h : Proceeds env p a next) (he : a.isExcused = true) :
    (next.process?.any hasArrived).toNat + a.isFailing.toNat ≤
      a.hasArrived.toNat + (!a.hasArrived && !p.closed).toNat := by
  rw [← h.fails he]
  cases hn : a.hasArrived with
  | true => cases next <;> simp [Next.process?, Next.fails, Bool.toNat_le]
  | false =>
    cases hc : p.closed with
    | false =>
      have fails : next.fails = false := by
        rw [h.fails he]
        cases a <;> first | rfl | cases hn
      rw [fails]
      simp [Bool.toNat_le]
    | true =>
      rw [h.refused hn hc]
      simp [Next.process?, Next.fails]

/-- What is counted with a step of a request. -/
theorem gains {s : Stepped Acquiring Acquired} (h : a.step env p = some s) :
    p.tally.Gains s.2.1.tally (!a.hasArrived && !p.closed) s.2.2.queues a.isFailing a.isTakingOver
      a.isTakingNote := by
  have goes := proceeds h
  rw [tally_step h]
  cases a with
  | arriving timeout =>
    cases hc : p.closed with
    | false =>
      rw [entered, hc]
      exact .greeted _
    | true =>
      rw [entered, hc, goes.refused rfl hc]
      exact .nothing
  | queued | givingUp | calling | dialing | takingOver | countingFailure | vacating | failing =>
    have queues : s.2.2.queues = false := by
      by_contra hq
      have new := goes.queues (by simpa using hq)
      cases new
    rw [queues]
    first
      | exact .nothing
      | exact .opened _
      | exact .unopened
      | exact .failed

end Acquiring

/-! ## Workers that add a member -/

namespace Adding

variable {env : Env} {p : Pool} {a : Adding}

def isTakingOver (a : Adding) : Bool :=
  match a.phase with
  | .joining _ _ => true
  | _ => false

def isTakingNote (a : Adding) : Bool :=
  match a.phase with
  | .failing _ => true
  | _ => false

/-- The opening of a session with which the worker goes on; it does not once the crew is stopped. -/
def opening? (p : Pool) (a : Adding) : Option Opening :=
  match a.phase with
  | .opening o => if p.crew.stopped then none else some o
  | _ => none

def attempted? (env : Env) (p : Pool) (a : Adding) : Option Opened :=
  (a.opening? p).bind (·.ends? env p)

/-- How a worker that adds a member goes on with a step. -/
structure Proceeds (env : Env) (p : Pool) (a : Adding) (next : Next Adding Unit) : Prop where
  takingOver : next.process?.any isTakingOver = (a.attempted? env p).any (·.isOk)
  takingNote : next.process?.any isTakingNote = (a.attempted? env p).any (!·.isOk)

theorem proceeds_fail (e : SessionError) (hp : a.phase = .failing e) :
    Proceeds env p a (a.fail env p e).2.2 := by
  have none : a.attempted? env p = none := by rw [attempted?, opening?, hp]; rfl
  unfold fail
  dsimp only
  split
  · exact ⟨none ▸ rfl, none ▸ rfl⟩
  · split <;> exact ⟨none ▸ rfl, none ▸ rfl⟩

/-- **How a worker that adds a member goes on.** -/
theorem proceeds {s : Stepped Adding Unit} (h : a.step env p = some s) :
    Proceeds env p a s.2.2 := by
  obtain ⟨waiter, attempt, delay, phase⟩ := a
  cases phase with
  | opening o =>
    simp only [step] at h
    split at h
    · rename_i hc
      cases h
      constructor <;> simp [attempted?, opening?, hc, Next.process?, inPhase, isTakingOver,
        isTakingNote]
    · rename_i hc
      obtain ⟨⟨env', q, next⟩, ho, rfl⟩ := Option.map_eq_some_iff.1 h
      have goesOn : opening? p ⟨waiter, attempt, delay, .opening o⟩ = some o := if_neg hc
      have ended : attempted? env p ⟨waiter, attempt, delay, .opening o⟩ = next.result? := by
        rw [attempted?, goesOn, Option.bind_some, Opening.ends?, ho, Option.bind_some]
      rcases next with o' | (e | ⟨m, elapsed⟩) <;> exact ⟨by rw [ended]; rfl, by rw [ended]; rfl⟩
  | joining m elapsed =>
    cases h
    exact ⟨rfl, rfl⟩
  | failing e =>
    cases h
    exact proceeds_fail e rfl
  | resting timer =>
    simp only [step] at h
    split at h
    · cases h
      exact ⟨rfl, rfl⟩
    · simp only [Option.ite_none_right_eq_some, Option.some.injEq] at h
      obtain ⟨-, rfl⟩ := h
      exact ⟨rfl, rfl⟩
  | releasing e =>
    cases h
    exact ⟨rfl, rfl⟩

/-- What is counted with a step of a worker that adds a member. -/
theorem gains {s : Stepped Adding Unit} (h : a.step env p = some s) :
    p.tally.Gains s.2.1.tally false false false a.isTakingOver a.isTakingNote := by
  rw [tally_step h]
  obtain ⟨waiter, attempt, delay, phase⟩ := a
  cases phase with
  | opening | resting | releasing => exact .nothing
  | joining m elapsed => exact .opened elapsed
  | failing e => exact .unopened

end Adding

/-! ## Whoever opens sessions -/

/-- Who opens sessions: a request, or a worker that adds a member. -/
inductive Creator
  | request (a : Acquiring)
  | worker (a : Adding)

namespace Creator

def group : Option Creator → Multiset Creator
  | some c => {c}
  | none => 0

@[simp] theorem group_none : group none = 0 := rfl

theorem countP_group (b : Creator → Bool) (c : Option Creator) :
    (group c).countP (b ·) = (c.any b).toNat := by
  cases c with
  | none => rfl
  | some c =>
    cases h : b c <;>
      simp [group, h, Multiset.countP_eq_card_filter, Multiset.filter_singleton]

/-- It is about to take over the session that it has opened. -/
def isTakingOver : Creator → Bool
  | request a => a.isTakingOver
  | worker a => a.isTakingOver

/-- It is about to enter that its attempt to open a session has failed. -/
def isTakingNote : Creator → Bool
  | request a => a.isTakingNote
  | worker a => a.isTakingNote

/-- A request that has come in. -/
def isAdmitted : Creator → Bool
  | request a => a.hasArrived
  | worker _ => false

/-- What comes of an attempt to open a session that comes to its end with the next step. -/
def attempted? (env : Env) (p : Pool) : Creator → Option Opened
  | request a => a.attempted? env p
  | worker a => a.attempted? env p

def isExcused : Creator → Bool
  | request a => a.isExcused
  | worker _ => true

/-- It has not made a step yet. -/
def isNew : Creator → Bool
  | request a => !a.hasArrived
  | worker a => a.phase = .opening .fresh

/-- It can be given up. -/
def isGivenUp : Creator → Bool
  | request (.arriving _) | request (.queued _ _ _) | request (.dialing _ _ _) => true
  | request _ | worker _ => false

/-- Who has not made a step yet has opened nothing, and has not been let in. -/
theorem of_isNew {c : Option Creator} (h : c.all (·.isNew) = true) :
    c.any (·.isTakingOver) = false ∧ c.any (·.isTakingNote) = false ∧
      c.any (·.isAdmitted) = false ∧ c.all (·.isExcused) = true := by
  rcases c with _ | a | a
  · exact ⟨rfl, rfl, rfl, rfl⟩
  · cases a with
    | arriving timeout => exact ⟨rfl, rfl, rfl, rfl⟩
    | queued | givingUp | calling | dialing | takingOver | countingFailure | vacating | failing =>
      cases h
  · obtain ⟨waiter, attempt, delay, phase⟩ := a
    obtain rfl : phase = .opening .fresh := by simpa [isNew] using h
    exact ⟨rfl, rfl, rfl, rfl⟩

/-- Nobody is given up between the opening of a session and the next step. -/
theorem of_isGivenUp {c : Option Creator} (h : c.all (·.isGivenUp) = true) :
    c.any (·.isTakingOver) = false ∧ c.any (·.isTakingNote) = false := by
  rcases c with _ | a | a
  · exact ⟨rfl, rfl⟩
  · cases a <;> first | exact ⟨rfl, rfl⟩ | cases h
  · cases h

end Creator

def Job.creator? : Job → Option Creator
  | adding a => some (.worker a)
  | returning _ | closing _ | maintaining => none

def Operation.creator? : Operation → Option Creator
  | acquire a => some (.request a)
  | release _ | misplace _ | wait _ | check _ | close _ => none

end SessionPool
