import SessionPool.Proofs.Arrival
import SessionPool.Proofs.Course
import SessionPool.Proofs.Freeing

/-!
# Members that have expired

A member passes from the pool to a request (`Site.HandsOver`) when it is taken from the unused ones,
when it is given to a request that waits, or when a request takes over the session that it opened
itself. Unused members are looked at when they are taken, and those that came back when they become
free; a session that was just opened has its whole lifetime before it (`Member.IsFresh`). Whoever is
handed one of these is handed a member that has not expired (`Site.unexpired_of_handsOver`). Nobody
looks at a member that answered a probe, or that is passed on by a request whose caller goes away:
these may have expired meanwhile (`Site.expired_handed`).
-/

set_option autoImplicit false

namespace SessionPool

/-- A member whose session was opened at this moment, for some time. -/
structure Member.IsFresh (m : Member) (now : Instant) : Prop where
  createdAt : m.notes.createdAt = now
  lasts : ∀ e ∈ m.notes.expiresAt, m.notes.createdAt < e

instance (m : Member) (now : Instant) : Decidable (m.IsFresh now) :=
  decidable_of_iff (m.notes.createdAt = now ∧ ∀ e ∈ m.notes.expiresAt, m.notes.createdAt < e)
    ⟨fun h => ⟨h.1, h.2⟩, fun h => ⟨h.1, h.2⟩⟩

namespace Member

variable {m m' : Member} {now : Instant}

theorem isExpired_congr (h : m'.notes.expiresAt = m.notes.expiresAt) :
    m'.isExpired now = m.isExpired now := congrArg (Option.any (· ≤ now)) h

theorem isExpired_handOut {now' : Instant} (m : Member) :
    (m.handOut now').isExpired now = m.isExpired now := rfl

theorem IsFresh.unexpired (h : m.IsFresh now) : m.isExpired now = false := by
  unfold isExpired Notes.isExpired
  cases he : m.notes.expiresAt with
  | none => rfl
  | some e =>
    have hlt := Instant.lt_iff.1 (h.lasts e he)
    rw [h.createdAt] at hlt
    have hle : ¬ e ≤ now := fun hle => absurd (Instant.le_iff.1 hle) (Nat.not_le.2 hlt)
    simp [hle]

end Member

namespace Pool

variable {p q : Pool} {m : Member} {now : Instant}

/-! ## Unused members -/

/-- A member that is taken is an unused one and has not expired. -/
theorem taken_of_takeIdle (h : (p.takeIdle now).2 = some m) :
    m ∈ p.idle ∧ m.isExpired now = false := by
  have hm := List.head?_dropWhile_not (fun m : Member => m.isExpired now) p.idle
  have hh : (p.idle.dropWhile (·.isExpired now)).head? = some m := h
  rw [hh] at hm
  exact ⟨(List.dropWhile_sublist _).subset (List.mem_of_mem_head? hh), by simpa using hm⟩

theorem taken_of_checkout {timeout : Duration} (h : p.checkout now timeout = (q, .ready m)) :
    m ∈ p.idle ∧ m.isExpired now = false := by
  -- a request that finds no unused member is not served at once
  have notElse {r : Pool} (h : r.checkoutElse now timeout = (q, .ready m)) : False := by
    unfold checkoutElse at h
    dsimp only at h
    split at h
    · cases h
    · split at h <;> cases h
  unfold checkout at h
  split at h
  · cases h
  · dsimp only at h
    split at h
    · split at h
      · rename_i ht
        cases h
        exact taken_of_takeIdle (p := p.greet now) (congrArg Prod.snd ht)
      · exact (notElse h).elim
    · exact (notElse h).elim

theorem taken_of_tryTake (h : p.tryTake now = (q, .ok (some m))) :
    m ∈ p.idle ∧ m.isExpired now = false := by
  unfold tryTake at h
  split at h
  · cases h
  · dsimp only at h
    split at h
    · obtain ⟨-, hm⟩ := Prod.mk.inj h
      exact taken_of_takeIdle (p := p.count _) (Except.ok.inj hm)
    · cases h

end Pool

/-- The member whose session was opened and that the job enters with its next step. -/
def Job.opened? : Job → Option Member
  | adding a =>
    match a.phase with
    | .joining m _ => some m
    | .opening _ | .failing _ | .resting _ | .releasing _ => none
  | returning _ | closing _ | maintaining => none

def Operation.opened? : Operation → Option Member
  | acquire (.takingOver m _) => some m
  | acquire _ | release _ | misplace _ | wait _ | check _ | close _ => none

namespace Site

variable {env env' : Env} {s s' : Site} {mv : Move} {m : Member}

/-- The member whose session was opened and that is entered with the move. -/
def opened? (s : Site) : Move → Option Member
  | .step (.worker k) => (Table.get? s.jobs k).bind Job.opened?
  | .step (.user n) => (Table.get? s.operations n).bind Operation.opened?
  | _ => none

theorem opened?_of_frees? (h : s.frees? mv = some (.opened, m)) : s.opened? mv = some m := by
  unfold frees? at h
  split at h
  · rename_i k
    obtain ⟨j, hj, hf⟩ := Option.bind_eq_some_iff.1 h
    refine Option.bind_eq_some_iff.2 ⟨j, hj, ?_⟩
    unfold Job.frees? at hf
    unfold Job.opened?
    split at hf
    · split at hf <;> cases hf
      simp_all
    all_goals cases hf
  · rename_i n
    obtain ⟨o, -, hf⟩ := Option.bind_eq_some_iff.1 h
    unfold Operation.frees? at hf
    split at hf <;> cases hf
  · rename_i n
    obtain ⟨o, -, hf⟩ := Option.bind_eq_some_iff.1 h
    unfold Operation.passesOn? at hf
    split at hf
    · obtain ⟨m, -, he⟩ := Option.map_eq_some_iff.1 hf
      cases he
    all_goals cases hf
  · cases h

/-! ## Members that are handed over -/

/-- With a move a member passes from the pool to a request: one that waits is given it, or one takes
it that has not been given it before. -/
def HandsOver (s s' : Site) (m : Member) : Prop :=
  (∃ t, s.pool.waiting.reply? t = none ∧ s'.pool.waiting.reply? t = some (.ok m)) ∨
  m ∈ s'.held ∧ ∀ m₀ ∈ s.held ++ s.pool.waiting.delivered, m₀.id ≠ m.id

/-- A request that waits is given nothing but a member that becomes free. -/
theorem frees_of_reply (h : s.move? env mv = some (env', s')) {t : Nat}
    (hn : s.pool.waiting.reply? t = none) (ht : s'.pool.waiting.reply? t = some (.ok m)) :
    ∃ source m₀, s.frees? mv = some (source, m₀) ∧
      Pool.Frees env.now source m₀ s.pool s'.pool ∧ m.notes.expiresAt = m₀.notes.expiresAt := by
  have new : (t, .ok m) ∉ s.pool.waiting.replies := fun hm =>
    Table.get?_eq_none_iff.1 hn (List.mem_map_of_mem hm)
  have given := Table.mem_of_get? ht
  rcases calm_or_frees h with calm | ⟨source, m₀, hf, frees⟩
  · exact absurd (calm.served t m given) new
  · exact ⟨source, m₀, hf, frees, ((frees.serves t m given).resolve_left new).2⟩

/-- **A member that is handed over has not expired**, if it is neither one that has just answered a
probe nor one that is passed on, and if it was opened at this moment in case it is new. -/
theorem unexpired_of_handsOver (hm : s.move? env mv = some (env', s'))
    (hs : ∀ source m₀, s.frees? mv = some (source, m₀) → source = .opened ∨ source = .reset)
    (ho : ∀ m₀, s.opened? mv = some m₀ → m₀.IsFresh env.now) (hh : s.HandsOver s' m) :
    m.isExpired env.now = false := by
  rcases hh with ⟨t, hn, ht⟩ | ⟨hd, hne⟩
  · obtain ⟨source, m₀, hf, frees, he⟩ := frees_of_reply hm hn ht
    rw [Member.isExpired_congr he]
    rcases hs source m₀ hf with rfl | rfl
    · exact (ho m₀ (opened?_of_frees? hf)).unexpired
    · exact (frees.fit rfl).1
  · rcases held_cases hm hd with ⟨m₀, hm₀, he⟩ | ⟨n, a, q, rfl, hg, ha⟩ | ⟨q, m₀, -, ht, rfl⟩
    · exact absurd (congrArg Notes.id he) (hne m₀ (List.mem_append_left _ hm₀))
    · obtain ⟨m₀, rfl, ⟨timeout, r, hc⟩ | hd | ⟨elapsed, rfl⟩⟩ := Acquiring.served_cases ha
      · exact (Member.isExpired_handOut m₀).trans (Pool.taken_of_checkout hc).2
      · exact absurd rfl (hne m₀ (List.mem_append_right _ hd))
      · have fresh := ho m₀ (Option.bind_eq_some_iff.2 ⟨_, hg, rfl⟩)
        exact (Member.isExpired_handOut m₀).trans fresh.unexpired
    · exact (Member.isExpired_handOut m₀).trans (Pool.taken_of_tryTake ht).2

/-- A small pool whose sessions may be used for a tenth of a second. -/
def shortLived : PoolSettings := { smallPool with maxLifetime := some (.ofMillis 100) }

/-- The worker hands the session that it has opened to the first of two requests. -/
theorem unexpired_of_handsOver_opened :
    ∃ x env' s' m, replay shortLived twoRequests = some x ∧
      x.2.move? x.1 (.step (.worker 0)) = some (env', s') ∧ x.2.HandsOver s' m ∧
      m.notes.expiresAt ≠ none ∧ m.isExpired x.1.now = false := by
  obtain ⟨x, hx, hp, -⟩ := Reachable.of_replay shortLived twoRequests
    (fun x => (x.2.opened? (.step (.worker 0))).all (fun m => m.IsFresh x.1.now) ∧
      (x.2.frees? (.step (.worker 0))).all (fun f => f.1 = .opened ∨ f.1 = .reset) ∧
      x.2.pool.waiting.reply? 1 = none ∧ (x.2.move? x.1 (.step (.worker 0))).any fun y =>
        (y.2.pool.waiting.reply? 1).any fun r => r.toOption.any fun m => m.notes.expiresAt ≠ none)
    (by decide +kernel)
  obtain ⟨ho, hf, hn, hp⟩ := of_decide_eq_true hp
  obtain ⟨⟨env', s'⟩, hm, hp⟩ := (Option.any_eq_true _ _).1 hp
  obtain ⟨r, hr, hp⟩ := (Option.any_eq_true _ _).1 hp
  obtain ⟨m, he, hp⟩ := (Option.any_eq_true _ _).1 hp
  have hh : x.2.HandsOver s' m := by
    cases r with
    | error e => cases he
    | ok m' =>
      cases he
      exact .inl ⟨1, hn, hr⟩
  refine ⟨x, env', s', m, hx, hm, hh, of_decide_eq_true hp, ?_⟩
  refine unexpired_of_handsOver hm (fun source m₀ hs => ?_) (fun m₀ hs => ?_) hh
  · rw [hs] at hf
    exact of_decide_eq_true hf
  · rw [hs] at ho
    exact of_decide_eq_true ho

/-! ## Expired members that are handed over -/

/-- What a pool comes to by rows of moves, each of them at its own time. -/
def rows? (env : Env) (s : Site) : List (Instant × List Move) → Option (Env × Site)
  | [] => some (env, s)
  | (now, mvs) :: rest =>
    (moves? env s (.pass { env with now } :: mvs)).bind fun x => rows? x.1 x.2 rest

def timeline (settings : PoolSettings) (hooks : Hooks) (rows : List (Instant × List Move)) :
    Option (Env × Site) :=
  match create {} settings {} hooks with
  | (env, .ok s) => rows? env s rows
  | (_, .error _) => none

/-- Rows of moves are the latest of the course that they lead to. -/
theorem Course.rows {past : List Moment} {rows : List (Instant × List Move)}
    (h : Course past env s) (hr : rows? env s rows = some (env', s')) :
    ∃ later, Course (later ++ past) env' s' := by
  induction rows generalizing past env s with
  | nil =>
    cases hr
    exact ⟨[], h⟩
  | cons row rest ih =>
    obtain ⟨x, hx, hr⟩ := Option.bind_eq_some_iff.1 hr
    obtain ⟨row, -, course⟩ := h.moves hx
    obtain ⟨later, course⟩ := ih course hr
    exact ⟨later ++ row, by rwa [List.append_assoc]⟩

/-- What rows of moves come to has a course. -/
theorem Course.timeline {settings : PoolSettings} {hooks : Hooks}
    {rows : List (Instant × List Move)} (h : timeline settings hooks rows = some (env, s)) :
    ∃ past, Course past env s := by
  unfold Site.timeline at h
  split at h
  · rename_i hc
    obtain ⟨later, course⟩ := (Course.created hc).rows h
    exact ⟨later ++ [], course⟩
  · cases h

theorem Course.of_timeline (settings : PoolSettings) (hooks : Hooks)
    (rows : List (Instant × List Move)) (P : Env × Site → Bool)
    (h : (Site.timeline settings hooks rows).any P = true) :
    ∃ past x, P x = true ∧ Course past x.1 x.2 := by
  obtain ⟨x, hx, hp⟩ := (Option.any_eq_true _ _).1 h
  obtain ⟨past, course⟩ := Course.timeline hx
  exact ⟨past, x, hp, course⟩

/-- What rows of moves come to can be reached. -/
theorem Reachable.timeline {settings : PoolSettings} {hooks : Hooks}
    {rows : List (Instant × List Move)} (h : timeline settings hooks rows = some (env, s)) :
    Reachable env s := by
  obtain ⟨past, course⟩ := Course.timeline h
  exact course.reachable

theorem Reachable.of_timeline (settings : PoolSettings) (hooks : Hooks)
    (rows : List (Instant × List Move)) (P : Env × Site → Bool)
    (h : (Site.timeline settings hooks rows).any P = true) :
    ∃ x, P x = true ∧ Reachable x.1 x.2 := by
  obtain ⟨past, x, hp, course⟩ := Course.of_timeline settings hooks rows P h
  exact ⟨x, hp, course.reachable⟩

/-- With the move a request is handed a member that was opened for some time and has expired. -/
def HandsExpired (env : Env) (s : Site) (mv : Move) : Prop :=
  ∃ env' s' m, s.move? env mv = some (env', s') ∧ s.HandsOver s' m ∧
    (∀ e ∈ m.notes.expiresAt, m.notes.createdAt < e) ∧ m.isExpired env.now = true

/-- The request with a ticket is given a member that has expired. -/
def givesExpired (env : Env) (s : Site) (mv : Move) (ticket : Nat) : Bool :=
  (s.pool.waiting.reply? ticket).isNone &&
    (s.move? env mv).any fun y => (y.2.pool.waiting.reply? ticket).any fun r =>
      r.toOption.any fun m =>
        decide (∀ e ∈ m.notes.expiresAt, m.notes.createdAt < e) && m.isExpired env.now

theorem HandsExpired.of_given {ticket : Nat} (h : givesExpired env s mv ticket = true) :
    s.HandsExpired env mv := by
  obtain ⟨hn, h⟩ := Bool.and_eq_true_iff.1 h
  obtain ⟨⟨env', s'⟩, hm, h⟩ := (Option.any_eq_true _ _).1 h
  obtain ⟨r, hr, h⟩ := (Option.any_eq_true _ _).1 h
  obtain ⟨m, he, h⟩ := (Option.any_eq_true _ _).1 h
  obtain ⟨hl, hx⟩ := Bool.and_eq_true_iff.1 h
  cases r with
  | error e => cases he
  | ok m' =>
    cases he
    exact ⟨env', s', m, hm, .inl ⟨ticket, Option.isNone_iff_eq_none.1 hn, hr⟩,
      of_decide_eq_true hl, hx⟩

theorem exists_of_timeline (settings : PoolSettings) (hooks : Hooks)
    (rows : List (Instant × List Move)) (mv : Move) (ticket : Nat)
    (h : (timeline settings hooks rows).any (fun x => givesExpired x.1 x.2 mv ticket) = true) :
    ∃ env s, Reachable env s ∧ s.HandsExpired env mv := by
  obtain ⟨x, hg, hr⟩ := Reachable.of_timeline settings hooks rows _ h
  exact ⟨x.1, x.2, hr, .of_given hg⟩

/-- A probe that takes its time. -/
def sleepyProbe : Hooks := { probe := fun _ => [.execute "SLEEP 200" true] }

/-- A request arrives while the unused member is being probed, which expires meanwhile. -/
def probedTooLong : List (Instant × List Move) :=
  [(.ofTick 0, [.step (.worker 0), .step (.worker 0), .step (.worker 0), .check 0, .step (.user 0),
      .step (.user 0), .step (.user 0), .step (.user 0), .acquire 1 (.ofSecs 30), .step (.user 1)]),
    (.ofTick 300, [.step (.user 0)])]

/-- A request is given the member that came back, and does not take it before it expires. -/
def takenTooLate : List (Instant × List Move) :=
  [(.ofTick 0, [.step (.worker 0), .step (.worker 0), .step (.worker 0), .tryAcquire,
      .acquire 0 (.ofSecs 30), .acquire 1 (.ofSecs 30), .step (.user 0), .step (.user 1),
      .giveBack 1, .step (.worker 0), .step (.worker 0), .step (.worker 0), .step (.worker 0)]),
    (.ofTick 300, [])]

/-- **Requests are handed members that have expired**: one that has just answered its probe, and one
that a request passes on whose caller goes away. -/
theorem expired_handed :
    (∃ env s, Reachable env s ∧ s.HandsExpired env (.step (.user 0))) ∧
    ∃ env s, Reachable env s ∧ s.HandsExpired env (.cancel 0) :=
  ⟨exists_of_timeline shortLived sleepyProbe probedTooLong (.step (.user 0)) 1 (by decide +kernel),
    exists_of_timeline shortLived {} takenTooLate (.cancel 0) 2 (by decide +kernel)⟩

end Site

end SessionPool
