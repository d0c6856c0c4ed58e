import SessionPool.Proofs.Routes

/-!
# What is written down about members

The past of a pool tells how often a member was handed to a caller (`Site.handings`), since when a
caller has had it (`Site.outSince`), and for how long members were in use that came back
(`Site.uses`). The notes on a member say the same wherever it is, and the place where it is decides
the rest of them (`Site.Fits`): by whatever route a member gets to a place, it gets there with notes
that fit. `Site.Course.notes_match` is all of it together.
-/

set_option autoImplicit false

namespace SessionPool

/-! ## What the past tells -/

namespace Site

namespace Moment

def handed? (x : Moment) : Option Member := x.site.handed? x.env x.move

def received? (x : Moment) : Option Member := x.site.received? x.move

def hands (x : Moment) (id : Nat) : Bool := x.handed?.any fun m => m.id = id

def receives (x : Moment) (id : Nat) : Bool := x.received?.any fun m => m.id = id

end Moment

def handings (past : List Moment) (id : Nat) : Nat := past.countP (·.hands id)

/-- Since when a caller has had the member with a number: since it was handed out, if it has not
been received after that. -/
def outSince (id : Nat) (past : List Moment) : Option Instant :=
  ((past.find? fun x => x.hands id || x.receives id).filter (·.hands id)).map (·.env.now)

/-- For how long members were in use that have been received since the counters were last reset, in
milliseconds: each since it was handed out. -/
def uses : List Moment → Nat
  | [] => 0
  | x :: past =>
    match x.move with
    | .resetCounters => 0
    | _ => uses past + (x.received?.bind fun m => outSince m.id past).elim 0 fun t =>
        (x.env.now.since t).wholeMillis

variable {env env' : Env} {s s' : Site} {mv : Move} {past : List Moment} {x : Moment} {id : Nat}
  {pl pl₀ : Place} {m m₀ : Member}

theorem outSince_cons :
    outSince id (x :: past) =
      if x.hands id then some x.env.now
      else if x.receives id then none
      else outSince id past := by
  rw [outSince, List.find?_cons, outSince]
  cases hh : x.hands id <;> cases hr : x.receives id <;> simp [hh]

/-- A caller has had the member since the last moment at which it was handed out, and it was not
received after that. -/
theorem outSince_eq_some_iff {t : Instant} :
    outSince id past = some t ↔
      ∃ later x earlier, past = later ++ x :: earlier ∧ x.hands id = true ∧ x.env.now = t ∧
        ∀ y ∈ later, y.hands id = false ∧ y.receives id = false := by
  constructor
  · intro h
    obtain ⟨x, hx, ht⟩ := Option.map_eq_some_iff.1 h
    obtain ⟨hf, hh⟩ := Option.filter_eq_some_iff.1 hx
    obtain ⟨-, later, earlier, he, hn⟩ := List.find?_eq_some_iff_append.1 hf
    refine ⟨later, x, earlier, he, hh, ht, ?_⟩
    intro y hy
    simpa using hn y hy
  · rintro ⟨later, x, earlier, rfl, hh, rfl, hn⟩
    have hf : (later ++ x :: earlier).find? (fun y => y.hands id || y.receives id) = some x := by
      refine List.find?_eq_some_iff_append.2 ⟨by simp [hh], later, earlier, rfl, ?_⟩
      intro y hy
      simp [hn y hy]
    simp [outSince, hf, hh]

theorem handings_cons : handings (x :: past) id = handings past id + (x.hands id).toNat := by
  unfold handings
  rw [List.countP_cons]
  cases x.hands id <;> rfl

theorem uses_cons (h : x.move ≠ .resetCounters) :
    uses (x :: past) =
      uses past + (x.received?.bind fun m => outSince m.id past).elim 0 fun t =>
        (x.env.now.since t).wholeMillis := by
  rw [uses]
  split
  · exact absurd ‹_› h
  · rfl

theorem unhanded (h : ∀ x ∈ past, x.hands id = false) :
    handings past id = 0 ∧ outSince id past = none := by
  constructor
  · refine List.countP_eq_zero.2 fun x hx => ?_
    simp [h x hx]
  · rw [Option.eq_none_iff_forall_ne_some]
    intro t ht
    obtain ⟨later, x, earlier, rfl, hx, -⟩ := outSince_eq_some_iff.1 ht
    have := h x (by simp)
    simp [hx] at this

theorem Course.unhanded (h : Course past env s) (hi : s.pool.nextId ≤ id) :
    ∀ x ∈ past, x.hands id = false := by
  induction h with
  | created _ =>
    intro x hx
    cases hx
  | @moved past env env' s s' mv hp hm ih =>
    have hr := hp.reachable
    intro x hx
    rcases List.mem_cons.1 hx with rfl | hx
    · refine Bool.eq_false_iff.2 fun hh => ?_
      obtain ⟨m, hm', he⟩ := (Option.any_eq_true _ _).1 hh
      have given := (hands_move hm hm').after.id_lt (hr.moved hm)
      have he : m.id = id := by simpa using he
      omega
    · have := nextId_move hr hm
      exact ih (by omega) x hx

end Site

/-! ## Notes that fit -/

namespace Place

def stage : Place → Stage
  | unused | ready => .idle
  | opened => .connecting
  | held | returned | probed => .inUse
  | resetting => .resetting

/-- Whether the members at a place are out with callers, or were and are still to be received. -/
def isOut : Place → Bool
  | held | returned => true
  | unused | ready | opened | resetting | probed => false

theorem isOut_of_sets {pl : Place} (h : pl.sets = true) : pl.isOut = false := by
  cases pl <;> trivial

end Place

namespace Site

variable {env env' : Env} {s s' : Site} {mv : Move} {past : List Moment} {x : Moment}
  {pl pl₀ : Place} {m m₀ : Member}

/-- The notes on a member fit the place where it is, and what the past tells of it. -/
structure Fits (past : List Moment) (env : Env) (pl : Place) (m : Member) : Prop where
  stage : m.notes.stage = pl.stage
  checkouts : m.notes.checkouts = handings past m.id
  takenAt : m.notes.takenAt = outSince m.id past
  isOut : m.notes.takenAt.isSome = pl.isOut
  since : ∀ t ∈ m.notes.takenAt, t ≤ env.now

namespace Fits

theorem takenAt_eq_none (h : Fits past env pl m) (hp : pl.isOut = false) :
    m.notes.takenAt = none := by
  have out := h.isOut
  rw [hp] at out
  exact Option.isNone_iff_eq_none.1 (by simpa using out)

theorem carry (h : Fits past env pl₀ m₀) (hh : x.hands m.id = false) (hr : x.receives m.id = false)
    (hn : m.notes = { m₀.notes with stage := pl.stage, lastUsed := m.notes.lastUsed })
    (ho : pl.isOut = pl₀.isOut) (hl : env.now ≤ env'.now) : Fits (x :: past) env' pl m := by
  have hi : m.id = m₀.id := (congrArg Notes.id hn).trans rfl
  have hc : m.notes.checkouts = m₀.notes.checkouts := (congrArg Notes.checkouts hn).trans rfl
  have ht : m.notes.takenAt = m₀.notes.takenAt := (congrArg Notes.takenAt hn).trans rfl
  refine ⟨(congrArg Notes.stage hn).trans rfl, ?_, ?_, ?_, ?_⟩
  · rw [handings_cons, hh, hc, hi, h.checkouts]
    rfl
  · rw [outSince_cons, hh, hr, ht, hi, h.takenAt]
    rfl
  · rw [ht, ho, h.isOut]
  · intro t hm
    exact Nat.le_trans (h.since t (ht ▸ hm)) hl

theorem hand (h : Fits past env pl₀ m₀) (he : x.env = env) (hm : m = m₀.handOut env.now)
    (hh : x.hands m.id = true) (hn : env.now ≤ env'.now) : Fits (x :: past) env' .held m := by
  subst hm
  have hi : (m₀.handOut env.now).id = m₀.id := rfl
  refine ⟨rfl, ?_, ?_, rfl, ?_⟩
  · rw [handings_cons, hh, hi, ← h.checkouts]
    rfl
  · rw [outSince_cons, if_pos hh, he]
    rfl
  · intro t ht
    cases ht
    exact hn

theorem receive (h : Fits past env pl₀ m₀) (hh : x.hands m.id = false)
    (hr : x.receives m.id = true) (hi : m.id = m₀.id)
    (hn : m.notes = Returning.received m₀.notes) : Fits (x :: past) env' .resetting m := by
  have none : m.notes.takenAt = none := by rw [hn]; rfl
  refine ⟨by rw [hn]; rfl, ?_, ?_, by rw [none]; rfl, ?_⟩
  · rw [handings_cons, hh, hi, ← h.checkouts, hn]
    rfl
  · rw [outSince_cons, hh, hr, none]
    rfl
  · rw [none]
    nofun

theorem start {pid : Pid} {id : Nat} {now : Instant} {life : Option Duration}
    (hn : m.notes = .start id pid now life) (hu : ∀ x ∈ past, x.hands id = false) :
    Fits past env .opened m := by
  have hi : m.id = id := congrArg Notes.id hn
  obtain ⟨count, out⟩ := unhanded hu
  refine ⟨by rw [hn]; rfl, ?_, ?_, by rw [hn]; rfl, ?_⟩
  · rw [hi, count, hn]
    rfl
  · rw [hi, out, hn]
    rfl
  · rw [hn]
    nofun

end Fits

/-- By each of the routes, a member that is neither handed out nor received gets to its place with
notes that fit. -/
theorem Came.fits (came : Came env s mv pl m) (h : Course past env s)
    (fits : ∀ pl m, s.Has pl m → Fits past env pl m) (later : env.now ≤ env'.now)
    (hh : Moment.hands ⟨env, s, mv⟩ m.id = false) (hr : Moment.receives ⟨env, s, mv⟩ m.id = false) :
    Fits (⟨env, s, mv⟩ :: past) env' pl m := by
  cases came with
  | stayed h₀ hn =>
    have h₀ := fits _ _ h₀
    refine h₀.carry hh hr ?_ rfl later
    rw [← h₀.stage, hn]
  | returned h₀ =>
    have h₀ := fits _ _ h₀
    have same : m.notes.stage = Place.stage .returned := h₀.stage
    refine h₀.carry hh hr ?_ rfl later
    rw [← same]
  | freed h₀ hs hp hn =>
    have out := Place.isOut_of_sets hs
    rcases hp with rfl | rfl
    · exact (fits _ _ h₀).carry hh hr hn out.symm later
    · exact (fits _ _ h₀).carry hh hr hn out.symm later
  | probed h₀ hn =>
    refine (fits _ _ h₀).carry hh hr ?_ rfl later
    rw [hn]
    rfl
  | opened hn =>
    refine .start hn ?_
    intro x hx
    rcases List.mem_cons.1 hx with rfl | hx
    · have hi : m.id = s.pool.nextId := congrArg Notes.id hn
      rw [← hi]
      exact hh
    · exact h.unhanded (Nat.le_refl _) x hx
  | handed hm =>
    have : Moment.hands ⟨env, s, mv⟩ m.id = true :=
      (Option.any_eq_true _ _).2 ⟨m, hm, by simp⟩
    simp [hh] at this
  | received hm hi =>
    have : Moment.receives ⟨env, s, mv⟩ m.id = true :=
      (Option.any_eq_true _ _).2 ⟨_, hm, by simpa using hi⟩
    simp [hr] at this

theorem fits_move (h : Course past env s) (fits : ∀ pl m, s.Has pl m → Fits past env pl m)
    (hm : s.move? env mv = some (env', s')) (hp : s'.Has pl m) :
    Fits (⟨env, s, mv⟩ :: past) env' pl m := by
  have hr := h.reachable
  have later := now_move hr hm
  cases hh : Moment.hands ⟨env, s, mv⟩ m.id with
  | true =>
    obtain ⟨m', hm', he⟩ := (Option.any_eq_true _ _).1 hh
    obtain ⟨⟨pl₀, m₀, h₀, -, hd⟩, after⟩ := hands_move hm hm'
    have he : m'.id = m.id := by simpa using he
    obtain ⟨rfl, rfl⟩ := hp.eq (hr.moved hm) after he.symm
    exact (fits pl₀ m₀ h₀).hand rfl hd hh later
  | false =>
    cases hv : Moment.receives ⟨env, s, mv⟩ m.id with
    | true =>
      obtain ⟨m₀, hm₀, he⟩ := (Option.any_eq_true _ _).1 hv
      have he : m₀.id = m.id := by simpa using he
      obtain ⟨before, pl', m', hw, hi, hn⟩ := receives_move hm hm₀
      -- the member that was received is the only one with its number
      have same := (hr.moved hm).whereabouts_eq hp hw (he.symm.trans hi.symm)
      cases same
      rcases hn with hn | ⟨hp', hn⟩
      · cases hn
      cases hp'
      rcases before with h₀ | h₀
      · exact (fits _ m₀ h₀).receive hh hv he.symm hn
      · exact (fits _ m₀ h₀).receive hh hv he.symm hn
    | false => exact (came_move hr hm hp).fits h fits later hh hv

theorem whereabouts_create {settings : PoolSettings} {options : ConnectOptions} {hooks : Hooks}
    (h : create env settings options hooks = (env', .ok s)) : ¬ s.Has pl m := by
  have keyed := (Reachable.created h).keyed
  obtain ⟨p, blank, -, -, -, ho, -, rfl⟩ := create_ok h
  have quiet := quiet_fill ho
  have apart := Pool.Apart.fill (p := p)
  intro hp
  rcases has_cases keyed hp with ⟨-, hi⟩ | ⟨-, hd⟩ | ⟨-, hb⟩ | ⟨-, hu⟩ | ⟨k, j, hj, -⟩ |
    ⟨n, o, ho, -⟩
  · have := quiet.idle.subset hi
    simp [blank.idle] at this
  · obtain ⟨⟨t, r⟩, ht, hr⟩ := List.mem_filterMap.1 hd
    cases r with
    | ok m' =>
      have := quiet.served t m' ht
      simp [blank.waiting] at this
    | error e => cases hr
  · have := apart.returns.subset hb
    simp [Pool.returns, blank.tasks] at this
  · cases hu
  · cases hj
  · cases ho

/-- **The notes on members fit**, wherever they are. -/
theorem Course.fits (h : Course past env s) : ∀ pl m, s.Has pl m → Fits past env pl m := by
  induction h with
  | created h =>
    intro pl m hp
    exact absurd hp (whereabouts_create h)
  | moved h hm ih =>
    intro pl m hp
    exact fits_move h ih hm hp

/-! ## Uses -/

theorem usage_create {settings : PoolSettings} {options : ConnectOptions} {hooks : Hooks}
    (h : create env settings options hooks = (env', .ok s)) : s.pool.usage = 0 := by
  unfold create at h
  split at h
  · cases h
  · cases h
  · cases h
    exact Pool.Apart.fill.usage

/-- With a move no use is entered, or that of a member that is received: since it was handed out
for the last time, after which it has not been received before. -/
def EntersUse (past : List Moment) (env : Env) (s : Site) (mv : Move) (q : Pool) : Prop :=
  s.received? mv = none ∧ q.usage = s.pool.usage ∨
    ∃ m later x earlier, s.received? mv = some m ∧ past = later ++ x :: earlier ∧
      x.hands m.id = true ∧ (∀ y ∈ later, y.hands m.id = false ∧ y.receives m.id = false) ∧
      q.usage = s.pool.usage + (env.now.since x.env.now).wholeMillis

theorem Course.outSince_received (h : Course past env s) (hm : s.move? env mv = some (env', s'))
    (hr : s.received? mv = some m) :
    ∃ t, outSince m.id past = some t ∧ m.use env.now = (env.now.since t).wholeMillis := by
  have out {pl : Place} (hp : s.Has pl m) (ho : pl.isOut = true) :
      ∃ t, outSince m.id past = some t ∧ m.use env.now = (env.now.since t).wholeMillis := by
    have fits := h.fits pl m hp
    have taken := fits.isOut.trans ho
    obtain ⟨t, ht⟩ := Option.isSome_iff_exists.1 taken
    refine ⟨t, fits.takenAt.symm.trans ht, ?_⟩
    rw [Member.use, ht]
    rfl
  rcases (receives_move hm hr).before with hp | hp
  · exact out hp rfl
  · exact out hp rfl

theorem Course.entersUse (h : Course past env s) (hm : s.move? env mv = some (env', s'))
    (hc : mv ≠ .resetCounters) : EntersUse past env s mv s'.pool := by
  have usage := (takesBack_move hm).usage hc
  cases hr : s.received? mv with
  | none =>
    rw [hr] at usage
    exact .inl ⟨hr, usage⟩
  | some m =>
    rw [hr] at usage
    obtain ⟨t, ht, used⟩ := h.outSince_received hm hr
    obtain ⟨later, x, earlier, he, hx, rfl, hn⟩ := outSince_eq_some_iff.1 ht
    refine .inr ⟨m, later, x, earlier, hr, he, hx, hn, ?_⟩
    rw [← used]
    exact usage

/-- **What is entered in all** is for how long members were in use that came back. -/
theorem Course.usage (h : Course past env s) : s.pool.usage = uses past := by
  induction h with
  | created h => exact usage_create h
  | @moved past env env' s s' mv h hm ih =>
    by_cases hc : mv = .resetCounters
    · subst hc
      cases hm
      rfl
    · have usage := (takesBack_move hm).usage hc
      rw [usage, uses_cons hc, ih]
      congr 1
      show _ = ((s.received? mv).bind fun m => outSince m.id past).elim 0 fun t =>
        (env.now.since t).wholeMillis
      cases hr : s.received? mv with
      | none => rfl
      | some m =>
        obtain ⟨t, ht, used⟩ := h.outSince_received hm hr
        rw [Option.bind_some, ht]
        exact used

/-! ## All of it -/

/-- The notes on members match where they are, and what the past tells of them. -/
structure NotesMatch (past : List Moment) (env : Env) (s : Site) : Prop where
  /-- Members that lie in the pool, or ready for a request. -/
  free : ∀ m ∈ s.pool.idle ++ s.pool.waiting.delivered,
    m.notes.stage = .idle ∧ m.notes.takenAt = none
  /-- Members that a caller has. -/
  held : ∀ m, s.Has .held m → m.notes.stage = .inUse ∧
    m.notes.checkouts = handings past m.id ∧ ∃ t ≤ env.now, m.notes.takenAt = some t
  resetting : ∀ m, s.Has .resetting m → m.notes.stage = .resetting ∧ m.notes.takenAt = none
  probed : ∀ m, s.Has .probed m → m.notes.stage = .inUse ∧ m.notes.takenAt = none
  /-- Of the members that count in the books, only those have a time of checkout that a caller has,
  or that were given back and are still to be received. -/
  taken : ∀ m ∈ s.pool.idle ++ s.out,
    m.notes.takenAt.isSome = true ↔ s.Has .held m ∨ s.Has .returned m
  /-- The time of checkout is the last time at which a member was handed out, and there is none
  once it has been received. -/
  since : ∀ pl m, s.Has pl m → m.notes.takenAt = outSince m.id past
  entersUse : ∀ mv env' s', s.move? env mv = some (env', s') → mv ≠ .resetCounters →
    EntersUse past env s mv s'.pool
  usage : s.pool.counters.usageMs = uses past

/-- **The notes on members match where they are**, whatever moves are made in whatever order. -/
theorem Course.notes_match (h : Course past env s) : s.NotesMatch past env := by
  have fits := h.fits
  have away {pl : Place} {m : Member} (hp : s.Has pl m) (ho : pl.isOut = false) :
      m.notes.stage = pl.stage ∧ m.notes.takenAt = none :=
    ⟨(fits pl m hp).stage, (fits pl m hp).takenAt_eq_none ho⟩
  refine ⟨?_, ?_, ?_, ?_, ?_, ?_, ?_, h.usage⟩
  · intro m hm
    rcases List.mem_append.1 hm with hm | hm
    · exact away (has_unused hm) rfl
    · exact away (has_ready hm) rfl
  · intro m hp
    have hf := fits .held m hp
    obtain ⟨t, ht⟩ := Option.isSome_iff_exists.1 hf.isOut
    exact ⟨hf.stage, hf.checkouts, t, hf.since t ht, ht⟩
  · intro m hp
    exact away hp rfl
  · intro m hp
    exact away hp rfl
  · intro m hm
    obtain ⟨pl, hp⟩ := has_of_mem_accounted hm
    constructor
    · intro ht
      have out := (fits pl m hp).isOut.symm.trans ht
      cases pl with
      | held => exact .inl hp
      | returned => exact .inr hp
      | unused | ready | opened | resetting | probed => cases out
    · intro ht
      rcases ht with ht | ht
      · exact (fits .held m ht).isOut
      · exact (fits .returned m ht).isOut
  · intro pl m hp
    exact (fits pl m hp).takenAt
  · intro mv env' s' hm hc
    exact h.entersUse hm hc

/-- One user has the member for a quarter of a second, and then another one has it. -/
def usedTwice : List (Instant × List Move) :=
  [(.ofTick 0, [.step (.worker 0), .step (.worker 0), .step (.worker 0),
      .acquire 0 (.ofSecs 30), .step (.user 0)]),
    (.ofTick 250, [.giveBack 1, .step (.worker 0), .step (.worker 0), .step (.worker 0),
      .step (.worker 0), .acquire 1 (.ofSecs 30), .step (.user 1)])]

theorem Course.notes_match_twice : ∃ past env s, Course past env s ∧ s.NotesMatch past env ∧
    (∃ m ∈ s.held, m.id = 1 ∧ handings past m.id = 2 ∧ outSince m.id past = some env.now) ∧
    uses past = 250 := by
  obtain ⟨past, ⟨env, s⟩, hp, course⟩ := Course.of_timeline smallPool {} usedTwice
    (fun x => x.2.pool.counters.usageMs = 250 ∧
      x.2.held.map (fun m => (m.id, m.notes.checkouts, m.notes.takenAt)) =
        [(1, 2, some x.1.now)]) (by decide +kernel)
  obtain ⟨usage, users⟩ := of_decide_eq_true hp
  have noted := course.notes_match
  obtain ⟨m, hm, he⟩ := List.mem_map.1 (users ▸ List.mem_singleton_self _)
  obtain ⟨hi, hc, ht⟩ : m.id = 1 ∧ m.notes.checkouts = 2 ∧ m.notes.takenAt = some env.now := by
    simpa using he
  have held := has_held hm
  refine ⟨past, env, s, course, noted, ⟨m, hm, hi, ?_, ?_⟩, noted.usage.symm.trans usage⟩
  · exact (noted.held m held).2.1.symm.trans hc
  · exact (noted.since _ m held).symm.trans ht

end Site

end SessionPool
