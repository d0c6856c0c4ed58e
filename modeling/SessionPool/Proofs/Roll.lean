import SessionPool.Proofs.Configuring
import SessionPool.Proofs.Late

/-!
# What becomes of the sessions of a pool

A tenure (`Site.Tenure`) is a run of a pool together with a roll of the sessions that its members
had, of those that were left behind outside, of the tasks that were sent late, and of whether the
closing of the pool came to its end. It goes by a stricter rule than a chronicle: whoever holds a
member has its session closed by the server, and nobody else does, so that the server is told once
of each closing (`Site.closings_move`). But whoever has found the crew at work may act upon that
when it was stopped.

What a roll says is true (`Site.Tenure.sound`): every session that was opened for the pool was
closed once, or is still to be closed, unless its user took it out of the pool or it was let go; and
when the tasks have been disposed of that nobody took, only those are left that were sent late.
-/

set_option autoImplicit false

namespace SessionPool

/-- The server has closed no session that it had not opened. -/
def Server.Orderly (a : Server) : Prop := ∀ i ∈ a.closings, i < a.nextPid

/-- Others have to do with the server, and leave the sessions of which `own` says so alone. -/
structure Server.GoesOn (own : Pid → Prop) (a b : Server) : Prop extends Grows a b where
  spared : ∀ i, own i → b.closings.count i = a.closings.count i
  orderly : b.Orderly

theorem dueOf_le (x : Multiset Session) : dueOf x ≤ pidsOf x := by
  induction x using Multiset.induction_on with
  | empty => exact le_rfl
  | cons s x ih =>
    rw [← Multiset.singleton_add, dueOf_add, pidsOf_add, dueOf_singleton, pidsOf_singleton]
    refine add_le_add ?_ ih
    unfold Session.due
    split
    · exact Multiset.zero_le _
    · exact le_rfl

theorem Closing.emptied {env env' : Env} {p q : Pool} {c : Closing} {idle : List Member}
    (h : c.step env p = some (env', q, .more (.emptying idle))) :
    (∃ m, c = .emptying (m :: idle)) ∨ q.crew.tasks = [] := by
  cases c with
  | starting =>
    simp only [step, start] at h
    split at h <;> cases h
  | stopping => cases h
  | joining hands idle =>
    cases hands with
    | nil => cases h
    | cons hand hands =>
      simp only [step] at h
      split at h <;> cases h
  | draining disposed idle =>
    have hd : drain env p disposed idle = (env', q, .more (.emptying _)) := Option.some.inj h
    unfold drain at hd
    split at hd
    · cases hd
    · rename_i hn
      cases hd
      exact .inr (Crew.collect_none hn)
  | emptying idle =>
    cases idle with
    | nil => cases h
    | cons m idle =>
      cases h
      exact .inl ⟨m, rfl⟩

namespace Site

variable {env env' : Env} {s s' : Site} {mv : Move}

/-! ## Rolls -/

/-- What has become of a pool and of its sessions. -/
structure Roll extends Ledger where
  /-- The sessions of all members that there have been. -/
  records : List Pid := []
  /-- Those that were to be closed on the side by somebody outside. -/
  leftBehind : Multiset Pid := 0
  /-- Whether the closing of the pool has come to its end. -/
  ended : Bool := false
  /-- How often somebody has found the crew at work and has not acted upon that when it was
  stopped. -/
  entrants : Nat := 0
  /-- The tasks that were sent late. -/
  late : List (Task Member) := []

def pids (s : Site) : List Pid := s.members.map fun m => m.session.pid

theorem mem_pids {i : Pid} : i ∈ s.pids ↔ i ∈ pidsOf (sessionsOf s.members) := by
  simp [pids, pidsOf, sessionsOf]

/-- Whether the closing of the pool comes to its end with a move. -/
def ends (s s' : Site) : Move → Bool
  | .step (.user n) =>
    (Table.get? s.operations n).any Operation.hasShut && (Table.get? s'.operations n).isNone
  | _ => false

def leftBehind (env : Env) (s : Site) : Move → Multiset Pid
  | .leaveBehind id => pidsOf (s.abandoned env (.leaveBehind id))
  | _ => 0

def Roll.enter (r : Roll) (env : Env) (s : Site) (mv : Move) (env' : Env) (s' : Site) : Roll :=
  { r with
    toLedger := r.toLedger.enter env s mv env'
    records := r.records ++ s'.pids
    leftBehind := r.leftBehind + s.leftBehind env mv
    ended := r.ended || s.ends s' mv }

/-- Members are left behind that were to be closed on the side. -/
def Roll.strand (r : Roll) (ms : List Member) : Roll :=
  { r with
    toLedger := r.toLedger.strand ms
    leftBehind := r.leftBehind + pidsOf (sessionsOf ms) }

def Roll.enterLate (r : Roll) (env : Env) (s : Site) (mv : Move) (env' : Env) (s' : Site) : Roll :=
  { r.enter env s.unstopped mv env' s' with
    entrants := r.entrants - 1
    late := r.late ++ s'.pool.crew.tasks.drop s.pool.crew.tasks.length }

/-- A run of a pool, and what became of it and of its sessions. Users close the sessions that they
hold through the server, and nobody else closes a session of the pool. -/
inductive Tenure : Env → Site → Roll → Prop
  | created {env env' : Env} {settings : PoolSettings} {options : ConnectOptions} {hooks : Hooks}
      {s : Site} (h : create env settings options hooks = (env', .ok s))
      (ho : env.server.Orderly) : Tenure env' s {}
  | moved {env env' : Env} {s s' : Site} {r : Roll} {mv : Move} (h : Tenure env s r)
      (hm : s.move? env mv = some (env', s')) (hp : mv.isPlain = true) :
      Tenure env' s' (r.enter env s mv env' s')
  /-- A user makes a move where nobody closes a session on the side. -/
  | outside {env env' : Env} {s s' : Site} {r : Roll} {mv : Move} (h : Tenure env s r)
      (hm : s.move? env mv = some (env', s')) (hp : mv.isPlain = true) (hu : mv.isUsers = true) :
      Tenure env' (s.outside s') ((r.enter env s mv env' s').strand (s.stranded s'))
  /-- Somebody finds the crew at work. -/
  | looked {env : Env} {s : Site} {r : Roll} (h : Tenure env s r)
      (hs : s.pool.crew.stopped = false) : Tenure env s { r with entrants := r.entrants + 1 }
  /-- Somebody who has found the crew at work makes a move when it was stopped. -/
  | late {env env' : Env} {s s' : Site} {r : Roll} {mv : Move} (h : Tenure env s r)
      (hn : 0 < r.entrants) (hs : s.pool.crew.stopped = true) (hc : s.isClosing mv = false)
      (hm : s.unstopped.move? env mv = some (env', s')) (hp : mv.isPlain = true) :
      Tenure env' s'.stopped (r.enterLate env s mv env' s')
  /-- A user does something to the session of a member, for which the server may be needed. -/
  | used {env env' : Env} {s : Site} {r : Roll} {id : Nat} {m : Member} {session : Session}
      (h : Tenure env s r) (hm : s.heldMember? id = some m) (ht : env.now ≤ env'.now)
      (hs : m.session.Turns env.server env'.server session) :
      Tenure env' (s.setSession id session) r
  /-- Time passes, and others have to do with the server. -/
  | passed {env env' : Env} {s : Site} {r : Roll} (h : Tenure env s r) (ht : env.now ≤ env'.now)
      (hs : env.server.GoesOn (fun i => i ∈ r.opened ∧ i ∉ r.detached) env'.server) :
      Tenure env' s r

variable {r : Roll} {l : Ledger}

theorem Ledger.enter_use (l : Ledger) (env : Env) (s : Site) (id : Nat) (session : Session) :
    l.enter env s (.use id session) env = l := by
  simp [enter, Move.opened, Site.detached, Site.abandoned, (Server.Stays.refl env.server).issued]

/-- **What is always true of a pool stays true**, also with moves that are made outside or late. -/
theorem Tenure.lawful (h : Tenure env s r) : s.Lawful := by
  induction h with
  | created h _ => exact (Reachable.created h).lawful
  | moved _ hm _ ih => exact ih.move hm
  | outside _ hm _ hu ih => exact ih.outside hm hu
  | late _ _ hs hc hm _ ih => exact ih.late hs hm hc
  | @used env _ s _ id _ session _ _ _ _ ih =>
    have hm : s.move? env (.use id session) = some (env, s.setSession id session) := rfl
    exact ih.move hm
  | looked _ _ ih | passed _ _ _ ih => exact ih

/-- Time passes. -/
theorem Ledger.Sound.later (hl : l.Sound env s) (h : s.Regular) (ht : env.now ≤ env'.now)
    (hg : env.server.Grows env'.server) : l.Sound env' s := by
  have hm : s.move? env (.pass env') = some (env', s) := if_pos ht
  rw [← l.enter_pass env s env' env']
  exact hl.enter h hm hg

theorem Ledger.Sound.unstopped (hl : l.Sound env s) : l.Sound env s.unstopped :=
  ⟨hl.whole, hl.issued, hl.distinct, hl.honest⟩

theorem Ledger.Sound.late (hl : l.Sound env s) (h : s.Regular)
    (hm : s.unstopped.move? env mv = some (env', s')) (hp : mv.isPlain = true) :
    (l.enter env s.unstopped mv env').Sound env' s' :=
  hl.unstopped.enter h.unstopped hm (Move.honest_of_isPlain hp _ _)

/-- The ledger of a tenure is right. -/
theorem Tenure.ledger (h : Tenure env s r) : r.toLedger.Sound env s := by
  induction h with
  | created h _ => exact (Chronicle.created h).sound
  | moved h hm hp ih => exact ih.enter h.lawful.toRegular hm (Move.honest_of_isPlain hp _ _)
  | outside h hm hp hu ih =>
    have entered := ih.enter h.lawful.toRegular hm (Move.honest_of_isPlain hp _ _)
    exact entered.strand (leaving_eq h.lawful.shut hm hu)
  | looked _ _ ih => exact ih
  | late h _ _ _ hm hp ih =>
    have late := ih.late h.lawful.toRegular hm hp
    exact ⟨late.whole, late.issued, late.distinct, late.honest⟩
  | @used env env' s r id m session h hm ht hs ih =>
    rw [← r.toLedger.enter_use env' s id session]
    refine (ih.later h.lawful.toRegular ht hs.stays.toGrows).enter h.lawful.toRegular rfl
      fun m' hm' => ?_
    obtain rfl := Option.some.inj (hm.symm.trans hm')
    exact ⟨.refl _, hs.pid, hs.closed⟩
  | passed h ht hs ih => exact ih.later h.lawful.toRegular ht hs.toGrows

/-- A pool is made without the server. -/
theorem server_create {settings : PoolSettings} {options : ConnectOptions} {hooks : Hooks}
    (h : create env settings options hooks = (env', .ok s)) : env'.server = env.server := by
  unfold create at h
  split at h
  · cases h
  · cases h
  · cases h
    simp only [Pool.note]
    split <;> rfl

/-! ## The closing of a pool -/

/-- Nobody is closing the pool. -/
def NoneClosing (s : Site) : Prop :=
  ∀ n c, Table.get? s.operations n = some (.close c) → c.begun = false

/-- The closing of the pool was given up. -/
structure GivenUp (s : Site) (r : Roll) : Prop where
  closed : s.pool.closed = true
  noneClosing : s.NoneClosing
  unended : r.ended = false

/-- Whoever closes the pool has disposed of its tasks, and now closes what was unused. -/
def Emptied (s : Site) : Prop :=
  ∃ n idle, Table.get? s.operations n = some (.close (.emptying idle))

/-- A pool that was closed is not closed once more. -/
theorem NoneClosing.move (hu : s.NoneClosing) (hk : s.Keyed) (hc : s.pool.closed = true)
    (hm : s.move? env mv = some (env', s')) : s'.NoneClosing := by
  intro n c hg
  by_contra hb
  rcases begun_move hk hm hg (by simpa using hb) with ⟨c₀, hg₀, hb₀⟩ | ⟨-, ho⟩
  · cases hb₀.symm.trans (hu n c₀ hg₀)
  · cases ho.symm.trans hc

theorem NoneClosing.late (hu : s.NoneClosing) (h : s.Lawful) (hs : s.pool.crew.stopped = true)
    (hm : s.unstopped.move? env mv = some (env', s')) (hc : s.isClosing mv = false) :
    s'.stopped.NoneClosing := by
  intro n c hg
  by_contra hb
  exact hb (hu n c (h.closing_late hs hm hc (by simpa using hb) hg))

/-- Whoever was closing the pool does not do so any more, and nobody else does. -/
theorem noneClosing_of_gone (h : s.Lawful) (hm : s.move? env mv = some (env', s')) {n : Nat}
    {c : Closing} (hg : Table.get? s.operations n = some (.close c)) (hb : c.begun = true)
    (hn : Table.get? s'.operations n = none) : s'.NoneClosing := by
  intro n' c' hg'
  by_contra hb'
  rcases begun_move h.keyed hm hg' (by simpa using hb') with ⟨c₀, hg₀, hb₀⟩ | ⟨-, ho⟩
  · obtain rfl := h.staffed.alone n n' c c₀ hg hb hg₀ hb₀
    cases hn.symm.trans hg'
  · cases ho.symm.trans (h.shut.operations n _ hg hb)

theorem ends_cases (h : s.ends s' mv = true) :
    ∃ n c, mv = .step (.user n) ∧ Table.get? s.operations n = some (.close c) ∧ c.begun = true ∧
      Table.get? s'.operations n = none := by
  unfold ends at h
  split at h
  · rename_i n
    obtain ⟨hs, hn⟩ := Bool.and_eq_true_iff.1 h
    obtain ⟨o, hg, ho⟩ := (Option.any_eq_true _ _).1 hs
    cases o with
    | close c => exact ⟨n, c, rfl, hg, ho, Option.isNone_iff_eq_none.1 hn⟩
    | acquire _ | release _ | misplace _ | wait _ | check _ => cases ho
  · cases h

theorem NoneClosing.ends (hu : s.NoneClosing) (s' : Site) (mv : Move) : s.ends s' mv = false := by
  rw [Bool.eq_false_iff]
  intro he
  obtain ⟨n, c, -, hg, hb, -⟩ := ends_cases he
  cases hb.symm.trans (hu n c hg)

/-- The closing of the pool does not come to its end with a late move. -/
theorem ends_late (hc : s.isClosing mv = false) (s' : Site) : s.unstopped.ends s' mv = false := by
  cases mv with
  | step party =>
    cases party with
    | user n => exact Bool.and_eq_false_imp.2 fun h => absurd h (Bool.eq_false_iff.1 hc)
    | worker | ticker | closer => rfl
  | acquire | wait | check | close | release | misplace | cancel | tryAcquire | giveBack
  | leaveBehind | detach | use | resize | resetCounters | readOutcome | pass => rfl

/-- At the end of its closing nobody works for a pool any more, and nobody is closing it. -/
theorem deserted_of_ends (h : s.Lawful) (hm : s.move? env mv = some (env', s'))
    (he : s.ends s' mv = true) : s'.Deserted ∧ s'.NoneClosing := by
  obtain ⟨n, c, rfl, hg, hb, hn⟩ := ends_cases he
  exact ⟨deserted_of_closed h hg hb hm hn, noneClosing_of_gone h hm hg hb hn⟩

/-- Once the closing of a pool was given up, it does not come to its end. -/
theorem GivenUp.move (hg : s.GivenUp r) (h : s.Lawful) (hm : s.move? env mv = some (env', s')) :
    s'.GivenUp (r.enter env s mv env' s') where
  closed := (h.toRegular.steady hm).closed hg.closed
  noneClosing := hg.noneClosing.move h.keyed hg.closed hm
  unended := Bool.or_eq_false_iff.2 ⟨hg.unended, hg.noneClosing.ends s' mv⟩

theorem GivenUp.late (hg : s.GivenUp r) (h : s.Lawful) (hs : s.pool.crew.stopped = true)
    (hm : s.unstopped.move? env mv = some (env', s')) (hc : s.isClosing mv = false) :
    s'.stopped.GivenUp (r.enterLate env s mv env' s') where
  closed := (wanes_move hm hg.closed).closed
  noneClosing := hg.noneClosing.late h hs hm hc
  unended := Bool.or_eq_false_iff.2 ⟨hg.unended, ends_late hc s'⟩

/-- No task is left when those that nobody took have been disposed of. -/
theorem emptied_move (h : s.Lawful) (hm : s.move? env mv = some (env', s')) (he : s'.Emptied) :
    s.Emptied ∨ s'.pool.crew.tasks = [] := by
  obtain ⟨n, idle, hg⟩ := he
  rcases operation_origin h.keyed hm hg with hg | ⟨o, -, hg, hs⟩ | hn
  · exact .inl ⟨n, idle, hg⟩
  · cases Operation.goesOn hs with
    | close hs => exact (Closing.emptied hs).imp_left fun ⟨m, hc⟩ => ⟨n, m :: idle, hc ▸ hg⟩
  · cases hn

/-! ## The roll is right -/

/-! ### Ledgers -/

namespace Ledger.Sound

variable {i : Pid}

theorem mem_opened (hl : l.Sound env s) (hi : i ∈ pidsOf s.sessions) : i ∈ l.opened := by
  obtain ⟨closed, -, hw⟩ := hl.whole
  rw [← hw, add_assoc, add_assoc]
  exact Multiset.mem_add.2 (.inl hi)

theorem notMem_abandoned (hl : l.Sound env s) (hi : i ∈ pidsOf s.sessions) : i ∉ l.abandoned := by
  obtain ⟨closed, -, hw⟩ := hl.whole
  have hn := hl.distinct
  rw [← hw, add_right_comm _ l.detached, add_assoc, Multiset.nodup_add] at hn
  exact Multiset.disjoint_left.1 (Multiset.nodup_add.1 hn.1).2.2 hi

/-- The session of a member is not being configured. -/
theorem notMem_configuring (hl : l.Sound env s) (hi : i ∈ s.pids) : i ∉ pidsOf s.configuring := by
  obtain ⟨closed, -, hw⟩ := hl.whole
  have hn := hl.distinct
  rw [← hw, add_assoc, add_assoc, sessions_eq, pidsOf_add, Multiset.nodup_add] at hn
  exact Multiset.disjoint_left.1 (Multiset.nodup_add.1 hn.1).2.2 (mem_pids.1 hi)

end Ledger.Sound

/-! ### Sessions -/

/-- Each session is closed once, or is still to be closed. -/
structure Roll.Settled (env : Env) (s : Site) (r : Roll) : Prop where
  orderly : env.server.Orderly
  once : ∀ i ∈ r.opened, i ∉ r.detached → i ∉ r.abandoned →
    env.server.closings.count i + (dueOf s.sessions).count i = 1
  /-- The session of a member is not configured any more. -/
  records : ∀ i ∈ r.records, i ∈ r.opened ∧ i ∉ pidsOf s.configuring

/-- What was let go was left behind, or it was never the session of a member. -/
def Roll.Careful (r : Roll) : Prop := ∀ i ∈ r.abandoned, i ∈ r.leftBehind ∨ i ∉ r.records

/-- **With every move the server is told once of each closing.** -/
theorem closings_move (h : s.Regular) (hm : s.move? env mv = some (env', s'))
    (hp : mv.isPlain = true) :
    (env'.server.closings : Multiset Pid) + dueOf s'.sessions +
        dueOf (s.abandoned env mv + s.detached mv) =
      (env.server.closings : Multiset Pid) + dueOf s.sessions + env.server.issued env'.server := by
  have hs := Tended.settled (h.tended hm hp)
  rw [Charge.all_add, Charge.all_ofWorn, ← add_assoc, dueOf_add, ← add_assoc] at hs
  exact hs

theorem mem_sessions_of_pids {i : Pid} (hi : i ∈ s.pids) : i ∈ pidsOf s.sessions := by
  rw [sessions_eq, pidsOf_add]
  exact Multiset.mem_add.2 (.inl (mem_pids.1 hi))

theorem due_count_eq_zero {x : Multiset Session} {i : Pid} (h : i ∉ pidsOf x) :
    (dueOf x).count i = 0 :=
  Multiset.count_eq_zero.2 fun hi => h (Multiset.mem_of_le (dueOf_le x) hi)

namespace Roll.Settled

variable {i : Pid}

/-- What was closed, or is still to be closed, was opened before. -/
theorem lt_nextPid (hr : r.Settled env s) (hl : r.toLedger.Sound env s)
    (hi : i ∈ (env.server.closings : Multiset Pid) + dueOf s.sessions) :
    i < env.server.nextPid := by
  rcases Multiset.mem_add.1 hi with hi | hi
  · exact hr.orderly i hi
  · exact hl.issued i (hl.mem_opened (Multiset.mem_of_le (dueOf_le _) hi))

theorem orderly_move (hr : r.Settled env s) (hl : r.toLedger.Sound env s) (h : s.Regular)
    (hm : s.move? env mv = some (env', s')) (hp : mv.isPlain = true) : env'.server.Orderly := by
  intro i hi
  have grows := Tended.grows (h.tended hm hp)
  have hi : i ∈ (env.server.closings : Multiset Pid) + dueOf s.sessions +
      env.server.issued env'.server := by
    rw [← closings_move h hm hp]
    exact Multiset.mem_add.2 (.inl (Multiset.mem_add.2 (.inl hi)))
  rcases Multiset.mem_add.1 hi with hi | hi
  · exact (hr.lt_nextPid hl hi).trans_le grows.nextPid
  · exact (Multiset.mem_Ico.1 hi).2

theorem once_move (hr : r.Settled env s) (hl : r.toLedger.Sound env s) (h : s.Regular)
    (hm : s.move? env mv = some (env', s')) (hp : mv.isPlain = true)
    (hi : i ∈ (r.enter env s mv env' s').opened) (hd : i ∉ (r.enter env s mv env' s').detached)
    (ha : i ∉ (r.enter env s mv env' s').abandoned) :
    env'.server.closings.count i + (dueOf s'.sessions).count i = 1 := by
  obtain ⟨hd, hd'⟩ := not_or.1 (mt Multiset.mem_add.2 hd)
  obtain ⟨ha, ha'⟩ := not_or.1 (mt Multiset.mem_add.2 ha)
  -- the session is not among those that are let go with the move
  have lost : (dueOf (s.abandoned env mv + s.detached mv)).count i = 0 := by
    refine due_count_eq_zero ?_
    rw [pidsOf_add]
    exact fun hi => (Multiset.mem_add.1 hi).elim ha' hd'
  have count := congrArg (Multiset.count i) (closings_move h hm hp)
  simp only [Multiset.count_add, lost, add_zero, Multiset.coe_count] at count
  rw [count]
  rcases Multiset.mem_add.1 hi with hi | hi
  · have hn : i ∉ env.server.issued env'.server := fun hn =>
      absurd (hl.issued i hi) (not_lt.2 (Multiset.mem_Ico.1 hn).1)
    rw [hr.once i hi hd ha, Multiset.count_eq_zero.2 hn]
  · rw [Move.opened_of_isPlain hp] at hi
    have hn := (Multiset.mem_Ico.1 hi).1
    have hs : i ∉ pidsOf s.sessions := fun hs =>
      absurd (hl.issued i (hl.mem_opened hs)) (not_lt.2 hn)
    have hc : i ∉ env.server.closings := fun hc => absurd (hr.orderly i hc) (not_lt.2 hn)
    rw [List.count_eq_zero.2 hc, due_count_eq_zero hs, zero_add, zero_add]
    exact Multiset.count_eq_one_of_mem Multiset.nodup_Ico hi

theorem records_move (hr : r.Settled env s) (hl : r.toLedger.Sound env s)
    (hl' : (r.toLedger.enter env s mv env').Sound env' s') (hk : s.Keyed)
    (hm : s.move? env mv = some (env', s')) (hi : i ∈ (r.enter env s mv env' s').records) :
    i ∈ (r.enter env s mv env' s').opened ∧ i ∉ pidsOf s'.configuring := by
  rcases List.mem_append.1 hi with hi | hi
  · obtain ⟨ho, hc⟩ := hr.records i hi
    refine ⟨Multiset.mem_add.2 (.inl ho), fun hc' => ?_⟩
    rcases Multiset.mem_add.1 (Multiset.mem_of_le (configuring_move hk hm) hc') with hc' | hn
    · exact hc hc'
    · exact absurd (hl.issued i ho) (not_lt.2 (Multiset.mem_Ico.1 hn).1)
  · exact ⟨hl'.mem_opened (mem_sessions_of_pids hi), hl'.notMem_configuring hi⟩

theorem enter (hr : r.Settled env s) (hl : r.toLedger.Sound env s)
    (hl' : (r.toLedger.enter env s mv env').Sound env' s') (h : s.Regular)
    (hm : s.move? env mv = some (env', s')) (hp : mv.isPlain = true) :
    (r.enter env s mv env' s').Settled env' s' where
  orderly := hr.orderly_move hl h hm hp
  once := fun _ hi hd ha => hr.once_move hl h hm hp hi hd ha
  records := fun _ hi => hr.records_move hl hl' h.keyed hm hi

/-- What a move lets go was left behind, or was being configured. -/
theorem careful_enter (hr : r.Settled env s) (hc : r.Careful)
    (hl' : (r.toLedger.enter env s mv env').Sound env' s')
    (ha : s.abandoned env mv ≤ s.configuring ∨ ∃ id, mv = .leaveBehind id) :
    (r.enter env s mv env' s').Careful := by
  intro i hi
  -- a session that was let go is not that of a member now
  have unrecorded (hn : i ∉ r.records) : i ∉ (r.enter env s mv env' s').records := fun hi' =>
    (List.mem_append.1 hi').elim hn fun hp => hl'.notMem_abandoned (mem_sessions_of_pids hp) hi
  rcases Multiset.mem_add.1 hi with hp | hn
  · exact (hc i hp).imp (fun hb => Multiset.mem_add.2 (.inl hb)) unrecorded
  · rcases ha with hle | ⟨id, rfl⟩
    · refine .inr (unrecorded fun hr' => (hr.records i hr').2 ?_)
      exact Multiset.mem_of_le (Multiset.map_le_map hle) hn
    · exact .inl (Multiset.mem_add.2 (.inr hn))

theorem strand (hr : r.Settled env s) {kept gone : List Member}
    (hg : s.pool.leaving = kept ++ gone) :
    (r.strand gone).Settled env { s with pool := { s.pool with leaving := kept } } where
  orderly := hr.orderly
  once := fun i hi hd ha => by
    obtain ⟨ha, hs⟩ := not_or.1 (mt Multiset.mem_add.2 ha)
    have split : s.sessions =
        sessions { s with pool := { s.pool with leaving := kept } } + sessionsOf gone := by
      rw [← sessions_leaving s kept gone, ← hg]
    have once := hr.once i hi hd ha
    rwa [split, dueOf_add, Multiset.count_add, due_count_eq_zero hs] at once
  records := hr.records

end Roll.Settled

theorem Roll.Careful.strand (hc : r.Careful) (ms : List Member) : (r.strand ms).Careful := by
  intro i hi
  rcases Multiset.mem_add.1 hi with hi | hi
  · exact (hc i hi).imp_left fun hb => Multiset.mem_add.2 (.inl hb)
  · exact .inl (Multiset.mem_add.2 (.inr hi))

/-! ### The whole -/

/-- What a roll says is true. -/
structure Roll.Sound (env : Env) (s : Site) (r : Roll) : Prop extends r.Settled env s where
  careful : s.GivenUp r ∨ r.Careful
  ended : r.ended = true → s.Deserted ∧ s.NoneClosing
  /-- Only tasks that were sent late are left when those that nobody took were disposed of. -/
  drained : s.Emptied ∨ r.ended = true →
    s.pool.adds = 0 ∧ ∀ t ∈ s.pool.crew.tasks, t ∈ r.late

theorem adds_eq_zero {p : Pool} : p.adds = 0 ↔ p.crew.tasks.filter Task.isAdd = [] := by
  rw [Pool.adds, List.countP_eq_length_filter, List.length_eq_zero_iff]

namespace Roll.Sound

theorem givenUp_of_cancel (hr : r.Sound env s) (h : s.Lawful) {n : Nat} {c : Closing}
    (hg : Table.get? s.operations n = some (.close c)) (hb : c.begun = true)
    (hm : s.move? env (.cancel n) = some (env', s')) :
    s'.GivenUp (r.enter env s (.cancel n) env' s') where
  closed := (h.toRegular.steady hm).closed (h.shut.operations n _ hg hb)
  noneClosing := by
    refine noneClosing_of_gone h hm hg hb ?_
    cases moved hm with
    | cancelled => exact Table.get?_remove_self s.operations n
    | unheld hv => rcases hv with hv | hv | hv <;> cases hv
  unended := by
    refine Bool.or_eq_false_iff.2 ⟨Bool.eq_false_iff.2 fun he => ?_, rfl⟩
    cases hb.symm.trans ((hr.ended he).2 n c hg)

theorem careful_move (hr : r.Sound env s) (h : s.Lawful)
    (hl' : (r.toLedger.enter env s mv env').Sound env' s')
    (hm : s.move? env mv = some (env', s')) :
    s'.GivenUp (r.enter env s mv env' s') ∨ (r.enter env s mv env' s').Careful := by
  rcases hr.careful with hg | hc
  · exact .inl (hg.move h hm)
  · rcases abandoned_cases h.keyed env mv with ha | ha | ⟨n, c, rfl, hg, hb⟩
    · exact .inr (hr.careful_enter hc hl' (.inl ha))
    · exact .inr (hr.careful_enter hc hl' (.inr ha))
    · exact .inl (hr.givenUp_of_cancel h hg hb hm)

theorem drained_move (hr : r.Sound env s) (h : s.Lawful) (hm : s.move? env mv = some (env', s'))
    (he : s'.Emptied ∨ (r.enter env s mv env' s').ended = true) :
    s'.pool.adds = 0 ∧ ∀ t ∈ s'.pool.crew.tasks, t ∈ r.late := by
  have kept (hs : s.pool.crew.stopped = true) (hd : s.Emptied ∨ r.ended = true) :
      s'.pool.adds = 0 ∧ ∀ t ∈ s'.pool.crew.tasks, t ∈ r.late := by
    obtain ⟨ha, hl⟩ := hr.drained hd
    have tasks := (staffing_move hm).tasks hs
    exact ⟨Nat.le_zero.1 (ha ▸ tasks.countP_le), fun t ht => hl t (tasks.mem ht)⟩
  rcases he with he | he
  · rcases emptied_move h hm he with ⟨n, idle, hg⟩ | hn
    · exact kept (h.staffed.known n _ hg).1 (.inl ⟨n, idle, hg⟩)
    · simp [Pool.adds, hn]
  · rcases Bool.or_eq_true_iff.1 he with he | he
    · exact kept (hr.ended he).1.stopped (.inr he)
    · obtain ⟨n, c, rfl, hg, hb, hn⟩ := ends_cases he
      obtain ⟨rfl, hp⟩ := closed_cases hg hb hm hn
      exact hp ▸ hr.drained (.inl ⟨n, [], hg⟩)

theorem enter (hr : r.Sound env s) (hl : r.toLedger.Sound env s)
    (hl' : (r.toLedger.enter env s mv env').Sound env' s') (h : s.Lawful)
    (hm : s.move? env mv = some (env', s')) (hp : mv.isPlain = true) :
    (r.enter env s mv env' s').Sound env' s' where
  toSettled := hr.toSettled.enter hl hl' h.toRegular hm hp
  careful := hr.careful_move h hl' hm
  ended := fun he => by
    rcases Bool.or_eq_true_iff.1 he with he | he
    · obtain ⟨hd, hu⟩ := hr.ended he
      exact ⟨hd.move h hm, hu.move h.keyed hd.closed hm⟩
    · exact deserted_of_ends h hm he
  drained := hr.drained_move h hm

theorem strand (hr : r.Sound env s) {kept gone : List Member}
    (hg : s.pool.leaving = kept ++ gone) :
    (r.strand gone).Sound env { s with pool := { s.pool with leaving := kept } } where
  toSettled := hr.toSettled.strand hg
  careful := hr.careful.imp (fun hg => ⟨hg.closed, hg.noneClosing, hg.unended⟩) (·.strand gone)
  ended := fun he => by
    obtain ⟨hd, hu⟩ := hr.ended he
    exact ⟨⟨hd.closed, hd.stopped, hd.left, hd.jobs⟩, hu⟩
  drained := hr.drained

theorem drained_late (hr : r.Sound env s) (h : s.Lawful) (hs : s.pool.crew.stopped = true)
    (hm : s.unstopped.move? env mv = some (env', s')) (hc : s.isClosing mv = false)
    (he : s'.stopped.Emptied ∨ (r.enterLate env s mv env' s').ended = true) :
    s'.pool.adds = 0 ∧ ∀ t ∈ s'.pool.crew.tasks, t ∈ (r.enterLate env s mv env' s').late := by
  have hd : s.Emptied ∨ r.ended = true := by
    refine he.imp (fun ⟨n, idle, hg⟩ => ⟨n, idle, h.closing_late hs hm hc rfl hg⟩) fun he => ?_
    exact (Bool.or_eq_true_iff.1 he).resolve_right (Bool.eq_false_iff.1 (ends_late hc s'))
  obtain ⟨ha, hl⟩ := hr.drained hd
  have wanes := wanes_move hm (h.shut.stopped hs)
  refine ⟨adds_eq_zero.2 (List.sublist_nil.1 (adds_eq_zero.1 ha ▸ wanes.adds)), fun t ht => ?_⟩
  rcases h.tasks_late hm hc ht with ht | ht
  · exact List.mem_append_left _ (hl t ht)
  · exact List.mem_append_right _ ht

theorem late (hr : r.Sound env s) (hl : r.toLedger.Sound env s) (h : s.Lawful)
    (hs : s.pool.crew.stopped = true) (hm : s.unstopped.move? env mv = some (env', s'))
    (hc : s.isClosing mv = false) (hp : mv.isPlain = true) :
    (r.enterLate env s mv env' s').Sound env' s'.stopped := by
  have after := hl.late h.toRegular hm hp
  have before : r.Settled env s.unstopped := ⟨hr.orderly, hr.once, hr.records⟩
  have settled := before.enter hl.unstopped after h.toRegular.unstopped hm hp
  exact {
    orderly := settled.orderly
    once := settled.once
    records := settled.records
    careful := by
      rcases hr.careful with hg | hcare
      · exact .inl (hg.late h hs hm hc)
      · refine .inr (before.careful_enter hcare after ?_)
        rcases abandoned_cases h.toRegular.unstopped.keyed env mv with ha | ha | ⟨n, c, rfl, hg, hb⟩
        · exact .inl ha
        · exact .inr ha
        · simp [isClosing, show Table.get? s.operations n = _ from hg, Operation.hasShut, hb] at hc
    ended := fun he => by
      have he := (Bool.or_eq_true_iff.1 he).resolve_right (Bool.eq_false_iff.1 (ends_late hc s'))
      obtain ⟨hd, hu⟩ := hr.ended he
      exact ⟨hd.late h hm hc, hu.late h hs hm hc⟩
    drained := hr.drained_late h hs hm hc }

end Roll.Sound

/-- What a user does to a session is told to the server. -/
theorem closings_use (hd : s.HeldApart) {id : Nat} {m : Member} {session : Session}
    (hm : s.heldMember? id = some m)
    (hs : m.session.Turns env.server env'.server session) :
    (env'.server.closings : Multiset Pid) + dueOf (s.setSession id session).sessions =
      (env.server.closings : Multiset Pid) + dueOf s.sessions := by
  have before : dueOf s.sessions =
      dueOf (s.pool.sessions + (s.letGo id).charge.all) + m.session.due := by
    rw [sessions, charge_letGo hd hm, worn, Tended.last, dueOf_add, dueOf_singleton]
  have after : dueOf (s.setSession id session).sessions =
      dueOf (s.pool.sessions + (s.letGo id).charge.all) + session.due := by
    rw [sessions, charge_setSession hd hm session, Tended.last, dueOf_add, dueOf_singleton]
    rfl
  rw [before, after, add_left_comm, hs.settles, add_left_comm]

theorem Roll.Sound.use (hr : r.Sound env s) (hl : r.toLedger.Sound env s) (hd : s.HeldApart)
    {id : Nat} {m : Member} {session : Session} (hm : s.heldMember? id = some m)
    (hs : m.session.Turns env.server env'.server session) :
    r.Sound env' (s.setSession id session) where
  orderly := fun i hi => by
    rw [hs.stays.same]
    refine hr.lt_nextPid hl ?_
    rw [← closings_use hd hm hs]
    exact Multiset.mem_add.2 (.inl hi)
  once := fun i hi hdet ha => by
    have count := congrArg (Multiset.count i) (closings_use hd hm hs)
    simp only [Multiset.count_add, Multiset.coe_count] at count
    rw [count]
    exact hr.once i hi hdet ha
  records := hr.records
  careful := hr.careful.imp_left fun hg => ⟨hg.closed, hg.noneClosing, hg.unended⟩
  ended := fun he => by
    obtain ⟨hd, hu⟩ := hr.ended he
    exact ⟨⟨hd.closed, hd.stopped, hd.left, hd.jobs⟩, hu⟩
  drained := hr.drained

theorem sound_create {settings : PoolSettings} {options : ConnectOptions} {hooks : Hooks}
    (h : create env settings options hooks = (env', .ok s)) (ho : env.server.Orderly) :
    Roll.Sound env' s {} where
  orderly := server_create h ▸ ho
  once := fun i hi => absurd hi (Multiset.notMem_zero i)
  records := fun i hi => absurd hi List.not_mem_nil
  careful := .inr fun i hi => absurd hi (Multiset.notMem_zero i)
  ended := nofun
  drained := by
    obtain ⟨p, -, -, -, -, -, -, rfl⟩ := create_ok h
    rintro (⟨n, idle, hg⟩ | he)
    · cases hg
    · cases he

/-- **What a roll says is true**, whatever moves are made in whatever order. -/
theorem Tenure.sound (h : Tenure env s r) : r.Sound env s := by
  induction h with
  | created h ho => exact sound_create h ho
  | moved h hm hp ih => exact ih.enter h.ledger (h.moved hm hp).ledger h.lawful hm hp
  | outside h hm hp hu ih =>
    have entered := ih.enter h.ledger (h.moved hm hp).ledger h.lawful hm hp
    exact entered.strand (leaving_eq h.lawful.shut hm hu)
  | looked h hs ih =>
    exact {
      orderly := ih.orderly
      once := ih.once
      records := ih.records
      careful := ih.careful.imp_left fun hg => ⟨hg.closed, hg.noneClosing, hg.unended⟩
      ended := ih.ended
      drained := ih.drained }
  | late h hn hs hc hm hp ih => exact ih.late h.ledger h.lawful hs hm hc hp
  | used h hm ht hs ih =>
    exact ih.use h.ledger (HeldApart.of_balanced h.lawful.balanced) hm hs
  | passed h ht hs ih =>
    exact {
      orderly := hs.orderly
      once := fun i hi hd ha => by rw [hs.spared i ⟨hi, hd⟩, ih.once i hi hd ha]
      records := ih.records
      careful := ih.careful
      ended := ih.ended
      drained := ih.drained }

end Site

end SessionPool
