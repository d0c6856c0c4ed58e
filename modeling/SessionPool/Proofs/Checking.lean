import Mathlib.Data.Prod.Lex
import Mathlib.Order.WithBot
import SessionPool.Proofs.Losses

/-!
# The steps of a check

A check takes the first unused member, probes it, and puts it behind the others if it is healthy, as
many times as there were unused members in the beginning. `Checking.goes_of_step` says what it does
with each of its steps, whatever others have done since the last; there cannot be endlessly many of
them (`Checking.wellFounded_follows`).

What others do must not put a member in front of those that the check still has to come to
(`Checking.Ahead`). If they do nothing at all, the members keep their order (`Checking.InTurn`).
-/

set_option autoImplicit false

namespace SessionPool

def Progress.result? : Progress → Option (Except SessionError Unit)
  | .finished result => some result
  | .paused _ => none

/-! ## What is entered -/

namespace Pool

variable {p q : Pool} {m : Member} {now : Instant}

/-- The member with a number is on its way to be closed, its loss is counted, and nothing else
happens before sessions are opened where they are wanted. -/
structure Replaces (p : Pool) (id : Nat) (q : Pool) : Prop where
  dropped : ∃ m q₀, m.id = id ∧ p.Drops m q₀ ∧ q = q₀.topUp
  counted : q.counters = { p.counters with connectionsLost := p.counters.connectionsLost + 1 }

/-- What becomes of a member by what a probe has found. -/
structure Judged (p : Pool) (m : Member) (health : Health) (now : Instant) (q : Pool) : Prop where
  healthy : health.isHealthy = true → p.Keeps m.id now q ∧ q.lost = p.lost
  unhealthy : health.isHealthy = false → p.Replaces m.id q

theorem replaces_judge (hs : 0 < p.size) {health : Health} (hh : health.isHealthy = false) :
    p.Replaces m.id (p.judge m health now) := by
  have drops : p.Drops (m.inStage .broken) (p.countLost.discard (m.inStage .broken)) :=
    Drops.of_recount (h := p.hookCalls) (drops_discard (p := p.countLost) hs _)
  rw [judge, if_neg (by simp [hh])]
  refine ⟨⟨m.inStage .broken, _, rfl, drops, rfl⟩, ?_⟩
  rw [topUp_eq]
  exact counters_discard _ _

theorem judged_judge (hc : p.closed = false) (hn : p.isNull = false) (hs : 0 < p.size) (m : Member)
    (health : Health) (now : Instant) : p.Judged m health now (p.judge m health now) := by
  refine ⟨fun hh => ?_, replaces_judge hs⟩
  rw [judge, if_pos hh]
  exact ⟨keeps_deliver hc hn m now, lost_deliver⟩

theorem Judged.idle {health : Health} (h : p.Judged m health now q) :
    ∃ more, q.idle = p.idle ++ more := by
  cases hh : health.isHealthy with
  | true =>
    obtain ⟨m', -, handed | parked⟩ := (h.healthy hh).1.places
    · exact ⟨[], by rw [List.append_nil]; assumption⟩
    · exact ⟨[m'], by assumption⟩
  | false =>
    obtain ⟨m', q₀, -, drops, rfl⟩ := (h.unhealthy hh).dropped
    exact ⟨[], by rw [List.append_nil, ← drops.idle]; exact congrArg Front.idle (front_topUp q₀)⟩

end Pool

/-! ## The steps of a check -/

namespace Checking

variable {env env' : Env} {p q : Pool} {c c' : Checking} {m : Member}
  {next : Next Checking (Except PoolError Unit)}

/-- How a check goes on after a probe has come as far as it could. -/
inductive Answers (left : Nat) (m : Member) : Progress → Checking → Prop
  | paused {s : Session} {pause : Pause} :
      Answers left m (.paused pause) (.paused left { m with session := s } pause)
  | healthy {s : Session} :
      Answers left m (.finished (.ok ())) (.judging left { m with session := s } .healthy)
  | unhealthy {s : Session} {e : SessionError} : Answers left m (.finished (.error e))
      (.judging left { m with session := s } (.unhealthy e.message))

/-- What a check does to its pool with a step, and what is left to do. -/
inductive Goes (env : Env) (p : Pool) :
    Checking → Pool → Next Checking (Except PoolError Unit) → Prop
  | turnedAway {result : Except PoolError Unit} (away : p.closed = true ∨ p.isNull = true) :
      Goes env p .starting p (.done result)
  | breaksOff {left : Nat} (away : p.closed = true) :
      Goes env p (.picking (left + 1)) p (.done (.ok ()))
  | starts : Goes env p .starting p (.more .counting)
  | counts : Goes env p .counting p (.more (.picking p.idle.length))
  | ends : Goes env p (.picking 0) p (.done (.ok ()))
  | picks {left : Nat} {m : Member} {rest : List Member} (idle : p.idle = m :: rest) :
      Goes env p (.picking (left + 1)) { p with idle := rest }
        (.more (.probing left (m.inStage .inUse)))
  | runsOut {left : Nat} (idle : p.idle = []) :
      Goes env p (.picking (left + 1)) p (.done (.ok ()))
  | asks {left : Nat} {m : Member} {c : Checking}
      (answers : Answers left m (Script.run env m.session p.probeCall.2).2.2 c) :
      Goes env p (.probing left m) p.probeCall.1 (.more c)
  | resumes {left : Nat} {m : Member} {pause : Pause} {c : Checking}
      (answers : Answers left m (Script.resume env m.session pause).2.2 c) :
      Goes env p (.paused left m pause) p (.more c)
  | judges {left : Nat} {m : Member} {health : Health} :
      Goes env p (.judging left m health) (p.judge m health env.now) (.more (.picking left))

theorem answers_afterProbe (left : Nat) (m : Member) (x : Env × Session × Progress) :
    ∃ c, Answers left m x.2.2 c ∧ (afterProbe p left m x).2 = (p, .more c) := by
  obtain ⟨e, s, (_ | ⟨⟨⟩⟩) | pause⟩ := x
  · exact ⟨_, .unhealthy, rfl⟩
  · exact ⟨_, .healthy, rfl⟩
  · exact ⟨_, .paused, rfl⟩

/-- **What a check does with a step.** -/
theorem goes_of_step (h : c.step env p = some (env', q, next)) : c.Goes env p q next := by
  cases c with
  | starting =>
    simp only [step] at h
    split at h
    · rename_i hc
      cases h
      exact .turnedAway (.inl hc)
    · split at h
      · rename_i hn
        cases h
        exact .turnedAway (.inr hn)
      · cases h
        exact .starts
  | counting =>
    cases h
    exact .counts
  | picking left =>
    cases left with
    | zero =>
      cases h
      exact .ends
    | succ left =>
      simp only [step, Pool.pickProbe] at h
      by_cases hc : p.closed = true
      · rw [if_pos hc] at h
        cases h
        exact .breaksOff hc
      · rw [if_neg hc] at h
        cases hi : p.idle with
        | nil =>
          rw [hi] at h
          have same : { p with idle := [] } = p := by rw [← hi]
          cases h
          rw [List.tail_nil, same]
          exact .runsOut hi
        | cons m rest =>
          rw [hi] at h
          cases h
          exact .picks hi
  | probing left m =>
    obtain ⟨c, answers, he⟩ := answers_afterProbe (p := p.probeCall.1) left m
      (Script.run env m.session p.probeCall.2)
    obtain ⟨rfl, rfl⟩ := Prod.mk.inj (he.symm.trans (congrArg Prod.snd (Option.some.inj h)))
    exact .asks answers
  | paused left m pause =>
    simp only [step, Option.ite_none_right_eq_some, Option.some.injEq] at h
    obtain ⟨c, answers, he⟩ := answers_afterProbe (p := p) left m
      (Script.resume env m.session pause)
    obtain ⟨rfl, rfl⟩ := Prod.mk.inj (he.symm.trans (congrArg Prod.snd h.2))
    exact .resumes answers
  | judging left m health =>
    have same : (judge env p left m health).1.now = env.now := by
      unfold judge
      dsimp only
      split <;> rfl
    have entered : (judge env p left m health).2 =
        (p.judge m health (judge env p left m health).1.now, .more (.picking left)) := rfl
    rw [same, congrArg Prod.snd (Option.some.inj h)] at entered
    obtain ⟨rfl, rfl⟩ := Prod.mk.inj entered
    exact .judges

/-- A check waits for nothing but the pause of a probe. -/
theorem waits (h : c.step env p = none) :
    ∃ left m pause, c = .paused left m pause ∧ pause.timer.isDue env.now = false := by
  cases c with
  | paused left m pause => exact ⟨left, m, pause, rfl, by simpa [step] using h⟩
  | starting =>
    simp only [step] at h
    split at h
    · cases h
    · split at h <;> cases h
  | picking left =>
    cases left with
    | zero => cases h
    | succ left =>
      simp only [step] at h
      split at h <;> cases h
  | counting | probing | judging => cases h

/-! ### Coming to an end -/

def Follows (c' c : Checking) : Prop :=
  ∃ env p env' q, c.step env p = some (env', q, .more c')

/-- How much there is left to do. Before the unused members were counted, nobody knows. -/
def rank : Checking → WithTop Nat ×ₗ Nat
  | starting => toLex (⊤, 1)
  | counting => toLex (⊤, 0)
  | picking left => toLex (WithTop.some (4 * left), 0)
  | judging left _ _ => toLex (WithTop.some (4 * left + 1), 0)
  | paused left _ pause => toLex (WithTop.some (4 * left + 2), pause.rest.length)
  | probing left _ => toLex (WithTop.some (4 * left + 3), 0)

theorem rank_lt (h : Follows c' c) : c'.rank < c.rank := by
  obtain ⟨env, p, env', q, h⟩ := h
  have sooner {a b i j : Nat} (hab : a < b) :
      toLex (WithTop.some a, i) < toLex (WithTop.some b, j) :=
    Prod.Lex.toLex_lt_toLex.2 (.inl (WithTop.coe_lt_coe.2 hab))
  cases goes_of_step h with
  | starts => exact Prod.Lex.toLex_lt_toLex.2 (.inr ⟨rfl, Nat.zero_lt_one⟩)
  | counts => exact Prod.Lex.toLex_lt_toLex.2 (.inl (WithTop.coe_lt_top _))
  | picks => exact sooner (by omega)
  | @asks left m _ answers =>
    generalize (Script.run env m.session p.probeCall.2).2.2 = progress at answers
    cases answers with
    | paused | healthy | unhealthy => exact sooner (by omega)
  | @resumes left m pause _ answers =>
    generalize hx : Script.resume env m.session pause = x at answers
    obtain ⟨e, s, progress⟩ := x
    cases answers with
    | paused =>
      exact Prod.Lex.toLex_lt_toLex.2 (.inr ⟨rfl, Script.length_rest_resume hx⟩)
    | healthy | unhealthy => exact sooner (by omega)
  | judges => exact sooner (by omega)

/-- **A check comes to its end**, whatever others do to the pool between its steps. -/
theorem wellFounded_follows : WellFounded Follows :=
  Subrelation.wf (fun h => rank_lt h) (InvImage.wf rank wellFounded_lt)

/-! ### What a check has in hand -/

/-- How many probes are left, once the unused members were counted. -/
def left? : Checking → Option Nat
  | starting | counting => none
  | picking left | probing left _ | paused left _ _ | judging left _ _ => some left

/-- The number of the member that is probed with the next step. -/
def picked : Checking → List Nat
  | probing _ m => [m.id]
  | starting | counting | picking _ | paused _ _ _ | judging _ _ _ => []

/-- The number of the member whose probe has not come to its end. -/
def unheard : Checking → List Nat
  | paused _ m _ => [m.id]
  | starting | counting | picking _ | probing _ _ | judging _ _ _ => []

/-- The number of the member of which it is entered with the next step whether it is healthy. -/
def unjudged : Checking → List (Nat × Bool)
  | judging _ m health => [(m.id, health.isHealthy)]
  | starting | counting | picking _ | probing _ _ | paused _ _ _ => []

def after : Next Checking (Except PoolError Unit) → Checking
  | .more c => c
  | .done _ => picking 0

@[simp] theorem after_more (c : Checking) : after (.more c) = c := rfl

theorem Answers.inHand {left : Nat} {progress : Progress} (h : Answers left m progress c) :
    c.left? = some left ∧ c.picked = [] ∧ c.member?.toList.map Member.id = [m.id] ∧
      [m.id] = c.unheard ++ c.unjudged.map Prod.fst ∧
      (progress.result?.map fun r => (m.id, r.isOk)).toList = c.unjudged := by
  cases h <;> exact ⟨rfl, rfl, rfl, rfl, rfl⟩

/-! ### What a check has done -/

structure Turn extends Stint where
  stage : Checking

/-- The number of the member whose probe comes to its end with the step, and whether its script ran
to the end. -/
def Turn.hears (t : Turn) : List (Nat × Bool) :=
  match t.stage with
  | probing _ m => ((Script.run t.env m.session t.pool.probeCall.2).2.2.result?.map
      fun r => (m.id, r.isOk)).toList
  | paused _ m pause => ((Script.resume t.env m.session pause).2.2.result?.map
      fun r => (m.id, r.isOk)).toList
  | starting | counting | picking _ | judging _ _ _ => []

def probed (turns : List Turn) : List Nat := turns.flatMap fun t => t.stage.picked

/-- The members whose probes have come to their ends, and what these have found. -/
def heard (turns : List Turn) : List (Nat × Bool) := turns.flatMap Turn.hears

def judged (turns : List Turn) : List (Nat × Bool) := turns.flatMap fun t => t.stage.unjudged

/-- The three rows agree, but for the member that the check has in hand. -/
structure Agree (turns : List Turn) (c : Checking) : Prop where
  probed : probed turns = c.unheard ++ (heard turns).map Prod.fst
  heard : heard turns = c.unjudged ++ judged turns

/-- At most as many members were probed as were unused when they were counted. -/
structure Sparing (turns : List Turn) (c : Checking) : Prop where
  uncounted : c.left? = none → probed turns = []
  counted : ∀ left ∈ c.left?, ∃ t ∈ turns, t.stage = .counting ∧
    (probed turns).length + c.picked.length + left ≤ t.pool.idle.length

variable {turns : List Turn} {p' : Pool}

theorem agree_turn (h : Agree turns c) (hg : c.Goes env p q next) :
    Agree (⟨⟨env, p, env', p'⟩, c⟩ :: turns) (after next) := by
  obtain ⟨hp, hh⟩ := h
  cases hg with
  | turnedAway | breaksOff | starts | counts | ends | picks | runsOut => exact ⟨hp, hh⟩
  | judges => exact ⟨hp, hh⟩
  | @asks left m c answers =>
    obtain ⟨-, -, -, hm, hr⟩ := answers.inHand
    have hears : heard (⟨⟨env, p, env', p'⟩, probing left m⟩ :: turns) =
      c.unjudged ++ heard turns := congrArg (· ++ _) hr
    refine ⟨?_, ?_⟩
    · rw [hears, List.map_append, ← List.append_assoc]
      exact congrArg₂ (· ++ ·) hm hp
    · rw [hears, hh]
      rfl
  | @resumes left m pause c answers =>
    obtain ⟨-, -, -, hm, hr⟩ := answers.inHand
    have hears : heard (⟨⟨env, p, env', p'⟩, paused left m pause⟩ :: turns) =
      c.unjudged ++ heard turns := congrArg (· ++ _) hr
    refine ⟨?_, ?_⟩
    · rw [hears, List.map_append, ← List.append_assoc]
      exact hp.trans (congrArg (· ++ _) hm)
    · rw [hears, hh]
      rfl

theorem Sparing.goesOn (h : Sparing turns c) {left left' : Nat} (hl : c.left? = some left)
    (hl' : c'.left? = some left') (hle : c'.picked.length + left' ≤ left) :
    Sparing (⟨⟨env, p, env', p'⟩, c⟩ :: turns) c' := by
  obtain ⟨t, ht, hs, bound⟩ := h.counted left hl
  refine ⟨fun hn => by simp [hl'] at hn, fun left'' hleft => ⟨t, .tail _ ht, hs, ?_⟩⟩
  obtain rfl := Option.some.inj (hl'.symm.trans hleft)
  have probed : (probed (⟨⟨env, p, env', p'⟩, c⟩ :: turns)).length =
    c.picked.length + (probed turns).length := List.length_append
  omega

theorem sparing_turn (h : Sparing turns c) (hc : p.closed = false) (hn : p.isNull = false)
    (hg : c.Goes env p q next) : Sparing (⟨⟨env, p, env', p'⟩, c⟩ :: turns) (after next) := by
  cases hg with
  | turnedAway away => simp [hc, hn] at away
  | breaksOff away => simp [hc] at away
  | starts => exact ⟨fun _ => h.uncounted rfl, nofun⟩
  | counts =>
    refine ⟨nofun, fun left hl => ⟨_, .head _, rfl, ?_⟩⟩
    cases hl
    have none : probed (⟨⟨env, p, env', p'⟩, counting⟩ :: turns) = [] := h.uncounted rfl
    rw [none]
    simp [after, picked]
  | ends | judges => exact h.goesOn rfl rfl (Nat.zero_add _).le
  | picks => exact h.goesOn rfl rfl (Nat.add_comm _ _).le
  | runsOut => exact h.goesOn rfl rfl (Nat.zero_le _)
  | asks answers | resumes answers =>
    obtain ⟨hl, hp, -⟩ := answers.inHand
    exact h.goesOn rfl hl (by simp [hp])

/-! ### The members that a check still has to come to -/

/-- Each wanted member is among the first of the unused ones, which there are probes left for,
unless it is gone. -/
def Ahead (wanted gone : Nat → Prop) (left : Option Nat) (idle : List Member) : Prop :=
  ∃ front back, idle = front ++ back ∧ (∀ n ∈ left, front.length ≤ n) ∧
    ∀ id, wanted id → id ∈ front.map Member.id ∨ gone id

namespace Ahead

variable {wanted wanted' gone gone' : Nat → Prop} {left left' : Option Nat}
  {idle idle' more : List Member} {n : Nat}

theorem imp (h : Ahead wanted gone left idle) (hw : ∀ id, wanted' id → wanted id)
    (hg : ∀ id, gone id → gone' id) : Ahead wanted' gone' left idle := by
  obtain ⟨front, back, hi, hl, ha⟩ := h
  exact ⟨front, back, hi, hl, fun id hid => (ha id (hw id hid)).imp_right (hg id)⟩

theorem all (h : Ahead wanted gone left idle) (hl : ∀ n ∈ left', idle.length ≤ n)
    (hw : ∀ id, wanted' id → id ∈ idle.map Member.id ∨ wanted id) :
    Ahead wanted' gone left' idle := by
  obtain ⟨front, back, rfl, -, ha⟩ := h
  refine ⟨front ++ back, [], (List.append_nil _).symm, hl, fun id hid => ?_⟩
  rcases hw id hid with hid | hid
  · exact .inl hid
  · refine (ha id hid).imp_left fun hm => ?_
    rw [List.map_append]
    exact List.mem_append_left _ hm

theorem take {m : Member} {rest : List Member} (h : Ahead wanted gone (some (n + 1)) (m :: rest)) :
    Ahead wanted (fun id => id ∈ [m.id] ∨ gone id) (some n) rest := by
  obtain ⟨front, back, hi, hl, ha⟩ := h
  have hl := hl _ rfl
  cases front with
  | nil =>
    refine ⟨[], rest, rfl, fun _ _ => Nat.zero_le _, fun id hid => ?_⟩
    exact .inr (.inr ((ha id hid).resolve_left (List.not_mem_nil)))
  | cons m' front =>
    obtain ⟨rfl, rfl⟩ := List.cons.inj hi
    refine ⟨front, back, rfl, fun _ hn => ?_, fun id hid => ?_⟩
    · cases hn
      simpa using hl
    · rcases ha id hid with hm | hg
      · rcases List.mem_cons.1 hm with rfl | hm
        · exact .inr (.inl (List.mem_singleton_self _))
        · exact .inl hm
      · exact .inr (.inr hg)

theorem runOut (h : Ahead wanted gone left []) : Ahead wanted gone left' [] := by
  obtain ⟨front, back, hi, -, ha⟩ := h
  obtain ⟨rfl, rfl⟩ := List.append_eq_nil_iff.1 hi.symm
  exact ⟨[], [], rfl, fun _ _ => Nat.zero_le _, ha⟩

theorem all_gone (h : Ahead wanted gone (some 0) idle) {id : Nat} (hid : wanted id) : gone id := by
  obtain ⟨front, back, -, hl, ha⟩ := h
  obtain rfl := List.length_eq_zero_iff.1 (Nat.le_zero.1 (hl 0 rfl))
  exact (ha id hid).resolve_left List.not_mem_nil

theorem push (h : Ahead wanted gone left idle) (more : List Member) :
    Ahead wanted gone left (idle ++ more) := by
  obtain ⟨front, back, rfl, hl, ha⟩ := h
  exact ⟨front, back ++ more, List.append_assoc _ _ _, hl, ha⟩

/-- Members are taken from anywhere, and others are put behind. -/
theorem thin (h : Ahead wanted gone left idle) (hs : idle'.Sublist (idle ++ more))
    (hn : ((idle ++ more).map Member.id).Nodup) : Ahead wanted
      (fun id => (id ∈ idle.map Member.id ∧ id ∉ idle'.map Member.id) ∨ gone id) left idle' := by
  obtain ⟨front, back, rfl, hl, ha⟩ := h
  rw [List.append_assoc] at hs hn
  obtain ⟨front', back', rfl, hf, hb⟩ := List.sublist_append_iff.1 hs
  refine ⟨front', back', rfl, fun n hleft => hf.length_le.trans (hl n hleft), fun id hid => ?_⟩
  by_cases hm : id ∈ front'.map Member.id
  · exact .inl hm
  · refine .inr ((ha id hid).imp_left fun hfront => ⟨?_, fun hid' => ?_⟩)
    · rw [List.map_append]
      exact List.mem_append_left _ hfront
    · -- it is not among those behind either, as no member is in two places
      rw [List.map_append] at hid' hn
      have behind := (List.mem_append.1 hid').resolve_left hm
      exact List.disjoint_of_nodup_append hn hfront ((hb.map _).subset behind)

end Ahead

/-! ### Checks that are not disturbed -/

theorem Agree.judged_eq_nil (h : Agree turns c) (hp : Checking.probed turns = []) :
    judged turns = [] := by
  have heard := (List.append_eq_nil_iff.1 (h.probed.symm.trans hp)).2
  rw [List.map_eq_nil_iff] at heard
  exact (List.append_eq_nil_iff.1 (h.heard.symm.trans heard)).2

/-- How the unused members stand if nobody else does anything. Of those that there were, some were
judged and one may be in hand; the others are still to be probed, and those that were found healthy
stand behind them. -/
structure InTurn (all rest : List Nat) (found : List (Nat × Bool)) (p : Pool) (c : Checking) :
    Prop where
  nobody : p.waiting.requests = [] ∨ all = []
  parted : all = found.reverse.map Prod.fst ++ (c.member?.toList.map Member.id ++ rest)
  idle : p.idle.map Member.id = rest ++ (found.reverse.filter Prod.snd).map Prod.fst
  left : ∀ left ∈ c.left?, rest.length = left

variable {all rest : List Nat} {found : List (Nat × Bool)} {left : Nat} {health : Health}

theorem InTurn.judge (h : InTurn all rest found p (.judging left m health))
    (hj : p.Judged m health env.now q) :
    InTurn all rest ((m.id, health.isHealthy) :: found) q (.picking left) := by
  obtain ⟨nobody, parted, idle, length⟩ := h
  have parted : all = ((m.id, health.isHealthy) :: found).reverse.map Prod.fst ++ ([] ++ rest) := by
    rw [parted]
    simp [member?]
  have none : p.waiting.requests = [] := nobody.resolve_right fun he => by simp [he] at parted
  cases hh : health.isHealthy with
  | true =>
    obtain ⟨m', hm, places⟩ := (hj.healthy hh).1.places
    cases places with
    | handed line => simp [none] at line
    | parked stale waiting hi =>
      refine ⟨.inl (by rw [waiting]), hh ▸ parted, ?_, length⟩
      rw [hi, List.map_append, idle]
      simp [hm]
  | false =>
    obtain ⟨m', q₀, -, drops, rfl⟩ := (hj.unhealthy hh).dropped
    have front := Pool.front_topUp q₀
    have hi : q₀.topUp.idle = p.idle := (congrArg Pool.Front.idle front).trans drops.idle
    have hw : q₀.topUp.waiting = p.waiting :=
      (congrArg Pool.Front.waiting front).trans drops.waiting
    refine ⟨.inl (hw ▸ none), hh ▸ parted, ?_, length⟩
    rw [hi, idle]
    simp

/-- Before they were counted, all of them are still to be probed. -/
theorem InTurn.all_eq (h : InTurn all rest found p c) (hf : found = []) (hl : c.left? = none) :
    p.idle.map Member.id = all := by
  have none : c.member? = none := by cases c <;> first | rfl | cases hl
  rw [h.idle, h.parted, hf, none]
  simp

theorem InTurn.turn (h : InTurn all rest found p c) (hc : p.closed = false) (hn : p.isNull = false)
    (hs : ∀ m ∈ c.member?, 0 < p.size) (none : c.left? = none → found = [])
    (hg : c.Goes env p q next) : ∃ rest, InTurn all rest (c.unjudged ++ found) q (after next) := by
  obtain ⟨nobody, parted, idle, length⟩ := h
  cases hg with
  | turnedAway away => simp [hc, hn] at away
  | breaksOff away => simp [hc] at away
  | starts => exact ⟨rest, nobody, parted, idle, nofun⟩
  | counts =>
    refine ⟨rest, nobody, parted, idle, ?_⟩
    rintro left ⟨⟩
    have := congrArg List.length idle
    simpa [none rfl] using this.symm
  | ends => exact ⟨rest, nobody, parted, idle, length⟩
  | picks hi =>
    cases rest with
    | nil => cases length _ rfl
    | cons id rest =>
      rw [hi] at idle
      obtain ⟨hm, idle⟩ := List.cons.inj idle
      exact ⟨rest, nobody, parted.trans (hm ▸ rfl), idle, fun left hl => by
        cases hl
        exact Nat.succ.inj (length _ rfl)⟩
  | runsOut hi =>
    rw [hi] at idle
    obtain ⟨rfl, -⟩ := List.append_eq_nil_iff.1 idle.symm
    cases length _ rfl
  | asks answers | resumes answers =>
    obtain ⟨hl, -, hm, -⟩ := answers.inHand
    refine ⟨rest, nobody, ?_, idle, fun left hleft => length left (hl.symm.trans hleft)⟩
    rw [after_more, hm]
    exact parted
  | @judges left m health =>
    exact ⟨rest, InTurn.judge ⟨nobody, parted, idle, length⟩
      (Pool.judged_judge hc hn (hs m rfl) m health env.now)⟩

end Checking

end SessionPool
