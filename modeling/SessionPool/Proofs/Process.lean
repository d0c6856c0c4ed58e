import SessionPool.Process.Operation
import SessionPool.Process.Job
import SessionPool.Proofs.Clock
import SessionPool.Proofs.Upkeep

/-!
# Steps of processes

A step of a process is lawful (`Lawful`): it leaves the clock alone, and what it does to the pool
is a row of entries that turns the stake of the process into that of what comes next. Every step
of every job and of every operation is lawful, and so is giving an operation up.
-/

set_option autoImplicit false

namespace SessionPool

def Next.stake {π ρ : Type} (f : π → Stake) (g : ρ → Stake) : Next π ρ → Stake
  | more x => f x
  | done r => g r

/-- A party with `a` in hand turns the pool `p` into `q` and has `b` in hand after it. -/
structure Lawful (env : Env) (p : Pool) (a : Stake) (env' : Env) (q : Pool) (b : Stake) : Prop where
  now : env'.now = env.now
  row : p.Row env.now a q b

namespace Lawful

variable {env env' : Env} {p q r : Pool} {a b c k : Stake}

theorem of (h : Pool.Entries env.now .changing p a q b) (hn : env'.now = env.now) :
    Lawful env p a env' q b := ⟨hn, .changing h⟩

theorem idle (hn : env'.now = env.now) : Lawful env p a env' p a := .of .refl hn

theorem after (h : Lawful env q b env' r c) (e : ∀ l, Pool.Entries env.now l p a q b) :
    Lawful env p a env' r c := ⟨h.now, h.row.after e⟩

/-- A step after which something changes that the books do not show. -/
theorem andAside (h : Lawful env p a env' q b) (hb : r.books = q.books)
    (hm : r.maxSize = q.maxSize) : Lawful env p a env' r b :=
  ⟨h.now, h.row.before fun _ => (Pool.Entries.aside hb hm).along⟩

theorem gain (h : Lawful env p 0 env' q b) : Lawful env p k env' q (k + b) := ⟨h.now, h.row.gain⟩

end Lawful

/-- A step of a process with `a` in hand; `f` and `g` say what the next process and the result have
in hand. -/
def Stepped.IsLawful {π ρ : Type} (env : Env) (p : Pool) (a : Stake) (f : π → Stake)
    (g : ρ → Stake) (s : Stepped π ρ) : Prop :=
  Lawful env p a s.1 s.2.1 (s.2.2.stake f g)

open Pool.Entries (aside count)

variable {env env' : Env} {p q : Pool}

/-! ## Opening a session -/

namespace Opening

def opened : Opened → Stake
  | .ok (m, _) => .ofSpare [m]
  | .error _ => 0

theorem lawful_accept (hn : env'.now = env.now) (began : Instant) (s : Session) :
    Stepped.IsLawful env p 0 (fun _ => 0) opened (accept env' p began s) := by
  have hl : (lifetime env' p).1.now = env'.now := by
    unfold lifetime
    split <;> rfl
  exact .of (Pool.Entry.number rfl).entries (hl.trans hn)

/-- A session that was configured is given a number, or it is closed. -/
theorem lawful_afterConfigure (began : Instant) (x : Env × Session × Progress)
    (hn : x.1.now = env.now) :
    Stepped.IsLawful env p 0 (fun _ => 0) opened (afterConfigure p began x) := by
  obtain ⟨env', s, progress⟩ := x
  cases progress with
  | paused pause => exact .idle hn
  | finished result =>
    cases result with
    | error e => exact .idle hn
    | ok _ =>
      unfold afterConfigure
      dsimp only
      split
      · exact lawful_accept hn began s
      · exact .idle hn

theorem lawful_afterDial (began : Instant) (x : Env × Dialed) (hn : x.1.now = env.now) :
    Stepped.IsLawful env p 0 (fun _ => 0) opened (afterDial p began x) := by
  obtain ⟨env', dialed⟩ := x
  cases dialed with
  | waiting dial => exact .idle hn
  | finished result =>
    cases result with
    | error e => exact .idle hn
    | ok s =>
      refine Lawful.after (lawful_afterConfigure began _ ((Script.now_run env' s _).trans hn))
        fun l => ?_
      exact aside rfl rfl

theorem lawful {o : Opening} {s : Stepped Opening Opened} (h : o.step env p = some s) :
    Stepped.IsLawful env p 0 (fun _ => 0) opened s := by
  cases o with
  | fresh =>
    cases h
    exact lawful_afterDial _ _ (Dial.now_start env p.options)
  | dialing began dial =>
    simp only [step, Option.ite_none_right_eq_some, Option.some.injEq] at h
    obtain ⟨-, rfl⟩ := h
    exact lawful_afterDial _ _ (Dial.now_resume env dial)
  | configuring began s pause =>
    simp only [step, Option.ite_none_right_eq_some, Option.some.injEq] at h
    obtain ⟨-, rfl⟩ := h
    exact lawful_afterConfigure _ _ (Script.now_resume env s pause)

end Opening

/-! ## Adding a member -/

namespace Adding

theorem lawful_fail (a : Adding) (e : SessionError) :
    Stepped.IsLawful env p .room stake (fun _ => 0) (a.fail env p e) := by
  have counted (l : Pool.Line) : Pool.Entries env.now l p .room p.countFailedOpening .room :=
    (count _).along
  unfold fail
  dsimp only
  split
  · exact Lawful.after (.idle rfl) counted
  · split
    · exact Lawful.after (.idle rfl) counted
    · exact Lawful.after (.idle rfl) counted

theorem lawful {a : Adding} {s : Stepped Adding Unit} (h : a.step env p = some s) :
    Stepped.IsLawful env p a.stake stake (fun _ => 0) s := by
  obtain ⟨waiter, attempt, delay, phase⟩ := a
  cases phase with
  | opening o =>
    simp only [step] at h
    split at h
    · cases h
      exact .idle rfl
    · obtain ⟨⟨env', q, next⟩, ho, rfl⟩ := Option.map_eq_some_iff.1 h
      have hl : Lawful env p .room env' q _ := (Opening.lawful ho).gain
      rcases next with o | (e | ⟨m, elapsed⟩) <;> exact hl
  | joining m elapsed =>
    cases h
    exact ⟨rfl, .join elapsed⟩
  | failing e =>
    cases h
    exact lawful_fail _ e
  | resting timer =>
    simp only [step] at h
    split at h
    · cases h
      exact .idle rfl
    · obtain ⟨-, rfl⟩ := by simpa using h
      exact .idle rfl
  | releasing e =>
    cases h
    exact .of (.releaseRoom waiter e) rfl

end Adding

/-! ## Taking a member back -/

namespace Returning

theorem lawful_afterReset (m : Member) (x : Env × Session × Progress) (hn : x.1.now = env.now) :
    Stepped.IsLawful env p (.ofCounted [m]) stake (fun _ => 0) (afterReset p m x) := by
  obtain ⟨env', s, progress⟩ := x
  cases progress with
  | paused pause => exact .idle hn
  | finished result =>
    cases result with
    | error e => exact .idle hn
    | ok _ =>
      unfold afterReset
      dsimp only
      split
      · exact .idle hn
      · exact .idle hn

theorem lawful_runReset (m : Member) (hn : env'.now = env.now) :
    Stepped.IsLawful env p (.ofCounted [m]) stake (fun _ => 0) (runReset env' p m) := by
  refine Lawful.after (lawful_afterReset m _ ((Script.now_run env' m.session _).trans hn))
    fun l => Pool.Entries.along ?_
  exact aside rfl rfl

theorem lawful_reset (m : Member) :
    Stepped.IsLawful env p (.ofCounted [m]) stake (fun _ => 0) (reset env p m) := by
  have rolled : Stepped.IsLawful env p (.ofCounted [m]) stake (fun _ => 0) (rollBack env p m) := by
    unfold rollBack
    dsimp only
    split
    · rename_i s server _
      exact lawful_runReset (p := p) { m with session := s } rfl
    · exact .idle rfl
  unfold reset
  split
  · exact .idle rfl
  · split
    · exact .idle rfl
    · split
      · exact lawful_runReset m rfl
      · exact rolled
      · exact rolled
      · exact .idle rfl
      · exact .idle rfl

theorem lawful_settle (m : Member) (f : Fitness) :
    Stepped.IsLawful env p (.ofCounted [m]) stake (fun _ => 0) (settle env p m f) := by
  have hn : (settle env p m f).1.now = env.now := by
    unfold settle
    dsimp only
    split <;> rfl
  have hs : (settle env p m f).2 = (p.settle m (settle env p m f).1.now f, .done ()) := rfl
  rw [Stepped.IsLawful, hs, hn]
  exact ⟨hn, .settle f⟩

theorem lawful {r : Returning} {s : Stepped Returning Unit} (h : r.step env p = some s) :
    Stepped.IsLawful env p r.stake stake (fun _ => 0) s := by
  cases r with
  | arriving m =>
    have hr : Pool.Entries env.now .changing p (.ofCounted [m]) _ _ := .receive env.server
    simp only [step] at h
    split at h
    · rename_i hm
      cases h
      rw [hm] at hr
      exact .of hr rfl
    · rename_i hm
      cases h
      rw [hm] at hr
      exact .of hr rfl
  | closing m =>
    cases h
    exact .of (Pool.Entry.lose [m]).entries rfl
  | resetting m =>
    cases h
    exact lawful_reset m
  | paused m pause =>
    simp only [step, Option.ite_none_right_eq_some, Option.some.injEq] at h
    obtain ⟨-, rfl⟩ := h
    exact lawful_afterReset m _ (Script.now_resume env m.session pause)
  | settling m f =>
    cases h
    exact lawful_settle m f

end Returning

/-! ## Acquiring a session -/

namespace Acquiring

variable {a : Stake}

theorem lawful_refuse (h : Pool.Entries env.now .changing p a q 0) (hn : env'.now = env.now)
    (e : PoolError) : Stepped.IsLawful env p a stake Stake.won (refuse env' q e) := by
  unfold refuse
  split
  · exact .of h hn
  · exact .of h hn

/-- A request takes along what it has won. -/
theorem lawful_conclude {x : Pool × Acquired}
    (h : Pool.Entries env.now .changing p a x.1 (.won x.2)) (hn : env'.now = env.now) :
    Stepped.IsLawful env p a stake Stake.won (conclude env' x) := by
  obtain ⟨q, e | m⟩ := x
  · exact lawful_refuse h hn e
  · exact .of h hn

theorem lawful_arrive (timeout : Duration) :
    Stepped.IsLawful env p 0 stake Stake.won (arrive env p timeout) := by
  have hc : Pool.Entries env.now .changing p 0 _ _ := .checkout timeout
  have hn : (p.noteExpired env (p.spoiledByCheckout env.now)).now = env.now := by simp
  unfold arrive
  dsimp only
  split <;> rename_i hm <;> rw [hn] at hm <;> rw [hm] at hc
  · exact .of hc hn
  · exact .of hc hn
  · exact .of hc hn
  · exact lawful_refuse hc hn _

theorem lawful_afterOpening {resume : Opening → Env → Env × Acquiring}
    (hr : ∀ o env, (resume o env).1.now = env.now ∧ (resume o env).2.stake = .room)
    {x : Stepped Opening Opened} (h : Stepped.IsLawful env p 0 (fun _ => 0) Opening.opened x) :
    Stepped.IsLawful env p .room stake Stake.won (afterOpening resume x) := by
  obtain ⟨env', q, next⟩ := x
  have hl : Lawful env p .room env' q _ := Lawful.gain h
  rcases next with o | (e | ⟨m, elapsed⟩)
  · obtain ⟨hn, hs⟩ := hr o env'
    have : Stepped.IsLawful env p .room stake Stake.won
        ((resume o env').1, q, .more (resume o env').2) := by
      rw [Stepped.IsLawful, Next.stake, hs]
      exact ⟨hn.trans hl.now, hl.row⟩
    exact this
  · exact hl
  · exact hl

theorem lawful {a : Acquiring} {s : Stepped Acquiring Acquired} (hq : p.waiting.Sound)
    (h : a.step env p = some s) : Stepped.IsLawful env p a.stake stake Stake.won s := by
  cases a with
  | arriving timeout =>
    cases h
    exact lawful_arrive timeout
  | queued ticket cutoff timeout =>
    simp only [step] at h
    split at h
    · rename_i result hr
      cases h
      have hc : Pool.Entries env.now .changing p (.ticket ticket) _ _ :=
        .collectReply (hq.not_waiting_of_reply hr) hr
      exact lawful_conclude hc rfl
    · rename_i hr
      split at h
      · rename_i hw
        cases h
        have hc : Pool.Entries env.now .changing p (.ticket ticket) _ 0 :=
          .collectReply_of_none (by simpa using hw) hr
        exact lawful_refuse hc rfl _
      · simp only [Option.ite_none_right_eq_some, Option.some.injEq] at h
        obtain ⟨-, rfl⟩ := h
        exact .idle rfl
  | givingUp ticket timeout =>
    cases h
    exact lawful_conclude (.giveUp ticket timeout) rfl
  | calling deadline timeout =>
    simp only [step] at h
    obtain ⟨x, ho, rfl⟩ := Option.map_eq_some_iff.1 h
    exact lawful_afterOpening (fun o env => ⟨rfl, rfl⟩) (Opening.lawful ho)
  | dialing o cutoff timeout =>
    simp only [step] at h
    split at h
    · rename_i x ho
      cases h
      exact lawful_afterOpening (fun o env => ⟨rfl, rfl⟩) (Opening.lawful ho)
    · simp only [Option.ite_none_right_eq_some, Option.some.injEq] at h
      obtain ⟨-, rfl⟩ := h
      exact .idle rfl
  | takingOver m elapsed =>
    cases h
    exact lawful_conclude (.takeOver elapsed) rfl
  | countingFailure e =>
    cases h
    exact .of (q := p.countFailedOpening) (count _).along rfl
  | vacating e =>
    cases h
    exact .of .vacateRoom rfl
  | failing e =>
    cases h
    exact .of (q := p.countFailure) (count _) rfl

theorem lawful_cancel {a : Acquiring} (h : (Operation.acquire a).isSuspended = true) :
    Lawful env p a.stake (a.cancel env p).1 (a.cancel env p).2 0 := by
  cases a with
  | queued ticket cutoff timeout =>
    have hn : ((queued ticket cutoff timeout).cancel env p).1.now = env.now := by
      unfold cancel
      dsimp only
      split <;> rfl
    have hs : ((queued ticket cutoff timeout).cancel env p).2 =
        p.abandon ticket ((queued ticket cutoff timeout).cancel env p).1.now := rfl
    rw [hs, hn]
    exact ⟨hn, .abandon ticket⟩
  | dialing o cutoff timeout => exact .of .vacateRoom rfl
  | arriving timeout => exact .idle rfl
  | givingUp _ _ | calling _ _ | takingOver _ _ | countingFailure _ | vacating _ | failing _ =>
    cases h

end Acquiring

/-! ## Probing the unused members -/

namespace Checking

theorem lawful_afterProbe (left : Nat) (m : Member) (x : Env × Session × Progress)
    (hn : x.1.now = env.now) :
    Stepped.IsLawful env p (.ofCounted [m]) stake (fun _ => 0) (afterProbe p left m x) := by
  obtain ⟨env', s, progress⟩ := x
  rcases progress with (e | ⟨⟨⟩⟩) | pause
  · exact .idle hn
  · exact .idle hn
  · exact .idle hn

theorem lawful {c : Checking} {s : Stepped Checking (Except PoolError Unit)}
    (h : c.step env p = some s) : Stepped.IsLawful env p c.stake stake (fun _ => 0) s := by
  cases c with
  | starting =>
    simp only [step] at h
    split at h
    · cases h
      exact .idle rfl
    · split at h
      · cases h
        exact .idle rfl
      · cases h
        exact .idle rfl
  | counting =>
    cases h
    exact .idle rfl
  | picking left =>
    cases left with
    | zero =>
      cases h
      exact .idle rfl
    | succ left =>
      have hc : Pool.Entries env.now .changing p 0 _ _ := .pickProbe
      simp only [step] at h
      split at h <;> rename_i hm <;> cases h <;> rw [hm] at hc <;> exact .of hc rfl
  | probing left m =>
    cases h
    refine Lawful.after (lawful_afterProbe left m _ (Script.now_run env m.session _))
      fun l => Pool.Entries.along ?_
    exact aside rfl rfl
  | paused left m pause =>
    simp only [step, Option.ite_none_right_eq_some, Option.some.injEq] at h
    obtain ⟨-, rfl⟩ := h
    exact lawful_afterProbe left m _ (Script.now_resume env m.session pause)
  | judging left m health =>
    cases h
    have hn : (judge env p left m health).1.now = env.now := by
      unfold judge
      dsimp only
      split <;> rfl
    have hs : (judge env p left m health).2 =
        (p.judge m health (judge env p left m health).1.now, .more (.picking left)) := rfl
    rw [Stepped.IsLawful, hs, hn]
    exact ⟨hn, .judge health⟩

end Checking

/-! ## Closing the pool -/

namespace Closing

theorem lawful_start : Stepped.IsLawful env p 0 stake (fun _ => 0) (start env p) := by
  unfold start
  split
  · exact .idle rfl
  · refine .of .shut ?_
    dsimp only
    split <;> rfl

theorem lawful_drain (disposed : Nat) (idle : List Member) :
    Stepped.IsLawful env p (.ofSpare idle) stake (fun _ => 0) (drain env p disposed idle) := by
  unfold drain
  split
  · rename_i t crew hc
    obtain ⟨ht, -⟩ := Crew.collect_some hc
    refine .of (((Pool.Entry.takeTask ht).entries.trans (.dispose t)).along) ?_
    dsimp only
    split <;> rfl
  · refine .idle ?_
    dsimp only
    split <;> rfl

theorem lawful {c : Closing} {s : Stepped Closing Unit} (h : c.step env p = some s) :
    Stepped.IsLawful env p c.stake stake (fun _ => 0) s := by
  cases c with
  | starting =>
    cases h
    exact lawful_start
  | stopping idle =>
    cases h
    refine .of (Pool.Entries.along ?_) rfl
    exact aside rfl rfl
  | joining hands idle =>
    cases hands with
    | nil =>
      cases h
      exact .idle rfl
    | cons hand hands =>
      simp only [step, Option.ite_none_right_eq_some, Option.some.injEq] at h
      obtain ⟨-, rfl⟩ := h
      exact .idle rfl
  | draining disposed idle =>
    cases h
    exact lawful_drain disposed idle
  | emptying idle =>
    cases idle with
    | nil =>
      cases h
      exact .idle rfl
    | cons m idle =>
      cases h
      have hc : Pool.Entries env.now .changing p (.ofSpare [m] + .ofSpare idle) p _ :=
        (Pool.Entry.lose [m]).entries.spend
      rw [← Stake.ofSpare_cons] at hc
      exact .of hc rfl

end Closing

/-! ## Jobs and operations -/

/-- A step of a process as a step of a larger one. -/
theorem Stepped.IsLawful.map {π π' ρ ρ' : Type} {a : Stake} {f : π → Stake} {g : ρ → Stake}
    {f' : π' → Stake} {g' : ρ' → Stake} {F : π → π'} {G : ρ → ρ'} {env' : Env} {next : Next π ρ}
    (h : Stepped.IsLawful env p a f g (env', q, next)) (hf : ∀ x, f' (F x) = f x)
    (hg : ∀ r, g' (G r) = g r) : Stepped.IsLawful env p a f' g' (env', q, next.map F G) := by
  have : (next.map F G).stake f' g' = next.stake f g := by
    cases next with
    | more x => exact hf x
    | done r => exact hg r
  exact ⟨h.now, this ▸ h.row⟩

theorem Waiting.lawful {w : Waiting} {s : Stepped Waiting (Except PoolError Unit)}
    (h : w.step env p = some s) :
    Stepped.IsLawful env p 0 (fun _ => 0) (fun _ => 0) s := by
  cases w with
  | starting timeout =>
    simp only [step] at h
    split at h <;> cases h <;> exact .idle rfl
  | waiting cutoff timeout =>
    simp only [step] at h
    split at h
    · cases h
      exact .idle rfl
    · split at h
      · cases h
        exact .idle rfl
      · simp only [Option.ite_none_right_eq_some, Option.some.injEq] at h
        obtain ⟨-, rfl⟩ := h
        exact .idle rfl

namespace Job

theorem stake_start (t : Task Member) : (start p t).stake = .ofTask t := by
  cases t with
  | add waiter => exact add_zero _
  | restore m => exact add_zero _
  | close m => rfl
  | maintain => rfl

theorem lawful {j : Job} {s : Stepped Job Unit} (h : j.step env p = some s) :
    Stepped.IsLawful env p j.stake stake (fun _ => 0) s := by
  cases j with
  | adding a =>
    obtain ⟨⟨env', q, next⟩, ha, rfl⟩ := Option.map_eq_some_iff.1 h
    exact (Adding.lawful ha).map (fun _ => rfl) fun _ => rfl
  | returning r =>
    obtain ⟨⟨env', q, next⟩, hr, rfl⟩ := Option.map_eq_some_iff.1 h
    exact (Returning.lawful hr).map (fun _ => rfl) fun _ => rfl
  | closing m =>
    cases h
    exact .of (Pool.Entry.lose [m]).entries rfl
  | maintaining =>
    cases h
    exact .of .maintain rfl

end Job

def Outcome.stake : Outcome → Stake
  | served m => .ofCounted [m]
  | done | failed _ => 0

namespace Operation

theorem lawful {o : Operation} {s : Stepped Operation Outcome} (hq : p.waiting.Sound)
    (h : o.step env p = some s) : Stepped.IsLawful env p o.stake stake Outcome.stake s := by
  have done (x : Except PoolError Unit) : (Outcome.ofResult x).stake = 0 := by cases x <;> rfl
  have won (x : Acquired) : (Outcome.ofAcquired x).stake = .won x := by cases x <;> rfl
  cases o with
  | acquire a =>
    obtain ⟨⟨env', q, next⟩, ha, rfl⟩ := Option.map_eq_some_iff.1 h
    exact (Acquiring.lawful hq ha).map (fun _ => rfl) won
  | release r =>
    obtain ⟨⟨env', q, next⟩, hr, rfl⟩ := Option.map_eq_some_iff.1 h
    exact (Returning.lawful hr).map (fun _ => rfl) fun _ => rfl
  | misplace m =>
    cases h
    exact .of .returnLater rfl
  | wait w =>
    obtain ⟨⟨env', q, next⟩, hw, rfl⟩ := Option.map_eq_some_iff.1 h
    exact (Waiting.lawful hw).map (fun _ => rfl) done
  | check c =>
    obtain ⟨⟨env', q, next⟩, hc, rfl⟩ := Option.map_eq_some_iff.1 h
    exact (Checking.lawful hc).map (fun _ => rfl) done
  | close c =>
    obtain ⟨⟨env', q, next⟩, hc, rfl⟩ := Option.map_eq_some_iff.1 h
    exact (Closing.lawful hc).map (fun _ => rfl) fun _ => rfl

/-- An operation is given up while it is suspended. -/
theorem lawful_cancel {o : Operation} (h : o.isSuspended = true) :
    Lawful env p o.stake (o.cancel env p).1 (o.cancel env p).2 0 := by
  cases o with
  | acquire a => exact Acquiring.lawful_cancel h
  | release r =>
    cases r with
    | arriving m => exact .of .returnLater rfl
    | paused m pause => exact .of .breakOff rfl
    | closing _ | resetting _ | settling _ _ => cases h
  | misplace m => exact .of .returnLater rfl
  | wait w => exact .idle rfl
  | check c =>
    cases c with
    | starting => exact .idle rfl
    | paused left m pause => exact .of .breakOff rfl
    | counting | picking _ | probing _ _ | judging _ _ _ => cases h
  | close c =>
    cases c with
    | starting => exact .idle rfl
    | joining hands idle => exact .of (Pool.Entry.lose idle).entries rfl
    | stopping _ | draining _ _ | emptying _ => cases h

end Operation

end SessionPool
