import SessionPool.Session.Dial

/-!
# Dialling candidates

What a dial does, whatever the connector does at each of its calls: answer at once, answer later,
with a session or an error, or never. `Attempt` is how one call may end, `Fails` a row of calls
that failed, one after the other, and `Stage` what a dial has come to: a session of the first
endpoint that accepted, a report on all of them, or a call that is still waiting.

`Connector.dials`: after any number of steps, at whatever moments they were taken, a dial has come
to one of these stages, and it has called the endpoints in their order, each at most once and only
when the one before had failed. Nobody else was called: a stage says what the surroundings are, as
those calls have left them one after the other, with what others did between two steps
(`Env.Passes`). A dial takes no more steps than there are endpoints, and it can always go on unless
a call without a limit gets no answer.

A step may come late. If it comes when the first timer goes off (`OnTime`), an answer counts
exactly if it came within the limit, to the millisecond.
-/

set_option autoImplicit false

namespace SessionPool

namespace Instant

theorem le_ofTick {t : Instant} {n : Nat} : t ≤ ofTick n ↔ t.tick ≤ n := by
  rw [le_iff, ofTick, tick]
  show t.nanos ≤ n * 1000000 ↔ _
  omega

end Instant

/-- Time passes, and others may set timers, ask chance, have to do with the server, and write to the
log. -/
structure Env.Passes (a b : Env) : Prop where
  now : a.now ≤ b.now
  timers : a.timers ≤ b.timers
  draws : a.draws ≤ b.draws
  chance : b.chance = a.chance

namespace ConnectOptions

def limit? (o : ConnectOptions) (now : Instant) : Option Instant :=
  if o.connectTimeout = .zero then none else some (now.after o.connectTimeout)

/-- The timer that cuts an attempt off which is waited for. -/
def cutoff? (o : ConnectOptions) (env : Env) : Option Timer :=
  if o.connectTimeout = .zero then none else some (env.setWait o.connectTimeout).1

/-- The surroundings once that timer was set. -/
def awaiting (o : ConnectOptions) (env : Env) : Env :=
  if o.connectTimeout = .zero then env else (env.setWait o.connectTimeout).2

theorem due_cutoff? (o : ConnectOptions) (env : Env) :
    (o.cutoff? env).map Timer.due = o.limit? env.now := by
  unfold cutoff? limit?
  split <;> rfl

end ConnectOptions

/-- Whether `now` is a millisecond, and not after that at which any of some timers goes off. -/
def OnTime (dues : List Instant) (now : Instant) : Prop :=
  ∃ n, now = .ofTick n ∧ ∀ due ∈ dues, n ≤ due.tick

namespace Dial

theorem isDue_iff {d : Dial} {now : Instant} :
    d.isDue now = true ↔ ∃ t ∈ d.timers, t.due ≤ now := by
  simp [isDue, Timer.isDue]

end Dial

namespace Connector

/-- How far a dial has come by steps at the given moments, each taken when one of its timers had
gone off. Between two steps nothing is done but by others. -/
inductive Comes (c : Connector) (x : Env × Dialed) : List Env → Env × Dialed → Prop
  | here : Comes c x [] x
  | resumed {moments : List Env} {env moment : Env} {d : Dial}
      (before : Comes c x moments (env, .waiting d)) (later : env.Passes moment)
      (due : d.isDue moment.now = true) : Comes c x (moments ++ [moment]) (c.resume moment d)

def call (c : Connector) (o : ConnectOptions) (e : Endpoint) (env : Env) : Env × Call :=
  c.make (env.note .debug "connecting" (Dial.fields e)) o e

/-- How an attempt may end that is begun in `env`. One that is waited for ends in the surroundings
that its call left behind, once others have gone on with them. -/
inductive Attempt (c : Connector) (o : ConnectOptions) (e : Endpoint) (env : Env) :
    List Env → Env × Except SessionError Session → Prop
  | atOnce {env' : Env} {result : Except SessionError Session}
      (made : c.call o e env = (env', .answered result)) : Attempt c o e env [] (env', result)
  | answered {env' moment : Env} {t : Timer} (made : c.call o e env = (env', .waiting (some t)))
      (later : (o.awaiting env').Passes moment) (due : t.due ≤ moment.now)
      (inTime : OnTime (t.due :: (o.limit? env'.now).toList) moment.now →
        ∀ limit ∈ o.limit? env'.now, t.due.tick ≤ limit.tick) :
      Attempt c o e env [moment] (c.answer moment o e)
  | cutOff {env' moment : Env} {answer : Option Timer} {limit : Instant}
      (made : c.call o e env = (env', .waiting answer)) (later : (o.awaiting env').Passes moment)
      (limited : o.limit? env'.now = some limit) (elapsed : limit ≤ moment.now)
      (unanswered : ∀ t ∈ answer, moment.now < t.due)
      (late : OnTime (limit :: answer.toList.map Timer.due) moment.now →
        ∀ t ∈ answer, limit.tick < t.due.tick) :
      Attempt c o e env [moment] (moment, .error .connectTimeout)

/-- Endpoints are tried in turn, and none accepts. -/
inductive Fails (c : Connector) (o : ConnectOptions) (env : Env) :
    List (Endpoint × SessionError) → List Env → Env → Prop
  | nil : Fails c o env [] [] env
  | concat {failed : List (Endpoint × SessionError)} {moments moments' : List Env}
      {env₁ env₂ : Env} {e : Endpoint} {error : SessionError}
      (before : Fails c o env failed moments env₁)
      (attempt : Attempt c o e env₁ moments' (env₂, .error error)) :
      Fails c o env (failed ++ [(e, error)]) (moments ++ moments') (Dial.noteFailure env₂ e error)

def report (failed : List (Endpoint × SessionError)) : List HostFailure :=
  failed.map fun f => ⟨f.1, f.2.message⟩

/-- What a dial has come to that tries the endpoints `order`, beginning in `env`. While it waits,
the surroundings are as its last call has left them, but for the timer of the limit. -/
inductive Stage (c : Connector) (o : ConnectOptions) (order : List Endpoint) (env : Env) :
    List Env → Env × Dialed → Prop
  | accepted {failed : List (Endpoint × SessionError)} {moments moments' : List Env}
      {env₁ env₂ : Env} {e : Endpoint} {rest : List Endpoint} {s : Session}
      (inOrder : order = failed.map Prod.fst ++ e :: rest)
      (before : Fails c o env failed moments env₁)
      (attempt : Attempt c o e env₁ moments' (env₂, .ok s)) :
      Stage c o order env (moments ++ moments') (Dial.noteSuccess env₂ e s, .finished (.ok s))
  | refused {failed : List (Endpoint × SessionError)} {moments : List Env} {env' : Env}
      (inOrder : order = failed.map Prod.fst) (before : Fails c o env failed moments env') :
      Stage c o order env moments (env', .finished (.error (.connect (report failed))))
  | pending {failed : List (Endpoint × SessionError)} {moments : List Env}
      {env₁ env₂ : Env} {e : Endpoint} {rest : List Endpoint} {answer : Option Timer}
      (inOrder : order = failed.map Prod.fst ++ e :: rest)
      (before : Fails c o env failed moments env₁)
      (made : c.call o e env₁ = (env₂, .waiting answer)) :
      Stage c o order env moments
        (o.awaiting env₂, .waiting ⟨o, e, answer, o.cutoff? env₂, rest, report failed⟩)

variable {c : Connector} {o : ConnectOptions} {order : List Endpoint} {env : Env}

theorem report_concat (failed : List (Endpoint × SessionError)) (e : Endpoint)
    (error : SessionError) :
    report (failed ++ [(e, error)]) = report failed ++ [⟨e, error.message⟩] := by
  simp [report]

/-- The rest of the endpoints are tried as far as nobody keeps the dial waiting. -/
theorem stage_tryAll (es : List Endpoint) : ∀ {failed : List (Endpoint × SessionError)}
    {moments : List Env} {env₁ : Env}, order = failed.map Prod.fst ++ es →
    Fails c o env failed moments env₁ →
    Stage c o order env moments (c.tryAll env₁ o (report failed) es) := by
  induction es with
  | nil =>
    intro failed moments env₁ inOrder before
    exact .refused (by simpa using inOrder) before
  | cons e rest ih =>
    intro failed moments env₁ inOrder before
    rw [tryAll]
    cases made : c.call o e env₁ with
    | mk env₂ call =>
      have eq : c.make (env₁.note .debug "connecting" (Dial.fields e)) o e = (env₂, call) := made
      rw [eq]
      cases call with
      | answered result =>
        cases result with
        | ok s => simpa using Stage.accepted inOrder before (.atOnce made)
        | error error =>
          have fails := before.concat (.atOnce made)
          rw [List.append_nil] at fails
          have h := ih (by simp [inOrder]) fails
          rw [report_concat] at h
          exact h
      | waiting answer =>
        have pending := Stage.pending inOrder before made
        unfold ConnectOptions.awaiting ConnectOptions.cutoff? at pending
        dsimp only
        split at pending <;> rename_i hz
        · rw [if_pos hz]
          exact pending
        · rw [if_neg hz]
          exact pending

theorem stage_failed {failed : List (Endpoint × SessionError)} {moments : List Env}
    {env₁ env₂ moment : Env} {e : Endpoint} {rest : List Endpoint} {answer cutoff : Option Timer}
    {error : SessionError} (inOrder : order = failed.map Prod.fst ++ e :: rest)
    (before : Fails c o env failed moments env₁)
    (attempt : Attempt c o e env₁ [moment] (env₂, .error error)) :
    Stage c o order env (moments ++ [moment])
      (c.failed env₂ ⟨o, e, answer, cutoff, rest, report failed⟩ error) := by
  have inOrder : order = (failed ++ [(e, error)]).map Prod.fst ++ rest := by simp [inOrder]
  have h := stage_tryAll rest inOrder (before.concat attempt)
  rw [report_concat] at h
  exact h

/-- **A step of a dial** ends the attempt that it waits for. -/
theorem Stage.resume {moments : List Env} {env' moment : Env} {d : Dial}
    (h : Stage c o order env moments (env', .waiting d)) (later : env'.Passes moment)
    (due : d.isDue moment.now = true) :
    Stage c o order env (moments ++ [moment]) (c.resume moment d) := by
  cases h with
  | @pending failed _ env₁ env₂ e rest answer inOrder before made =>
    have limit := o.due_cutoff? env₂
    generalize o.cutoff? env₂ = cutoff at limit due ⊢
    unfold Connector.resume
    dsimp only
    by_cases ha : answer.any (·.isDue moment.now) = true
    · rw [if_pos ha]
      obtain ⟨t, rfl, ht⟩ := (Option.any_eq_true ..).1 ha
      have ht : t.due ≤ moment.now := by simpa [Timer.isDue] using ht
      have attempt : Attempt c o e env₁ [moment] (c.answer moment o e) := by
        refine .answered made later ht ?_
        rintro ⟨n, hn, hall⟩ l hl
        rw [hn, Instant.le_ofTick] at ht
        have := hall l (List.mem_cons_of_mem _ (Option.mem_toList.2 hl))
        omega
      cases hr : c.answer moment o e with
      | mk env₃ result =>
        rw [hr] at attempt
        cases result with
        | ok s => exact .accepted inOrder before attempt
        | error error => exact stage_failed inOrder before attempt
    · rw [if_neg ha]
      have unanswered : ∀ t ∈ answer, moment.now < t.due := by
        intro t ht
        rw [Option.mem_def.1 ht] at ha
        simpa [Timer.isDue, Instant.le_iff, Instant.lt_iff] using ha
      -- only the limit can be due, as there is no answer yet
      obtain ⟨t, ht, hdue⟩ := Dial.isDue_iff.1 due
      have hc : cutoff = some t := by
        rcases List.mem_append.1 ht with ht | ht
        · have hlt := unanswered t (Option.mem_toList.1 ht)
          rw [Instant.le_iff] at hdue
          rw [Instant.lt_iff] at hlt
          omega
        · exact Option.mem_toList.1 ht
      subst hc
      have elapsed : (some t).any (·.isDue moment.now) = true := by simpa [Timer.isDue] using hdue
      rw [if_pos elapsed]
      refine stage_failed inOrder before (.cutOff made later limit.symm hdue unanswered ?_)
      rintro ⟨n, hn, -⟩ a ha
      have hlt := unanswered a ha
      rw [hn] at hdue hlt
      have h₁ := Instant.le_ofTick.1 hdue
      have h₂ : ¬ a.due.tick ≤ n := by
        rw [← Instant.le_ofTick, Instant.le_iff]
        rw [Instant.lt_iff] at hlt
        omega
      omega

/-! ## How long it takes -/

def remaining : Dialed → Nat
  | .finished _ => 0
  | .waiting d => d.rest.length + 1

theorem remaining_tryAll (env : Env) (failures : List HostFailure) (es : List Endpoint) :
    remaining (c.tryAll env o failures es).2 ≤ es.length := by
  fun_induction c.tryAll env o failures es with
  | case1 => exact Nat.zero_le _
  | case2 => exact Nat.zero_le _
  | case3 env failures e rest env' error made ih => exact Nat.le_succ_of_le ih
  | case4 => exact Nat.le_refl _
  | case5 => exact Nat.le_refl _

theorem remaining_resume {moment : Env} {d : Dial} (due : d.isDue moment.now = true) :
    remaining (c.resume moment d).2 ≤ d.rest.length := by
  unfold resume
  split
  · split
    · exact Nat.zero_le _
    · exact remaining_tryAll _ _ _
  · rename_i ha
    split
    · exact remaining_tryAll _ _ _
    · rename_i hc
      -- a dial is due because of one of its two timers
      obtain ⟨t, ht, hdue⟩ := Dial.isDue_iff.1 due
      rcases List.mem_append.1 ht with ht | ht
      · rw [Option.mem_toList.1 ht] at ha
        exact absurd (decide_eq_true hdue) ha
      · rw [Option.mem_toList.1 ht] at hc
        exact absurd (decide_eq_true hdue) hc

theorem Comes.bounded {x y : Env × Dialed} {moments : List Env} (h : Comes c x moments y) :
    moments.length + remaining y.2 ≤ remaining x.2 := by
  induction h with
  | here => simp
  | resumed before later due ih =>
    rename_i moment d
    have step : remaining (c.resume moment d).2 ≤ d.rest.length := remaining_resume due
    change _ + (d.rest.length + 1) ≤ _ at ih
    rw [List.length_append, List.length_singleton]
    omega

/-- A dial goes on to its end if no call is left without an answer and without a limit. -/
theorem Comes.ends {x y : Env × Dialed} {moments : List Env} (h : Comes c x moments y)
    (timed : ∀ moments env d, Comes c x moments (env, .waiting d) → d.timers ≠ []) :
    ∃ moments' env' result, Comes c x (moments ++ moments') (env', .finished result) := by
  induction hn : remaining y.2 using Nat.strongRecOn generalizing y moments with
  | ind n ih =>
    obtain ⟨env', dialed⟩ := y
    cases dialed with
    | finished result =>
      refine ⟨[], env', result, ?_⟩
      rwa [List.append_nil]
    | waiting d =>
      obtain ⟨t, ht⟩ := List.exists_mem_of_ne_nil _ (timed _ _ _ h)
      -- the timer goes off, if it has not done so already
      let moment : Env := { env' with now := ⟨max env'.now.nanos t.due.nanos⟩ }
      have due : d.isDue moment.now = true := Dial.isDue_iff.2 ⟨t, ht, Nat.le_max_right ..⟩
      have later : env'.Passes moment := ⟨Nat.le_max_left .., Nat.le_refl _, Nat.le_refl _, rfl⟩
      have less : remaining (c.resume moment d).2 < n := by
        have hd : remaining (c.resume moment d).2 ≤ d.rest.length := remaining_resume due
        rw [← hn]
        exact Nat.lt_succ_of_le hd
      have next : Comes c x (moments ++ [moment]) (c.resume moment d) := h.resumed later due
      obtain ⟨moments', rest⟩ := ih _ less next rfl
      refine ⟨moment :: moments', ?_⟩
      simpa using rest

/-! ## The result -/

def tried (o : ConnectOptions) (env : Env) : List Endpoint × Env :=
  match o.hostOrder with
  | .asListed => (o.endpoints, env)
  | .shuffled => env.drawOrder o.endpoints

theorem start_eq (c : Connector) (env : Env) (ho : o.endpoints ≠ []) :
    c.start env o = c.tryAll (tried o env).2 o [] (tried o env).1 := by
  have hn : o.endpoints.isEmpty = false := by simpa using ho
  unfold start tried
  rw [hn]
  cases o.hostOrder <;> rfl

/-- What a dial does that has endpoints to try. -/
structure Dials (c : Connector) (o : ConnectOptions) (env : Env) : Prop where
  order : (tried o env).1.Perm o.endpoints
  asListed : o.hostOrder = .asListed → tried o env = (o.endpoints, env)
  stage : ∀ {moments : List Env} {y : Env × Dialed}, Comes c (c.start env o) moments y →
    Stage c o (tried o env).1 (tried o env).2 moments y
  bounded : ∀ {moments : List Env} {y : Env × Dialed}, Comes c (c.start env o) moments y →
    moments.length ≤ o.endpoints.length
  /-- However far it has come, it can go on to its end. -/
  ends : (o.connectTimeout ≠ .zero ∨ ∀ env e, (c.make env o e).2 ≠ .waiting none) →
    ∀ {moments : List Env} {y : Env × Dialed}, Comes c (c.start env o) moments y →
    ∃ moments' env' result, Comes c (c.start env o) (moments ++ moments') (env', .finished result)

/-- **A dial** without endpoints calls nobody. One with endpoints calls them in their order, or in
the order that was drawn, until one accepts in time. -/
theorem dials (c : Connector) (o : ConnectOptions) (env : Env)
    (shuffles : o.hostOrder = .shuffled →
      (env.chance.order env.draws o.endpoints).Perm o.endpoints) :
    if o.endpoints = [] then
      c.start env o = (env, .finished (.error (.config "no host to connect to")))
    else Dials c o env := by
  split
  · rename_i ho
    simp [start, ho]
  · rename_i ho
    have order : (tried o env).1.Perm o.endpoints := by
      unfold tried
      cases hs : o.hostOrder with
      | asListed => exact .refl _
      | shuffled => exact shuffles hs
    have stage : ∀ {moments : List Env} {y : Env × Dialed}, Comes c (c.start env o) moments y →
        Stage c o (tried o env).1 (tried o env).2 moments y := by
      intro moments y h
      induction h with
      | here =>
        rw [start_eq c env ho]
        exact stage_tryAll (tried o env).1 rfl .nil
      | resumed before later due ih => exact ih.resume later due
    refine ⟨order, ?_, stage, ?_, ?_⟩
    · intro listed
      simp [tried, listed]
    · intro moments y h
      have steps := h.bounded
      have first : remaining (c.start env o).2 ≤ (tried o env).1.length := by
        rw [start_eq c env ho]
        exact remaining_tryAll _ _ _
      rw [order.length_eq] at first
      omega
    · intro timed moments y h
      refine h.ends fun moments env' d hd => ?_
      cases stage hd with
      | @pending _ _ env₁ env₂ e _ answer _ _ made =>
        unfold Dial.timers
        rcases timed with ht | ht
        · simp [ConnectOptions.cutoff?, ht]
        · cases answer with
          | some t => simp
          | none => exact absurd (congrArg Prod.snd made) (ht _ _)

def threeCandidates : ConnectOptions where
  endpoints := [⟨"up", 1⟩, ⟨"silent", 2⟩, ⟨"down", 3⟩]
  connectTimeout := .ofSecs 1
  hostOrder := .shuffled

/-- Of the three endpoints one refuses, one is silent, and they are tried from behind. -/
def fromBehind : Env where
  server := { refusedHosts := ["down"], silentHosts := ["silent"] }
  chance := { Chance.even with order := fun _ es => es.reverse }

theorem dials_fromBehind :
    Dials .server threeCandidates fromBehind ∧
    ∃ env d, Connector.server.start fromBehind threeCandidates = (env, .waiting d) ∧
      d.failures = [⟨⟨"down", 3⟩, "IO error: connection refused"⟩] ∧
      d.endpoint = ⟨"silent", 2⟩ ∧ env.server.attempts = 2 ∧
      ∃ env' s, Connector.server.resume { env with now := .ofTick 1000 } d =
          (env', .finished (.ok s)) ∧ env'.server.attempts = 3 := by
  refine ⟨?_, _, _, rfl, rfl, rfl, rfl, _, _, rfl, rfl⟩
  have h := dials .server threeCandidates fromBehind fun _ => List.reverse_perm _
  rwa [if_neg (by decide)] at h

end Connector

end SessionPool
