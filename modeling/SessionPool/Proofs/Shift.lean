import SessionPool.Proofs.Turn

/-!
# Shifts

A shift is what a crew goes through from the moment when it is hired: tasks are dispatched and
ticked, workers look for them, run them and come to the end of them, and at last somebody stops the
crew, waits for everybody on its list and disposes of what nobody took (`Shift.act`). What tasks are
is left open: a run may take as long as it likes and dispatch what it likes at any time, and so may
a disposal.

Everybody may be interrupted by everybody else wherever two of them can be at work at the same time.
Whoever dispatches a task first looks whether the crew was stopped and then sends it; a member of
the crew first looks whether it has to leave and then goes on with its step; a worker that has taken
a task has not started to run it yet. A shift is whole if nobody was interrupted at these places, so
that each dispatch, each tick and each step of a worker was done in one piece (`Shift.Worked`).
-/

set_option autoImplicit false

namespace SessionPool

inductive ShiftEvent (τ : Type)
  | accepted (task : τ)
  | givenBack (task : τ)
  | taken (worker : Nat) (task : τ)
  /-- The run of a task starts. -/
  | started (worker : Nat) (task : τ)
  | finished (worker : Nat)
  | stopped
  /-- The disposal of a task that nobody took starts. -/
  | discarded (task : τ)
  | ended
deriving DecidableEq, Repr

namespace ShiftEvent

variable {τ : Type}

@[simp] def accepted? : ShiftEvent τ → Option τ
  | accepted t => some t
  | givenBack _ | taken _ _ | started _ _ | finished _ | stopped | discarded _ | ended => none

@[simp] def taken? : ShiftEvent τ → Option τ
  | taken _ t => some t
  | accepted _ | givenBack _ | started _ _ | finished _ | stopped | discarded _ | ended => none

@[simp] def started? : ShiftEvent τ → Option τ
  | started _ t => some t
  | accepted _ | givenBack _ | taken _ _ | finished _ | stopped | discarded _ | ended => none

@[simp] def discarded? : ShiftEvent τ → Option τ
  | discarded t => some t
  | accepted _ | givenBack _ | taken _ _ | started _ _ | finished _ | stopped | ended => none

@[simp] def isTake (k : Nat) : ShiftEvent τ → Bool
  | taken j _ => j = k
  | accepted _ | givenBack _ | started _ _ | finished _ | stopped | discarded _ | ended => false

@[simp] def isStart (k : Nat) : ShiftEvent τ → Bool
  | started j _ => j = k
  | accepted _ | givenBack _ | taken _ _ | finished _ | stopped | discarded _ | ended => false

@[simp] def isFinish (k : Nat) : ShiftEvent τ → Bool
  | finished j => j = k
  | accepted _ | givenBack _ | taken _ _ | started _ _ | stopped | discarded _ | ended => false

end ShiftEvent

namespace Crew

variable {τ : Type} {c c' : Crew τ}

def isBusy (c : Crew τ) : Hand → Bool
  | .worker k => c.workers[k]? = some .busy
  | .ticker _ => false

/-- It makes no difference whether the crew has been stopped since somebody looked. -/
theorem GoesOn.regardless (h : c.unstopped.GoesOn c') :
    c.GoesOn { c' with stopped := c.stopped } where
  left := h.left
  hands := h.hands
  stopped := rfl
  crowd := h.crowd

end Crew

/-- How far whoever ends a shift has come. -/
inductive ShiftEnding
  /-- Nobody has begun to end it. -/
  | pending
  /-- These members of the crew are waited for, one after the other. -/
  | joining (hands : List Hand)
  | draining
  /-- A task is being disposed of. -/
  | disposing
  | ended
deriving DecidableEq, Repr

structure Shift (τ : Type) where
  crew : Crew τ
  /-- Tasks of dispatchers that have found the crew at work and have not sent them yet. -/
  entrants : List τ := []
  /-- Members of the crew in a step in which they have not found that they have to leave. -/
  begun : List Hand := []
  /-- Tasks that workers have taken and not started to run. -/
  inHand : List (Nat × τ) := []
  ending : ShiftEnding := .pending
  /-- What has happened, the latest last. -/
  log : List (ShiftEvent τ) := []
deriving DecidableEq, Repr

/-- What may happen next in a shift. -/
inductive ShiftAct (τ : Type)
  /-- Somebody who wants to dispatch a task looks at the crew: a user, a run, a disposal. -/
  | look (task : τ)
  | send (entrant : Nat)
  /-- A member of the crew that is not busy looks whether it has to leave. -/
  | begin (hand : Hand)
  /-- A worker looks for a task. -/
  | seek (worker : Nat)
  | tick (env : Env) (ticker : Nat) (task : τ)
  | start (worker : Nat)
  | finish (worker : Nat)
  /-- The crew is stopped, and nobody waits for it. -/
  | cancel
  /-- Somebody begins to end the shift. -/
  | shutDown
  /-- Whoever ends the shift goes on with that. -/
  | close

/-- Whether the act goes on with a dispatch, a tick or a step of a worker. -/
def ShiftAct.continues {τ : Type} : ShiftAct τ → Bool
  | send _ | seek _ | tick _ _ _ | start _ => true
  | look _ | begin _ | finish _ | cancel | shutDown | close => false

namespace Shift

variable {τ : Type}

def accepted (s : Shift τ) : List τ := s.log.filterMap ShiftEvent.accepted?

def taken (s : Shift τ) : List τ := s.log.filterMap ShiftEvent.taken?

def started (s : Shift τ) : List τ := s.log.filterMap ShiftEvent.started?

def discarded (s : Shift τ) : List τ := s.log.filterMap ShiftEvent.discarded?

/-- Whether somebody is in the middle of a dispatch, a tick or a step of a worker. -/
def isMidway (s : Shift τ) : Bool :=
  !s.entrants.isEmpty || !s.begun.isEmpty || !s.inHand.isEmpty

def hire (env : Env) (workers : Nat) (period : Duration) : Shift τ where
  crew := (Crew.hire env {} workers period).2

def look (s : Shift τ) (t : τ) : Shift τ :=
  if s.crew.stopped then { s with log := s.log ++ [.givenBack t] }
  else { s with entrants := s.entrants ++ [t] }

def send (s : Shift τ) (i : Nat) : Option (Shift τ) :=
  s.entrants[i]?.map fun t => { s with
    crew := s.crew.send t
    entrants := s.entrants.eraseIdx i
    log := s.log ++ [.accepted t] }

/-- A member of a crew that is at work begins a step. -/
def begin (s : Shift τ) (hand : Hand) : Option (Shift τ) :=
  if s.crew.stopped ∨ hand ∈ s.begun ∨ s.crew.isBusy hand then none
  else some { s with begun := s.begun ++ [hand] }

/-- A worker looks for a task, in a step that it has begun or, if the crew was stopped, to leave. -/
def seek (s : Shift τ) (k : Nat) : Option (Shift τ) :=
  if .worker k ∈ s.begun then
    let begun := s.begun.erase (.worker k)
    match s.crew.unstopped.seek k true with
    | none => some { s with begun }
    | some (crew, none) => some { s with crew := { crew with stopped := s.crew.stopped }, begun }
    | some (crew, some t) => some { s with
        crew := { crew with stopped := s.crew.stopped }
        begun
        inHand := s.inHand ++ [(k, t)]
        log := s.log ++ [.taken k t] }
  else if s.crew.stopped then (s.crew.seek k true).map fun (crew, _) => { s with crew }
  else none

def tick (s : Shift τ) (env : Env) (j : Nat) (t : τ) : Option (Shift τ) :=
  if .ticker j ∈ s.begun then
    let begun := s.begun.erase (.ticker j)
    match s.crew.unstopped.tick env j t with
    | none => some { s with begun }
    | some (_, crew) => some { s with
        crew := { crew with stopped := s.crew.stopped }
        begun
        log := s.log ++ (crew.tasks.drop s.crew.tasks.length).map .accepted }
  else if s.crew.stopped then (s.crew.tick env j t).map fun (_, crew) => { s with crew }
  else none

def start (s : Shift τ) (k : Nat) : Option (Shift τ) :=
  (Table.get? s.inHand k).map fun t => { s with
    inHand := Table.remove s.inHand k
    log := s.log ++ [.started k t] }

def goOn (s : Shift τ) : Option (Shift τ) :=
  match s.ending with
  | .pending | .ended => none
  | .joining (h :: hands) =>
    if s.crew.hasLeft h then some { s with ending := .joining hands } else none
  | .joining [] => some { s with ending := .draining }
  | .draining =>
    match s.crew.collect with
    | some (t, crew) =>
      some { s with crew, ending := .disposing, log := s.log ++ [.discarded t] }
    | none => some { s with ending := .ended, log := s.log ++ [.ended] }
  | .disposing => some { s with ending := .draining }

/-- What comes of an act; there is nothing if it cannot be done. -/
def act (s : Shift τ) : ShiftAct τ → Option (Shift τ)
  | .look t => some (s.look t)
  | .send i => s.send i
  | .begin hand => s.begin hand
  | .seek k => s.seek k
  | .tick env j t => s.tick env j t
  | .start k => s.start k
  | .finish k =>
    if s.crew.isBusy (.worker k) ∧ Table.get? s.inHand k = none then
      some { s with crew := s.crew.finish k, log := s.log ++ [.finished k] }
    else none
  | .cancel => some { s with crew := s.crew.stop, log := s.log ++ [.stopped] }
  | .shutDown =>
    if s.ending = .pending then
      some { s with
        crew := s.crew.stop.releaseHands.1
        ending := .joining s.crew.hands
        log := s.log ++ [.stopped] }
    else none
  | .close => s.goOn

/-- The shifts that a crew may work. A shift is `whole` if nobody was interrupted in the middle of
a dispatch, a tick or a step of a worker. -/
inductive Worked : Bool → Shift τ → Prop
  | hired (env : Env) (workers : Nat) (period : Duration) : Worked true (hire env workers period)
  | acted {whole : Bool} {s s' : Shift τ} {a : ShiftAct τ} (h : Worked whole s)
      (ha : s.act a = some s') : Worked (whole && (!s.isMidway || a.continues)) s'

variable {whole : Bool} {s s' : Shift τ} {a : ShiftAct τ}

/-! ## What an act does -/

def SameBusy (c c' : Crew τ) : Prop := ∀ hand, c'.isBusy hand = c.isBusy hand

/-- What an act does to those who work in the shift, and what is written down about it. -/
inductive Acted (s : Shift τ) : ShiftAct τ → Shift τ → Prop
  | gaveBack {t : τ} (hs : s.crew.stopped = true) :
      Acted s (.look t) { s with log := s.log ++ [.givenBack t] }
  | looked {t : τ} (hs : s.crew.stopped = false) :
      Acted s (.look t) { s with entrants := s.entrants ++ [t] }
  | sent {i : Nat} {t : τ} (he : s.entrants[i]? = some t) : Acted s (.send i) { s with
      crew := s.crew.send t
      entrants := s.entrants.eraseIdx i
      log := s.log ++ [.accepted t] }
  | began {hand : Hand} (hs : s.crew.stopped = false) :
      Acted s (.begin hand) { s with begun := s.begun ++ [hand] }
  /-- A member of the crew finds nothing to do, or leaves. -/
  | waited {a : ShiftAct τ} {c : Crew τ} {begun : List Hand} (hb : begun.Sublist s.begun)
      (hc : s.crew.GoesOn c) (hw : SameBusy s.crew c) (ht : c.tasks = s.crew.tasks) :
      Acted s a { s with crew := c, begun }
  | took {k : Nat} {t : τ} {c : Crew τ} (hb : .worker k ∈ s.begun)
      (hl : s.crew.hasLeft (.worker k) = false) (hn : s.crew.isBusy (.worker k) = false)
      (hc : s.crew.GoesOn c)
      (hw : ∀ hand, c.isBusy hand = (s.crew.isBusy hand || decide (hand = .worker k)))
      (ht : s.crew.tasks = t :: c.tasks) : Acted s (.seek k) { s with
        crew := c
        begun := s.begun.erase (.worker k)
        inHand := s.inHand ++ [(k, t)]
        log := s.log ++ [.taken k t] }
  | ticked {env : Env} {j : Nat} {t : τ} {c : Crew τ} (hb : .ticker j ∈ s.begun)
      (hl : s.crew.hasLeft (.ticker j) = false) (hc : s.crew.GoesOn c) (hw : SameBusy s.crew c)
      (ht : c.tasks = s.crew.tasks ++ [t]) : Acted s (.tick env j t) { s with
        crew := c
        begun := s.begun.erase (.ticker j)
        log := s.log ++ [.accepted t] }
  | started {k : Nat} {t : τ} (hi : Table.get? s.inHand k = some t) : Acted s (.start k) { s with
      inHand := Table.remove s.inHand k
      log := s.log ++ [.started k t] }
  | finished {k : Nat} (hb : s.crew.workers[k]? = some .busy)
      (hi : Table.get? s.inHand k = none) :
      Acted s (.finish k) { s with crew := s.crew.finish k, log := s.log ++ [.finished k] }
  | cancelled : Acted s .cancel { s with crew := s.crew.stop, log := s.log ++ [.stopped] }
  | shutDown (he : s.ending = .pending) : Acted s .shutDown { s with
      crew := s.crew.stop.releaseHands.1
      ending := .joining s.crew.hands
      log := s.log ++ [.stopped] }
  /-- One on the list has left. -/
  | joined {hand : Hand} {hands : List Hand} (he : s.ending = .joining (hand :: hands))
      (hl : s.crew.hasLeft hand = true) : Acted s .close { s with ending := .joining hands }
  /-- All on the list have left. -/
  | gathered (he : s.ending = .joining []) : Acted s .close { s with ending := .draining }
  | discarded {t : τ} {rest : List τ} (he : s.ending = .draining) (ht : s.crew.tasks = t :: rest) :
      Acted s .close { s with
        crew := { s.crew with tasks := rest }
        ending := .disposing
        log := s.log ++ [.discarded t] }
  | disposed (he : s.ending = .disposing) : Acted s .close { s with ending := .draining }
  | ended (he : s.ending = .draining) (ht : s.crew.tasks = []) :
      Acted s .close { s with ending := .ended, log := s.log ++ [.ended] }

theorem sameBusy_of_workers {c c' : Crew τ} (h : c'.workers = c.workers) : SameBusy c c' := by
  intro hand
  cases hand with
  | worker k => rw [Crew.isBusy, Crew.isBusy, h]
  | ticker j => rfl

theorem isBusy_seek {c c' : Crew τ} {k : Nat} {o : Option τ} (h : c.seek k true = some (c', o)) :
    c.hasLeft (.worker k) = false ∧ c.isBusy (.worker k) = false ∧
      ∀ hand, c'.isBusy hand = (c.isBusy hand || (o.isSome && decide (hand = .worker k))) := by
  obtain ⟨⟨b, hb, hne, hg⟩, ⟨d, hw, hd⟩, -, -⟩ := Crew.assigns_seek h
  refine ⟨by simp [Crew.hasLeft, hb, hg], by simp [Crew.isBusy, hb, hne], fun hand => ?_⟩
  cases hand with
  | ticker j => simp [Crew.isBusy]
  | worker i =>
    rw [Crew.isBusy, Crew.isBusy, hw]
    by_cases hi : i = k
    · subst hi
      rw [Crew.duty_set_self (by simp [hb]), hb]
      simp [hne, hd]
    · rw [List.getElem?_set_ne (Ne.symm hi)]
      simp [hi]

theorem acted_seek {k : Nat} (h : s.seek k = some s') : s.Acted (.seek k) s' := by
  unfold seek at h
  dsimp only at h
  split at h
  · rename_i hb
    have fewer : (s.begun.erase (.worker k)).Sublist s.begun := List.erase_sublist
    split at h
    · cases h
      exact .waited fewer (Crew.Lasts.refl _).goesOn (fun _ => rfl) rfl
    · rename_i c hs
      cases h
      obtain ⟨-, -, busy⟩ := isBusy_seek hs
      exact .waited fewer (Crew.goesOn_seek hs).regardless
        (fun hand => (busy hand).trans (by simp; rfl)) (Crew.seek_cases hs).2.symm
    · rename_i c t hs
      cases h
      obtain ⟨left, idle, busy⟩ := isBusy_seek hs
      exact .took hb left idle (Crew.goesOn_seek hs).regardless
        (fun hand => (busy hand).trans (by simp; rfl)) (Crew.seek_cases hs).2
  · split at h
    · rename_i hs
      obtain ⟨⟨c, o⟩, hk, he⟩ := Option.map_eq_some_iff.1 h
      cases he
      cases o with
      | none =>
        obtain ⟨-, -, busy⟩ := isBusy_seek hk
        exact .waited (List.Sublist.refl _) (Crew.goesOn_seek hk)
          (fun hand => (busy hand).trans (by simp)) (Crew.seek_cases hk).2.symm
      | some t => cases hs.symm.trans (Crew.stopped_of_seek hk)
    · cases h

theorem hasLeft_of_tick {c c' : Crew τ} {env env' : Env} {j : Nat} {t : τ}
    (h : c.tick env j t = some (env', c')) : c.hasLeft (.ticker j) = false := by
  unfold Crew.tick at h
  dsimp only at h
  split at h
  · rename_i hj
    simp [Crew.hasLeft, hj]
  · rename_i hj
    simp [Crew.hasLeft, hj]
  all_goals cases h

theorem acted_tick {env : Env} {j : Nat} {t : τ} (h : s.tick env j t = some s') :
    s.Acted (.tick env j t) s' := by
  unfold tick at h
  dsimp only at h
  split at h
  · rename_i hb
    have fewer : (s.begun.erase (.ticker j)).Sublist s.begun := List.erase_sublist
    split at h
    · cases h
      exact .waited fewer (Crew.Lasts.refl _).goesOn (fun _ => rfl) rfl
    · rename_i env' c hs
      cases h
      obtain ⟨goesOn, workers⟩ := Crew.goesOn_tick hs
      have same : SameBusy s.crew { c with stopped := s.crew.stopped } :=
        sameBusy_of_workers workers
      have left : s.crew.unstopped.hasLeft (.ticker j) = false := hasLeft_of_tick hs
      obtain ⟨-, -, -, hc | hc⟩ := Crew.tick_cases hs
      · have none : c.tasks.drop s.crew.tasks.length = [] := by simp [hc, Crew.unstopped]
        rw [none, List.map_nil, List.append_nil]
        exact .waited fewer goesOn.regardless same hc
      · have one : c.tasks.drop s.crew.tasks.length = [t] := by simp [hc, Crew.unstopped]
        rw [one]
        exact .ticked hb left goesOn.regardless same hc
  · split at h
    · rename_i hs
      obtain ⟨⟨env', c⟩, hk, he⟩ := Option.map_eq_some_iff.1 h
      cases he
      obtain ⟨goesOn, workers⟩ := Crew.goesOn_tick hk
      exact .waited (List.Sublist.refl _) goesOn (sameBusy_of_workers workers)
        (Crew.tasks_tick hs hk)
    · cases h

/-- **What an act does.** -/
theorem acted (h : s.act a = some s') : s.Acted a s' := by
  cases a with
  | look t =>
    cases h
    unfold look
    split
    · rename_i hs
      exact .gaveBack hs
    · rename_i hs
      exact .looked (by simpa using hs)
  | send i =>
    obtain ⟨t, ht, rfl⟩ := Option.map_eq_some_iff.1 h
    exact .sent ht
  | begin hand =>
    simp only [act, begin, Option.ite_none_left_eq_some, Option.some.injEq, not_or] at h
    obtain ⟨⟨hs, -⟩, rfl⟩ := h
    exact .began (by simpa using hs)
  | seek k => exact acted_seek h
  | tick env j t => exact acted_tick h
  | start k =>
    obtain ⟨t, ht, rfl⟩ := Option.map_eq_some_iff.1 h
    exact .started ht
  | finish k =>
    simp only [act, Option.ite_none_right_eq_some, Option.some.injEq] at h
    obtain ⟨⟨hb, hi⟩, rfl⟩ := h
    exact .finished (by simpa [Crew.isBusy] using hb) hi
  | cancel =>
    cases h
    exact .cancelled
  | shutDown =>
    simp only [act, Option.ite_none_right_eq_some, Option.some.injEq] at h
    obtain ⟨he, rfl⟩ := h
    exact .shutDown he
  | close =>
    simp only [act, goOn] at h
    split at h
    · cases h
    · cases h
    · rename_i he
      simp only [Option.ite_none_right_eq_some, Option.some.injEq] at h
      obtain ⟨hl, rfl⟩ := h
      exact .joined he hl
    · rename_i he
      cases h
      exact .gathered he
    · rename_i he
      split at h
      · rename_i t c hc
        obtain ⟨rest, ht, rfl⟩ := Crew.collect_eq hc
        cases h
        exact .discarded he ht
      · rename_i hc
        cases h
        exact .ended he (Crew.collect_none hc)
    · rename_i he
      cases h
      exact .disposed he

end Shift

end SessionPool
