import Mathlib.Data.List.Induction
import SessionPool.Proofs.Session

/-!
# The transactions of a session

A `Dialogue` is a session between its client and the server: the client calls it, one call after the
other, and the server may end it at any moment, also while a statement sleeps. What one act does is
said once, for a session that can be used (`Dialogue.goes`) and for one that is closed or lost
(`Dialogue.stands`); the transaction status then goes by a table (`Shift`). From both follows what
holds over a whole course (`Dialogue.abides`): when the status is unknown, what a transaction was
opened by, how a status is left, and that a session that is gone stays as it is.
-/

set_option autoImplicit false

namespace SessionPool

/-- A session as its client and the server have it. -/
structure Dialogue where
  session : Session
  server : Server
  /-- A statement sleeps, and the client waits for its answer. -/
  asleep : Bool := false

namespace Dialogue

inductive Act
  | execute (sql : String)
  | commit
  | rollback
  | autocommit (on : Bool)
  | failNextRollback
  | close
  /-- The statement that sleeps comes to its end. -/
  | wake
  /-- The client does not wait for it any longer. -/
  | abandon
  | terminate (pid : Pid)
  | terminateAll

/-- What the client is told: the number of rows or an error, or nothing yet. -/
abbrev Told := Option (Except SessionError Nat)

def status (d : Dialogue) : Status := d.session.reported d.server

def isLost (d : Dialogue) : Bool := d.server.broken.contains d.session.pid

/-- The session was closed or lost. -/
def isGone (d : Dialogue) : Bool := d.session.closed || d.isLost

def adjust (d : Dialogue) (f : Session → Session) : Dialogue :=
  { d with session := f d.session, asleep := false }

def execute (d : Dialogue) (sql : String) : Dialogue × Told :=
  match d.session.execute d.server sql with
  | (s, .now result) => (d.adjust fun _ => s, some result)
  | (s, .later _) => ({ d with session := s, asleep := true }, none)

def rollback (d : Dialogue) : Dialogue × Told :=
  let (session, server, result) := d.session.rollback d.server
  ({ session, server }, some (result.map fun _ => 0))

def close (d : Dialogue) : Dialogue :=
  let (session, server) := d.session.close d.server
  { session, server }

def wake (d : Dialogue) : Dialogue × Told :=
  if d.asleep then
    let (s, result) := d.session.wake d.server
    (d.adjust fun _ => s, some result)
  else (d, none)

/-- Nobody makes a call while another goes on: whoever calls has given up a statement that slept. -/
def act (d : Dialogue) : Act → Dialogue × Told
  | .execute sql => d.execute sql
  | .commit => d.execute "COMMIT"
  | .rollback => d.rollback
  | .autocommit on => (d.adjust fun s => { s with autocommit := on }, none)
  | .failNextRollback => (d.adjust fun s => { s with failNextRollback := true }, none)
  | .close => (d.close, none)
  | .wake => d.wake
  | .abandon => (d.adjust id, none)
  | .terminate pid => ({ d with server := d.server.terminate pid }, none)
  | .terminateAll => ({ d with server := d.server.terminateAll }, none)

/-- What comes of some acts. -/
def after (d : Dialogue) (acts : List Act) : Dialogue := acts.foldl (fun d a => (d.act a).1) d

/-- A session that was just opened. -/
def opened (pid : Pid) (autocommit : Bool) (server : Server) : Dialogue :=
  { session := { pid, autocommit }, server }

namespace Act

/-- The statement that an act has executed. -/
def sql? : Act → Option (List Char)
  | .execute sql => some (Text.trimmed sql.toList)
  | .commit => some (Text.trimmed "COMMIT".toList)
  | _ => none

/-- An act that ends a transaction: a statement `COMMIT` or `ROLLBACK`, or one of the two calls. -/
def Finishes (a : Act) : Prop := a = .rollback ∨ a.sql?.map Statement.read = some .finish

def IsCall (a : Act) : Prop := a = .rollback ∨ a.sql?.isSome = true

end Act

def Completes (d : Dialogue) (a : Act) : Prop :=
  a.Finishes ∧ ∃ n, (d.act a).2 = some (.ok n)

/-- A statement that is not blank finds the session in a state in which it takes any. -/
def Runs (d : Dialogue) (a : Act) : Prop :=
  ∃ sql, a.sql? = some sql ∧ sql ≠ [] ∧ (d.status = .idle ∨ d.status = .inTransaction)

/-- What opens a transaction: a `BEGIN` that succeeds, or any statement that runs without
autocommit, unless it ends one. -/
def Opens (d : Dialogue) (a : Act) : Prop :=
  (a.sql?.map Statement.read = some .begin ∧ ∃ n, (d.act a).2 = some (.ok n)) ∨
    (d.session.autocommit = false ∧ d.Runs a ∧ ¬ a.Finishes)

/-! ## What a statement does -/

/-- The table by which statements that are carried out change the status. -/
inductive Shift (autocommit : Bool) : Statement → Status → Status → Prop
  | begins (st : Status) : Shift autocommit .begin st .inTransaction
  | finishes (st : Status) : Shift autocommit .finish st .idle
  | copies (st : Status) : Shift autocommit .copy st .active
  | stays {form : Statement} (st : Status) (other : form ≠ .finish) : Shift autocommit form st st
  | opens {form : Statement} (other : form ≠ .finish) (manual : autocommit = false) :
      Shift autocommit form .idle .inTransaction
  | opensSpoilt {form : Statement} (other : form ≠ .finish) (manual : autocommit = false) :
      Shift autocommit form .idle .inError
  | spoils {form : Statement} (other : form ≠ .finish) :
      Shift autocommit form .inTransaction .inError

namespace Shift

variable {autocommit : Bool} {form : Statement} {st st' : Status}

/-- Whoever is in a transaction afterwards has begun one or was in one, or one was opened without
his asking for it. -/
theorem hasTransaction (h : Shift autocommit form st st') (inside : st'.hasTransaction = true) :
    form = .begin ∨
      form ≠ .finish ∧ (st.hasTransaction = true ∨ autocommit = false ∧ st = .idle) := by
  cases h with
  | begins => exact .inl rfl
  | finishes | copies => cases inside
  | stays _ other => exact .inr ⟨other, .inl inside⟩
  | opens other manual | opensSpoilt other manual => exact .inr ⟨other, .inr ⟨manual, rfl⟩⟩
  | spoils other => exact .inr ⟨other, .inl rfl⟩

theorem of_unknown (h : Shift autocommit form st .unknown) : st = .unknown := by
  cases h
  rfl

end Shift

variable {s : Session} {server : Server} {form : Statement}

theorem shift_beginImplicit (other : form ≠ .finish) :
    Shift s.autocommit form s.status s.beginImplicit.status := by
  unfold Session.beginImplicit
  split
  · rename_i manual
    simp only [Bool.and_eq_true, Bool.not_eq_true', decide_eq_true_eq] at manual
    rw [manual.2]
    exact .opens other manual.1
  · exact .stays _ other

theorem shift_spoil (other : form ≠ .finish) :
    Shift s.autocommit form s.status s.beginImplicit.spoil.status := by
  unfold Session.beginImplicit
  split
  · rename_i manual
    simp only [Bool.and_eq_true, Bool.not_eq_true', decide_eq_true_eq] at manual
    rw [manual.2]
    exact .opensSpoilt other manual.1
  · unfold Session.spoil
    split
    · rename_i inside
      rw [inside]
      exact .spoils other
    · exact .stays _ other

theorem shift_perform (s : Session) (sql : List Char) :
    Shift s.autocommit (Statement.read sql) s.status (s.perform sql).1.status := by
  unfold Session.perform
  split <;> rename_i form <;> rw [form]
  · exact .begins _
  · exact .finishes _
  · exact shift_beginImplicit nofun
  · dsimp only
    split
    · exact shift_beginImplicit nofun
    · exact shift_spoil nofun
  · exact shift_beginImplicit nofun
  · exact .copies _
  · split <;> exact .stays _ nofun
  · exact shift_spoil nofun

theorem perform_answers (s : Session) {sql : List Char}
    (h : Statement.read sql = .begin ∨ Statement.read sql = .finish) :
    (s.perform sql).2 = .now (.ok 0) := by
  unfold Session.perform
  rcases h with h | h <;> rw [h]

/-! ## What an act does while the session can be used -/

variable {d : Dialogue} {a : Act}

theorem checkUsable_of_alive (alive : d.isGone = false) :
    d.session.checkUsable d.server = (d.session, .ok ()) := by
  obtain ⟨unclosed, found⟩ : d.session.closed = false ∧ d.isLost = false := by
    simpa [isGone] using alive
  unfold Session.checkUsable
  rw [if_neg (by simp [unclosed]), if_neg (by simpa [isLost] using found)]

theorem status_of_alive (alive : d.isGone = false) : d.status = d.session.status := by
  rw [status, Session.reported, if_neg]
  simpa [isGone, isLost] using alive

theorem status_of_gone (gone : d.isGone = true) : d.status = .unknown := by
  rw [status, Session.reported, if_pos]
  simpa [isGone, isLost] using gone

theorem alive_of_status {st : Status} (h : d.status = st) (known : st ≠ .unknown) :
    d.isGone = false ∧ d.session.status = st := by
  cases gone : d.isGone with
  | true => exact absurd (h.symm.trans (status_of_gone gone)) known
  | false => exact ⟨rfl, (status_of_alive gone).symm.trans h⟩

/-- What an act does to a session that is neither closed nor lost. -/
inductive Goes (d : Dialogue) (a : Act) : Prop
  | stays (same : (d.act a).1.session.status = d.session.status) (unfinished : ¬ d.Completes a)
  | runs {sql : List Char} (does : a.sql? = some sql) (nonblank : sql ≠ [])
      (idle : d.session.status ≠ .active)
      (spoilt : d.session.status = .inError → Statement.read sql = .finish)
      (shift : Shift d.session.autocommit (Statement.read sql) d.session.status
        (d.act a).1.session.status)
      (answers : Statement.read sql = .begin ∨ Statement.read sql = .finish →
        (d.act a).2 = some (.ok 0))
  | rollsBack (is : a = .rollback) (idle : (d.act a).1.session.status = .idle)
      (answers : (d.act a).2 = some (.ok 0))
  | leaves (gone : (d.act a).1.isGone = true)

/-- A session that can be used does nothing about a blank statement, refuses one that finds it busy
or its transaction spoilt, and carries out the rest. -/
theorem execute_cases {text : List Char} (usable : s.checkUsable server = (s, .ok ()))
    (sql : String) (is : Text.trimmed sql.toList = text) :
    (text = [] ∧ s.execute server sql = (s, .now (.ok 0))) ∨
    (∃ e done, s.execute server sql = ({ s with executed := done }, .now (.error e))) ∨
    (text ≠ [] ∧ s.status ≠ .active ∧ (s.status = .inError → Statement.read text = .finish) ∧
      ∃ done, s.execute server sql = ({ s with executed := done }.perform text)) := by
  unfold Session.execute
  rw [usable, is]
  dsimp only
  split
  · rename_i blank
    exact .inl ⟨List.isEmpty_iff.1 blank, rfl⟩
  · rename_i nonblank
    split
    · exact .inr (.inl ⟨_, _, rfl⟩)
    · rename_i idle
      split
      · exact .inr (.inl ⟨_, _, rfl⟩)
      · rename_i accepts
        rw [not_and, not_not] at accepts
        exact .inr (.inr ⟨by simpa using nonblank, idle, accepts, _, rfl⟩)

theorem goes_execute {sql : String} (alive : d.isGone = false)
    (statement : a.sql? = some (Text.trimmed sql.toList)) (does : d.act a = d.execute sql) :
    d.Goes a := by
  have called : a ≠ .rollback := by
    rintro rfl
    cases statement
  have usable := checkUsable_of_alive alive
  rcases execute_cases usable sql rfl with
    ⟨blank, h⟩ | ⟨e, done, h⟩ | ⟨nonblank, idle, spoilt, done, h⟩
  · refine .stays ?_ ?_
    · rw [does, execute, h]
      rfl
    · rintro ⟨is | is, -⟩
      · exact called is
      · rw [statement, blank] at is
        revert is
        decide
  · refine .stays ?_ ?_
    · rw [does, execute, h]
      rfl
    · rintro ⟨-, n, answer⟩
      rw [does, execute, h] at answer
      cases answer
  · have shift := shift_perform { d.session with executed := done } (Text.trimmed sql.toList)
    refine .runs statement nonblank idle spoilt ?_ ?_
    · rw [does, execute, h]
      split <;> rename_i performs <;> rw [performs] at shift <;> exact shift
    · intro form
      have answer := perform_answers { d.session with executed := done } form
      rw [does, execute, h]
      split <;> rename_i performs <;> rw [performs] at answer <;> cases answer
      rfl

theorem goes_rollback (alive : d.isGone = false) : d.Goes .rollback := by
  have usable := checkUsable_of_alive alive
  by_cases fails : d.session.failNextRollback = true
  · refine .leaves ?_
    simp [act, rollback, Session.rollback, usable, fails, isGone, isLost, Server.breakSession]
  · refine .rollsBack rfl ?_ ?_
    · simp [act, rollback, Session.rollback, usable, fails]
    · simp [act, rollback, Session.rollback, usable, fails, Except.map]

theorem goes_wake (alive : d.isGone = false) : d.Goes .wake := by
  have usable := checkUsable_of_alive alive
  refine .stays ?_ ?_
  · rw [act, wake, Session.wake, usable]
    split <;> rfl
  · rintro ⟨is | is, -⟩ <;> cases is

/-- **One act**, while the session can be used. -/
theorem goes (alive : d.isGone = false) (a : Act) : d.Goes a := by
  have other {a : Act} (same : (d.act a).1.session.status = d.session.status)
      (quiet : (d.act a).2 = none) : d.Goes a := by
    refine .stays same ?_
    rintro ⟨-, n, answer⟩
    rw [quiet] at answer
    cases answer
  cases a with
  | execute sql => exact goes_execute alive rfl rfl
  | commit => exact goes_execute alive rfl rfl
  | rollback => exact goes_rollback alive
  | wake => exact goes_wake alive
  | autocommit | failNextRollback | abandon | terminate | terminateAll => exact other rfl rfl
  | close =>
    refine .leaves ?_
    rw [act, close, Session.close]
    cases closed : d.session.closed with
    | true => simp [isGone, closed]
    | false => rfl

/-! ## What an act does to a session that is gone -/

theorem checkUsable_of_gone (gone : d.isGone = true) :
    ∃ st e, d.session.checkUsable d.server = ({ d.session with status := st }, .error e) := by
  unfold Session.checkUsable
  by_cases closed : d.session.closed = true
  · exact ⟨d.session.status, .closed, if_pos closed⟩
  · have lost : d.isLost = true := by simpa [isGone, closed] using gone
    exact ⟨.unknown, .lost, (if_neg closed).trans (if_pos lost)⟩

/-- An act leaves a session that is gone as it is, and nobody is told that it has succeeded. -/
structure Stands (d : Dialogue) (a : Act) : Prop where
  gone : (d.act a).1.isGone = true
  executed : (d.act a).1.session.executed = d.session.executed
  settings : (d.act a).1.session.settings = d.session.settings
  refused : a.IsCall → ∃ e, (d.act a).2 = some (.error e)
  vain : ∀ n, (d.act a).2 ≠ some (.ok n)

theorem stands_of_refused (gone : d.isGone = true) {st : Status} {e : SessionError}
    (told : d.act a = (d.adjust fun s => { s with status := st }, some (.error e))) :
    d.Stands a := by
  refine ⟨?_, ?_, ?_, fun _ => ⟨e, ?_⟩, fun n => ?_⟩ <;> rw [told]
  · exact gone
  · rfl
  · rfl
  · simp

theorem stands_execute {sql : String} (gone : d.isGone = true) (does : d.act a = d.execute sql) :
    d.Stands a := by
  obtain ⟨st, e, refused⟩ := checkUsable_of_gone gone
  have told : d.act a = (d.adjust fun s => { s with status := st }, some (.error e)) := by
    rw [does, execute, Session.execute, refused]
    rfl
  exact stands_of_refused gone told

theorem stands_rollback (gone : d.isGone = true) : d.Stands .rollback := by
  obtain ⟨st, e, refused⟩ := checkUsable_of_gone gone
  have told : d.act .rollback = (d.adjust fun s => { s with status := st }, some (.error e)) := by
    rw [act, rollback, Session.rollback, refused]
    rfl
  exact stands_of_refused gone told

theorem stands_of_quiet (called : ¬ a.IsCall) (told : (d.act a).2 = none)
    (gone : (d.act a).1.isGone = true) (same : (d.act a).1.session.executed = d.session.executed ∧
      (d.act a).1.session.settings = d.session.settings) : d.Stands a where
  gone := gone
  executed := same.1
  settings := same.2
  refused := fun call => absurd call called
  vain := fun n => by rw [told]; simp

/-- A statement that sleeps while its session is lost fails. -/
theorem stands_wake (gone : d.isGone = true) : d.Stands .wake := by
  obtain ⟨st, e, refused⟩ := checkUsable_of_gone gone
  cases asleep : d.asleep with
  | true =>
    have told : d.act .wake = (d.adjust fun s => { s with status := st }, some (.error e)) := by
      rw [act, wake, if_pos asleep, Session.wake, refused]
      rfl
    exact stands_of_refused gone told
  | false =>
    have told : d.act .wake = (d, none) := by
      rw [act, wake, if_neg (by simp [asleep])]
    have called : ¬ Act.IsCall .wake := by rintro (is | is) <;> cases is
    exact stands_of_quiet called (by rw [told]) (by rw [told]; exact gone) (by rw [told]; simp)

theorem stands_close (d : Dialogue) : d.Stands .close := by
  have called : ¬ Act.IsCall .close := by rintro (is | is) <;> cases is
  have told : (d.act .close).1 = d.close := rfl
  cases closed : d.session.closed with
  | true =>
    have same : d.close = { session := d.session, server := d.server } := by
      rw [close, Session.close, if_pos closed]
    refine stands_of_quiet called rfl ?_ ?_ <;> rw [told, same]
    · rw [isGone, closed, Bool.true_or]
    · exact ⟨rfl, rfl⟩
  | false =>
    have shut : d.close.session = { d.session with closed := true, status := .unknown } := by
      rw [close, Session.close, if_neg (by simp [closed])]
    refine stands_of_quiet called rfl ?_ ?_ <;> rw [told]
    · rw [isGone, shut, Bool.true_or]
    · rw [shut]
      exact ⟨rfl, rfl⟩

/-- **One act**, once the session is gone. -/
theorem stands (gone : d.isGone = true) (a : Act) : d.Stands a := by
  have lost {server : Server} (kept : d.server.broken ⊆ server.broken) :
      ({ d with server } : Dialogue).isGone = true := by
    simp only [isGone, isLost, Bool.or_eq_true, List.contains_iff_mem] at gone ⊢
    exact gone.imp_right fun found => kept found
  cases a with
  | execute sql => exact stands_execute gone rfl
  | commit => exact stands_execute gone rfl
  | rollback => exact stands_rollback gone
  | wake => exact stands_wake gone
  | close => exact stands_close d
  | autocommit | failNextRollback | abandon =>
    exact stands_of_quiet (by rintro (is | is) <;> cases is) rfl gone ⟨rfl, rfl⟩
  | terminate pid =>
    have kept := (d.server.rests_terminate pid).broken
    exact stands_of_quiet (by rintro (is | is) <;> cases is) rfl (lost kept) ⟨rfl, rfl⟩
  | terminateAll =>
    have kept : d.server.broken ⊆ d.server.terminateAll.broken := List.subset_append_left _ _
    exact stands_of_quiet (by rintro (is | is) <;> cases is) rfl (lost kept) ⟨rfl, rfl⟩

/-! ## How a session is left -/

theorem session_execute (d : Dialogue) (sql : String) :
    (d.execute sql).1.session = (d.session.execute d.server sql).1 := by
  unfold execute
  split <;> rename_i h <;> rw [h]
  rfl

/-- Whatever does not have the server close a session leaves it open. -/
theorem closed_of_turns {server' : Server} {s' : Session} (h : Session.Turns server s server' s')
    (same : server'.closings = server.closings) : s'.closed = s.closed := by
  have due : s'.due = s.due := by
    have settles := h.settles
    rw [same] at settles
    exact add_left_cancel settles
  unfold Session.due at due
  cases hs : s.closed <;> cases hs' : s'.closed <;> simp_all

theorem closings_rollback (s : Session) (server : Server) :
    (s.rollback server).2.1.closings = server.closings := by
  unfold Session.rollback
  split
  · rfl
  · split <;> rfl

/-- Only its client closes a session. -/
theorem closed_act (d : Dialogue) (other : a ≠ .close) :
    (d.act a).1.session.closed = d.session.closed := by
  have statement (sql : String) : (d.execute sql).1.session.closed = d.session.closed := by
    rw [session_execute]
    exact closed_of_turns (Session.turns_execute ..) rfl
  cases a with
  | execute sql => exact statement sql
  | commit => exact statement "COMMIT"
  | rollback => exact closed_of_turns (Session.turns_rollback ..) (closings_rollback ..)
  | close => exact absurd rfl other
  | wake =>
    rw [act, wake]
    split
    · exact closed_of_turns (Session.turns_wake d.server d.session) rfl
    · rfl
  | autocommit | failNextRollback | abandon | terminate | terminateAll => rfl

theorem leaves_by (alive : d.isGone = false) (gone : (d.act a).1.isGone = true) :
    a = .close ∨ (d.act a).1.isLost = true := by
  by_cases is : a = .close
  · exact .inl is
  · have unclosed : d.session.closed = false := by
      rw [isGone, Bool.or_eq_false_iff] at alive
      exact alive.1
    rw [isGone, closed_act d is, unclosed, Bool.false_or] at gone
    exact .inr gone

theorem finishes_iff {sql : List Char} (does : a.sql? = some sql) :
    a.Finishes ↔ Statement.read sql = .finish := by
  constructor
  · rintro (rfl | is)
    · cases does
    · rw [does] at is
      exact Option.some.inj is
  · intro is
    refine .inr ?_
    rw [does, Option.map_some, is]

theorem status_of_reported (h : (d.act a).1.status.hasTransaction = true) :
    d.isGone = false ∧ (d.act a).1.isGone = false ∧
      (d.act a).1.status = (d.act a).1.session.status := by
  have alive' : (d.act a).1.isGone = false := by
    cases gone : (d.act a).1.isGone with
    | true =>
      rw [status_of_gone gone] at h
      cases h
    | false => rfl
  refine ⟨?_, alive', status_of_alive alive'⟩
  cases gone : d.isGone with
  | true => exact absurd (stands gone a).gone (by simp [alive'])
  | false => rfl

/-- A transaction was open before and not ended, or it is the act that opens it. -/
theorem open_act (h : (d.act a).1.status.hasTransaction = true) :
    (d.status.hasTransaction = true ∧ ¬ d.Completes a) ∨ d.Opens a := by
  obtain ⟨alive, alive', reported⟩ := status_of_reported h
  rw [reported] at h
  have before : d.status = d.session.status := status_of_alive alive
  cases goes alive a with
  | stays same unfinished =>
    rw [before, ← same]
    exact .inl ⟨h, unfinished⟩
  | rollsBack is idle answers =>
    rw [idle] at h
    cases h
  | leaves gone =>
    rw [gone] at alive'
    cases alive'
  | @runs sql does nonblank idle spoilt shift answers =>
    rw [before]
    rcases shift.hasTransaction h with begins | ⟨other, inside | ⟨manual, out⟩⟩
    · refine .inr (.inl ⟨?_, 0, answers (.inl begins)⟩)
      rw [does, Option.map_some, begins]
    · exact .inl ⟨inside, fun done => finishes_iff does |>.not.2 other done.1⟩
    · refine .inr (.inr ⟨manual, ⟨sql, does, nonblank, .inl (before.trans out)⟩, ?_⟩)
      exact (finishes_iff does).not.2 other

/-- What is not gone leaves a spoilt transaction by ending it. -/
theorem inError_act (h : d.status = .inError) (h' : (d.act a).1.status ≠ .inError) :
    d.Completes a ∨ a = .close ∨ (d.act a).1.isLost = true := by
  obtain ⟨alive, spoilt⟩ := alive_of_status h nofun
  cases gone : (d.act a).1.isGone with
  | true => exact .inr (leaves_by alive gone)
  | false =>
    rw [status_of_alive gone] at h'
    refine .inl ?_
    cases goes alive a with
    | stays same unfinished => exact absurd (same.trans spoilt) h'
    | runs does nonblank idle accepts shift answers =>
      have form := accepts spoilt
      exact ⟨(finishes_iff does).2 form, 0, answers (.inr form)⟩
    | rollsBack is idle answers => exact ⟨.inl is, 0, answers⟩
    | leaves gone' =>
      rw [gone] at gone'
      cases gone'

/-- A transfer that goes on is left by the call to roll back, and by no statement. -/
theorem active_act (h : d.status = .active) (h' : (d.act a).1.status ≠ .active) :
    a = .rollback ∨ a = .close ∨ (d.act a).1.isLost = true := by
  obtain ⟨alive, busy⟩ := alive_of_status h nofun
  cases gone : (d.act a).1.isGone with
  | true => exact .inr (leaves_by alive gone)
  | false =>
    rw [status_of_alive gone] at h'
    cases goes alive a with
    | stays same unfinished => exact absurd (same.trans busy) h'
    | runs does nonblank idle => exact absurd busy idle
    | rollsBack is => exact .inl is
    | leaves gone' =>
      rw [gone] at gone'
      cases gone'

/-- The session does not know its status only if it is gone. -/
def Knows (d : Dialogue) : Prop := d.session.status = .unknown → d.isGone = true

theorem Knows.act (h : d.Knows) (a : Act) : (d.act a).1.Knows := by
  intro unknown
  cases gone : d.isGone with
  | true => exact (stands gone a).gone
  | false =>
    have known : d.session.status ≠ .unknown := by
      intro unknown
      have gone' := h unknown
      rw [gone] at gone'
      cases gone'
    cases goes gone a with
    | stays same unfinished => exact absurd (same.symm.trans unknown) known
    | runs does nonblank idle spoilt shift =>
      rw [unknown] at shift
      exact absurd shift.of_unknown known
    | rollsBack is idle =>
      rw [idle] at unknown
      cases unknown
    | leaves gone => exact gone

/-! ## What holds over a whole course -/

variable {start : Dialogue} {acts : List Act}

theorem after_append (d : Dialogue) (acts more : List Act) :
    d.after (acts ++ more) = (d.after acts).after more := List.foldl_append ..

theorem after_concat (d : Dialogue) (acts : List Act) (a : Act) :
    d.after (acts ++ [a]) = ((d.after acts).act a).1 := after_append d acts [a]

/-- Among the acts one has opened a transaction, and none has ended one since. -/
def InTransaction (start : Dialogue) (acts : List Act) : Prop :=
  ∃ front a back, acts = front ++ a :: back ∧ (start.after front).Opens a ∧
    ∀ mid b rest, back = mid ++ b :: rest → ¬ (start.after (front ++ a :: mid)).Completes b

theorem InTransaction.opens (h : (start.after acts).Opens a) :
    start.InTransaction (acts ++ [a]) :=
  ⟨acts, a, [], rfl, h, fun mid b rest split => by simp at split⟩

theorem InTransaction.concat (h : start.InTransaction acts)
    (goesOn : ¬ (start.after acts).Completes a) : start.InTransaction (acts ++ [a]) := by
  obtain ⟨front, x, back, rfl, opens, since⟩ := h
  refine ⟨front, x, back ++ [a], by simp, opens, ?_⟩
  intro mid b rest split
  rcases List.eq_nil_or_concat' rest with rfl | ⟨rest, y, rfl⟩
  · obtain ⟨rfl, last⟩ := List.append_inj' split rfl
    cases last
    exact goesOn
  · rw [← List.cons_append, ← List.append_assoc] at split
    exact since mid b rest (List.append_inj' split rfl).1

theorem InTransaction.of_status (h : (start.after []).status.hasTransaction = false)
    (acts : List Act) (now : (start.after acts).status.hasTransaction = true) :
    start.InTransaction acts := by
  induction acts using List.reverseRecOn with
  | nil =>
    rw [h] at now
    cases now
  | append_singleton acts a ih =>
    rw [after_concat] at now
    rcases open_act now with ⟨before, goesOn⟩ | opens
    · exact (ih before).concat goesOn
    · exact .opens opens

theorem Knows.after (h : d.Knows) (acts : List Act) : (d.after acts).Knows := by
  induction acts generalizing d with
  | nil => exact h
  | cons a acts ih => exact ih (h.act a)

/-- Once it is gone, a session stays as it is. -/
structure Rests (d d' : Dialogue) : Prop where
  gone : d'.isGone = true
  executed : d'.session.executed = d.session.executed
  settings : d'.session.settings = d.session.settings

theorem rests_after (gone : d.isGone = true) (acts : List Act) : d.Rests (d.after acts) := by
  induction acts generalizing d with
  | nil => exact ⟨gone, rfl, rfl⟩
  | cons a acts ih =>
    have one := stands gone a
    have rest := ih one.gone
    exact ⟨rest.gone, rest.executed.trans one.executed, rest.settings.trans one.settings⟩

/-- What is said of a session after some acts, and of what may be done next. -/
structure Abides (start : Dialogue) (acts : List Act) : Prop where
  unknown : (start.after acts).status = .unknown ↔ (start.after acts).isGone = true
  opened : (start.after acts).status.hasTransaction = true → start.InTransaction acts
  inError : ∀ a, (start.after acts).status = .inError →
    (start.after (acts ++ [a])).status ≠ .inError →
    (start.after acts).Completes a ∨ a = .close ∨ (start.after (acts ++ [a])).isLost = true
  active : ∀ a, (start.after acts).status = .active →
    (start.after (acts ++ [a])).status ≠ .active →
    a = .rollback ∨ a = .close ∨ (start.after (acts ++ [a])).isLost = true
  /-- No call succeeds any more, whatever comes in between, and no statement that sleeps. -/
  gone : (start.after acts).isGone = true → ∀ more,
    (start.after acts).Rests (start.after (acts ++ more)) ∧
    ∀ a, (a.IsCall → ∃ e, ((start.after (acts ++ more)).act a).2 = some (.error e)) ∧
      ∀ n, ((start.after (acts ++ more)).act a).2 ≠ some (.ok n)

/-- **The transactions of a session**, from when it was opened, whatever its client and the server
do and in whatever order. -/
theorem abides (pid : Pid) (autocommit : Bool) (server : Server) (acts : List Act) :
    Abides (Dialogue.opened pid autocommit server) acts := by
  have knows : ((Dialogue.opened pid autocommit server).after acts).Knows :=
    Knows.after (d := Dialogue.opened pid autocommit server) nofun acts
  have idle : (Dialogue.opened pid autocommit server).status.hasTransaction = false := by
    unfold status Session.reported
    split <;> rfl
  exact {
    unknown := by
      constructor
      · intro unknown
        cases gone : ((Dialogue.opened pid autocommit server).after acts).isGone with
        | true => rfl
        | false =>
          rw [status_of_alive gone] at unknown
          exact gone.symm.trans (knows unknown)
      · exact status_of_gone
    opened := InTransaction.of_status idle acts
    inError := fun a h h' => by
      rw [after_concat] at h' ⊢
      exact inError_act h h'
    active := fun a h h' => by
      rw [after_concat] at h' ⊢
      exact active_act h h'
    gone := fun gone more => by
      rw [after_append]
      have rests := rests_after gone more
      exact ⟨rests, fun a => ⟨(stands rests.gone a).refused, (stands rests.gone a).vain⟩⟩ }

/-- A statement that is refused spoils the transaction that the one before it has opened, and one
that sleeps when the server ends the session fails. -/
example :
    let server : Server := ({} : Server).openSession
    let spoilt := (opened 1000 false server).after [.execute "select 1", .execute "wat"]
    let lost := spoilt.after [.execute " commit ", .execute "sleep 5", .terminateAll]
    (spoilt.status, (spoilt.act .commit).1.status, lost.asleep, (lost.act .wake).2, lost.status) =
      (.inError, .idle, true, some (.error .lost), .unknown) := by
  decide

end Dialogue

end SessionPool
