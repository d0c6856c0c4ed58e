import SessionPool.Process.Connecting

/-!
# What attempts to connect do to the server

An attempt is counted when it is made. It is answered later or never, and may open a session then,
which gets the next number. `Server.Admits` says what becomes of the books of the server while
attempts are made, answered and given up: sessions are only added, each of them is paid for by an
attempt, and an attempt that waits for its answer is paid for already. All that a dial does is of
this kind, however many candidates it tries (`Dial.admits_start`, `Dial.admits_resume`), and so is
every step of whoever opens a session outside a pool (`Connecting.admits_step`).
-/

set_option autoImplicit false

namespace SessionPool

/-- The session that came of an attempt, if one did. -/
def openedWith : Except SessionError Session → List Session
  | .ok s => [s]
  | .error _ => []

namespace Server

/-- The server went on from `a` to `b`, and the sessions `new` were opened meanwhile. Answers to `k`
attempts were waited for before, and answers to `k'` are waited for now. -/
structure Admits (a : Server) (k : Nat) (b : Server) (k' : Nat) (new : List Session) : Prop where
  nextPid : b.nextPid = a.nextPid + new.length
  opened : b.opened = a.opened + new.length
  numbers : new.map (·.pid) = List.range' a.nextPid new.length
  unclosed : ∀ s ∈ new, s.closed = false
  live : b.live = a.live ++ new.map (·.pid)
  broken : b.broken = a.broken
  closings : b.closings = a.closings
  attempts : a.attempts + new.length + k' ≤ b.attempts + k

namespace Admits

variable {a b c : Server} {k k' k'' : Nat} {new new' : List Session}

/-- Attempts may be counted and the orders of the server change; nothing is opened, and nothing
becomes of the sessions. -/
theorem of_eq
    (h : b = { a with
      attempts := b.attempts
      connectDelay := b.connectDelay
      failNext := b.failNext
      refuseAll := b.refuseAll
      refusedHosts := b.refusedHosts
      silentHosts := b.silentHosts })
    (attempts : a.attempts + k' ≤ b.attempts + k) : Admits a k b k' [] := by
  rw [h]
  exact ⟨rfl, rfl, rfl, nofun, (List.append_nil _).symm, rfl, rfl, attempts⟩

theorem refl (a : Server) (k : Nat) : Admits a k a k [] := of_eq rfl (Nat.le_refl _)

theorem trans (h : Admits a k b k' new) (h' : Admits b k' c k'' new') :
    Admits a k c k'' (new ++ new') where
  nextPid := by rw [h'.nextPid, h.nextPid, List.length_append, Nat.add_assoc]
  opened := by rw [h'.opened, h.opened, List.length_append, Nat.add_assoc]
  numbers := by
    rw [List.map_append, h.numbers, h'.numbers, h.nextPid, List.length_append,
      List.range'_append_1]
  unclosed s hs := (List.mem_append.1 hs).elim (h.unclosed s) (h'.unclosed s)
  live := by rw [h'.live, h.live, List.map_append, List.append_assoc]
  broken := h'.broken.trans h.broken
  closings := h'.closings.trans h.closings
  attempts := by
    have before := h.attempts
    have after := h'.attempts
    rw [List.length_append]
    omega

/-- The same, after steps that open nothing. -/
theorem after (h : Admits b k' c k'' new) (e : Admits a k b k' []) : Admits a k c k'' new :=
  e.trans h

/-- The same, while others wait for the answers to `m` attempts. -/
theorem beside (h : Admits a k b k' new) (m : Nat) : Admits a (k + m) b (k' + m) new :=
  { h with attempts := by have paid := h.attempts; omega }

end Admits

theorem admits_countAttempt (a : Server) : a.Admits 0 a.countAttempt 1 [] :=
  .of_eq rfl (Nat.le_refl _)

/-- An attempt is refused. -/
theorem admits_afterRefusal (a : Server) (host : String) :
    a.Admits 1 (a.afterRefusal host) 0 [] := by
  unfold afterRefusal
  split
  · exact .of_eq rfl (Nat.le_succ _)
  · exact .of_eq rfl (Nat.le_succ _)

/-- An attempt is given up. -/
theorem admits_self (a : Server) : a.Admits 1 a 0 [] := .of_eq rfl (Nat.le_succ _)

/-- An attempt is accepted: the session gets the next number. -/
theorem admits_openSession (a : Server) (autocommit : Bool) :
    a.Admits 1 a.openSession 0 [{ pid := a.nextPid, autocommit }] where
  nextPid := rfl
  opened := rfl
  numbers := rfl
  unclosed := by simp
  live := rfl
  broken := rfl
  closings := rfl
  attempts := Nat.le_refl _

end Server

/-! ## Calls and dials -/

namespace Call

/-- Whether the answer is still to come, as a number. -/
def asking : Call → Nat
  | .answered _ => 0
  | .waiting _ => 1

def sessions : Call → List Session
  | .answered result => openedWith result
  | .waiting _ => []

theorem admits_answer (env : Env) (o : ConnectOptions) (host : String) :
    env.server.Admits 1 (answer env o host).1.server 0 (openedWith (answer env o host).2) := by
  unfold answer
  split
  · exact env.server.admits_afterRefusal host
  · exact env.server.admits_openSession o.autocommit

theorem admits_make (env : Env) (o : ConnectOptions) (e : Endpoint) :
    env.server.Admits 0 (make env o e).1.server (make env o e).2.asking
      (make env o e).2.sessions := by
  have counted := env.server.admits_countAttempt
  unfold make
  dsimp only
  by_cases hs : env.server.countAttempt.isSilent e.host = true
  · rw [if_pos hs]
    exact counted
  · rw [if_neg hs]
    by_cases hd : env.server.countAttempt.connectDelay = .zero
    · rw [if_pos hd]
      exact (admits_answer { env with server := env.server.countAttempt } o e.host).after counted
    · rw [if_neg hd]
      exact counted

end Call

namespace Dialed

def asking : Dialed → Nat
  | .finished _ => 0
  | .waiting _ => 1

def sessions : Dialed → List Session
  | .finished result => openedWith result
  | .waiting _ => []

end Dialed

/-- Each candidate that is tried costs an attempt, and the last may open a session. -/
theorem Connector.admits_tryAll (env : Env) (o : ConnectOptions) (failures : List HostFailure)
    (es : List Endpoint) :
    env.server.Admits 0 (server.tryAll env o failures es).1.server
      (server.tryAll env o failures es).2.asking (server.tryAll env o failures es).2.sessions := by
  fun_induction server.tryAll env o failures es with
  | case1 env failures => exact .refl _ _
  | case2 env failures e rest env' s hm =>
    have h := Call.admits_make (env.note .debug "connecting" (Dial.fields e)) o e
    rw [show Call.make _ o e = _ from hm] at h
    exact h
  | case3 env failures e rest env' error hm ih =>
    have h := Call.admits_make (env.note .debug "connecting" (Dial.fields e)) o e
    rw [show Call.make _ o e = _ from hm] at h
    exact ih.after h
  | case4 env failures e rest env' answer ht hm =>
    have h := Call.admits_make (env.note .debug "connecting" (Dial.fields e)) o e
    rw [show Call.make _ o e = _ from hm] at h
    exact h
  | case5 env failures e rest env' answer ht cutoff env'' hc hm =>
    have h := Call.admits_make (env.note .debug "connecting" (Dial.fields e)) o e
    rw [show Call.make _ o e = _ from hm] at h
    cases hc
    exact h

namespace Dial

theorem admits_start (env : Env) (o : ConnectOptions) :
    env.server.Admits 0 (start env o).1.server (start env o).2.asking (start env o).2.sessions := by
  unfold start Connector.start
  split
  · exact .refl _ _
  · split
    · exact Connector.admits_tryAll env o [] _
    · exact Connector.admits_tryAll (env.drawOrder o.endpoints).2 o [] _

/-- A dial that goes on has one attempt that waits; its answer comes, or it is given up. -/
theorem admits_resume (env : Env) (d : Dial) :
    env.server.Admits 1 (d.resume env).1.server (d.resume env).2.asking
      (d.resume env).2.sessions := by
  unfold resume Connector.resume
  split
  · have h := Call.admits_answer env d.options d.endpoint.host
    split <;> rename_i ha <;> rw [show Call.answer env d.options d.endpoint.host = _ from ha] at h
    · exact h
    · exact (Connector.admits_tryAll _ _ _ _).after h
  · split
    · exact (Connector.admits_tryAll _ _ _ _).after env.server.admits_self
    · exact .refl _ _

end Dial

/-! ## Sessions that are opened outside a pool -/

namespace Connecting

/-- How many answers are waited for: none before the first attempt. -/
def asking : Connecting → Nat
  | .fresh _ _ => 0
  | .calling _ _ _ | .dialing _ => 1

/-- How many answers are waited for after a step. -/
def askingNext : Next Connecting Result → Nat
  | .more c => c.asking
  | .done _ => 0

/-- What was opened with a step. -/
def sessionsNext : Next Connecting Result → List Session
  | .more _ => []
  | .done result => openedWith result

theorem admits_afterDial {a : Server} {k : Nat} {x : Env × Dialed}
    (h : a.Admits k x.1.server x.2.asking x.2.sessions) :
    a.Admits k (afterDial x).1.server (askingNext (afterDial x).2)
      (sessionsNext (afterDial x).2) := by
  obtain ⟨env, result | dial⟩ := x
  · exact h
  · exact h

theorem admits_step {env env' : Env} {c : Connecting} {next : Next Connecting Result}
    (h : c.step env = some (env', next)) :
    env.server.Admits c.asking env'.server (askingNext next) (sessionsNext next) := by
  cases c with
  | fresh o only =>
    cases only with
    | none =>
      have dialled := admits_afterDial (Dial.admits_start env o)
      rwa [show afterDial (Dial.start env o) = (env', next) from Option.some.inj h] at dialled
    | some e =>
      have made := Call.admits_make env o e
      rw [step] at h
      split at h <;> rename_i hm <;> rw [hm] at made <;> cases h
      · exact made
      · exact made
  | calling o host answer =>
    rw [step] at h
    split at h
    · cases h
      exact Call.admits_answer env o host
    · cases h
  | dialing dial =>
    rw [step] at h
    split at h
    · have dialled := admits_afterDial (Dial.admits_resume env dial)
      rwa [show afterDial (dial.resume env) = (env', next) from Option.some.inj h] at dialled
    · cases h

end Connecting

end SessionPool
