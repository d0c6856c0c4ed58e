import SessionPool.Process.Opening

/-!
# The clock stands still

Whatever a process does in one step, the time is the same after it: setting timers, drawing by
chance, writing to the log and talking to the server leave the clock alone.
-/

set_option autoImplicit false

namespace SessionPool

variable (env : Env)

@[simp] theorem Pool.now_noteExpired (p : Pool) (ms : List Member) :
    (p.noteExpired env ms).now = env.now := by
  unfold Pool.noteExpired
  induction ms generalizing env with
  | nil => rfl
  | cons m ms ih => exact ih _

/-! ## Scripts -/

@[simp] theorem Script.now_run (s : Session) (script : List Action) :
    (Script.run env s script).1.now = env.now := by
  fun_induction Script.run env s script with
  | case5 env s sql needed rest s' wait he timer env' ht hd ih =>
    cases ht
    exact ih
  | case6 env s sql needed rest s' wait he timer env' ht hd =>
    cases ht
    rfl
  | _ => first | rfl | assumption

@[simp] theorem Script.now_resume (s : Session) (pause : Pause) :
    (Script.resume env s pause).1.now = env.now := by
  unfold Script.resume
  split
  · simp
  · split <;> simp

/-! ## Dials -/

theorem Call.now_answer (o : ConnectOptions) (host : String) :
    (Call.answer env o host).1.now = env.now := by
  unfold Call.answer
  split <;> rfl

theorem Call.now_make (o : ConnectOptions) (e : Endpoint) :
    (Call.make env o e).1.now = env.now := by
  unfold Call.make
  dsimp only
  split
  · rfl
  · split
    · exact Call.now_answer _ o e.host
    · rfl

/-- A call that is noted and made leaves the clock alone. -/
theorem Call.now_of_make {env env' : Env} {o : ConnectOptions} {e : Endpoint} {call : Call}
    {level : Level} {message : String} {fields : List (String × String)}
    (h : Call.make (env.note level message fields) o e = (env', call)) : env'.now = env.now :=
  (congrArg (fun x : Env × Call => x.1.now) h).symm.trans (Call.now_make _ o e)

theorem Connector.now_tryAll (o : ConnectOptions) (failures : List HostFailure)
    (es : List Endpoint) : (Connector.server.tryAll env o failures es).1.now = env.now := by
  fun_induction Connector.server.tryAll env o failures es with
  | case1 => rfl
  | case2 env failures e rest env' s hm =>
    have h := Call.now_of_make hm
    exact h
  | case3 env failures e rest env' error hm ih =>
    have h := Call.now_of_make hm
    exact ih.trans h
  | case4 env failures e rest env' answer ht hm =>
    have h := Call.now_of_make hm
    exact h
  | case5 env failures e rest env' answer ht cutoff env'' hc hm =>
    have h := Call.now_of_make hm
    cases hc
    exact h

theorem Connector.now_failed (d : Dial) (error : SessionError) :
    (Connector.server.failed env d error).1.now = env.now := Connector.now_tryAll _ _ _ _

@[simp] theorem Dial.now_start (o : ConnectOptions) : (Dial.start env o).1.now = env.now := by
  unfold Dial.start Connector.start
  split
  · rfl
  · split <;> exact Connector.now_tryAll _ _ _ _

@[simp] theorem Dial.now_resume (d : Dial) : (d.resume env).1.now = env.now := by
  unfold Dial.resume Connector.resume
  split
  · have h := Call.now_answer env d.options d.endpoint.host
    split <;> rename_i ha <;> rw [show Call.answer env d.options d.endpoint.host = _ from ha] at h
    · exact h
    · exact (Connector.now_failed _ d _).trans h
  · split
    · exact Connector.now_failed env d _
    · rfl

end SessionPool
