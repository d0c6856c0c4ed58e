import Mathlib.Data.List.Nodup
import Mathlib.Data.List.Range
import SessionPool.Proofs.Admission
import SessionPool.Simulation.Console

/-!
# The books of a server

A `Reception` is a server with its clients outside the pools: those who ask for a session, and those
who hold one. In any order, attempts are made, answered and given up, the orders of the server
change, clients close their sessions, and the server ends some. What was counted and what is on the
list of the server then agrees with what the clients hold (`Sound`): each act keeps that
(`Sound.act`), attempts by `Server.Admits` alone. What the server says and answers follows
(`Reception.balances`).
-/

set_option autoImplicit false

namespace SessionPool

theorem exists_split {α : Type} {xs : List α} {i : Nat} {x : α} (h : xs[i]? = some x) :
    ∃ front back, xs = front ++ x :: back ∧ (∀ y, xs.set i y = front ++ y :: back) ∧
      xs.eraseIdx i = front ++ back := by
  obtain ⟨hi, rfl⟩ := List.getElem?_eq_some_iff.1 h
  refine ⟨xs.take i, xs.drop (i + 1), ?_, fun y => ?_, List.eraseIdx_eq_take_drop_succ ..⟩
  · rw [List.getElem_cons_drop, List.take_append_drop]
  · rw [List.set_eq_take_append_cons_drop, if_pos hi]

namespace Server

/-- To end a session touches the list of the server and nothing else. -/
theorem terminate_eq (a : Server) (pid : Pid) :
    a.terminate pid =
      { a with live := (a.terminate pid).live, broken := (a.terminate pid).broken } := by
  unfold terminate
  split <;> rfl

theorem live_terminate (a : Server) (pid : Pid) :
    (a.terminate pid).live = a.live.filter fun p => !decide (p = pid) := by
  unfold terminate
  split
  · rfl
  · rename_i away
    refine (List.filter_eq_self.2 fun p hp => ?_).symm
    rw [List.contains_eq_mem, decide_eq_true_eq] at away
    have other : p ≠ pid := fun same => away (same ▸ hp)
    rw [decide_eq_false other, Bool.not_false]

theorem mem_broken_terminate (a : Server) (pid p : Pid) :
    p ∈ (a.terminate pid).broken ↔ p ∈ a.broken ∨ p ∈ a.live ∧ p = pid := by
  unfold terminate
  split <;> rename_i listed <;> rw [List.contains_eq_mem, decide_eq_true_eq] at listed
  · rw [List.mem_append, List.mem_singleton]
    exact or_congr_right ⟨fun same => ⟨same ▸ listed, same⟩, And.right⟩
  · exact (or_iff_left fun ⟨hp, same⟩ => listed (same ▸ hp)).symm

end Server

/-- A server, those who ask it for sessions, and the sessions that they were given. -/
structure Reception where
  env : Env
  /-- Those who are about to ask, and those who wait for an answer. -/
  connects : List Connecting := []
  /-- All sessions that were opened, in this order, as their clients hold them. -/
  sessions : List Session := []
  /-- The sessions that the server was told to end after it had opened them. -/
  ended : List Pid := []

namespace Reception

def server (r : Reception) : Server := r.env.server

def withServer (r : Reception) (server : Server) : Reception :=
  { r with env := { r.env with server } }

/-- How many answers are waited for. -/
def asking (r : Reception) : Nat := r.connects.countP fun c => 0 < c.asking

/-- Whether the client has not closed a session and the server was not told to end it. -/
def isOpen (r : Reception) (s : Session) : Bool := !s.closed && !r.ended.contains s.pid

inductive Act
  | connectDelay (d : Duration)
  | failNext (n : Nat)
  | refuseAll (on : Bool)
  | refuseHost (host : String)
  | unreachable (host : String)
  | sleep (now : Instant)
  | connect (o : ConnectOptions) (only : Option Endpoint)
  /-- One of those who ask goes on, if there is no need to wait. -/
  | proceed (i : Nat)
  | abandon (i : Nat)
  | close (i : Nat)
  | terminate (pid : Pid)
  | terminateAll

/-- One of those who ask made a step. -/
def follow (r : Reception) (i : Nat) : Env × Next Connecting Connecting.Result → Reception
  | (env, .more c) => { r with env, connects := r.connects.set i c }
  | (env, .done result) =>
    { r with
      env
      connects := r.connects.eraseIdx i
      sessions := r.sessions ++ openedWith result }

def closeAt (r : Reception) (i : Nat) (s : Session) : Reception :=
  { r.withServer (s.close r.server).2 with sessions := r.sessions.set i (s.close r.server).1 }

def act (r : Reception) : Act → Reception
  | .connectDelay d => r.withServer { r.server with connectDelay := d }
  | .failNext n => r.withServer { r.server with failNext := n }
  | .refuseAll on => r.withServer { r.server with refuseAll := on }
  | .refuseHost host =>
    r.withServer { r.server with refusedHosts := r.server.refusedHosts ++ [host] }
  | .unreachable host =>
    r.withServer { r.server with silentHosts := r.server.silentHosts ++ [host] }
  | .sleep now => { r with env := { r.env with now } }
  | .connect o only => { r with connects := r.connects ++ [.fresh o only] }
  | .proceed i => ((r.connects[i]?.bind (·.step r.env)).map (r.follow i)).getD r
  | .abandon i => { r with connects := r.connects.eraseIdx i }
  | .close i => (r.sessions[i]?.map (r.closeAt i)).getD r
  | .terminate pid =>
    { r.withServer (r.server.terminate pid) with
      ended := r.ended ++ (r.sessions.map (·.pid)).filter (· = pid) }
  | .terminateAll =>
    { r.withServer r.server.terminateAll with ended := r.ended ++ r.sessions.map (·.pid) }

/-- What comes of some acts, when everything starts with a new server. -/
def after (start : Env) (acts : List Act) : Reception :=
  acts.foldl act { env := { start with server := {} } }

/-! ## What every act keeps -/

/-- The books of the server agree with what the clients hold. -/
structure Sound (r : Reception) : Prop where
  /-- Each session is paid for, and so is each answer that may still open one. -/
  attempts : r.server.opened + r.asking ≤ r.server.attempts
  nextPid : r.server.nextPid = firstPid + r.server.opened
  numbers : r.sessions.map (·.pid) = List.range' firstPid r.server.opened
  closings : r.server.closed + r.sessions.countP (fun s => !s.closed) = r.server.opened
  live : r.server.live = (r.sessions.filter r.isOpen).map (·.pid)
  broken : ∀ s ∈ r.sessions, s.closed = false → (s.pid ∈ r.server.broken ↔ s.pid ∈ r.ended)
  lost : ∀ pid ∈ r.server.broken, pid ∈ r.ended
  ended : ∀ pid ∈ r.ended, pid ∈ r.sessions.map (·.pid)

namespace Sound

variable {r r' : Reception}

theorem mem_live (h : r.Sound) {pid : Pid} :
    pid ∈ r.server.live ↔ ∃ s ∈ r.sessions, s.pid = pid ∧ s.closed = false ∧ pid ∉ r.ended := by
  rw [h.live, List.mem_map]
  constructor
  · rintro ⟨s, hs, rfl⟩
    rw [List.mem_filter] at hs
    exact ⟨s, hs.1, rfl, by simpa [isOpen] using hs.2⟩
  · rintro ⟨s, hs, rfl, isOpen⟩
    exact ⟨s, List.mem_filter.2 ⟨hs, by simpa [Reception.isOpen] using isOpen⟩, rfl⟩

theorem live_without (h : r.Sound) (pid : Pid) :
    (r.server.live.filter fun p => !decide (p = pid)) =
      (r.sessions.filter fun s => r.isOpen s && !decide (s.pid = pid)).map (·.pid) := by
  rw [h.live, List.filter_map, List.filter_filter]
  exact congrArg _ (List.filter_congr fun s _ => Bool.and_comm ..)

/-- The next number has not been in use. -/
theorem fresh (h : r.Sound) {n : Nat} {pid : Pid} (new : pid ∈ List.range' r.server.nextPid n) :
    pid ∉ r.sessions.map (·.pid) := by
  intro old
  rw [h.numbers, List.mem_range'_1] at old
  rw [h.nextPid, List.mem_range'_1] at new
  omega

/-- Attempts are made, answered or given up, and the orders of the server may change. -/
theorem admits {new : List Session} (h : r.Sound)
    (steps : r.server.Admits r.asking r'.server r'.asking new)
    (sessions : r'.sessions = r.sessions ++ new) (ended : r'.ended = r.ended) : r'.Sound := by
  have untold : ∀ s ∈ new, s.pid ∉ r.ended := fun s hs told =>
    h.fresh (steps.numbers ▸ List.mem_map_of_mem hs) (h.ended s.pid told)
  have same : r'.isOpen = r.isOpen := by
    funext s
    rw [isOpen, isOpen, ended]
  exact {
    attempts := by
      have paid := steps.attempts
      have before := h.attempts
      rw [steps.opened]
      omega
    nextPid := by rw [steps.nextPid, steps.opened, h.nextPid, Nat.add_assoc]
    numbers := by
      rw [sessions, List.map_append, h.numbers, steps.numbers, h.nextPid, steps.opened,
        List.range'_append_1]
    closings := by
      have all : new.countP (fun s => !s.closed) = new.length :=
        List.countP_eq_length.2 fun s hs => by rw [steps.unclosed s hs]; rfl
      rw [Server.closed, steps.closings, sessions, List.countP_append, all, steps.opened,
        ← h.closings, Server.closed, Nat.add_assoc]
    live := by
      have all : new.filter r.isOpen = new :=
        List.filter_eq_self.2 fun s hs => by simp [isOpen, steps.unclosed s hs, untold s hs]
      rw [steps.live, same, sessions, List.filter_append, all, List.map_append, h.live]
    broken := by
      intro s hs unclosed
      rw [steps.broken, ended]
      rcases List.mem_append.1 (sessions ▸ hs) with hs | hs
      · exact h.broken s hs unclosed
      · exact ⟨h.lost s.pid, fun told => (untold s hs told).elim⟩
    lost := by
      rw [steps.broken, ended]
      exact h.lost
    ended := by
      intro pid told
      rw [sessions, List.map_append]
      exact List.mem_append_left _ (h.ended pid (ended ▸ told)) }

/-- Nothing but the orders of the server changes. -/
theorem orders (h : r.Sound) {server : Server}
    (same : server = { r.server with
      connectDelay := server.connectDelay
      failNext := server.failNext
      refuseAll := server.refuseAll
      refusedHosts := server.refusedHosts
      silentHosts := server.silentHosts }) : (r.withServer server).Sound := by
  refine h.admits (.of_eq ?_ ?_) (List.append_nil _).symm rfl
  · exact same.trans (by rw [same]; rfl)
  · rw [show (r.withServer server).server = server from rfl, same]
    exact Nat.le_refl _

theorem asking_of_split {front back : List Connecting} {c : Connecting}
    (split : r.connects = front ++ c :: back) :
    r.asking = c.asking + (front ++ back).countP fun c => 0 < c.asking := by
  have one : (if decide (0 < c.asking) = true then 1 else 0) = c.asking := by cases c <;> rfl
  rw [asking, split, List.countP_append, List.countP_append, List.countP_cons, one]
  omega

/-- One of those who ask made a step. -/
theorem follow (h : r.Sound) {i : Nat} {c : Connecting} {env : Env}
    {next : Next Connecting Connecting.Result} (asks : r.connects[i]? = some c)
    (step : c.step r.env = some (env, next)) : (r.follow i (env, next)).Sound := by
  obtain ⟨front, back, split, set, erase⟩ := exists_split asks
  have steps := (Connecting.admits_step step).beside
    ((front ++ back).countP fun c => 0 < c.asking)
  rw [← asking_of_split split] at steps
  cases next with
  | more c' =>
    have still : (r.follow i (env, .more c')).connects = front ++ c' :: back := set c'
    rw [Connecting.askingNext, ← asking_of_split still] at steps
    exact h.admits steps (List.append_nil _).symm rfl
  | done result =>
    rw [Connecting.askingNext, Nat.zero_add, ← erase] at steps
    exact h.admits steps rfl rfl

theorem proceed (h : r.Sound) (i : Nat) : (r.act (.proceed i)).Sound := by
  cases asks : r.connects[i]? with
  | none =>
    rw [act, asks]
    exact h
  | some c =>
    rw [act, asks, Option.bind_some]
    cases step : c.step r.env with
    | none => exact h
    | some x => exact h.follow asks step

theorem connect (h : r.Sound) (o : ConnectOptions) (only : Option Endpoint) :
    (r.act (.connect o only)).Sound := by
  refine h.admits (.of_eq rfl (Nat.le_of_eq ?_)) (List.append_nil _).symm rfl
  simp [act, asking, server, Connecting.asking]

theorem abandon (h : r.Sound) (i : Nat) : (r.act (.abandon i)).Sound := by
  refine h.admits (.of_eq rfl (Nat.add_le_add_left ?_ _)) (List.append_nil _).symm rfl
  exact (List.eraseIdx_sublist ..).countP_le

/-- Sessions of different places have different numbers. -/
theorem others (h : r.Sound) {s : Session} {front back : List Session}
    (split : r.sessions = front ++ s :: back) : ∀ t ∈ front ++ back, t.pid ≠ s.pid := by
  have distinct : (r.sessions.map (·.pid)).Nodup := h.numbers ▸ List.nodup_range'
  rw [split, List.map_append, List.map_cons, List.nodup_middle, List.nodup_cons,
    ← List.map_append] at distinct
  exact fun t ht same => distinct.1 (same ▸ List.mem_map_of_mem ht)

/-- A client closes its session, which was not closed before. -/
theorem closing (h : r.Sound) {s : Session} {front back : List Session}
    (split : r.sessions = front ++ s :: back) (unclosed : s.closed = false) :
    Sound { r.withServer (r.server.closeSession s.pid) with
      sessions := front ++ { s with closed := true, status := .unknown } :: back } := by
  have same : r.sessions.map (·.pid) =
      (front ++ { s with closed := true, status := .unknown } :: back).map (·.pid) := by
    rw [split, List.map_append, List.map_append]
    rfl
  have kept : ∀ t ∈ front ++ back,
      (r.isOpen t && !decide (t.pid = s.pid)) = r.isOpen t := fun t ht => by
    rw [decide_eq_false (h.others split t ht), Bool.not_false, Bool.and_true]
  exact {
    attempts := h.attempts
    nextPid := h.nextPid
    numbers := same.symm.trans h.numbers
    closings := by
      have before := h.closings
      rw [split, List.countP_append, List.countP_cons_of_pos (by rw [unclosed]; rfl)] at before
      rw [List.countP_append, List.countP_cons_of_neg (by simp)]
      change (r.server.closings ++ [s.pid]).length + _ = r.server.opened
      rw [List.length_append, List.length_singleton, ← before, Server.closed]
      omega
    live := by
      refine (h.live_without s.pid).trans (congrArg _ ?_)
      rw [split, List.filter_append, List.filter_append, List.filter_cons_of_neg (by simp),
        List.filter_cons_of_neg (by simp [isOpen]),
        List.filter_congr fun t ht => kept t (List.mem_append_left _ ht),
        List.filter_congr fun t ht => kept t (List.mem_append_right _ ht)]
      rfl
    broken := by
      intro t ht still
      refine h.broken t ?_ still
      rw [split]
      rcases List.mem_append.1 ht with ht | ht
      · exact List.mem_append_left _ ht
      · cases ht with
        | head => cases still
        | tail _ ht => exact List.mem_append_right _ (List.mem_cons_of_mem _ ht)
    lost := h.lost
    ended := fun pid told => same ▸ h.ended pid told }

/-- A client closes its session; a second time nothing happens. -/
theorem close (h : r.Sound) (i : Nat) : (r.act (.close i)).Sound := by
  cases held : r.sessions[i]? with
  | none =>
    rw [act, held]
    exact h
  | some s =>
    obtain ⟨front, back, split, set, -⟩ := exists_split held
    rw [act, held, Option.map_some, Option.getD_some, Reception.closeAt, set]
    cases closed : s.closed with
    | false =>
      rw [Session.close, closed]
      exact h.closing split closed
    | true =>
      rw [Session.close, if_pos closed, ← split]
      exact h

/-- The server is told to end the sessions that `told` names. -/
theorem ending (h : r.Sound) (told : Pid → Bool) {live broken : List Pid}
    (left : live = r.server.live.filter fun pid => !told pid)
    (gone : ∀ pid, pid ∈ broken ↔
      pid ∈ r.server.broken ∨ pid ∈ r.server.live ∧ told pid = true) :
    Sound { r.withServer { r.server with live, broken } with
      ended := r.ended ++ (r.sessions.map (·.pid)).filter told } := by
  have mem_ended : ∀ pid, pid ∈ r.ended ++ (r.sessions.map (·.pid)).filter told ↔
      pid ∈ r.ended ∨ pid ∈ r.sessions.map (·.pid) ∧ told pid = true := fun pid => by
    rw [List.mem_append, List.mem_filter]
  exact {
    attempts := h.attempts
    nextPid := h.nextPid
    numbers := h.numbers
    closings := h.closings
    live := by
      change live = _
      rw [left, h.live, List.filter_map, List.filter_filter]
      refine congrArg _ (List.filter_congr fun s hs => ?_)
      have opened : s.pid ∈ r.sessions.map (·.pid) := List.mem_map_of_mem hs
      have ends := mem_ended s.pid
      rw [Bool.eq_iff_iff]
      simp only [isOpen, Function.comp_apply, Bool.and_eq_true, Bool.not_eq_true',
        List.contains_eq_mem, decide_eq_false_iff_not, ends, opened, true_and, not_or,
        Bool.not_eq_true]
      exact ⟨fun x => ⟨x.2.1, x.2.2, x.1⟩, fun x => ⟨x.2.2, x.1, x.2.1⟩⟩
    broken := by
      intro s hs unclosed
      have opened : s.pid ∈ r.sessions.map (·.pid) := List.mem_map_of_mem hs
      -- Who is told to go and is not on the list any more was lost before.
      have listed : s.pid ∈ r.server.live ↔ s.pid ∉ r.ended :=
        h.mem_live.trans ⟨fun ⟨_, _, _, _, x⟩ => x, fun x => ⟨s, hs, rfl, unclosed, x⟩⟩
      refine (gone s.pid).trans (Iff.trans ?_ (mem_ended s.pid).symm)
      rw [h.broken s hs unclosed, listed]
      by_cases told' : s.pid ∈ r.ended
      · exact ⟨fun _ => .inl told', fun _ => .inl told'⟩
      · exact ⟨fun x => .inr ⟨opened, (x.resolve_left told').2⟩,
          fun x => .inr ⟨told', (x.resolve_left told').2⟩⟩
    lost := by
      intro pid lost
      refine (mem_ended pid).2 (((gone pid).1 lost).imp (h.lost pid) fun x => ⟨?_, x.2⟩)
      obtain ⟨s, hs, rfl, -⟩ := h.mem_live.1 x.1
      exact List.mem_map_of_mem hs
    ended := fun pid told => ((mem_ended pid).1 told).elim (h.ended pid) And.left }

theorem terminate (h : r.Sound) (pid : Pid) : (r.act (.terminate pid)).Sound := by
  rw [act, Server.terminate_eq]
  refine h.ending (· = pid) (r.server.live_terminate pid) fun p => ?_
  rw [Server.mem_broken_terminate, decide_eq_true_eq]

theorem terminateAll (h : r.Sound) : (r.act .terminateAll).Sound := by
  have left : [] = r.server.live.filter fun _ => !true := (List.filter_false _).symm
  have gone : ∀ pid, pid ∈ r.server.broken ++ r.server.live ↔
      pid ∈ r.server.broken ∨ pid ∈ r.server.live ∧ true = true := fun pid =>
    List.mem_append.trans (or_congr_right (and_iff_left rfl).symm)
  have ending := h.ending (fun _ => true) left gone
  rwa [List.filter_true] at ending

theorem act (h : r.Sound) (a : Act) : (r.act a).Sound := by
  cases a with
  | connectDelay d => exact h.orders rfl
  | failNext n => exact h.orders rfl
  | refuseAll on => exact h.orders rfl
  | refuseHost host => exact h.orders rfl
  | unreachable host => exact h.orders rfl
  | sleep now => exact h.admits (.refl _ _) (List.append_nil _).symm rfl
  | connect o only => exact h.connect o only
  | proceed i => exact h.proceed i
  | abandon i => exact h.abandon i
  | close i => exact h.close i
  | terminate pid => exact h.terminate pid
  | terminateAll => exact h.terminateAll

/-- A new server has nothing on its books. -/
theorem start (env : Env) : Sound { env := { env with server := {} } } where
  attempts := Nat.le_refl _
  nextPid := rfl
  numbers := rfl
  closings := rfl
  live := rfl
  broken := nofun
  lost := nofun
  ended := nofun

theorem acts (h : r.Sound) (as : List Act) : (as.foldl Reception.act r).Sound := by
  induction as generalizing r with
  | nil => exact h
  | cons a as ih => exact ih (h.act a)

end Sound

theorem sound_after (start : Env) (acts : List Act) : (after start acts).Sound :=
  (Sound.start start).acts acts

/-! ## What the server was told -/

/-- Among the acts the server was told to end a session that it had opened by then. -/
def WasTold (start : Env) (acts : List Act) (pid : Pid) : Prop :=
  ∃ before a, before ++ [a] <+: acts ∧ (a = .terminate pid ∨ a = .terminateAll) ∧
    ∃ s ∈ (after start before).sessions, s.pid = pid

theorem ended_proceed (r : Reception) (i : Nat) : (r.act (.proceed i)).ended = r.ended := by
  rw [act]
  cases r.connects[i]?.bind (·.step r.env) with
  | none => rfl
  | some x =>
    obtain ⟨env, next⟩ := x
    cases next <;> rfl

theorem ended_close (r : Reception) (i : Nat) : (r.act (.close i)).ended = r.ended := by
  rw [act]
  cases r.sessions[i]? <;> rfl

theorem ended_act (r : Reception) (a : Act) (pid : Pid) :
    pid ∈ (r.act a).ended ↔
      pid ∈ r.ended ∨ (a = .terminate pid ∨ a = .terminateAll) ∧ ∃ s ∈ r.sessions, s.pid = pid := by
  cases a with
  | terminate p =>
    have same : Act.terminate p = .terminate pid ↔ pid = p :=
      ⟨fun x => by cases x; rfl, fun x => x ▸ rfl⟩
    simp only [act, List.mem_append, List.mem_filter, List.mem_map, decide_eq_true_eq, same,
      reduceCtorEq, or_false]
    exact or_congr_right and_comm
  | terminateAll => simp [act]
  | proceed i => simp [ended_proceed]
  | close i => simp [ended_close]
  | connectDelay | failNext | refuseAll | refuseHost | unreachable | sleep | connect | abandon =>
    simp [act, withServer]

/-- The sessions on the list of the ended ones are those that the server was told to end. -/
theorem mem_ended (start : Env) (acts : List Act) (pid : Pid) :
    pid ∈ (after start acts).ended ↔ WasTold start acts pid := by
  induction acts using List.reverseRecOn with
  | nil => exact ⟨nofun, fun ⟨before, a, first, _⟩ => by simp at first⟩
  | append_singleton acts a ih =>
    rw [show after start (acts ++ [a]) = (after start acts).act a from List.foldl_append ..,
      ended_act, ih]
    constructor
    · rintro (⟨before, b, first, told⟩ | told)
      · exact ⟨before, b, first.trans (List.prefix_append _ _), told⟩
      · exact ⟨acts, a, List.prefix_rfl, told⟩
    · rintro ⟨before, b, first, told⟩
      rcases List.prefix_concat_iff.1 first with same | first
      · obtain ⟨rfl, hb⟩ := List.append_inj' same rfl
        cases hb
        exact .inr told
      · exact .inl ⟨before, b, first, told⟩

/-! ## What the books say -/

/-- What the books of a server say of its sessions, and what the server answers when it is told to
end some. -/
structure Balanced (r : Reception) : Prop where
  attempts : r.server.opened ≤ r.server.attempts
  opened : r.server.opened = r.server.closed + r.sessions.countP fun s => !s.closed
  unclosed : r.server.unclosed = r.sessions.countP fun s => !s.closed
  numbers : r.sessions.map (·.pid) = List.range' firstPid r.server.opened
  distinct : (r.sessions.map (·.pid)).Nodup
  /-- As long as there are not too many sessions, the next number is one of 32 bits. -/
  bounded : r.server.opened < UInt32.size - firstPid → r.server.nextPid < UInt32.size ∧
    ∀ s ∈ r.sessions, s.pid < r.server.nextPid
  terminate : ∀ (c : Console) (pid : Pid), c.env.server = r.server →
    (c.perform (.terminate (.pid pid))).2 = .flag (decide
      (∃ s ∈ r.sessions, s.pid = pid ∧ s.closed = false ∧ pid ∉ r.ended))
  terminateAll : ∀ c : Console, c.env.server = r.server →
    (c.perform .terminateAll).2 = .count (r.sessions.countP fun s =>
      !s.closed && !r.ended.contains s.pid)
  broken : ∀ s ∈ r.sessions, s.isBroken r.server = (!s.closed && r.ended.contains s.pid)

namespace Sound

variable {r : Reception}

theorem balanced (h : r.Sound) : r.Balanced where
  attempts := (Nat.le_add_right ..).trans h.attempts
  opened := h.closings.symm
  unclosed := by rw [Server.unclosed, ← h.closings, Nat.add_sub_cancel_left]
  numbers := h.numbers
  distinct := h.numbers ▸ List.nodup_range'
  bounded := by
    intro few
    refine ⟨h.nextPid ▸ Nat.add_lt_of_lt_sub' few, fun s hs => ?_⟩
    have given : s.pid ∈ r.sessions.map (·.pid) := List.mem_map_of_mem hs
    rw [h.numbers, List.mem_range'_1, ← h.nextPid] at given
    exact given.2
  terminate := by
    intro c pid same
    change Reply.flag (c.env.server.live.contains pid) = _
    rw [same, List.contains_eq_mem, decide_eq_decide.2 h.mem_live]
  terminateAll := by
    intro c same
    change Reply.count c.env.server.live.length = _
    rw [same, h.live, List.length_map, ← List.countP_eq_length_filter]
    rfl
  broken := by
    intro s hs
    rw [Session.isBroken]
    cases closed : s.closed with
    | true => rfl
    | false =>
      rw [List.contains_eq_mem, List.contains_eq_mem, decide_eq_decide.2 (h.broken s hs closed)]

end Sound

/-- **The books balance**, whatever was done and in whatever order; and the sessions that were
ended are those of which the server was told so, when it had opened them already. -/
theorem balances (start : Env) (acts : List Act) :
    (after start acts).Balanced ∧
      ∀ pid, pid ∈ (after start acts).ended ↔ WasTold start acts pid :=
  ⟨(sound_after start acts).balanced, mem_ended start acts⟩

example :
    let ask : Act := .connect {} (some ⟨"db", defaultPort⟩)
    let r := after {} [.failNext 1, ask, .proceed 0, ask, .proceed 0, ask, .proceed 0,
      .terminate 1000, .close 0, .close 0, .terminate 1001]
    (r.server.attempts, r.server.opened, r.server.closed, r.ended) = (3, 2, 1, [1000, 1001]) := by
  decide

end Reception

end SessionPool
