import Mathlib.Order.Interval.Finset.Nat
import Mathlib.Order.Interval.Multiset
import SessionPool.Pool.Hooks
import SessionPool.Proofs.Admission

/-!
# What sessions and the server go through

What the server has written down it keeps: the sessions that were closed and those that were lost
(`Server.Stays`, `Server.Grows`). Whatever a pool does with a session that it has, it stays the same
session, and it is closed only through the server (`Session.Becomes`), which is told of it once
(`Session.Turns`); a dial opens one session or none (`Dialed.IsFair`).
-/

set_option autoImplicit false

namespace SessionPool

/-! ## The server -/

namespace Server

/-- The server has forgotten nothing that it had written down about its sessions. -/
structure Grows (a b : Server) : Prop where
  nextPid : a.nextPid ≤ b.nextPid
  closings : a.closings ⊆ b.closings
  broken : a.broken ⊆ b.broken

/-- It has not opened a session either. -/
structure Stays (a b : Server) : Prop extends Grows a b where
  same : b.nextPid = a.nextPid

/-- It has not closed one either. -/
structure Rests (a b : Server) : Prop extends Stays a b where
  unchanged : b.closings = a.closings

/-- It has opened one session. -/
structure Opens (a b : Server) (s : Session) : Prop extends Grows a b where
  next : b.nextPid = a.nextPid + 1
  pid : s.pid = a.nextPid
  unclosed : s.closed = false
  unchanged : b.closings = a.closings

variable {a b c : Server} {s : Session}

namespace Grows

theorem refl (a : Server) : Grows a a := ⟨le_rfl, List.Subset.refl _, List.Subset.refl _⟩

theorem trans (h : Grows a b) (h' : Grows b c) : Grows a c where
  nextPid := h.nextPid.trans h'.nextPid
  closings := List.Subset.trans h.closings h'.closings
  broken := List.Subset.trans h.broken h'.broken

end Grows

namespace Stays

theorem of (hn : b.nextPid = a.nextPid) (hc : a.closings ⊆ b.closings) (hb : a.broken ⊆ b.broken) :
    Stays a b := ⟨⟨hn.ge, hc, hb⟩, hn⟩

theorem refl (a : Server) : Stays a a := ⟨.refl a, rfl⟩

theorem of_eq (h : b = a) : Stays a b := h ▸ refl a

theorem trans (h : Stays a b) (h' : Stays b c) : Stays a c :=
  ⟨h.toGrows.trans h'.toGrows, h'.same.trans h.same⟩

end Stays

namespace Rests

theorem of (hn : b.nextPid = a.nextPid) (hc : b.closings = a.closings)
    (hb : a.broken ⊆ b.broken) : Rests a b := ⟨.of hn (hc ▸ List.Subset.refl _) hb, hc⟩

theorem refl (a : Server) : Rests a a := ⟨.refl a, rfl⟩

theorem of_eq (h : b = a) : Rests a b := h ▸ refl a

end Rests

theorem stays_closeSession (a : Server) (pid : Pid) : Stays a (a.closeSession pid) :=
  .of rfl (List.subset_append_left _ _) (List.Subset.refl _)

theorem rests_breakSession (a : Server) (pid : Pid) : Rests a (a.breakSession pid) :=
  .of rfl rfl (List.subset_append_left _ _)

theorem rests_terminate (a : Server) (pid : Pid) : Rests a (a.terminate pid) := by
  unfold terminate
  split
  · exact .of rfl rfl (List.subset_append_left _ _)
  · exact .refl a

/-- The numbers of the sessions that the server has opened since. -/
def issued (a b : Server) : Multiset Pid := Multiset.Ico a.nextPid b.nextPid

theorem Stays.issued (h : Stays a b) : a.issued b = 0 := by
  rw [Server.issued, h.same, Multiset.Ico_self]

theorem Opens.issued (h : Opens a b s) : a.issued b = {s.pid} := by
  rw [Server.issued, h.next, h.pid]
  exact congrArg Finset.val (Nat.Ico_succ_singleton _)

theorem issued_add (h : Grows a b) (h' : Grows b c) : a.issued b + b.issued c = a.issued c :=
  Multiset.Ico_add_Ico_eq_Ico h.nextPid h'.nextPid

end Server

/-! ## Sessions -/

namespace Session

/-- A session may be given to a request: it reports that it is idle, unless it was lost. -/
def IsReady (s : Session) (server : Server) : Prop :=
  s.reported server = .idle ∨ s.pid ∈ server.broken

/-- A session that is closed is so at the server, too. -/
def IsHonest (s : Session) (server : Server) : Prop := s.closed = true → s.pid ∈ server.closings

variable {a b c : Server} {s s' s'' : Session}

theorem IsReady.grow (h : s.IsReady a) (hg : a.Grows b) : s.IsReady b := by
  rcases h with h | h
  · by_cases hb : s.pid ∈ b.broken
    · exact .inr hb
    · refine .inl ?_
      unfold reported at h ⊢
      split at h
      · cases h
      · rename_i hc
        simp only [Bool.or_eq_true, not_or, List.contains_iff_mem] at hc
        simpa [hc.1, hb] using h
  · exact .inr (hg.broken h)

theorem IsHonest.grow (h : s.IsHonest a) (hg : a.Grows b) : s.IsHonest b :=
  fun hc => hg.closings (h hc)

/-- While the server went on from `a` to `b`, a session went on from `s` to `s'`. -/
structure Becomes (a : Server) (s : Session) (b : Server) (s' : Session) : Prop where
  stays : a.Stays b
  pid : s'.pid = s.pid
  closed : s'.closed = true → s.closed = true ∨ s.pid ∈ b.closings

namespace Becomes

theorem refl (a : Server) (s : Session) : Becomes a s a s := ⟨.refl a, rfl, .inl⟩

theorem of_stays (h : a.Stays b) (s : Session) : Becomes a s b s := ⟨h, rfl, .inl⟩

theorem trans (h : Becomes a s b s') (h' : Becomes b s' c s'') : Becomes a s c s'' where
  stays := h.stays.trans h'.stays
  pid := h'.pid.trans h.pid
  closed := fun hc => by
    rcases h'.closed hc with hc | hc
    · exact (h.closed hc).imp_right fun hm => h'.stays.closings hm
    · exact .inr (h.pid ▸ hc)

theorem honest (h : Becomes a s b s') (hs : s.IsHonest a) : s'.IsHonest b := fun hc => by
  rw [h.pid]
  rcases h.closed hc with hc | hc
  · exact h.stays.closings (hs hc)
  · exact hc

end Becomes

/-- The number of a session that is still to be closed. -/
def due (s : Session) : Multiset Pid := if s.closed then 0 else {s.pid}

/-- A session went on from `s` to `s'`, and the server closed no other session meanwhile, nor this
one without its being closed from then on. -/
structure Turns (a : Server) (s : Session) (b : Server) (s' : Session) : Prop
    extends Becomes a s b s' where
  settles : (b.closings : Multiset Pid) + s'.due = (a.closings : Multiset Pid) + s.due

namespace Turns

theorem of_rests (h : a.Rests b) (s : Session) : Turns a s b s :=
  ⟨.of_stays h.toStays s, by rw [h.unchanged]⟩

theorem refl (a : Server) (s : Session) : Turns a s a s := .of_rests (.refl a) s

/-- The client writes something down about the session. -/
theorem of_eq (hp : s'.pid = s.pid) (hc : s'.closed = s.closed) : Turns a s a s' :=
  ⟨⟨.refl a, hp, fun h => .inl (hc ▸ h)⟩, by rw [due, due, hp, hc]⟩

theorem trans (h : Turns a s b s') (h' : Turns b s' c s'') : Turns a s c s'' :=
  ⟨h.toBecomes.trans h'.toBecomes, h'.settles.trans h.settles⟩

end Turns

/-! ### Statements -/

theorem turns_checkUsable (a : Server) (s : Session) : Turns a s a (s.checkUsable a).1 := by
  unfold checkUsable
  split
  · exact .refl a s
  · split
    · exact .of_eq rfl rfl
    · exact .refl a s

theorem turns_beginImplicit (a : Server) (s : Session) : Turns a s a s.beginImplicit := by
  unfold beginImplicit
  split
  · exact .of_eq rfl rfl
  · exact .refl a s

theorem turns_spoil (a : Server) (s : Session) : Turns a s a s.spoil := by
  unfold spoil
  split
  · exact .of_eq rfl rfl
  · exact .refl a s

theorem turns_perform (a : Server) (s : Session) (sql : List Char) :
    Turns a s a (s.perform sql).1 := by
  have implicit := turns_beginImplicit a s
  unfold perform
  split
  · exact .of_eq rfl rfl
  · exact .of_eq rfl rfl
  · exact implicit.trans (.of_eq rfl rfl)
  · dsimp only
    split
    · exact implicit.trans (.of_eq rfl rfl)
    · exact implicit.trans (turns_spoil a _)
  · exact implicit
  · exact .of_eq rfl rfl
  · split <;> exact .refl a s
  · exact implicit.trans (turns_spoil a _)

/-- A statement neither closes a session nor has the server do anything about it. -/
theorem turns_execute (a : Server) (s : Session) (sql : String) :
    Turns a s a (s.execute a sql).1 := by
  have hc := turns_checkUsable a s
  unfold execute
  split <;> rename_i he <;> rw [he] at hc
  · exact hc
  · refine hc.trans ?_
    dsimp only
    split
    · exact .refl a _
    · have noted (s : Session) (done : List String) : Turns a s a { s with executed := done } :=
        .of_eq rfl rfl
      split
      · exact noted _ _
      · split
        · exact noted _ _
        · exact (noted _ _).trans (turns_perform a _ _)

theorem turns_wake (a : Server) (s : Session) : Turns a s a (s.wake a).1 := by
  have hc := turns_checkUsable a s
  unfold wake
  split <;> rename_i he <;> rw [he] at hc <;> exact hc

theorem turns_rollback (a : Server) (s : Session) :
    Turns a s (s.rollback a).2.1 (s.rollback a).1 := by
  have hc := turns_checkUsable a s
  unfold rollback
  split <;> rename_i he <;> rw [he] at hc
  · exact hc
  · refine hc.trans ?_
    split
    · exact .trans (.of_rests (a.rests_breakSession _) _) (.of_eq rfl rfl)
    · exact .of_eq rfl rfl

/-- The server is told of the closing of a session, unless that was done before. -/
theorem closings_close (a : Server) (s : Session) :
    ((s.close a).2.closings : Multiset Pid) = (a.closings : Multiset Pid) + s.due := by
  unfold close due
  split
  · exact (add_zero _).symm
  · exact (Multiset.coe_add _ _).symm

theorem due_close (a : Server) (s : Session) : (s.close a).1.due = 0 := by
  unfold close
  split
  · rename_i hc
    exact if_pos hc
  · exact if_pos rfl

/-- A session that is closed is closed at the server. -/
theorem turns_close (a : Server) (s : Session) : Turns a s (s.close a).2 (s.close a).1 where
  settles := by rw [due_close, add_zero, closings_close]
  toBecomes := by
    unfold close
    split
    · exact .refl a s
    · exact ⟨a.stays_closeSession _, rfl, fun _ => .inr (List.mem_append_right _ (.head _))⟩

theorem mem_closings_close (hs : s.IsHonest a) : s.pid ∈ (s.close a).2.closings := by
  unfold close
  split
  · rename_i hc
    exact hs hc
  · exact List.mem_append_right _ (.head _)

end Session

/-! ## Scripts -/

namespace Script

open Session

theorem turns_run (env : Env) (s : Session) (script : List Action) :
    Turns env.server s (run env s script).1.server (run env s script).2.1 := by
  fun_induction run env s script with
  | case1 env s => exact .refl _ s
  | case2 env s sql needed rest s' n he ih =>
    have h := turns_execute env.server s sql
    rw [he] at h
    exact h.trans ih
  | case3 env s sql rest s' e he =>
    have h := turns_execute env.server s sql
    rwa [he] at h
  | case4 env s sql needed rest s' e he hn ih =>
    have h := turns_execute env.server s sql
    rw [he] at h
    exact h.trans ih
  | case5 env s sql needed rest s' wait he timer env' ht hd ih =>
    have h := turns_execute env.server s sql
    rw [he] at h
    cases ht
    exact h.trans ih
  | case6 env s sql needed rest s' wait he timer env' ht hd =>
    have h := turns_execute env.server s sql
    rw [he] at h
    cases ht
    exact h
  | case7 env s rest s' server he ih =>
    have h := turns_rollback env.server s
    rw [he] at h
    exact h.trans ih
  | case8 env s rest s' server e he =>
    have h := turns_rollback env.server s
    rwa [he] at h
  | case9 env s rest s' server he ih =>
    have h := turns_close env.server s
    rw [he] at h
    exact h.trans ih
  | case10 env s rest ih => exact (Turns.of_rests (Server.rests_terminate _ _) s).trans ih
  | case11 env s on rest ih =>
    have h : Turns env.server s env.server { s with autocommit := on } := .of_eq rfl rfl
    exact h.trans ih
  | case12 env s e rest => exact .refl _ s

theorem turns_resume (env : Env) (s : Session) (pause : Pause) :
    Turns env.server s (resume env s pause).1.server (resume env s pause).2.1 := by
  have h := turns_wake env.server s
  unfold resume
  split <;> rename_i hw <;> rw [hw] at h
  · exact h.trans (turns_run env _ _)
  · split
    · exact h
    · exact h.trans (turns_run env _ _)

end Script

/-! ## Dials -/

/-- A dial that has come this far has opened the session that it came to, and no other. -/
def Dialed.IsFair (a b : Server) : Dialed → Prop
  | .finished (.ok s) => a.Opens b s
  | .finished (.error _) | .waiting _ => a.Rests b

theorem Server.Admits.rests {a b : Server} {k k' : Nat} (h : a.Admits k b k' []) : a.Rests b :=
  .of h.nextPid h.closings (h.broken ▸ List.Subset.refl _)

theorem Server.Admits.opens {a b : Server} {k k' : Nat} {s : Session} (h : a.Admits k b k' [s]) :
    a.Opens b s where
  nextPid := h.nextPid ▸ Nat.le_succ _
  closings := h.closings ▸ List.Subset.refl _
  broken := h.broken ▸ List.Subset.refl _
  next := h.nextPid
  pid := List.head_eq_of_cons_eq h.numbers
  unclosed := h.unclosed s List.mem_cons_self
  unchanged := h.closings

theorem Dialed.fair_of_admits {a b : Server} {k k' : Nat} {d : Dialed}
    (h : a.Admits k b k' d.sessions) : d.IsFair a b := by
  rcases d with (_ | s) | dial
  · exact h.rests
  · exact h.opens
  · exact h.rests

namespace Dial

theorem fair_start (env : Env) (o : ConnectOptions) :
    (start env o).2.IsFair env.server (start env o).1.server :=
  Dialed.fair_of_admits (admits_start env o)

theorem fair_resume (env : Env) (d : Dial) :
    (d.resume env).2.IsFair env.server (d.resume env).1.server :=
  Dialed.fair_of_admits (d.admits_resume env)

end Dial

end SessionPool
