import SessionPool.Proofs.Handling
import SessionPool.Proofs.Session

/-!
# How parties tend sessions

Whatever a party does in one step to the sessions that lie in a pool and that it has in hand is a
row of acts (`Tended`): it handles them, has the server open, change or close one, and takes one for
fit. What every act keeps holds of every step: the pool keeps to its terms (`Tended.steady`), every
session is still there or was closed (`Tended.kept`), and those that are taken for fit are ready for
a request (`Tended.ready`), and the server was told once of each closing (`Tended.settled`).
-/

set_option autoImplicit false

namespace SessionPool

/-- `Tended C env p a env' q b`: whoever had the sessions `a` in hand turned the pool `p` into `q`
and has `b` in hand after it. On the condition `C` it takes none for fit that is not ready. -/
inductive Tended (C : Prop) : Env → Pool → Charge → Env → Pool → Charge → Prop
  | handled {env env' : Env} {p q : Pool} {a b : Charge} (h : p.Handled a q b)
      (hs : env'.server = env.server) : Tended C env p a env' q b
  | shut {env : Env} {p : Pool} {a : Charge} : Tended C env p a env { p with closed := true } a
  /-- The crew of a pool that was closed is stopped. -/
  | stop {env : Env} {p : Pool} {a : Charge} (h : p.closed = true) :
      Tended C env p a env { p with crew := p.crew.stop } a
  /-- The server does something that concerns nobody's sessions. -/
  | stay {env env' : Env} {p : Pool} {a : Charge} (h : env.server.Rests env'.server) :
      Tended C env p a env' p a
  | opened {env env' : Env} {p : Pool} {a : Charge} {s : Session}
      (h : env.server.Opens env'.server s) : Tended C env p a env' p (.ofWorn {s} + a)
  | changed {env env' : Env} {p : Pool} {a : Charge} {s s' : Session}
      (h : s.Turns env.server env'.server s') :
      Tended C env p (.ofWorn {s} + a) env' p (.ofWorn {s'} + a)
  | closed {env env' : Env} {p : Pool} {a : Charge} {s : Session}
      (h : env'.server = (s.close env.server).2) : Tended C env p (.ofWorn {s} + a) env' p a
  /-- A session is found fit. -/
  | passed {env : Env} {p : Pool} {a : Charge} {s : Session} (h : C → s.IsReady env.server) :
      Tended C env p (.ofWorn {s} + a) env p (.ofFit {s} + a)
  | trans {env env' env'' : Env} {p q r : Pool} {a b c : Charge} (h : Tended C env p a env' q b)
      (h' : Tended C env' q b env'' r c) : Tended C env p a env'' r c

/-! ## What is kept -/

/-- A pool keeps to its terms: once closed it stays closed, and its crew is stopped only then. -/
structure Pool.Steady (p q : Pool) : Prop where
  settings : q.settings = p.settings
  hooks : q.hooks = p.hooks
  closed : p.closed = true → q.closed = true
  stopped : q.crew.stopped = true → p.crew.stopped = true ∨ q.closed = true
  line : p.LineFits → q.LineFits

namespace Pool.Steady

variable {p q r : Pool}

theorem refl (p : Pool) : p.Steady p := ⟨rfl, rfl, id, .inl, id⟩

theorem trans (h : p.Steady q) (h' : q.Steady r) : p.Steady r where
  settings := h'.settings.trans h.settings
  hooks := h'.hooks.trans h.hooks
  closed := fun hc => h'.closed (h.closed hc)
  stopped := fun hs => by
    rcases h'.stopped hs with hs | hc
    · exact (h.stopped hs).imp_right h'.closed
    · exact .inr hc
  line := fun hl => h'.line (h.line hl)

theorem of_handled {a b : Charge} (h : p.Handled a q b) : p.Steady q where
  settings := congrArg Terms.settings h.terms
  hooks := congrArg Terms.hooks h.terms
  closed := fun hc => (congrArg Terms.closed h.terms).trans hc
  stopped := fun hs => .inl ((congrArg Terms.stopped h.terms).symm.trans hs)
  line := h.line

theorem isNull (h : p.Steady q) : q.isNull = p.isNull := by
  rw [Pool.isNull, Pool.isNull, h.settings]

theorem unclosed (h : p.Steady q) (hc : q.closed = false) : p.closed = false := by
  by_contra hn
  rw [Bool.not_eq_false] at hn
  rw [h.closed hn] at hc
  cases hc

theorem attempts (h : p.Steady q) : Adding.attempts q = Adding.attempts p := by
  rw [Adding.attempts, Adding.attempts, h.settings]

end Pool.Steady

def pidsOf (x : Multiset Session) : Multiset Pid := x.map Session.pid

@[simp] theorem pidsOf_zero : pidsOf 0 = 0 := rfl

@[simp] theorem pidsOf_singleton (s : Session) : pidsOf {s} = {s.pid} := Multiset.map_singleton _ _

@[simp] theorem pidsOf_add (x y : Multiset Session) : pidsOf (x + y) = pidsOf x + pidsOf y :=
  Multiset.map_add _ _ _

/-- The numbers of the sessions that are still to be closed. -/
def dueOf (x : Multiset Session) : Multiset Pid := (x.map Session.due).sum

@[simp] theorem dueOf_singleton (s : Session) : dueOf {s} = s.due := by simp [dueOf]

@[simp] theorem dueOf_add (x y : Multiset Session) : dueOf (x + y) = dueOf x + dueOf y := by
  simp [dueOf]

/-- None of the sessions is closed without the server knowing it. -/
def Honest (server : Server) (x : Multiset Session) : Prop := ∀ s ∈ x, s.IsHonest server

theorem Honest.grow {a b : Server} {x : Multiset Session} (h : Honest a x) (hg : a.Grows b) :
    Honest b x := fun s hs => (h s hs).grow hg

theorem honest_add {a : Server} {x y : Multiset Session} :
    Honest a (x + y) ↔ Honest a x ∧ Honest a y := by
  simp only [Honest, Multiset.mem_add]
  exact ⟨fun h => ⟨fun s hs => h s (.inl hs), fun s hs => h s (.inr hs)⟩,
    fun h s hs => hs.elim (h.1 s) (h.2 s)⟩

/-- While the server went on from `a` to `b`, the sessions `x` became `y`: those that it opened
have joined them, and those that are missing were closed. -/
structure Kept (a : Server) (x : Multiset Session) (b : Server) (y : Multiset Session) : Prop where
  grows : a.Grows b
  honest : Honest a x → Honest b y
  pids : Honest a x → ∃ gone : Multiset Pid, (∀ i ∈ gone, i ∈ b.closings) ∧
    pidsOf y + gone = pidsOf x + a.issued b

namespace Kept

variable {a b c : Server} {x y z : Multiset Session}

theorem trans (h : Kept a x b y) (h' : Kept b y c z) : Kept a x c z where
  grows := h.grows.trans h'.grows
  honest := fun hx => h'.honest (h.honest hx)
  pids := fun hx => by
    obtain ⟨gone, hg, he⟩ := h.pids hx
    obtain ⟨gone', hg', he'⟩ := h'.pids (h.honest hx)
    refine ⟨gone + gone', fun i hi => ?_, ?_⟩
    · rcases Multiset.mem_add.1 hi with hi | hi
      · exact h'.grows.closings (hg i hi)
      · exact hg' i hi
    · calc pidsOf z + (gone + gone') = pidsOf z + gone' + gone := by abel
        _ = pidsOf y + gone + b.issued c := by rw [he']; abel
        _ = pidsOf x + (a.issued b + b.issued c) := by rw [he]; abel
        _ = pidsOf x + a.issued c := by rw [Server.issued_add h.grows h'.grows]

theorem of_stays (h : a.Stays b) (x : Multiset Session) : Kept a x b x where
  grows := h.toGrows
  honest := fun hx => hx.grow h.toGrows
  pids := fun _ => ⟨0, by simp, by rw [h.issued]⟩

variable {s s' : Session}

theorem of_opens (h : a.Opens b s) (x : Multiset Session) : Kept a x b (x + {s}) where
  grows := h.toGrows
  honest := fun hx => by
    refine honest_add.2 ⟨hx.grow h.toGrows, fun s' hs' hc => ?_⟩
    rw [Multiset.mem_singleton.1 hs', h.unclosed] at hc
    cases hc
  pids := fun _ => ⟨0, by simp, by simp [h.issued]⟩

theorem of_becomes (h : s.Becomes a b s') (x : Multiset Session) :
    Kept a (x + {s}) b (x + {s'}) where
  grows := h.stays.toGrows
  honest := fun hx => by
    obtain ⟨hx, hs⟩ := honest_add.1 hx
    refine honest_add.2 ⟨hx.grow h.stays.toGrows, fun s'' hs'' => ?_⟩
    rw [Multiset.mem_singleton.1 hs'']
    exact h.honest (hs s (Multiset.mem_singleton_self s))
  pids := fun _ => ⟨0, by simp, by simp [h.stays.issued, h.pid]⟩

theorem of_close (x : Multiset Session) : Kept a (x + {s}) (s.close a).2 x where
  grows := (s.turns_close a).stays.toGrows
  honest := fun hx => (honest_add.1 hx).1.grow (s.turns_close a).stays.toGrows
  pids := fun hx => by
    have hs := (honest_add.1 hx).2 s (Multiset.mem_singleton_self s)
    refine ⟨{s.pid}, fun i hi => ?_, by simp [(s.turns_close a).stays.issued]⟩
    rw [Multiset.mem_singleton.1 hi]
    exact Session.mem_closings_close hs

end Kept

/-- All of the sessions may be given to requests. -/
def Ready (server : Server) (x : Multiset Session) : Prop := ∀ s ∈ x, s.IsReady server

namespace Tended

variable {C : Prop} {env env' : Env} {p q : Pool} {a b : Charge}

theorem refl : Tended C env p a env p a := .stay (.refl _)

theorem mono {C' : Prop} (h : Tended C env p a env' q b) (hc : C' → C) :
    Tended C' env p a env' q b := by
  induction h with
  | handled h hs => exact .handled h hs
  | shut => exact .shut
  | stop h => exact .stop h
  | stay h => exact .stay h
  | opened h => exact .opened h
  | changed h => exact .changed h
  | closed h => exact .closed h
  | passed h => exact .passed fun hc' => h (hc hc')
  | trans _ _ ih ih' => exact ih.trans ih'

/-- What others have in hand does not matter. -/
theorem frame (h : Tended C env p a env' q b) (k : Charge) :
    Tended C env p (a + k) env' q (b + k) := by
  induction h with
  | handled h hs => exact .handled (h.frame k) hs
  | shut => exact .shut
  | stop h => exact .stop h
  | stay h => exact .stay h
  | opened h =>
    rw [add_assoc]
    exact .opened h
  | changed h =>
    rw [add_assoc, add_assoc]
    exact .changed h
  | closed h =>
    rw [add_assoc]
    exact .closed h
  | passed h =>
    rw [add_assoc, add_assoc]
    exact .passed h
  | trans _ _ ih ih' => exact ih.trans ih'

/-- **The pool keeps to its terms**, whatever a party does. -/
theorem steady (h : Tended C env p a env' q b) : p.Steady q := by
  induction h with
  | handled h _ => exact .of_handled h
  | shut => exact ⟨rfl, rfl, fun _ => rfl, .inl, id⟩
  | stop h => exact ⟨rfl, rfl, id, fun _ => .inr h, id⟩
  | stay | opened | changed | closed | passed => exact .refl _
  | trans _ _ ih ih' => exact ih.trans ih'

/-- The sessions in a pool and in hand, with one of them at the end. -/
theorem last (p : Pool) (a : Charge) (s : Session) :
    p.sessions + (Charge.ofWorn {s} + a).all = p.sessions + a.all + {s} := by
  rw [Charge.all_add, Charge.all_ofWorn]
  abel

/-- **No session gets lost** in the hands of a party. -/
theorem kept (h : Tended C env p a env' q b) :
    Kept env.server (p.sessions + a.all) env'.server (q.sessions + b.all) := by
  induction h with
  | handled h hs =>
    rw [h.kept]
    exact .of_stays (.of_eq hs) _
  | shut | stop => exact .of_stays (.refl _) _
  | stay h => exact .of_stays h.toStays _
  | opened h =>
    rw [last]
    exact .of_opens h _
  | changed h =>
    rw [last, last]
    exact .of_becomes h.toBecomes _
  | @closed env env' p a s h =>
    rw [last, h]
    exact .of_close _
  | passed =>
    rw [Charge.all_add, Charge.all_add, Charge.all_ofFit, Charge.all_ofWorn]
    exact .of_stays (.refl _) _
  | trans _ _ ih ih' => exact ih.trans ih'

theorem grows (h : Tended C env p a env' q b) : env.server.Grows env'.server := h.kept.grows

/-- **What is taken for fit is ready** for a request, and stays so. -/
theorem ready (h : Tended C env p a env' q b) (hc : C)
    (hr : Ready env.server (p.stock + a.fit)) : Ready env'.server (q.stock + b.fit) := by
  have later {x : Multiset Session} {a b : Server} (hx : Ready a x) (hg : a.Grows b) :
      Ready b x := fun s hs => (hx s hs).grow hg
  have worn (x : Multiset Session) (a : Charge) : (Charge.ofWorn x + a).fit = a.fit := zero_add _
  induction h with
  | handled h hs =>
    rw [hs]
    exact fun s hm => hr s (Multiset.mem_of_le h.fit hm)
  | shut | stop => exact hr
  | stay h => exact later hr h.toGrows
  | opened h =>
    rw [worn]
    exact later hr h.toGrows
  | changed h =>
    rw [worn] at hr ⊢
    exact later hr h.stays.toGrows
  | @closed env env' p a s h =>
    rw [worn] at hr
    exact later hr (h ▸ (s.turns_close env.server).stays.toGrows)
  | @passed env p a s h =>
    rw [worn] at hr
    have hs : p.stock + (Charge.ofFit {s} + a).fit = p.stock + a.fit + {s} := by
      rw [Charge.fit_add, Charge.ofFit_fit]
      abel
    rw [hs]
    intro s' hs'
    rcases Multiset.mem_add.1 hs' with hs' | hs'
    · exact hr s' hs'
    · exact Multiset.mem_singleton.1 hs' ▸ h hc
  | trans _ _ ih ih' => exact ih' (ih hr)

/-- **The server is told once of each closing:** the sessions that are still to be closed are those
that were, and those that were opened, without the ones of which it has been told. -/
theorem settled (h : Tended C env p a env' q b) :
    (env'.server.closings : Multiset Pid) + dueOf (q.sessions + b.all) =
      (env.server.closings : Multiset Pid) + dueOf (p.sessions + a.all) +
        env.server.issued env'.server := by
  have idle (a : Server) : a.issued a = 0 := (Server.Stays.refl a).issued
  have last (p : Pool) (a : Charge) (s : Session) :
      dueOf (p.sessions + (Charge.ofWorn {s} + a).all) = dueOf (p.sessions + a.all) + s.due := by
    rw [last, dueOf_add, dueOf_singleton]
  induction h with
  | handled h hs => rw [h.kept, hs, idle, add_zero]
  | shut | stop =>
    rw [idle, add_zero]
    rfl
  | stay h => rw [h.issued, h.unchanged, add_zero]
  | @opened env env' p a s h =>
    have due : s.due = {s.pid} := if_neg (by simp [h.unclosed])
    rw [last, h.issued, h.unchanged, due, add_assoc]
  | @changed env env' p a s s' h =>
    rw [last, last, h.stays.issued, add_zero, add_left_comm, h.settles, add_left_comm]
  | @closed env env' p a s h =>
    rw [last, h, Session.closings_close, (s.turns_close env.server).stays.issued, add_zero,
      add_assoc, add_comm s.due]
  | passed =>
    rw [idle, add_zero, Charge.all_add, Charge.all_add, Charge.all_ofFit, Charge.all_ofWorn]
  | trans h h' ih ih' => rw [ih', ih, ← Server.issued_add h.grows h'.grows, add_assoc]

end Tended

end SessionPool
