import SessionPool.Proofs.Histogram
import SessionPool.Proofs.Move
import SessionPool.Proofs.Overlay

/-!
# A pool that has counted more

Whatever a pool has counted before, it does the same: if it is credited with more
(`Site.credit`), each move can be made or not as before and leads to the same, with the credit as it
was (`Site.move?_credit`). Only a move that sets the counters back makes a difference.
-/

set_option autoImplicit false

namespace SessionPool

/-! ## Sums of counters -/

namespace Counters

instance : Add Counters where
  add a c := {
    connectionsNum := a.connectionsNum + c.connectionsNum
    connectionsMs := a.connectionsMs + c.connectionsMs
    connectionsErrors := a.connectionsErrors + c.connectionsErrors
    connectionsLost := a.connectionsLost + c.connectionsLost
    requestsNum := a.requestsNum + c.requestsNum
    requestsQueued := a.requestsQueued + c.requestsQueued
    requestsWaitMs := a.requestsWaitMs + c.requestsWaitMs
    requestsErrors := a.requestsErrors + c.requestsErrors
    usageMs := a.usageMs + c.usageMs
    returnsBad := a.returnsBad + c.returnsBad
    connectTime := a.connectTime + c.connectTime }

variable {a c : Counters}

theorem add_onSide {f : Counters → Counters} (hf : OnSide f) : a + f c = f (a + c) := by
  cases hf with
  | wait n => exact congrArg (fun k => { a + c with requestsWaitMs := k }) (Nat.add_assoc ..).symm
  | use n => exact congrArg (fun k => { a + c with usageMs := k }) (Nat.add_assoc ..).symm
  | lost | unfit => rfl

theorem add_onTally {f : Counters → Counters} (hf : OnTally f) : a + f c = f (a + c) := by
  cases hf with
  | opened elapsed =>
    exact congrArg₂ (fun ms time => { a + c with
        connectionsNum := (a + c).connectionsNum + 1
        connectionsMs := ms
        connectTime := time })
      (Nat.add_assoc ..).symm (Histogram.add_record ..)
  | request | queued | failed | failedOpening => rfl

end Counters

/-- The pool has counted more. -/
def Overlay.credit (a : Counters) : Overlay :=
  .ofCounters (a + ·) fun _ _ hf => Counters.add_onSide hf

theorem Overlay.credit_isPlain (a : Counters) : (credit a).IsPlain :=
  fun _ _ hf => Counters.add_onTally hf

/-! ## Operations -/

section

variable {env : Env} {p : Pool} {a : Counters}

namespace Operation

theorem step_credit (o : Operation) :
    o.step env (p.under (.credit a)) = (o.step env p).map (Overlay.credit a).step := by
  cases o with
  | acquire r =>
    simp only [step, Acquiring.step_under (Overlay.credit_isPlain a), Option.map_map]
    rfl
  | release r =>
    simp only [step, Returning.step_under, Option.map_map]
    rfl
  | misplace m => exact congrArg (fun q => some (env, q, _)) Pool.under_returnLater
  | wait w =>
    simp only [step, Waiting.step_under, Option.map_map]
    rfl
  | check c =>
    simp only [step, Checking.step_under, Option.map_map]
    rfl
  | close c =>
    have closes : c.step env (p.under (.credit a)) =
      (c.step env p).map (Overlay.credit a).step := c.step_under
    simp only [step, closes, Option.map_map]
    rfl

end Operation

end

/-! ## Moves -/

namespace Site

/-- The pool has counted more. -/
def credit (a : Counters) (s : Site) : Site := { s with pool := s.pool.under (.credit a) }

variable {env : Env} {s : Site} {a : Counters}

theorem stepWorker_credit (k : Nat) : (s.credit a).stepWorker env k =
    (s.stepWorker env k).map fun x => (x.1, x.2.credit a) := by
  have same : (s.credit a).jobs = s.jobs := rfl
  unfold stepWorker
  rw [same]
  cases Table.get? s.jobs k with
  | some j =>
    show Option.map _ (j.step env (s.pool.under (.credit a))) = _
    simp only [Job.step_under (Overlay.credit_isPlain a), Option.map_map]
    refine congrArg (Option.map · _) (funext fun x => ?_)
    obtain ⟨env', q, j' | ⟨⟨⟩⟩⟩ := x <;> rfl
  | none =>
    show Option.map _ (s.pool.crew.seek k true) =
      Option.map _ (Option.map _ (s.pool.crew.seek k true))
    rcases s.pool.crew.seek k true with _ | ⟨crew, _ | t⟩ <;> rfl

theorem stepUser_credit (n : Nat) : (s.credit a).stepUser env n =
    (s.stepUser env n).map fun x => (x.1, x.2.credit a) := by
  unfold stepUser
  show Option.bind (Table.get? s.operations n) _ = _
  cases Table.get? s.operations n with
  | none => rfl
  | some o =>
    show Option.map _ (o.step env (s.pool.under (.credit a))) = Option.map _ (Option.map _ _)
    simp only [Operation.step_credit, Option.map_map]
    refine congrArg (Option.map · _) (funext fun x => ?_)
    obtain ⟨env', q, o' | outcome⟩ := x <;> rfl

theorem step_credit (party : Party) : (s.credit a).step env party =
    (s.step env party).map fun x => (x.1, x.2.credit a) := by
  cases party with
  | worker k => exact stepWorker_credit k
  | ticker j =>
    show Option.map _ (s.pool.crew.tick env j .maintain) = _
    unfold step stepTicker
    dsimp only
    rw [Option.map_map]
    rfl
  | closer id =>
    show Option.map _ (s.pool.leaving.find? _) = Option.map _ (Option.map _ _)
    rw [Option.map_map]
    rfl
  | user n => exact stepUser_credit n

theorem tryAcquire_credit : (s.credit a).tryAcquire env =
    ((s.tryAcquire env).1, (s.tryAcquire env).2.1.credit a, (s.tryAcquire env).2.2) := by
  have noted : (s.credit a).pool.noteExpired env ((s.credit a).pool.spoiledByTry env.now) =
      s.pool.noteExpired env (s.pool.spoiledByTry env.now) := rfl
  have taken (now : Instant) :
      (s.credit a).pool.tryTake now = (Overlay.credit a).over (s.pool.tryTake now) :=
    Pool.under_tryTake (Overlay.credit_isPlain a)
  unfold tryAcquire
  dsimp only
  rw [noted, taken]
  rcases s.pool.tryTake _ with ⟨q, e | _ | m⟩ <;> rfl

theorem heldMember?_credit (id : Nat) : (s.credit a).heldMember? id = s.heldMember? id := rfl

theorem giveBack_credit (id : Nat) : (s.credit a).giveBack id = (s.giveBack id).credit a := by
  unfold giveBack
  rw [heldMember?_credit]
  rcases s.heldMember? id with _ | m
  · rfl
  · exact congrArg (fun q => { s.letGo id with pool := q }) Pool.under_returnLater

theorem leaveBehind_credit (id : Nat) :
    (s.credit a).leaveBehind id = (s.leaveBehind id).credit a := by
  unfold leaveBehind
  rw [heldMember?_credit]
  rcases s.heldMember? id with _ | m
  · rfl
  · have same : (s.credit a).pool.crew = s.pool.crew := rfl
    rw [same]
    rcases hd : s.pool.crew.dispatch (.restore m) with ⟨crew, _ | t⟩ <;> simp only [hd] <;> rfl

theorem detach_credit (id : Nat) : (s.credit a).detach env id =
    ((s.detach env id).1, (s.detach env id).2.1.credit a, (s.detach env id).2.2) := by
  unfold detach
  rw [heldMember?_credit]
  rcases s.heldMember? id with _ | m
  · rfl
  · exact congrArg (fun q => (_, { s.letGo id with pool := q }, some m.session)) Pool.under_forget

theorem resize_credit (lo : Nat) (hi : Option Nat) : (s.credit a).resize env lo hi =
    ((s.resize env lo hi).1, (s.resize env lo hi).2.1.credit a, (s.resize env lo hi).2.2) := by
  have sized : (s.credit a).pool.resize lo hi = (s.pool.resize lo hi).map (·.under (.credit a)) :=
    Pool.under_resize lo hi
  unfold resize
  rw [sized]
  rcases s.pool.resize lo hi with e | q <;> rfl

theorem cancel?_credit (n : Nat) : (s.credit a).cancel? env n =
    (s.cancel? env n).map fun x => (x.1, x.2.credit a) := by
  have same : (s.credit a).operations = s.operations := rfl
  unfold cancel? cancel
  rw [same]
  split
  · rcases Table.get? s.operations n with _ | o
    · rfl
    · show some ((o.cancel env (s.pool.under (.credit a))).1,
        { s with
          pool := (o.cancel env (s.pool.under (.credit a))).2
          operations := Table.remove s.operations n }) = _
      rw [Operation.cancel_under]
      rfl
  · rfl

theorem begin?_credit (n : Nat) (o : Operation) :
    (s.credit a).begin? n o = (s.begin? n o).map (credit a) := by
  unfold begin?
  show (if (Table.get? s.operations n).isSome = true then _ else _) =
    Option.map _ (if (Table.get? s.operations n).isSome = true then _ else _)
  split <;> rfl

theorem beginWith?_credit (n id : Nat) (o : Member → Operation) :
    (s.credit a).beginWith? n id o = (s.beginWith? n id o).map (credit a) := by
  unfold beginWith?
  rw [heldMember?_credit]
  rcases s.heldMember? id with _ | m
  · rfl
  · exact begin?_credit (s := s.letGo id) n (o m)

/-- **A move leads to the same**, whatever the pool has counted before. -/
theorem move?_credit {mv : Move} (hr : mv ≠ .resetCounters) :
    (s.credit a).move? env mv = (s.move? env mv).map fun x => (x.1, x.2.credit a) := by
  cases mv with
  | step party => exact step_credit party
  | resetCounters => exact absurd rfl hr
  | cancel n => exact cancel?_credit n
  | tryAcquire =>
    show some (((s.credit a).tryAcquire env).1, ((s.credit a).tryAcquire env).2.1) = _
    rw [tryAcquire_credit]
    rfl
  | giveBack id => exact congrArg (fun s => some (env, s)) (giveBack_credit id)
  | leaveBehind id => exact congrArg (fun s => some (env, s)) (leaveBehind_credit id)
  | detach id =>
    show some (((s.credit a).detach env id).1, ((s.credit a).detach env id).2.1) = _
    rw [detach_credit]
    rfl
  | resize lo hi =>
    show some (((s.credit a).resize env lo hi).1, ((s.credit a).resize env lo hi).2.1) = _
    rw [resize_credit]
    rfl
  | use | readOutcome => rfl
  | pass env' =>
    simp only [move?]
    split <;> rfl
  | acquire n timeout | wait n timeout | check n | close n =>
    simp only [move?, begin?_credit, Option.map_map]
    rfl
  | release n id | misplace n id =>
    simp only [move?, beginWith?_credit, Option.map_map]
    rfl

end Site

end SessionPool
