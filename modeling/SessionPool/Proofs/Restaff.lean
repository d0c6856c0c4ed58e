import SessionPool.Proofs.Overlay
import SessionPool.Proofs.Turn

/-!
# The same pool with its workers at other places

What a return does to a pool has nothing to do with which worker is where (`Pool.restaff`): it comes
to the same whatever the workers do, whose turn it is and who stands in line
(`Returning.step_restaff`).
-/

set_option autoImplicit false

namespace SessionPool

/-- The same crew, with its workers at the places that they have in another one. -/
def Crew.restaff {τ : Type} (c d : Crew τ) : Crew τ :=
  { c with workers := d.workers, turn := d.turn, line := d.line }

def Pool.restaff (p : Pool) (d : Crew (Task Member)) : Pool := { p with crew := p.crew.restaff d }

def Overlay.restaff (d : Crew (Task Member)) : Overlay where
  crew := (·.restaff d)
  counters := id
  stopped := fun _ => rfl
  dispatch := fun c t => by
    rcases c.dispatch_cases t with ⟨hs, -⟩ | ⟨hs, -⟩ <;>
      simp [Crew.dispatch, Crew.send, Crew.restaff, hs]
  onSide := fun _ _ _ => rfl

namespace Returning

variable (d : Crew (Task Member))

/-- The same step, of a pool with its workers at other places. -/
def restaffed (d : Crew (Task Member)) (s : Stepped Returning Unit) : Stepped Returning Unit :=
  (s.1, s.2.1.restaff d, s.2.2)

/-- **A return does the same** whatever the workers do. -/
theorem step_restaff (env : Env) (p : Pool) (r : Returning) :
    r.step env (p.restaff d) = (r.step env p).map (restaffed d) :=
  step_under (o := .restaff d) r

end Returning

end SessionPool
