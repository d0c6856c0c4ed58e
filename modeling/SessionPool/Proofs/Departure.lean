import SessionPool.Proofs.Closed
import SessionPool.Proofs.Course
import SessionPool.Proofs.Powers

/-!
# Members on their way out

A member that the pool has given up is on its way out (`Site.Departing`): its closing is a task of
the crew, or somebody is about to close it. It stays there as it is until a move closes its session
at the server (`Site.Departing.move`). Who comes back is received by a worker or by the user that
waits for it (`Site.returning?`), who goes on with its return to the end
(`Site.returning_origin`).
-/

set_option autoImplicit false

namespace SessionPool

/-! ## Members that are received and closed -/

namespace Job

def returning? : Job → Option Returning
  | returning r => some r
  | adding _ | closing _ | maintaining => none

/-- The member that the job closes with its next step. -/
def closes? : Job → Option Member
  | returning (.closing m) | closing m => some m
  | adding _ | returning _ | maintaining => none

theorem step_of_closes {j : Job} {m : Member} (h : j.closes? = some m) (env : Env) (p : Pool) :
    j.step env p = some (m.close env, p, .done ()) := by
  cases j with
  | returning r =>
    cases r with
    | closing m' =>
      cases h
      rfl
    | arriving | resetting | paused | settling => cases h
  | closing m' =>
    cases h
    rfl
  | adding | maintaining => cases h

end Job

namespace Operation

def returning? : Operation → Option Returning
  | release r => some r
  | acquire _ | misplace _ | wait _ | check _ | close _ => none

theorem eq_of_returning {o : Operation} {r : Returning} (h : o.returning? = some r) :
    o = .release r := by
  cases o with
  | release r' =>
    cases h
    rfl
  | acquire | misplace | wait | check | close => cases h

/-- The member that the operation closes with its next step, which is its last. -/
def closes? : Operation → Option Member
  | release (.closing m) => some m
  | acquire _ | release _ | misplace _ | wait _ | check _ | close _ => none

theorem eq_of_closes {o : Operation} {m : Member} (h : o.closes? = some m) :
    o = .release (.closing m) := by
  cases o with
  | release r =>
    cases r with
    | closing m' =>
      cases h
      rfl
    | arriving | resetting | paused | settling => cases h
  | acquire | misplace | wait | check | close => cases h

end Operation

namespace Site

/-- How far a party has come with the return of a member. -/
def returning? (s : Site) : Party → Option Returning
  | .worker k => (Table.get? s.jobs k).bind Job.returning?
  | .user n => (Table.get? s.operations n).bind Operation.returning?
  | .ticker _ | .closer _ => none

/-- The member that a party closes with its next step. -/
def closes? (s : Site) : Party → Option Member
  | .worker k => (Table.get? s.jobs k).bind Job.closes?
  | .user n => (Table.get? s.operations n).bind Operation.closes?
  | .ticker _ | .closer _ => none

/-- The pool has given a member up, and it is still to be closed. -/
def Departing (s : Site) (m : Member) : Prop :=
  .close m ∈ s.pool.crew.tasks ∨ m ∈ s.pool.leaving ∨ ∃ party, s.closes? party = some m

variable {env env' : Env} {s s' : Site} {mv : Move} {m : Member}

/-! ## Who takes things out -/

theorem powers_take (h : s.powers mv .take) :
    (∃ k, mv = .step (.worker k) ∧ Table.get? s.jobs k = none) ∨
    ∃ n disposed idle, mv = .step (.user n) ∧
      Table.get? s.operations n = some (.close (.draining disposed idle)) := by
  cases wields h with
  | @job k j _ hg h => cases j <;> exact h.elim
  | @operation n o _ hg h =>
    cases o with
    | close c =>
      obtain ⟨disposed, idle, rfl⟩ := h
      exact .inr ⟨n, disposed, idle, rfl, hg⟩
    | acquire | release | misplace | wait | check => exact h.elim
  | @take k hg => exact .inl ⟨k, rfl, hg⟩

theorem powers_depart (h : s.powers mv .depart) : ∃ id, mv = .step (.closer id) := by
  cases wields h with
  | @job _ j _ _ h => cases j <;> exact h.elim
  | @operation _ o _ _ h => cases o <;> exact h.elim
  | @depart id => exact ⟨id, rfl⟩

/-! ## On the way out -/

/-- A worker takes the task upon itself, or another one. -/
theorem task_of_take {k : Nat} {t : Task Member} (hg : Table.get? s.jobs k = none)
    (ht : t ∈ s.pool.crew.tasks) (h : s.move? env (.step (.worker k)) = some (env', s')) :
    t ∈ s'.pool.crew.tasks ∨ Table.get? s'.jobs k = some (.start s.pool t) := by
  cases moved h with
  | worked hg' _ | finished hg' _ =>
    rw [hg] at hg'
    cases hg'
  | sought _ hs =>
    obtain ⟨-, hc⟩ := Crew.seek_cases hs
    exact .inl (by simpa [hc] using ht)
  | took _ hs =>
    obtain ⟨-, hc⟩ := Crew.seek_cases hs
    rw [hc] at ht
    rcases List.mem_append.1 ht with ht | ht
    · refine .inr ?_
      rw [← List.mem_singleton.1 ht, Table.get?_put, if_pos rfl]
    · exact .inl ht
  | unheld hv => rcases hv with hv | hv | hv <;> cases hv

/-- Whoever closes the pool closes the member of a task that nobody took upon itself. -/
theorem task_of_drain {n disposed : Nat} {idle : List Member} {t : Task Member}
    (hb : s.pool.closed = true)
    (hg : Table.get? s.operations n = some (.close (.draining disposed idle)))
    (ht : t ∈ s.pool.crew.tasks) (hi : t.item? = some m)
    (h : s.move? env (.step (.user n)) = some (env', s')) :
    t ∈ s'.pool.crew.tasks ∨ env' = m.close env := by
  obtain ⟨t', c, hc, he, hp⟩ : ∃ t' c, s.pool.crew.collect = some (t', c) ∧
      (∀ x, t'.item? = some x → env' = x.close env) ∧
      s'.pool = { s.pool with crew := c }.dispose t' := by
    cases hc : s.pool.crew.collect with
    | none =>
      unfold Crew.collect at hc
      split at hc
      · rename_i hn
        rw [hn] at ht
        cases ht
      · cases hc
    | some x =>
      obtain ⟨t', c⟩ := x
      obtain ⟨env₁, hs, hx⟩ : ∃ env₁, (Operation.close (.draining disposed idle)).step env s.pool =
            some (env₁, { s.pool with crew := c }.dispose t',
              .more (.close (.draining (disposed + 1) idle))) ∧
          ∀ x, t'.item? = some x → env₁ = x.close env := by
        simp only [Operation.step, Closing.step, Closing.drain, hc]
        exact ⟨_, rfl, fun x hx => by rw [hx]⟩
      rw [move?, stepUser_more hg hs] at h
      cases h
      exact ⟨t', c, rfl, hx, rfl⟩
  obtain ⟨hc, -⟩ := Crew.collect_some hc
  rw [hc] at ht
  rcases List.mem_cons.1 ht with rfl | ht
  · exact .inr (he m hi)
  · have disposed : Pool.Changes env.now (fun _ => False) { s.pool with crew := c }
        ({ s.pool with crew := c }.dispose t') := .dispose (p := { s.pool with crew := c }) hb t'
    exact .inl (hp ▸ (disposed.tasks id).subset ht)

/-- The task with a member stays in the queue until a worker takes it upon itself, or until the
member is closed. -/
theorem task_move (hr : Reachable env s) {t : Task Member} (ht : t ∈ s.pool.crew.tasks)
    (hi : t.item? = some m) (h : s.move? env mv = some (env', s')) :
    t ∈ s'.pool.crew.tasks ∨ (∃ k, Table.get? s'.jobs k = some (.start s.pool t)) ∨
      env' = m.close env := by
  by_cases hG : s.powers mv .take
  · rcases powers_take hG with ⟨k, rfl, hg⟩ | ⟨n, disposed, idle, rfl, hg⟩
    · exact (task_of_take hg ht h).imp_right fun h => .inl ⟨k, h⟩
    · exact (task_of_drain (hr.orderlyShut.operations n _ hg rfl) hg ht hi h).imp_right .inr
  · exact .inl (((changes_move hr.orderlyShut h).tasks hG).subset ht)

theorem departing_of_close {id : Nat} (hd : (s.pool.leaving.map Member.id).Nodup)
    (hl : m ∈ s.pool.leaving) (h : s.move? env (.step (.closer id)) = some (env', s')) :
    s'.Departing m ∨ env' = m.close env := by
  cases moved h with
  | @closed _ m' hm =>
    by_cases hi : m.id = id
    · have hm' : m'.id = id := by simpa using List.find?_some hm
      have : m' = m :=
        List.inj_on_of_nodup_map hd (List.mem_of_find?_eq_some hm) hl (hm'.trans hi.symm)
      exact .inr (this ▸ rfl)
    · exact .inl (.inr (.inl (List.mem_filter.2 ⟨hl, by simpa using hi⟩)))
  | unheld hv => rcases hv with hv | hv | hv <;> cases hv

/-- Whoever closes a member does so with the next step, and nothing else befalls it. -/
theorem departing_of_closes {party : Party} (hc : s.closes? party = some m)
    (h : s.move? env mv = some (env', s')) : s'.Departing m ∨ env' = m.close env := by
  cases party with
  | worker k =>
    obtain ⟨j, hg, hj⟩ := Option.bind_eq_some_iff.1 hc
    by_cases hs : mv = .step (.worker k)
    · subst hs
      cases moved h with
      | worked hg' hs =>
        cases hg.symm.trans hg'
        cases (Job.step_of_closes hj env s.pool).symm.trans hs
      | finished hg' hs =>
        cases hg.symm.trans hg'
        cases (Job.step_of_closes hj env s.pool).symm.trans hs
        exact .inr rfl
      | sought hg' _ | took hg' _ => cases hg.symm.trans hg'
      | unheld hv => rcases hv with hv | hv | hv <;> cases hv
    · refine .inl (.inr (.inr ⟨.worker k, ?_⟩))
      rw [closes?, job_move h hg hs]
      exact hj
  | user n =>
    obtain ⟨o, hg, ho⟩ := Option.bind_eq_some_iff.1 hc
    obtain rfl := Operation.eq_of_closes ho
    by_cases hs : mv = .step (.user n)
    · subst hs
      have hd : (Operation.release (.closing m)).step env s.pool =
          some (m.close env, s.pool, .done .done) := rfl
      rw [move?, stepUser_done hg hd] at h
      cases h
      exact .inr rfl
    · have hn : mv ≠ .cancel n := by
        rintro rfl
        cases moved h with
        | cancelled hg' hs =>
          cases hg.symm.trans hg'
          cases hs
        | unheld hv => rcases hv with hv | hv | hv <;> cases hv
      refine .inl (.inr (.inr ⟨.user n, ?_⟩))
      rw [closes?, operation_move h hg hs hn]
      exact ho
  | ticker _ | closer _ => cases hc

/-- **Who is on its way out stays so** until its session is closed at the server. -/
theorem Departing.move (hm : s.Departing m) (hr : Reachable env s)
    (h : s.move? env mv = some (env', s')) : s'.Departing m ∨ env' = m.close env := by
  rcases hm with ht | hl | ⟨party, hc⟩
  · rcases task_move hr ht rfl h with ht | ⟨k, hg⟩ | he
    · exact .inl (.inl ht)
    · exact .inl (.inr (.inr ⟨.worker k, by rw [closes?, hg]; rfl⟩))
    · exact .inr he
  · by_cases hG : s.powers mv .depart
    · obtain ⟨id, rfl⟩ := powers_depart hG
      exact departing_of_close (leavingApart hr.balanced) hl h
    · exact .inl (.inr (.inl (((changes_move hr.orderlyShut h).leaving hG).subset hl)))
  · exact departing_of_closes hc h

/-! ## Returns -/

/-- Nobody but the party has anything to do with the return of a member. -/
theorem returning?_move (h : s.move? env mv = some (env', s')) {party : Party} {r : Returning}
    (hr : s.returning? party = some r) (hs : mv ≠ .step party)
    (hc : ∀ n, party = .user n → mv ≠ .cancel n) : s'.returning? party = some r := by
  cases party with
  | worker k =>
    obtain ⟨j, hg, hj⟩ := Option.bind_eq_some_iff.1 hr
    rw [returning?, job_move h hg hs]
    exact hj
  | user n =>
    obtain ⟨o, hg, ho⟩ := Option.bind_eq_some_iff.1 hr
    rw [returning?, operation_move h hg hs (hc n rfl)]
    exact ho
  | ticker _ | closer _ => cases hr

/-- A party had come as far with a return before a move, or it has made a step with the move, or the
member has just come into its hands. -/
theorem returning_origin (hk : s.Keyed) (h : s.move? env mv = some (env', s')) {party : Party}
    {r : Returning} (hr : s'.returning? party = some r) :
    s.returning? party = some r ∨
    (∃ r₀, mv = .step party ∧ s.returning? party = some r₀ ∧
      r₀.step env s.pool = some (env', s'.pool, .more r)) ∨
    ∃ m, r = .arriving m := by
  cases party with
  | worker k =>
    obtain ⟨j, hg, hj⟩ := Option.bind_eq_some_iff.1 hr
    cases j with
    | returning r' =>
      cases hj
      rcases job_origin hk h hg with hg | ⟨j₀, rfl, hg, hs⟩ | ⟨c, t, rfl, -, he⟩
      · exact .inl (by rw [returning?, hg]; rfl)
      · cases Job.goesOn hs with
        | returning hr => exact .inr (.inl ⟨_, rfl, by rw [returning?, hg]; rfl, hr⟩)
      · cases t with
        | restore m =>
          cases he
          exact .inr (.inr ⟨m, rfl⟩)
        | add | close | maintain => cases he
    | adding | closing | maintaining => cases hj
  | user n =>
    obtain ⟨o, hg, ho⟩ := Option.bind_eq_some_iff.1 hr
    cases o with
    | release r' =>
      cases ho
      rcases operation_origin hk h hg with hg | ⟨o₀, rfl, hg, hs⟩ | hn
      · exact .inl (by rw [returning?, hg]; rfl)
      · cases Operation.goesOn hs with
        | release hr => exact .inr (.inl ⟨_, rfl, by rw [returning?, hg]; rfl, hr⟩)
      · cases r with
        | arriving m => exact .inr (.inr ⟨m, rfl⟩)
        | closing | resetting | paused | settling => cases hn
    | acquire | misplace | wait | check | close => cases ho
  | ticker _ | closer _ => cases hr

end Site

end SessionPool
