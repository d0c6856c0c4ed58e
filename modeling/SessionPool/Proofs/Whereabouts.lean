import SessionPool.Proofs.Accounting

/-!
# The whereabouts of members

A member that a pool is responsible for, or whose session was opened for it, is at one of a few
places (`Place`), each of which is some state of the pool, of a job or of an operation; other
members the pool has given up. `Site.whereabouts` lists all members with their places. No member
is listed twice (`Site.Has.eq`), so that a member has one place, and its number has one member.
-/

set_option autoImplicit false

namespace SessionPool

/-- Where a member is that the pool has not given up. -/
inductive Place
  /-- It lies in the pool. -/
  | unused
  /-- It lies ready for a request that has waited for it. -/
  | ready
  /-- Its session was opened and is still to be entered. -/
  | opened
  /-- A user has it, or is about to give it back. -/
  | held
  /-- It was given back, and a worker is to receive it or is about to. -/
  | returned
  | resetting
  | probed
deriving DecidableEq, Repr

/-- Where a member is, if it is not one that the pool has given up. -/
abbrev Whereabouts := List (Option Place × Member)

def Task.whereabouts : Task Member → Whereabouts
  | .restore m => [(some .returned, m)]
  | .close m => [(none, m)]
  | .add _ | .maintain => []

/-- Where a member is that comes back, if it was at a place before it is received. -/
def Returning.place (before : Place) : Returning → Option Place
  | arriving _ => some before
  | closing _ => none
  | resetting _ | paused _ _ | settling _ _ => some .resetting

def Job.whereabouts : Job → Whereabouts
  | adding a => a.joining.map fun m => (some .opened, m)
  | returning r => [(r.place .returned, r.member)]
  | closing m => [(none, m)]
  | maintaining => []

def Operation.whereabouts : Operation → Whereabouts
  | acquire a => a.joining.map fun m => (some .opened, m)
  | release r => [(r.place .held, r.member)]
  | misplace m => [(some .held, m)]
  | wait _ => []
  | check c => c.member?.toList.map fun m => (some .probed, m)
  | close c => c.idle.map fun m => (none, m)

theorem Task.map_whereabouts (t : Task Member) : t.whereabouts.map Prod.snd = t.item?.toList := by
  cases t <;> rfl

theorem Returning.counted_append_spare (r : Returning) : r.counted ++ r.spare = [r.member] := by
  cases r <;> rfl

theorem Job.map_whereabouts (j : Job) : j.whereabouts.map Prod.snd = j.counted ++ j.spare := by
  cases j with
  | adding a => simp [whereabouts, counted, spare]
  | returning r => exact r.counted_append_spare.symm
  | closing m => rfl
  | maintaining => rfl

theorem Operation.map_whereabouts (o : Operation) :
    o.whereabouts.map Prod.snd = o.counted ++ o.spare := by
  cases o with
  | acquire a => simp [whereabouts, counted, spare]
  | release r => exact r.counted_append_spare.symm
  | misplace m => rfl
  | wait w => rfl
  | check c => simp [whereabouts, counted, spare]
  | close c => simp [whereabouts, counted, spare]

/-- What values of a table list is what each of them lists. -/
theorem Table.map_whereabouts {ν : Type} {f : ν → Whereabouts} {g h : ν → List Member}
    (hf : ∀ v, (f v).map Prod.snd = g v ++ h v) (t : List (Nat × ν)) :
    ((t.flatMap fun p => f p.2).map Prod.snd).Perm
      (t.flatMap (fun p => g p.2) ++ t.flatMap fun p => h p.2) := by
  rw [List.map_flatMap]
  simp only [hf]
  exact (List.flatMap_append_perm t _ _).symm

namespace Site

variable {env env' : Env} {s s' : Site} {mv : Move} {pl pl' : Place} {m m' : Member}

/-! ## The places of a pool -/

/-- All members, those that the pool has given up included. -/
def whereabouts (s : Site) : Whereabouts :=
  s.pool.idle.map (fun m => (some .unused, m)) ++
    s.pool.waiting.delivered.map (fun m => (some .ready, m)) ++
    s.pool.crew.tasks.flatMap Task.whereabouts ++ s.pool.leaving.map (fun m => (none, m)) ++
    s.held.map (fun m => (some .held, m)) ++ s.jobs.flatMap (fun j => j.2.whereabouts) ++
    s.operations.flatMap fun o => o.2.whereabouts

/-- The pool has not given the member up, and it is at the place. -/
def Has (s : Site) (pl : Place) (m : Member) : Prop := (some pl, m) ∈ s.whereabouts

theorem map_whereabouts (s : Site) : (s.whereabouts.map Prod.snd).Perm s.members := by
  have tasks : (s.pool.crew.tasks.flatMap Task.whereabouts).map Prod.snd =
      s.pool.crew.tasks.filterMap Task.item? := by
    simp only [List.map_flatMap, Task.map_whereabouts, List.filterMap_eq_flatMap_toList]
  have jobs := Table.map_whereabouts Job.map_whereabouts s.jobs
  have operations := Table.map_whereabouts Operation.map_whereabouts s.operations
  simp only [whereabouts, members, Pool.members, inHand, List.map_append, List.map_map, tasks,
    Function.comp_def, List.map_id', List.append_assoc]
  refine List.Perm.append_left _ (List.Perm.append_left _ (List.Perm.append_left _
    (List.Perm.append_left _ (List.Perm.append_left _ ?_))))
  have both := jobs.append operations
  rwa [List.append_assoc] at both

/-- Nobody is listed twice. -/
theorem Reachable.nodup_whereabouts (h : Reachable env s) :
    (s.whereabouts.map fun w => w.2.id).Nodup := by
  have hn : (s.members.map Member.id).Nodup := Multiset.coe_nodup.1 h.numbered.1
  have listed := (s.map_whereabouts.map Member.id).nodup_iff.2 hn
  rwa [List.map_map] at listed

/-- **A number has one member, and a member has one place.** -/
theorem Reachable.whereabouts_eq (h : Reachable env s) {w w' : Option Place × Member}
    (hw : w ∈ s.whereabouts) (hw' : w' ∈ s.whereabouts) (hi : w.2.id = w'.2.id) : w = w' :=
  List.inj_on_of_nodup_map h.nodup_whereabouts hw hw' hi

theorem Has.eq (hm : s.Has pl m) (h : Reachable env s) (hm' : s.Has pl' m') (hi : m.id = m'.id) :
    pl = pl' ∧ m = m' := by
  have he := h.whereabouts_eq hm hm' hi
  exact ⟨Option.some.inj (congrArg Prod.fst he), congrArg Prod.snd he⟩

/-- Who is somewhere has a number that was given. -/
theorem Has.id_lt (hm : s.Has pl m) (h : Reachable env s) : m.id < s.pool.nextId := by
  refine h.numbered.2 m.id ?_
  have listed : m ∈ s.members := s.map_whereabouts.subset (List.mem_map_of_mem hm)
  exact Multiset.mem_coe.2 (List.mem_map_of_mem listed)

/-! ### Members at a place -/

theorem has_unused (h : m ∈ s.pool.idle) : s.Has .unused m := by
  simp [Has, whereabouts, h]

theorem has_ready (h : m ∈ s.pool.waiting.delivered) : s.Has .ready m := by
  simp [Has, whereabouts, h]

theorem has_held (h : m ∈ s.held) : s.Has .held m := by
  simp [Has, whereabouts, h]

theorem mem_tasks_whereabouts {w : Option Place × Member} {t : Task Member}
    (ht : t ∈ s.pool.crew.tasks) (h : w ∈ t.whereabouts) : w ∈ s.whereabouts := by
  have hw : w ∈ s.pool.crew.tasks.flatMap Task.whereabouts := List.mem_flatMap.2 ⟨t, ht, h⟩
  simp only [whereabouts, List.mem_append, hw, true_or, or_true]

theorem mem_job_whereabouts {w : Option Place × Member} {k : Nat} {j : Job}
    (hj : (k, j) ∈ s.jobs) (h : w ∈ j.whereabouts) : w ∈ s.whereabouts := by
  have hw : w ∈ s.jobs.flatMap fun j => j.2.whereabouts := List.mem_flatMap.2 ⟨(k, j), hj, h⟩
  simp only [whereabouts, List.mem_append, hw, true_or, or_true]

theorem mem_operation_whereabouts {w : Option Place × Member} {n : Nat} {o : Operation}
    (ho : (n, o) ∈ s.operations) (h : w ∈ o.whereabouts) : w ∈ s.whereabouts := by
  have hw : w ∈ s.operations.flatMap fun o => o.2.whereabouts :=
    List.mem_flatMap.2 ⟨(n, o), ho, h⟩
  simp only [whereabouts, List.mem_append, hw, or_true]

theorem has_of_job {k : Nat} {j : Job} (hg : Table.get? s.jobs k = some j)
    (h : (some pl, m) ∈ j.whereabouts) : s.Has pl m :=
  mem_job_whereabouts (Table.mem_of_get? hg) h

theorem has_of_operation {n : Nat} {o : Operation} (hg : Table.get? s.operations n = some o)
    (h : (some pl, m) ∈ o.whereabouts) : s.Has pl m :=
  mem_operation_whereabouts (Table.mem_of_get? hg) h

theorem has_returned (h : m ∈ s.pool.returns) : s.Has .returned m := by
  obtain ⟨t, ht, hr⟩ := List.mem_filterMap.1 h
  cases t with
  | restore m' =>
    cases hr
    exact mem_tasks_whereabouts ht (.head _)
  | add | close | maintain => cases hr

/-- Who is at a place is in the pool, with a user, or in the hands of a worker or an operation. -/
theorem has_cases (hk : s.Keyed) (h : s.Has pl m) :
    (pl = .unused ∧ m ∈ s.pool.idle) ∨ (pl = .ready ∧ m ∈ s.pool.waiting.delivered) ∨
    (pl = .returned ∧ m ∈ s.pool.returns) ∨ (pl = .held ∧ m ∈ s.held) ∨
    (∃ k j, Table.get? s.jobs k = some j ∧ (some pl, m) ∈ j.whereabouts) ∨
    ∃ n o, Table.get? s.operations n = some o ∧ (some pl, m) ∈ o.whereabouts := by
  simp only [Has, whereabouts, List.mem_append] at h
  rcases h with (((((h | h) | h) | h) | h) | h) | h
  · obtain ⟨m', hm, he⟩ := List.mem_map.1 h
    cases he
    exact .inl ⟨rfl, hm⟩
  · obtain ⟨m', hm, he⟩ := List.mem_map.1 h
    cases he
    exact .inr (.inl ⟨rfl, hm⟩)
  · obtain ⟨t, ht, h⟩ := List.mem_flatMap.1 h
    cases t with
    | restore m' =>
      cases List.mem_singleton.1 h
      exact .inr (.inr (.inl ⟨rfl, List.mem_filterMap.2 ⟨_, ht, rfl⟩⟩))
    | close m' => cases List.mem_singleton.1 h
    | add | maintain => cases h
  · obtain ⟨m', -, he⟩ := List.mem_map.1 h
    cases he
  · obtain ⟨m', hm, he⟩ := List.mem_map.1 h
    cases he
    exact .inr (.inr (.inr (.inl ⟨rfl, hm⟩)))
  · obtain ⟨⟨k, j⟩, hj, h⟩ := List.mem_flatMap.1 h
    exact .inr (.inr (.inr (.inr (.inl ⟨k, j, Table.get?_of_mem hk.jobs hj, h⟩))))
  · obtain ⟨⟨n, o⟩, ho, h⟩ := List.mem_flatMap.1 h
    exact .inr (.inr (.inr (.inr (.inr ⟨n, o, Table.get?_of_mem hk.operations ho, h⟩))))

/-- Who counts in the books is at a place. -/
theorem has_of_mem_accounted (h : m ∈ s.pool.idle ++ s.out) : ∃ pl, s.Has pl m := by
  have returning {r : Returning} (before : Place) (h : m ∈ r.counted) :
      ∃ pl, (some pl, m) ∈ [(r.place before, r.member)] := by
    cases r with
    | arriving m' =>
      cases List.mem_singleton.1 h
      exact ⟨before, .head _⟩
    | resetting m' | paused m' _ | settling m' _ =>
      cases List.mem_singleton.1 h
      exact ⟨.resetting, .head _⟩
    | closing m' => cases h
  simp only [out, List.mem_append] at h
  rcases h with h | (((h | h) | h) | h) | h
  · exact ⟨_, has_unused h⟩
  · exact ⟨_, has_ready h⟩
  · exact ⟨_, has_held h⟩
  · exact ⟨_, has_returned h⟩
  · obtain ⟨⟨k, j⟩, hj, h⟩ := List.mem_flatMap.1 h
    cases j with
    | returning r =>
      obtain ⟨pl, hw⟩ := returning .returned h
      exact ⟨pl, mem_job_whereabouts hj hw⟩
    | adding | closing | maintaining => cases h
  · obtain ⟨⟨n, o⟩, ho, h⟩ := List.mem_flatMap.1 h
    cases o with
    | release r =>
      obtain ⟨pl, hw⟩ := returning .held h
      exact ⟨pl, mem_operation_whereabouts ho hw⟩
    | misplace m' =>
      cases List.mem_singleton.1 h
      exact ⟨.held, mem_operation_whereabouts ho (.head _)⟩
    | check c => exact ⟨.probed, mem_operation_whereabouts ho (List.mem_map_of_mem h)⟩
    | acquire | wait | close => cases h

end Site

/-! ## Numbers -/

namespace Pool

variable {now : Instant} {l : Line} {p q : Pool} {a b : Stake}

theorem Entry.nextId_le (h : Entry now l p a q b) : p.nextId ≤ q.nextId := by
  cases h with
  | aside h _ =>
    have hn : q.nextId = p.nextId := congrArg (fun b : Books => b.nextId) h
    exact hn.ge
  | number _ => exact Nat.le_succ _
  | reserve | unreserve | furnish | countLive | drop | lose | leave | depart | queueTask | takeTask
  | unpark | park | expire | sweep | hand | collect | withdraw | fail | failAll | enroll =>
    exact Nat.le_refl _

theorem Entries.nextId_le (h : Entries now l p a q b) : p.nextId ≤ q.nextId := by
  induction h with
  | refl => exact Nat.le_refl _
  | step _ e ih => exact ih.trans e.nextId_le

theorem Row.nextId_le (h : Row now p a q b) : p.nextId ≤ q.nextId := by
  cases h with
  | changing h => exact h.nextId_le
  | serving before e after => exact (before.nextId_le.trans e.nextId_le).trans after.nextId_le

end Pool

namespace Site

variable {env env' : Env} {s s' : Site} {mv : Move}

/-- Numbers are given in ascending order. -/
theorem nextId_move (h : Reachable env s) (hm : s.move? env mv = some (env', s')) :
    s.pool.nextId ≤ s'.pool.nextId := by
  rcases move_cases h.keyed h.balanced hm with
    ⟨lo, hi, -, -, rfl | ⟨q, hq, rfl⟩⟩ | ⟨-, -, rfl⟩ | ⟨a, b, k, -, -, hl⟩
  · exact Nat.le_refl _
  · obtain ⟨lo, hi, he⟩ : ∃ lo hi, Pool.Entries .origin .still _ 0 q 0 := Pool.resize_entries hq
    exact he.nextId_le
  · exact Nat.le_refl _
  · exact hl.row.nextId_le

end Site

end SessionPool
