import SessionPool.Proofs.Annals

/-!
# Whom an item reaches

An item that is offered to a queue goes past the requests that cannot take it, the late ones and
those whose callers hung up, and reaches the first that can (`CanTake`). `Passes` says what becomes
of a queue whose front was passed by: who stood there is gone, who was late among them is told so,
and nobody else hears anything new.

`Annals.fulfill_delivers` says it of every queue and every slot: an item is handed to the first
request that can take it and to nobody else, or stays in its slot and the queue is empty; an empty
slot removes the late requests at the front and stops at the first that is in time.
-/

set_option autoImplicit false

namespace SessionPool

theorem Request.isLate_eq_false_iff {r : Request} {now : Instant} :
    r.isLate now = false ↔ now < r.deadline := by
  simp [Request.isLate, Instant.le_iff, Instant.lt_iff]

namespace WaitQueue

variable {α : Type} {q : WaitQueue α} {now : Instant} {t : Nat}

/-- A request that an item can be handed to: its deadline is still to come, and its caller
listens. -/
def CanTake (q : WaitQueue α) (now : Instant) (r : Request) : Prop :=
  now < r.deadline ∧ q.hears r.ticket = true

instance (r : Request) : Decidable (q.CanTake now r) := inferInstanceAs (Decidable (_ ∧ _))

theorem canTake_iff {r : Request} : q.CanTake now r ↔ q.isStale now r = false := by
  rw [CanTake, ← Request.isLate_eq_false_iff]
  simp [isStale]

theorem not_canTake_iff {r : Request} : ¬ q.CanTake now r ↔ q.isStale now r = true := by
  rw [canTake_iff, Bool.not_eq_false]

/-! ## The first that can take it -/

/-- There is only one first element without a property. -/
theorem first_unique {β : Type} {p : β → Bool} {a b c d : List β} {x y : β}
    (h : a ++ x :: b = c ++ y :: d) (ha : ∀ z ∈ a, p z = true) (hx : p x = false)
    (hc : ∀ z ∈ c, p z = true) (hy : p y = false) : a = c ∧ x = y ∧ b = d := by
  have front {l m : List β} {z : β} (hl : ∀ w ∈ l, p w = true) (hz : p z = false) :
      (l ++ z :: m).takeWhile p = l := by
    rw [List.takeWhile_append_of_pos hl, List.takeWhile_cons_of_neg (by simp [hz]), List.append_nil]
  have hac : a = c := by
    rw [← front (m := b) ha hx, h, front hc hy]
  subst hac
  have hr : x :: b = y :: d := List.append_cancel_left h
  cases hr
  exact ⟨rfl, rfl, rfl⟩

theorem fulfill_first {before after : List Request} {w : Request} (m : α)
    (hq : q.requests = before ++ w :: after) (hb : ∀ r ∈ before, q.isStale now r = true)
    (hw : q.isStale now w = false) :
    q.fulfill (some m) now =
      ⟨{ q with
          requests := after
          replies := q.replies ++ (q.lateReplies now before ++ [(w.ticket, .ok m)]) },
        some ⟨w.ticket, now.since w.arrived⟩, none⟩ := by
  rcases q.fulfill_cases m now with ⟨before', w', after', hq', hb', hw', hf⟩ | ⟨hall, -⟩
  · obtain ⟨rfl, rfl, rfl⟩ := first_unique (hq.symm.trans hq') hb hw hb' hw'
    exact hf
  · have hs : q.isStale now w = true := hall w (hq ▸ List.mem_append_right _ List.mem_cons_self)
    rw [hw] at hs
    cases hs

theorem fulfill_nobody (m : α) (hall : ∀ r ∈ q.requests, q.isStale now r = true) :
    q.fulfill (some m) now =
      ⟨{ q with requests := [], replies := q.replies ++ q.lateReplies now q.requests },
        none, some m⟩ := by
  rcases q.fulfill_cases m now with ⟨before, w, after, hq, -, hw, -⟩ | ⟨-, hf⟩
  · have hs : q.isStale now w = true := hall w (hq ▸ List.mem_append_right _ List.mem_cons_self)
    rw [hw] at hs
    cases hs
  · exact hf

/-- An empty slot goes no further than the first request that is not late. -/
theorem fulfill_empty {before after : List Request} (hq : q.requests = before ++ after)
    (hb : ∀ r ∈ before, r.isLate now = true) (ha : ∀ r ∈ after.head?, r.isLate now = false) :
    q.fulfill none now =
      ⟨{ q with requests := after, replies := q.replies ++ q.lateReplies now before },
        none, none⟩ := by
  have front {l m : List Request} (hl : ∀ r ∈ l, r.isLate now = true)
      (hm : ∀ r ∈ m.head?, r.isLate now = false) :
      (l ++ m).takeWhile (fun r => r.isLate now) = l := by
    rw [List.takeWhile_append_of_pos hl]
    cases m with
    | nil => simp
    | cons r m => rw [List.takeWhile_cons_of_neg (by simp [hm r rfl]), List.append_nil]
  obtain ⟨before', after', hq', hb', ha', hf⟩ := q.fulfill_none now
  have hbb : before = before' := by
    rw [← front hb ha, ← hq, hq', front hb' ha']
  subst hbb
  have haa : after = after' := List.append_cancel_left (hq.symm.trans hq')
  subst haa
  exact hf

/-! ## What the callers hear -/

section
variable {passed mid kept : List Request} {new : List (Nat × Except PoolError α)}

theorem heard_append (q : WaitQueue α) (kept : List Request)
    (new : List (Nat × Except PoolError α)) (t : Nat) :
    ({ q with requests := kept, replies := q.replies ++ new } : WaitQueue α).heard t =
      if !q.hears t then .deaf
      else match (q.reply? t).or (Table.get? new t) with
        | some result => .answer result
        | none => if kept.any (fun r => r.ticket = t) then .waiting else .over := by
  rw [heard, reply?, Table.get?_append]
  rfl

/-- Who waits has no answer yet. -/
theorem reply?_of_places (places : (q.tickets ++ Table.keys q.replies).Nodup) {t : Nat}
    (ht : t ∈ q.tickets) : q.reply? t = none := by
  rw [reply?, Table.get?_eq_none_iff]
  intro hr
  exact (List.nodup_append.1 places).2.2 t ht t hr rfl

/-- Who listens hears what it is told. -/
theorem heard_told (unread : q.reply? t = none) (distinct : (Table.keys new).Nodup)
    (hh : q.hears t = true) {x : Except PoolError α} (hx : (t, x) ∈ new) :
    ({ q with requests := kept, replies := q.replies ++ new } : WaitQueue α).heard t =
      .answer x := by
  rw [heard_append, unread, Table.get?_of_mem distinct hx]
  simp [hh]

/-- Who is told nothing, and waits if it waited, hears what it heard. -/
theorem heard_untold (untold : t ∉ Table.keys new)
    (waits : q.hears t = true → (t ∈ kept.map (·.ticket) ↔ t ∈ q.tickets)) :
    ({ q with requests := kept, replies := q.replies ++ new } : WaitQueue α).heard t =
      q.heard t := by
  rw [heard_append, Table.get?_eq_none_iff.2 untold, Option.or_none, heard]
  cases hh : q.hears t with
  | false => rfl
  | true =>
    have hw : (kept.any fun r => r.ticket = t) = q.isWaiting t := by
      rw [Bool.eq_iff_iff, isWaiting_iff, ← waits hh]
      simp
    exact hw ▸ rfl

/-- The front of a queue was passed by. Who stood there is gone, and who was late among them, and
listens, is told so under its own timeout. The others stand as they stood, and except for the
tickets `apart` nobody hears anything new. -/
structure Passes (q : WaitQueue α) (now : Instant) (passed kept : List Request) (apart : List Nat)
    (q' : WaitQueue α) : Prop where
  rest : q' = { q with requests := kept, replies := q'.replies }
  gone : ∀ r ∈ passed, q'.isWaiting r.ticket = false
  late : ∀ r ∈ passed, r.deadline ≤ now → q.hears r.ticket = true →
    q'.heard r.ticket = .answer (.error (.timeout r.timeout))
  others : ∀ t ∉ apart, (∀ r ∈ passed, r.ticket = t → now < r.deadline) → q'.heard t = q.heard t

theorem tickets_parts (hq : q.requests = passed ++ mid ++ kept) :
    q.tickets = passed.map (·.ticket) ++ mid.map (·.ticket) ++ kept.map (·.ticket) := by
  rw [tickets, hq, List.map_append, List.map_append]

/-- Nobody is told twice. -/
theorem told_nodup (places : (q.tickets ++ Table.keys q.replies).Nodup)
    (hq : q.requests = passed ++ mid ++ kept)
    (hnew : (Table.keys new).Sublist (mid.map (·.ticket))) :
    (Table.keys (q.lateReplies now passed ++ new)).Nodup := by
  have hd : q.tickets.Nodup := (List.nodup_append.1 places).1
  rw [tickets_parts hq] at hd
  refine (List.nodup_append.1 hd).1.sublist ?_
  rw [Table.keys, List.map_append, ← Table.keys, ← Table.keys, Act.keys_lateReplies]
  exact (List.filter_sublist.map _).append hnew

theorem passes (mid : List Request) (new : List (Nat × Except PoolError α))
    (places : (q.tickets ++ Table.keys q.replies).Nodup)
    (hq : q.requests = passed ++ mid ++ kept) (hs : ∀ r ∈ passed, q.isStale now r = true)
    (hnew : (Table.keys new).Sublist (mid.map (·.ticket))) :
    q.Passes now passed kept (mid.map (·.ticket))
      { q with requests := kept, replies := q.replies ++ (q.lateReplies now passed ++ new) } := by
  have ht := tickets_parts hq
  constructor
  · rfl
  · intro r hr
    rw [Bool.eq_false_iff, ne_eq, isWaiting_iff]
    intro hk
    -- the tickets of those that were passed by are not those of the rest
    have hd : q.tickets.Nodup := (List.nodup_append.1 places).1
    rw [ht] at hd
    refine (List.nodup_append.1 hd).2.2 r.ticket ?_ r.ticket hk rfl
    exact List.mem_append_left _ (List.mem_map_of_mem hr)
  · intro r hr hd hh
    have hl : r.isLate now = true := by simpa [Request.isLate] using hd
    have hw : r.ticket ∈ q.tickets := by
      rw [ht, List.append_assoc]
      exact List.mem_append_left _ (List.mem_map_of_mem hr)
    apply heard_told (reply?_of_places places hw) (told_nodup places hq hnew) hh
    exact List.mem_append_left _ (Act.mem_lateReplies.2 ⟨r, hr, hl, hh, rfl⟩)
  · intro t hapart intime
    -- who listens and was passed by was late, so it is not `t`
    have notPassed (hh : q.hears t = true) : t ∉ passed.map (·.ticket) := by
      intro hk
      obtain ⟨r, hr, rfl⟩ := List.mem_map.1 hk
      have hl : r.isLate now = false := Request.isLate_eq_false_iff.2 (intime r hr rfl)
      have hstale := hs r hr
      simp [isStale, hl, hh] at hstale
    apply heard_untold
    · rw [Table.keys, List.map_append, List.mem_append, not_or]
      constructor
      · intro hk
        obtain ⟨x, hx, rfl⟩ := List.mem_map.1 hk
        obtain ⟨r, hr, -, hh, rfl⟩ := Act.mem_lateReplies.1 hx
        exact notPassed hh (List.mem_map_of_mem hr)
      · intro hk
        exact hapart (hnew.subset hk)
    · intro hh
      rw [ht, List.mem_append, List.mem_append]
      constructor
      · exact .inr
      · rintro ((hk | hk) | hk)
        · exact absurd hk (notPassed hh)
        · exact absurd hk hapart
        · exact hk

end

/-! ## Delivery -/

/-- What offering the content of a slot to a queue comes to. -/
structure Delivers (q : WaitQueue α) (now : Instant) : Prop where
  /-- The first request that can take an item is handed it, and nobody else. -/
  handed : ∀ (item : α) (before : List Request) (w : Request) (after : List Request),
    q.requests = before ++ w :: after → (∀ r ∈ before, ¬ q.CanTake now r) → q.CanTake now w →
    (q.fulfill (some item) now).served = some ⟨w.ticket, ⟨now.nanos - w.arrived.nanos⟩⟩ ∧
      (q.fulfill (some item) now).slot = none ∧
      (q.fulfill (some item) now).queue.heard w.ticket = .answer (.ok item) ∧
      q.Passes now before after [w.ticket] (q.fulfill (some item) now).queue
  /-- An item that nobody can take stays in its slot, and nobody waits any more. -/
  left : ∀ item : α, (∀ r ∈ q.requests, ¬ q.CanTake now r) →
    (q.fulfill (some item) now).served = none ∧
      (q.fulfill (some item) now).slot = some item ∧
      q.Passes now q.requests [] [] (q.fulfill (some item) now).queue
  /-- An empty slot removes the late requests in front of the first that is in time. -/
  empty : ∀ before after : List Request, q.requests = before ++ after →
    (∀ r ∈ before, r.deadline ≤ now) → (∀ r ∈ after.head?, now < r.deadline) →
    (q.fulfill none now).served = none ∧ (q.fulfill none now).slot = none ∧
      q.Passes now before after [] (q.fulfill none now).queue

namespace Annals

theorem Orderly.places_nodup {h : Annals α} (o : Orderly h) :
    (h.queue.tickets ++ Table.keys h.queue.replies).Nodup := by
  have hk : (Table.keys h.queue.replies).Sublist (Table.keys h.answers) := by
    rw [o.unread]
    exact List.filter_sublist.map _
  exact List.perm_append_comm.nodup_iff.1 (o.once.sublist (hk.append_right _))

/-- **Delivery** reaches exactly the first request that can take an item, whatever was done to the
queue before and at whatever time. -/
theorem fulfill_delivers (acts : List (Act α)) (now : Instant) : (of acts).queue.Delivers now := by
  have places := (orderly acts).places_nodup
  constructor
  · intro item before w after hq hb hw
    have hb : ∀ r ∈ before, (of acts).queue.isStale now r = true := fun r hr =>
      not_canTake_iff.1 (hb r hr)
    have hq' : (of acts).queue.requests = before ++ [w] ++ after := by simpa using hq
    have waits : w.ticket ∈ (of acts).queue.tickets :=
      List.mem_map_of_mem (hq ▸ List.mem_append_right _ List.mem_cons_self)
    rw [fulfill_first item hq hb (canTake_iff.1 hw)]
    refine ⟨rfl, rfl, ?_, passes [w] [(w.ticket, .ok item)] places hq' hb (.refl _)⟩
    apply heard_told (reply?_of_places places waits) (told_nodup places hq' (.refl _)) hw.2
    exact List.mem_append_right _ List.mem_cons_self
  · intro item hall
    have hall : ∀ r ∈ (of acts).queue.requests, (of acts).queue.isStale now r = true :=
      fun r hr => not_canTake_iff.1 (hall r hr)
    rw [fulfill_nobody item hall]
    have hq' : (of acts).queue.requests = (of acts).queue.requests ++ [] ++ [] := by simp
    refine ⟨rfl, rfl, ?_⟩
    simpa using passes [] [] places hq' hall (.refl _)
  · intro before after hq hb ha
    have hb : ∀ r ∈ before, r.isLate now = true := fun r hr => by
      simpa [Request.isLate] using hb r hr
    have ha : ∀ r ∈ after.head?, r.isLate now = false := fun r hr =>
      Request.isLate_eq_false_iff.2 (ha r hr)
    rw [fulfill_empty hq hb ha]
    refine ⟨rfl, rfl, ?_⟩
    have hs : ∀ r ∈ before, (of acts).queue.isStale now r = true := fun r hr => by
      simp [isStale, hb r hr]
    simpa using passes [] [] places (by simpa using hq) hs (.refl _)

/-- One request that is late soon, one whose caller hangs up, one of which both is true, one that
arrives only at 30, and one more that is late soon. -/
def mixed : List (Act Nat) :=
  [.enqueue ⟨0⟩ ⟨10⟩, .enqueue ⟨0⟩ ⟨100⟩, .enqueue ⟨0⟩ ⟨5⟩, .enqueue ⟨30⟩ ⟨100⟩, .enqueue ⟨0⟩ ⟨7⟩,
    .hangUp 2, .hangUp 3]

/-- At 20 the fourth request gets the item, having waited no time. -/
theorem fulfill_delivers_mixed :
    ∃ before w after, (of mixed).queue.requests = before ++ w :: after ∧
      before.map (·.ticket) = [1, 2, 3] ∧ (∀ r ∈ before, ¬ (of mixed).queue.CanTake ⟨20⟩ r) ∧
      (of mixed).queue.CanTake ⟨20⟩ w ∧
      ((of mixed).queue.fulfill (some 7) ⟨20⟩).served = some ⟨4, ⟨0⟩⟩ ∧
      ((of mixed).queue.fulfill (some 7) ⟨20⟩).slot = none ∧
      ((of mixed).queue.fulfill (some 7) ⟨20⟩).queue.heard 4 = .answer (.ok 7) ∧
      (of mixed).queue.Passes ⟨20⟩ before after [4]
        ((of mixed).queue.fulfill (some 7) ⟨20⟩).queue := by
  have queued : (of mixed).queue.requests =
      [⟨1, ⟨0⟩, ⟨10⟩, ⟨10⟩⟩, ⟨2, ⟨0⟩, ⟨100⟩, ⟨100⟩⟩, ⟨3, ⟨0⟩, ⟨5⟩, ⟨5⟩⟩] ++
        ⟨4, ⟨30⟩, ⟨130⟩, ⟨100⟩⟩ :: [⟨5, ⟨0⟩, ⟨7⟩, ⟨7⟩⟩] := by decide
  have passed : ∀ r ∈ ([⟨1, ⟨0⟩, ⟨10⟩, ⟨10⟩⟩, ⟨2, ⟨0⟩, ⟨100⟩, ⟨100⟩⟩, ⟨3, ⟨0⟩, ⟨5⟩, ⟨5⟩⟩] :
      List Request), ¬ (of mixed).queue.CanTake ⟨20⟩ r := by decide
  have takes : (of mixed).queue.CanTake ⟨20⟩ ⟨4, ⟨30⟩, ⟨130⟩, ⟨100⟩⟩ := by decide
  exact ⟨_, _, _, queued, rfl, passed, takes,
    (fulfill_delivers mixed ⟨20⟩).handed 7 _ _ _ queued passed takes⟩

end Annals

end WaitQueue

end SessionPool
