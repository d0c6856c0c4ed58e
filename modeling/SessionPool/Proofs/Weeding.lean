import SessionPool.Process.Job
import SessionPool.Proofs.Crew
import SessionPool.Proofs.Upkeep

/-!
# What a round of maintenance removes

A round of maintenance parts the unused members (`Pool.Parts`): the expired ones go, wherever they
are, then some from the front because nobody has used them for long, and then some from the back
because there are too many. What is kept is a run of the others, in the order in which they were.
Each member that goes is sent to be closed once, and the pool is responsible for one session less;
requests whose time is up are told so (`Pool.swept`). Then the pool has others opened where they are
wanted (`Pool.maintain_eq`, `Job.maintains`).
-/

set_option autoImplicit false

namespace SessionPool

namespace Pool

/-! ## Sending members away -/

/-- Members are on their way to be closed: by the crew or, if it was stopped, on their own. -/
def seeOff (p : Pool) (ms : List Member) : Pool :=
  if p.crew.stopped then { p with leaving := p.leaving ++ ms }
  else { p with crew := { p.crew with tasks := p.crew.tasks ++ ms.map .close } }

theorem seeOff_nil (p : Pool) : p.seeOff [] = p := by
  unfold seeOff
  split <;> simp

theorem seeOff_cons (p : Pool) (m : Member) (ms : List Member) :
    p.seeOff (m :: ms) = (p.dispatchClose m).seeOff ms := by
  unfold dispatchClose
  rcases p.crew.dispatch_cases (.close m) with ⟨hs, h⟩ | ⟨hs, h⟩ <;> rw [h] <;>
    simp [seeOff, hs]

theorem closeAll_eq (ms : List Member) (p : Pool) : ms.foldl dispatchClose p = p.seeOff ms := by
  induction ms generalizing p with
  | nil => exact p.seeOff_nil.symm
  | cons m ms ih => rw [List.foldl_cons, ih, seeOff_cons]

@[simp] theorem idle_seeOff (p : Pool) (ms : List Member) : (p.seeOff ms).idle = p.idle := by
  unfold seeOff
  split <;> rfl

@[simp] theorem size_seeOff (p : Pool) (ms : List Member) : (p.seeOff ms).size = p.size := by
  unfold seeOff
  split <;> rfl

@[simp] theorem opening_seeOff (p : Pool) (ms : List Member) :
    (p.seeOff ms).opening = p.opening := by
  unfold seeOff
  split <;> rfl

@[simp] theorem waiting_seeOff (p : Pool) (ms : List Member) :
    (p.seeOff ms).waiting = p.waiting := by
  unfold seeOff
  split <;> rfl

@[simp] theorem settings_seeOff (p : Pool) (ms : List Member) :
    (p.seeOff ms).settings = p.settings := by
  unfold seeOff
  split <;> rfl

@[simp] theorem minSize_seeOff (p : Pool) (ms : List Member) :
    (p.seeOff ms).minSize = p.minSize := by
  unfold seeOff
  split <;> rfl

@[simp] theorem maxSize_seeOff (p : Pool) (ms : List Member) :
    (p.seeOff ms).maxSize = p.maxSize := by
  unfold seeOff
  split <;> rfl

/-- The sessions that are being opened and those that nobody uses are among the sessions that the
pool is responsible for. -/
theorem Balanced.room {p : Pool} {k : Stake} (h : p.Balanced k) :
    p.opening + p.idle.length ≤ p.size := by
  have counted : p.idle.length ≤ (p.stake + k).counted.card := by
    rw [Stake.counted_add, counted_stake, Multiset.card_add, card_idsOf, List.length_append,
      List.length_append]
    omega
  rw [h.size]
  omega

theorem drop_eq {p : Pool} {n : Nat} (h : n ≤ p.size) :
    p.drop n = { p with size := p.size - n } := by
  simp [drop, Nat.not_lt.2 h]

/-! ## Parting the unused members -/

/-- How unused members are parted. -/
structure Parting where
  /-- Those that have expired. -/
  expired : List Member
  /-- Those that nobody has used for long. -/
  old : List Member
  kept : List Member
  /-- Those that are too many. -/
  many : List Member

/-- Those that are not kept, in the order in which they go: the last are the first to be too
many. -/
def Parting.gone (w : Parting) : List Member := w.expired ++ w.old ++ w.many.reverse

theorem Parting.length_gone (w : Parting) :
    w.gone.length = w.expired.length + w.old.length + w.many.length := by simp [gone, Nat.add_assoc]

/-- What maintenance makes of the unused members at a moment. -/
structure Parts (p : Pool) (now : Instant) (w : Parting) : Prop where
  expired : w.expired = p.idle.filter (·.isExpired now)
  others : w.old ++ w.kept ++ w.many = p.idle.filter fun m => !m.isExpired now
  /-- Nobody has used the old ones for the time that is set. -/
  unused : ∀ m ∈ w.old, ∃ maxIdle, p.settings.maxIdle = some maxIdle ∧
    maxIdle ≤ m.notes.idleTime now
  /-- As many sessions are left without them as are kept open anyway. -/
  least : w.old ≠ [] → p.minSize + (w.expired ++ w.old).length ≤ p.size
  /-- They are all that can be found at the front. -/
  fresh : ∀ maxIdle ∈ p.settings.maxIdle, p.size ≤ p.minSize + (w.expired ++ w.old).length ∨
    ∀ m ∈ (w.kept ++ w.many).head?, m.notes.idleTime now < maxIdle
  /-- Before the last of them went, there were still too many. -/
  most : w.many ≠ [] → ∃ limit, p.maxSize = some limit ∧ limit + w.gone.length ≤ p.size
  /-- There are not too many any more, or none is left that could go. -/
  fits : ∀ limit ∈ p.maxSize, p.size ≤ limit + w.gone.length ∨ w.kept = []

/-- Each unused member goes or is kept. -/
theorem Parts.perm {p : Pool} {now : Instant} {w : Parting} (h : p.Parts now w) :
    p.idle.Perm (w.gone ++ w.kept) := by
  have parted : p.idle.Perm (w.expired ++ (w.old ++ w.kept ++ w.many)) := by
    rw [h.expired, h.others]
    exact (List.filter_append_perm _ _).symm
  refine parted.trans ?_
  rw [Parting.gone, List.append_assoc w.expired, List.append_assoc w.expired,
    List.append_assoc w.old, List.append_assoc w.old]
  refine ((List.perm_append_comm.trans ?_).append_left w.old).append_left w.expired
  exact (List.reverse_perm w.many).symm.append_right w.kept

/-- What is kept is a run of the unused members that have not expired. -/
theorem Parts.kept_sublist {p : Pool} {now : Instant} {w : Parting} (h : p.Parts now w) :
    w.kept.Sublist p.idle := by
  have run : w.kept.Sublist (w.old ++ w.kept ++ w.many) :=
    (List.sublist_append_right _ _).trans (List.sublist_append_left _ _)
  rw [h.others] at run
  exact run.trans List.filter_sublist

theorem Parts.length {p : Pool} {now : Instant} {w : Parting} (h : p.Parts now w) :
    p.idle.length = w.gone.length + w.kept.length := by
  rw [h.perm.length_eq, List.length_append]

/-- The old ones are taken from the front as long as they are unused and not needed. -/
theorem overripe_spec (minSize : Nat) (maxIdle : Duration) (now : Instant) (size : Nat)
    (idle : List Member) :
    ∃ rest, idle = overripe minSize maxIdle now size idle ++ rest ∧
      (∀ m ∈ overripe minSize maxIdle now size idle, maxIdle ≤ m.notes.idleTime now) ∧
      (overripe minSize maxIdle now size idle ≠ [] →
        minSize + (overripe minSize maxIdle now size idle).length ≤ size) ∧
      (size ≤ minSize + (overripe minSize maxIdle now size idle).length ∨
        ∀ m ∈ rest.head?, m.notes.idleTime now < maxIdle) := by
  fun_induction overripe minSize maxIdle now size idle with
  | case1 => exact ⟨[], rfl, by simp, by simp, by simp⟩
  | case2 size m front h ih =>
    obtain ⟨rest, parted, unused, least, fresh⟩ := ih
    refine ⟨rest, congrArg (m :: ·) parted, ?_, fun _ => ?_, ?_⟩
    · rintro x (_ | ⟨_, hx⟩)
      · exact h.2
      · exact unused x hx
    · rw [List.length_cons]
      by_cases hn : overripe minSize maxIdle now (size - 1) front = []
      · rw [hn, List.length_nil]
        omega
      · have := least hn
        omega
    · rw [List.length_cons]
      exact fresh.imp_left fun _ => by omega
  | case3 size m front h =>
    refine ⟨m :: front, rfl, by simp, by simp, ?_⟩
    rw [not_and_or, Nat.not_lt, Duration.le_iff, Nat.not_le, ← Duration.lt_iff] at h
    exact h.imp id fun h x hx => Option.some.inj hx ▸ h

section
variable (p : Pool) (now : Instant) {idle : List Member} {size : Nat}

theorem weedOverripe_spec (h : idle.length ≤ size) :
    ∃ old rest, idle = old ++ rest ∧
      weedOverripe { p with idle, size } now =
        ({ p with idle := rest, size := size - old.length }, old) ∧
      (∀ m ∈ old, ∃ maxIdle, p.settings.maxIdle = some maxIdle ∧
        maxIdle ≤ m.notes.idleTime now) ∧
      (old ≠ [] → p.minSize + old.length ≤ size) ∧
      ∀ maxIdle ∈ p.settings.maxIdle, size ≤ p.minSize + old.length ∨
        ∀ m ∈ rest.head?, m.notes.idleTime now < maxIdle := by
  unfold weedOverripe
  dsimp only
  cases hm : p.settings.maxIdle with
  | none => exact ⟨[], idle, rfl, rfl, by simp, by simp, by simp⟩
  | some maxIdle =>
    obtain ⟨rest, parted, unused, least, fresh⟩ := overripe_spec p.minSize maxIdle now size idle
    dsimp only
    generalize overripe p.minSize maxIdle now size idle = old at *
    subst parted
    rw [List.length_append] at h
    refine ⟨old, rest, rfl, ?_, fun m hx => ⟨maxIdle, rfl, unused m hx⟩, least, ?_⟩
    · rw [drop_eq (show old.length ≤ size by omega), List.drop_left]
    · rintro _ ⟨⟩
      exact fresh

/-- As many unused members go as there are sessions above the limit. -/
theorem weedExcess_eq (h : idle.length ≤ size) :
    ∃ kept many, idle = kept ++ many ∧
      many.length = min (excess { p with idle, size }) idle.length ∧
      weedExcess { p with idle, size } =
        ({ p with idle := kept, size := size - many.length }, many.reverse) := by
  let n := min (excess { p with idle, size }) idle.length
  have count : (idle.drop (idle.length - n)).length = n := by
    rw [List.length_drop]
    omega
  refine ⟨_, _, (List.take_append_drop (idle.length - n) idle).symm, count, ?_⟩
  have hn : n ≤ size := by omega
  rw [count, weedExcess]
  dsimp only
  rw [drop_eq hn]

theorem weedExcess_spec (h : idle.length ≤ size) :
    ∃ kept many, idle = kept ++ many ∧
      weedExcess { p with idle, size } =
        ({ p with idle := kept, size := size - many.length }, many.reverse) ∧
      (many ≠ [] → ∃ limit, p.maxSize = some limit ∧ limit + many.length ≤ size) ∧
      ∀ limit ∈ p.maxSize, size ≤ limit + many.length ∨ kept = [] := by
  obtain ⟨kept, many, rfl, count, weeded⟩ := p.weedExcess_eq h
  rw [List.length_append] at count
  have beyond (limit : Nat) (hm : p.maxSize = some limit) :
      excess { p with idle := kept ++ many, size } = size - limit := by simp [excess, hm]
  refine ⟨kept, many, rfl, weeded, fun hne => ?_, fun limit hm => ?_⟩
  · have hpos := List.length_pos_iff.2 hne
    cases hm : p.maxSize with
    | none =>
      have none : excess { p with idle := kept ++ many, size } = 0 := by simp [excess, hm]
      rw [none, Nat.zero_min] at count
      omega
    | some limit =>
      rw [beyond limit hm] at count
      exact ⟨limit, rfl, by omega⟩
  · rw [beyond limit hm] at count
    rw [← List.length_eq_zero_iff]
    omega

theorem weed_eq (h : p.idle.length ≤ p.size) :
    ∃ w, p.Parts now w ∧
      p.weed now = ({ p with idle := w.kept, size := p.size - w.gone.length }, w.gone) := by
  have all := (List.filter_append_perm (fun m : Member => m.isExpired now) p.idle).length_eq
  rw [List.length_append] at all
  have first : p.weedExpired now = ({ p with
      idle := p.idle.filter fun m => !m.isExpired now
      size := p.size - (p.idle.filter (·.isExpired now)).length },
      p.idle.filter (·.isExpired now)) := by
    unfold weedExpired
    dsimp only
    rw [drop_eq (by omega)]
  generalize he : p.idle.filter (·.isExpired now) = expired at *
  generalize ho : p.idle.filter (fun m => !m.isExpired now) = others at *
  -- each step works on what the one before it has left
  obtain ⟨old, rest, rfl, second, unused, least, fresh⟩ :=
    p.weedOverripe_spec now (show others.length ≤ p.size - expired.length by omega)
  rw [List.length_append] at all
  obtain ⟨kept, many, rfl, third, most, fits⟩ :=
    p.weedExcess_spec (show rest.length ≤ p.size - expired.length - old.length by omega)
  rw [List.length_append] at all
  have gone := Parting.length_gone ⟨expired, old, kept, many⟩
  dsimp only at gone
  refine ⟨⟨expired, old, kept, many⟩, ⟨he.symm, ?_, unused, fun hne => ?_, fun maxIdle hm => ?_,
    fun hne => ?_, fun limit hm => ?_⟩, ?_⟩
  · rw [ho, List.append_assoc]
  · have := least hne
    show p.minSize + (expired ++ old).length ≤ p.size
    rw [List.length_append]
    omega
  · show p.size ≤ p.minSize + (expired ++ old).length ∨ _
    rw [List.length_append]
    exact (fresh maxIdle hm).imp_left fun _ => by omega
  · obtain ⟨limit, hm, hle⟩ := most hne
    have := List.length_pos_iff.2 hne
    exact ⟨limit, hm, by omega⟩
  · exact (fits limit hm).imp_left fun _ => by omega
  · rw [weed, first]
    dsimp only
    rw [second]
    dsimp only
    rw [third, gone, ← Nat.sub_sub, ← Nat.sub_sub]
    rfl

end

/-! ## A round of maintenance -/

/-- A pool after requests were told that their time is up and unused members were sent away. -/
def swept (p : Pool) (now : Instant) (w : Parting) : Pool :=
  { p with
    waiting := { p.waiting with
      requests := p.waiting.requests.filter fun r => !p.waiting.isStale now r
      replies := p.waiting.replies ++ p.waiting.lateReplies now p.waiting.requests }
    idle := w.kept
    size := p.size - w.gone.length }.seeOff w.gone

theorem maintain_eq {p : Pool} (hc : p.closed = false) (h : p.idle.length ≤ p.size)
    (now : Instant) : ∃ w, p.Parts now w ∧ p.maintain now = (p.swept now w).topUp := by
  obtain ⟨w, parts, hw⟩ := weed_eq { p with waiting := (p.waiting.expire now).1 } now h
  -- the requests have no part in what becomes of the unused members
  refine ⟨w, ⟨parts.1, parts.2, parts.3, parts.4, parts.5, parts.6, parts.7⟩, ?_⟩
  unfold maintain
  rw [if_neg (by simp [hc]), hw]
  dsimp only
  rw [closeAll_eq, WaitQueue.expire_eq]
  rfl

end Pool

/-- **A round of maintenance** does nothing to a pool that is closed. In one that is open, requests
whose time is up are told so and those without a caller are forgotten, unused members are parted and
those that are not kept are sent away, and then others are opened where they are wanted. -/
theorem Job.maintains (env : Env) {p : Pool} (h : p.idle.length ≤ p.size) :
    ∃ env' q, Job.maintaining.step env p = some (env', q, .done ()) ∧
      (p.closed = true → env' = env ∧ q = p) ∧
      (p.closed = false → (∃ records, env' = { env with log := env.log ++ records }) ∧
        ∃ w, p.Parts env.now w ∧ w.gone.length ≤ p.size ∧ q = (p.swept env.now w).topUp) := by
  refine ⟨_, _, rfl, fun hc => ?_, fun hc => ⟨⟨_, rfl⟩, ?_⟩⟩
  · have hn : p.maintainNotes env.now = [] := if_pos hc
    exact ⟨by rw [hn, List.append_nil], if_pos hc⟩
  · obtain ⟨w, parts, hw⟩ := Pool.maintain_eq hc h env.now
    have := parts.length
    exact ⟨w, parts, by omega, hw⟩

/-- A member that was last used at some time and lies unused since. -/
def unusedSince (lastUsed id : Nat) (expiresAt : Option Instant) : Member where
  session := { pid := id }
  notes := {
    id
    pid := id
    createdAt := .origin
    expiresAt
    lastUsed := ⟨lastUsed⟩
    stage := .idle }

/-- An open pool with four unused members, of which the first has not been used for long, the second
has expired and the last is one too many; one of two requests is late. -/
def fourIdle : Pool where
  name := "main"
  settings := { maxIdle := some ⟨100⟩ }
  minSize := 1
  maxSize := some 2
  size := 5
  idle := [unusedSince 50 1 none, unusedSince 60 2 (some ⟨150⟩), unusedSince 150 3 none,
    unusedSince 180 4 none]
  waiting := {
    requests := [⟨1, ⟨0⟩, ⟨190⟩, ⟨190⟩⟩, ⟨2, ⟨0⟩, ⟨210⟩, ⟨210⟩⟩]
    nextTicket := 3
    listening := [1, 2] }

theorem Job.maintains_fourIdle :
    ∃ env' q w, Job.maintaining.step { now := ⟨200⟩ } fourIdle = some (env', q, .done ()) ∧
      fourIdle.Parts ⟨200⟩ w ∧ q = (fourIdle.swept ⟨200⟩ w).topUp ∧
      q.idle.map Member.id = [3] ∧ q.size = 2 ∧
      q.crew.tasks.filterMap (fun t => t.item?.map Member.id) = [2, 1, 4] ∧
      q.waiting.requests.map Request.ticket = [2] ∧ Table.keys q.waiting.replies = [1] := by
  have h : fourIdle.idle.length ≤ fourIdle.size := by decide
  obtain ⟨env', q, hs, -, ho⟩ := Job.maintains { now := ⟨200⟩ } h
  obtain ⟨-, w, parts, -, hq⟩ := ho rfl
  have hm : q = fourIdle.maintain ⟨200⟩ := by
    cases hs
    rfl
  refine ⟨env', q, w, hs, parts, hq, ?_⟩
  rw [hm]
  decide +kernel

end SessionPool
