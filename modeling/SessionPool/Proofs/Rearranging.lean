import SessionPool.Proofs.HostNames

/-!
# Segments in another order

Two keys are synonymous if they name the same setting (`Synonymous`), and two segments are related
if their keys are. The order of segments matters only among related ones (`Rearranged`), and of
these only the last one counts: `decisive` leaves out the others. Both keep the last value of every
setting (`lastValue?_rearranged`, `lastValue?_decisive`), and so the options of a text that is
accepted (`parse_rearranged`).
-/

set_option autoImplicit false

namespace SessionPool.ConnectionString

open Text

/-! ## Related segments -/

/-- The keys of each setting that has more than one. -/
def synonyms : List (List String) :=
  [hostKeys, ["database", "dbname", "initial catalog"], ["user", "user id", "uid"],
    ["password", "pwd"], ["application name", "application_name", "app"],
    ["connect timeout", "connect_timeout"], ["load balance hosts", "load_balance_hosts"]]

/-- Keys that name the same setting: equal ones, known or not, and two of one group. -/
def Synonymous (j k : String) : Prop := j = k ∨ ∃ keys ∈ synonyms, j ∈ keys ∧ k ∈ keys

instance (j k : String) : Decidable (Synonymous j k) := inferInstanceAs (Decidable (_ ∨ _))

/-- Segments whose keys name the same setting. -/
def Related (x y : List Char) : Prop := ∃ p ∈ keyValue? x, ∃ q ∈ keyValue? y, Synonymous p.1 q.1

instance (x y : List Char) : Decidable (Related x y) :=
  inferInstanceAs (Decidable (∃ p ∈ keyValue? x, _))

/-- The same segments in an order that is the same among related ones. -/
structure Rearranged (a b : List (List Char)) : Prop where
  perm : a.Perm b
  order : ∀ x ∈ a, a.filter (Related x ·) = b.filter (Related x ·)

/-- The segments without those that a related one follows. -/
def decisive : List (List Char) → List (List Char)
  | [] => []
  | x :: rest => if ∃ y ∈ rest, Related x y then decisive rest else x :: decisive rest

/-- The keys and the values of the segments that no related one follows. -/
def lastKeyValues (segments : List (List Char)) : List (String × List Char) :=
  (decisive segments).filterMap keyValue?

/-- The text of segments. -/
def joined (segments : List (List Char)) : String := String.ofList ([';'].intercalate segments)

/-! ## Keys of one setting -/

theorem ofKey_eq_extra {j k : String} (h : Setting.ofKey k = .extra j) : k = j := by
  unfold Setting.ofKey at h
  split at h <;> simp_all

theorem synonymous_iff_of_unreserved {j : String} (h : j ∉ reservedKeys) (k : String) :
    Synonymous j k ↔ j = k := by
  have reserved : ∀ keys ∈ synonyms, ∀ key ∈ keys, key ∈ reservedKeys := by decide
  exact or_iff_left fun ⟨keys, hm, hj, _⟩ => h (reserved keys hm j hj)

theorem synonymous_comm {j k : String} : Synonymous j k ↔ Synonymous k j := by
  have swap {j k : String} (h : Synonymous j k) : Synonymous k j :=
    h.imp Eq.symm fun ⟨keys, hm, hj, hk⟩ => ⟨keys, hm, hk, hj⟩
  exact ⟨swap, swap⟩

/-- Keys are synonymous exactly if they set the same. -/
theorem ofKey_eq_iff (j k : String) : Setting.ofKey j = Setting.ofKey k ↔ Synonymous j k := by
  have unreserved (j k : String) (h : j ∉ reservedKeys) :
      Setting.ofKey j = Setting.ofKey k ↔ Synonymous j k := by
    rw [synonymous_iff_of_unreserved h, Draft.ofKey_of_unreserved h]
    constructor
    · intro he
      exact (ofKey_eq_extra he.symm).symm
    · rintro rfl
      exact (Draft.ofKey_of_unreserved h).symm
  by_cases hj : j ∈ reservedKeys
  · by_cases hk : k ∈ reservedKeys
    · have reserved : ∀ j ∈ reservedKeys, ∀ k ∈ reservedKeys,
          (Setting.ofKey j = Setting.ofKey k ↔ Synonymous j k) := by decide +kernel
      exact reserved j hj k hk
    · rw [eq_comm, synonymous_comm]
      exact unreserved k j hk
  · exact unreserved j k hj

section
variable {x y : List Char} {setting : Setting} {value : List Char}

theorem valueFor?_eq_some_iff : valueFor? setting x = some value ↔
    ∃ p, keyValue? x = some p ∧ Setting.ofKey p.1 = setting ∧ p.2 = value := by
  simp [valueFor?, Option.bind_eq_some_iff]

/-- The segments related to one that sets something are those that set the same. -/
theorem related_iff (h : valueFor? setting x = some value) :
    Related x y ↔ (valueFor? setting y).isSome := by
  obtain ⟨p, hp, rfl, -⟩ := valueFor?_eq_some_iff.1 h
  rw [Option.isSome_iff_exists]
  constructor
  · rintro ⟨p', hp', q, hq, hs⟩
    obtain rfl : p = p' := Option.some.inj (hp.symm.trans hp')
    exact ⟨q.2, valueFor?_eq_some_iff.2 ⟨q, hq, ((ofKey_eq_iff _ _).2 hs).symm, rfl⟩⟩
  · rintro ⟨value', hv⟩
    obtain ⟨q, hq, hs, -⟩ := valueFor?_eq_some_iff.1 hv
    exact ⟨p, hp, q, hq, (ofKey_eq_iff _ _).1 hs.symm⟩

variable {a b : List (List Char)}

theorem lastValue?_eq_none_iff :
    lastValue? a setting = none ↔ ∀ x ∈ a, valueFor? setting x = none := by
  rw [lastValue?, List.getLast?_eq_none_iff, List.filterMap_eq_nil_iff]

theorem lastValue?_cons (x : List Char) (a : List (List Char)) (setting : Setting) :
    lastValue? (x :: a) setting = (lastValue? a setting).or (valueFor? setting x) := by
  rw [← List.singleton_append, lastValue?_append, lastValue?_singleton]

/-! ## Rearranged segments -/

/-- The segments related to one that sets something are all that matters to its setting. -/
theorem lastValue?_filter (a : List (List Char)) (h : valueFor? setting x = some value) :
    lastValue? (a.filter (Related x ·)) setting = lastValue? a setting := by
  have same : (fun y => if Related x y then valueFor? setting y else none) =
      valueFor? setting := by
    funext y
    simp only [related_iff h]
    cases valueFor? setting y <;> rfl
  rw [lastValue?, lastValue?, List.filterMap_filter]
  simp only [decide_eq_true_eq, same]

theorem lastValue?_rearranged (h : Rearranged a b) : lastValue? b = lastValue? a := by
  funext setting
  by_cases hs : ∃ x ∈ a, (valueFor? setting x).isSome
  · obtain ⟨x, hm, hx⟩ := hs
    obtain ⟨value, hv⟩ := Option.isSome_iff_exists.1 hx
    rw [← lastValue?_filter a hv, ← lastValue?_filter b hv, h.order x hm]
  · have unset : ∀ x ∈ a, valueFor? setting x = none := by simpa using hs
    have unset' : ∀ x ∈ b, valueFor? setting x = none := fun x hx => unset x (h.perm.mem_iff.2 hx)
    rw [lastValue?_eq_none_iff.2 unset, lastValue?_eq_none_iff.2 unset']

/-! ## Segments that a related one follows -/

theorem lastValue?_of_followed (h : ∃ y ∈ a, Related x y) : lastValue? (x :: a) = lastValue? a := by
  obtain ⟨y, hm, hr⟩ := h
  funext setting
  rw [lastValue?_cons]
  cases hv : valueFor? setting x with
  | none => rw [Option.or_none]
  | some value =>
    cases hl : lastValue? a setting with
    | some last => rfl
    | none =>
      have unset := lastValue?_eq_none_iff.1 hl y hm
      have set := (related_iff hv).1 hr
      simp [unset] at set

theorem lastValue?_decisive (a : List (List Char)) : lastValue? (decisive a) = lastValue? a := by
  induction a with
  | nil => rfl
  | cons x a ih =>
    rw [decisive]
    split
    · rename_i h
      rw [ih, lastValue?_of_followed h]
    · funext setting
      rw [lastValue?_cons, lastValue?_cons, ih]

theorem decisive_sublist (a : List (List Char)) : (decisive a).Sublist a := by
  induction a with
  | nil => exact .slnil
  | cons x a ih =>
    rw [decisive]
    split
    · exact ih.cons x
    · exact ih.cons_cons x

theorem decisive_ne_nil (h : a ≠ []) : decisive a ≠ [] := by
  induction a with
  | nil => exact absurd rfl h
  | cons x a ih =>
    rw [decisive]
    split
    · rename_i hf
      obtain ⟨y, hm, -⟩ := hf
      exact ih (List.ne_nil_of_mem hm)
    · exact List.cons_ne_nil _ _

/-- What a setting is given stands among the last keys and values. -/
theorem lastValue?_eq_some_iff : lastValue? a setting = some value ↔
    ∃ p ∈ lastKeyValues a, Setting.ofKey p.1 = setting ∧ p.2 = value := by
  induction a with
  | nil => simp [lastValue?, lastKeyValues, decisive]
  | cons x a ih =>
    by_cases hf : ∃ y ∈ a, Related x y
    · rw [lastValue?_of_followed hf, ih, lastKeyValues, lastKeyValues, decisive, if_pos hf]
    · have parts : lastKeyValues (x :: a) = (keyValue? x).toList ++ lastKeyValues a := by
        rw [lastKeyValues, decisive, if_neg hf, List.filterMap_cons]
        cases keyValue? x <;> rfl
      have here : (∃ p ∈ (keyValue? x).toList, Setting.ofKey p.1 = setting ∧ p.2 = value) ↔
          valueFor? setting x = some value := by
        simp only [Option.mem_toList, valueFor?_eq_some_iff]
      have alone (hv : valueFor? setting x = some value) : lastValue? a setting = none := by
        rw [lastValue?_eq_none_iff]
        intro y hm
        have unrelated : ¬ Related x y := fun hr => hf ⟨y, hm, hr⟩
        simpa [related_iff hv] using unrelated
      simp only [parts, List.mem_append, or_and_right, exists_or]
      rw [lastValue?_cons, here, ← ih, Option.or_eq_some_iff, or_comm]
      exact or_congr_left ⟨fun h => h.2, fun h => ⟨alone h, h⟩⟩

theorem lastValue?_eq_of_perm (h : (lastKeyValues b).Perm (lastKeyValues a)) :
    lastValue? b = lastValue? a := by
  funext setting
  apply Option.ext
  intro value
  simp only [lastValue?_eq_some_iff, h.mem_iff]

end

/-! ## Texts of segments -/

theorem notMem_of_mem_splitOn {sep : Char} {cs piece : List Char} (h : piece ∈ cs.splitOn sep) :
    sep ∉ piece := by
  induction cs generalizing piece with
  | nil => simp_all
  | cons c cs ih =>
    rw [List.splitOn_cons_eq_if_modifyHead] at h
    split at h
    · rcases List.mem_cons.1 h with rfl | h
      · exact List.not_mem_nil
      · exact ih h
    · rename_i hc
      cases hs : cs.splitOn sep with
      | nil => simp [hs] at h
      | cons first rest =>
        rw [hs, List.modifyHead_cons] at h
        rcases List.mem_cons.1 h with rfl | h
        · -- the first piece goes on in front
          have hne : sep ≠ c := fun e => hc (beq_iff_eq.2 e.symm)
          exact List.not_mem_cons_of_ne_of_not_mem hne (ih (hs ▸ .head _))
        · exact ih (hs ▸ .tail _ h)

theorem segments_joined {a : List (List Char)} (hne : a ≠ []) (h : ∀ x ∈ a, ';' ∉ x) :
    segments (joined a) = a := by
  rw [segments, pieces_eq_splitOn, joined, String.toList_ofList]
  exact List.splitOn_intercalate ';' h hne

theorem segments_joined_decisive (s : String) :
    segments (joined (decisive (segments s))) = decisive (segments s) := by
  have cut : segments s = s.toList.splitOn ';' := pieces_eq_splitOn _ _
  apply segments_joined
  · apply decisive_ne_nil
    rw [cut]
    exact List.splitOn_ne_nil _ _
  · intro x hx
    have hm := (decisive_sublist _).mem hx
    rw [cut] at hm
    exact notMem_of_mem_splitOn hm

variable {s s' : String} {o : ConnectOptions}

/-- A text with the same last values is accepted if all its segments are. -/
theorem parse_of_subset (h : parse s = .ok o) (sub : segments s' ⊆ segments s)
    (same : lastValue? (segments s') = lastValue? (segments s)) : parse s' = .ok o := by
  have grammatical := exists_parse_iff.1 ⟨o, h⟩
  obtain ⟨o', h'⟩ := exists_parse_iff.2 fun x hx => grammatical x (sub hx)
  rw [h', parse_congr h h' same]

/-- **The order of segments.** A text whose segments are rearranged, with related ones in their
order, is accepted as the same options or refused like the text. Of related segments only the last
one says something: without the others an accepted text says the same, and so does every text that
is accepted and has the same last keys and values. And the last port is the port of each host that
has none of its own, wherever it stands. -/
theorem parse_rearranged (s : String) :
    (∀ s', Rearranged (segments s) (segments s') → ∀ o, parse s' = .ok o ↔ parse s = .ok o) ∧
      ∀ o, parse s = .ok o →
        parse (joined (decisive (segments s))) = .ok o ∧
        (∀ s' o', parse s' = .ok o' →
          (lastKeyValues (segments s')).Perm (lastKeyValues (segments s)) → o' = o) ∧
        ∃ port, DefaultPort (segments s) port ∧ Lists (segments s) port o.endpoints := by
  constructor
  · intro s' rearranged o
    have same := lastValue?_rearranged rearranged
    constructor
    · intro h'
      exact parse_of_subset h' rearranged.perm.subset same.symm
    · intro h
      exact parse_of_subset h rearranged.perm.symm.subset same
  · intro o h
    refine ⟨?_, ?_, endpoints_of_parse h⟩
    · have left := segments_joined_decisive s
      apply parse_of_subset h
      · rw [left]
        exact (decisive_sublist _).subset
      · rw [left]
        exact lastValue?_decisive _
    · intro s' o' h' last
      exact parse_congr h h' (lastValue?_eq_of_perm last)

/-- Two lists of hosts, two users and one unknown key in two spellings, and a port that moves from
one end to the other. -/
theorem parse_rearranged_crowded :
    let s := "port=1;HOST=a,b:2;uid=x; ;Server = c ,d:7;user=y;k=1;K=2"
    let s' := " ;HOST=a,b:2;k=1;uid=x;Server = c ,d:7;K=2;user=y;port=1"
    let o : ConnectOptions :=
      { endpoints := [⟨"c", 1⟩, ⟨"d", 7⟩], user := some "y", extras := [("k", "2")] }
    Rearranged (segments s) (segments s') ∧ parse s' = .ok o ∧ parse s = .ok o ∧
      joined (decisive (segments s)) = "port=1; ;Server = c ,d:7;user=y;K=2" ∧
      parse "port=1; ;Server = c ,d:7;user=y;K=2" = .ok o := by
  intro s s' o
  have rearranged : Rearranged (segments s) (segments s') := ⟨by decide +kernel, by decide +kernel⟩
  have left : joined (decisive (segments s)) = "port=1; ;Server = c ,d:7;user=y;K=2" := by
    decide +kernel
  have h' : parse s' = .ok o := by decide +kernel
  have h := ((parse_rearranged s).1 s' rearranged o).1 h'
  have short := ((parse_rearranged s).2 o h).1
  exact ⟨rearranged, h', h, left, left ▸ short⟩

end SessionPool.ConnectionString
