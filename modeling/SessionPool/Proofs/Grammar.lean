import SessionPool.Proofs.Cutting
import SessionPool.Session.ConnectionString

/-!
# Which connection strings are accepted

The grammar of connection strings, said without a look at how they are read: what a numeral is, an
item of the list of hosts (`IsHost`), a value under its key (`Admits`) and a segment (`IsSegment`).
`parse_accepts` says that exactly the strings of this grammar are accepted, and that everything else
is refused as a mistake in the options.
-/

set_option autoImplicit false

namespace SessionPool.ConnectionString

open Text

/-! ## The grammar -/

def IsBlankText (cs : List Char) : Prop := ∀ c ∈ cs, isBlank c = true

/-- A decimal number of at most `bound`, perhaps after a plus sign. -/
def IsNumeral (bound : Nat) (cs : List Char) : Prop :=
  ∃ digits, (cs = digits ∨ cs = '+' :: digits) ∧ digits ≠ [] ∧ (∀ c ∈ digits, c.isDigit) ∧
    Nat.ofDigitChars 10 digits 0 ≤ bound

/-- An item of the list of hosts is not blank, and behind its last colon, if it has one, stands a
port. -/
def IsHost (item : List Char) : Prop :=
  ¬ IsBlankText item ∧
    ∀ host port, trimmed item = host ++ ':' :: port → ':' ∉ port → IsNumeral (UInt16.size - 1) port

/-- What may stand under a key. -/
structure Admits (key : String) (value : List Char) : Prop where
  hosts : key ∈ ["host", "server", "data source"] → ∀ item ∈ value.splitOn ',', IsHost item
  port : key = "port" → IsNumeral (UInt16.size - 1) value
  timeout : key ∈ ["connect timeout", "connect_timeout"] → IsNumeral (UInt64.size - 1) value
  order : key ∈ ["load balance hosts", "load_balance_hosts"] →
    String.ofList (lower value) ∈ ["disable", "random"]

/-- A segment has a key in front of its first equals sign and a value behind it, with blanks around
both. -/
def IsSegment (segment : List Char) : Prop :=
  ∃ key value, segment = key ++ '=' :: value ∧ '=' ∉ key ∧
    Admits (String.ofList (lower (trimmed key))) (trimmed value)

/-- A text of the grammar: segments between semicolons, blank ones among them. -/
def IsGrammatical (s : String) : Prop :=
  ∀ segment ∈ s.toList.splitOn ';', IsBlankText segment ∨ IsSegment segment

/-! ## Reading -/

section
variable {ε α β : Type}

theorem isOk_iff {x : Except ε α} : x.isOk = true ↔ ∃ a, x = .ok a := by
  cases x <;> simp [Except.isOk, Except.toBool]

theorem isOk_map (f : α → β) (x : Except ε α) : (x.map f).isOk = x.isOk := by
  cases x <;> rfl

theorem isOk_mapM {f : α → Except ε β} {xs : List α} :
    (xs.mapM f).isOk = true ↔ ∀ x ∈ xs, (f x).isOk = true := by
  induction xs with
  | nil => simp [isOk_iff, pure, Except.pure]
  | cons x xs ih =>
    rw [List.mapM_cons, List.forall_mem_cons, ← ih]
    cases f x with
    | error e => simp [isOk_iff, bind, Except.bind]
    | ok b => cases xs.mapM f <;> simp [isOk_iff, bind, Except.bind, pure, Except.pure]

end

theorem isSome_readNat? {bound : Nat} {cs : List Char} :
    (readNat? bound cs).isSome = true ↔ IsNumeral bound cs := by
  rw [Option.isSome_iff_exists]
  constructor
  · rintro ⟨n, h⟩
    obtain ⟨digits, hcs, hne, hd, rfl, hle⟩ := readNat?_eq_some_iff.1 h
    exact ⟨digits, hcs, hne, hd, hle⟩
  · rintro ⟨digits, hcs, hne, hd, hle⟩
    exact ⟨_, readNat?_eq_some_iff.2 ⟨digits, hcs, hne, hd, rfl, hle⟩⟩

theorem isOk_readPort {cs : List Char} :
    (readPort cs).isOk = true ↔ IsNumeral (UInt16.size - 1) cs := by
  rw [← isSome_readNat?, readPort, show UInt16.size - 1 = maxPort from rfl]
  cases readNat? maxPort cs <;> simp [isOk_iff]

theorem isOk_readTimeout {cs : List Char} :
    (readTimeout cs).isOk = true ↔ IsNumeral (UInt64.size - 1) cs := by
  rw [← isSome_readNat?, readTimeout, show UInt64.size - 1 = maxSeconds from rfl]
  cases readNat? maxSeconds cs <;> simp [isOk_iff]

theorem isOk_readHostOrder {cs : List Char} : (readHostOrder cs).isOk = true ↔
    String.ofList (lower cs) ∈ ["disable", "random"] := by
  unfold readHostOrder
  split <;> simp_all [isOk_iff]

theorem isOk_readHost {value item : List Char} :
    (readHost value item).isOk = true ↔ IsHost item := by
  rw [readHost, IsHost, IsBlankText, ← trimmed_eq_nil_iff]
  split
  · simp_all [isOk_iff]
  · rename_i hne
    rw [List.isEmpty_iff] at hne
    cases h : cutLast? ':' (trimmed item) with
    | some p =>
      obtain ⟨host, port⟩ := p
      obtain ⟨hitem, hport⟩ := cutLast?_eq_some_iff.1 h
      simp only [isOk_map, isOk_readPort, hne, not_false_eq_true, true_and]
      refine ⟨fun hn host' port' heq hp => ?_, fun hall => hall host port hitem hport⟩
      have := cutLast?_eq_some_iff.2 ⟨heq, hp⟩
      rw [h] at this
      cases this
      exact hn
    | none =>
      have hc := cutLast?_eq_none_iff.1 h
      refine iff_of_true rfl ⟨hne, fun host port heq _ => ?_⟩
      exact absurd (by simp [heq]) hc

theorem isOk_readHosts {value : List Char} :
    (readHosts value).isOk = true ↔ ∀ item ∈ value.splitOn ',', IsHost item := by
  rw [readHosts, pieces_eq_splitOn, isOk_mapM]
  simp only [isOk_readHost]

/-- What may stand under the key of a setting. -/
def Setting.Takes : Setting → List Char → Prop
  | .hosts, value => ∀ item ∈ value.splitOn ',', IsHost item
  | .port, value => IsNumeral (UInt16.size - 1) value
  | .connectTimeout, value => IsNumeral (UInt64.size - 1) value
  | .hostOrder, value => String.ofList (lower value) ∈ ["disable", "random"]
  | .database, _ | .user, _ | .password, _ | .applicationName, _ | .autocommit, _ | .extra _, _ =>
    True

theorem takes_ofKey {key : String} {value : List Char} :
    (Setting.ofKey key).Takes value ↔ Admits key value := by
  constructor
  · intro h
    unfold Setting.ofKey at h
    split at h <;> constructor <;> simp_all [Setting.Takes]
  · rintro ⟨hosts, port, timeout, order⟩
    unfold Setting.ofKey
    split <;> simp_all [Setting.Takes]

namespace Draft

variable {d : Draft} {segment : List Char}

theorem isOk_enter {value : List Char} {setting : Setting} :
    (d.enter value setting).isOk = true ↔ setting.Takes value := by
  cases setting with
  | hosts => simp only [enter, isOk_map, isOk_readHosts, Setting.Takes]
  | port => simp only [enter, isOk_map, isOk_readPort, Setting.Takes]
  | connectTimeout => simp only [enter, isOk_map, isOk_readTimeout, Setting.Takes]
  | hostOrder => simp only [enter, isOk_map, isOk_readHostOrder, Setting.Takes]
  | database | user | password | applicationName | autocommit | extra => exact iff_of_true rfl ⟨⟩

/-- The blanks around a segment go to its key and to its value, so that it can be cut first. -/
theorem read_cons {key value : List Char} (h : '=' ∉ key) :
    d.read (key ++ '=' :: value) =
      d.enter (trimmed value) (Setting.ofKey (String.ofList (lower (trimmed key)))) := by
  have hcut : '=' ∉ key.dropWhile isBlank := fun hm => h ((List.dropWhile_sublist _).mem hm)
  have hsplit : split? (key.dropWhile isBlank ++ '=' :: dropEndWhile isBlank value) =
      some (Setting.ofKey (String.ofList (lower (trimmed key))), trimmed value) := by
    rw [split?, cut?_append hcut, Option.map_some, trimmed_dropWhile, trimmed_dropEndWhile]
  simp [read, trimmed_around, show isBlank '=' = false by decide, hsplit]

theorem isOk_read :
    (d.read segment).isOk = true ↔ IsBlankText segment ∨ IsSegment segment := by
  by_cases hm : '=' ∈ segment
  · obtain ⟨key, value, rfl, hkey⟩ := List.eq_append_cons_of_mem hm
    rw [read_cons hkey, isOk_enter, takes_ofKey]
    constructor
    · exact fun h => .inr ⟨key, value, rfl, hkey, h⟩
    · rintro (h | ⟨key', value', heq, hkey', h⟩)
      · exact absurd (h '=' (by simp)) (by decide)
      · -- there is one first equals sign, and so one key and one value
        have := cut?_append hkey value
        rw [heq, cut?_append hkey'] at this
        cases this
        exact h
  · -- without an equals sign only a blank segment is accepted
    have hno : ¬ IsSegment segment := fun ⟨key, value, heq, _⟩ => hm (by simp [heq])
    rw [IsBlankText, ← trimmed_eq_nil_iff, or_iff_left hno, read]
    split
    · simp_all [isOk_iff]
    · rename_i hne
      have hcut : '=' ∉ trimmed segment := fun h => hm ((trimmed_sublist segment).mem h)
      simp_all [split?, cut?_eq_none_iff.2 hcut, isOk_iff]

theorem readAll_eq_none_iff {segments : List (List Char)} : (d.readAll segments).2 = none ↔
    ∀ segment ∈ segments, IsBlankText segment ∨ IsSegment segment := by
  induction segments generalizing d with
  | nil => simp [readAll]
  | cons segment rest ih =>
    rw [List.forall_mem_cons, ← isOk_read (d := d), readAll]
    cases d.read segment with
    | ok d' => simp [ih, isOk_iff]
    | error message => simp [isOk_iff]

end Draft

/-- A text is accepted exactly if it is of the grammar, and refused otherwise, always as a mistake
in the options. -/
theorem parse_accepts (s : String) :
    ((∃ options, parse s = .ok options) ↔ IsGrammatical s) ∧
      ((∃ message, parse s = .error (.config message)) ↔ ¬ IsGrammatical s) := by
  rw [IsGrammatical, ← Draft.readAll_eq_none_iff (d := {}), ← pieces_eq_splitOn, ← segments, parse]
  split
  · rename_i h
    simp [h]
  · rename_i h
    simp [h]

/-- Blanks may stand around a host with its port, but not inside. -/
example : (parse "Server = db:+80 ; ;uid=").isOk ∧ ¬ (parse "server=db: 80").isOk := by
  decide +kernel

end SessionPool.ConnectionString
