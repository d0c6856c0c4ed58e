import Mathlib.Logic.Function.Basic
import SessionPool.Proofs.Rendering
import SessionPool.Proofs.Table

/-!
# What a connection string says

A segment has a key and a value (`keyValue?`). Of the segments that name a setting the last one
gives its value (`lastValue?`), and that is all that matters: `Draft.Reflects` states field by field
what a draft is, given the last value of every setting. Every segment keeps it
(`Draft.Reflects.read`, by one case for each setting in `Draft.Reflects.enter`), and it leaves
nothing open (`Draft.Reflects.finish_eq`), so that the options of an accepted text depend on these
values alone (`parse_congr`).
-/

set_option autoImplicit false

namespace SessionPool.ConnectionString

open Text

/-! ## Keys and values -/

/-- The key of a segment as it is compared, and its value as it is read. -/
def keyValue? (segment : List Char) : Option (String × List Char) :=
  (cut? '=' segment).map fun p => (String.ofList (lower (trimmed p.1)), trimmed p.2)

/-- The value that a segment gives to a setting, if it names it. -/
def valueFor? (setting : Setting) (segment : List Char) : Option (List Char) :=
  (keyValue? segment).bind fun p => if Setting.ofKey p.1 = setting then some p.2 else none

/-- The value that the last segment with a setting gives to it. -/
def lastValue? (segments : List (List Char)) (setting : Setting) : Option (List Char) :=
  (segments.filterMap (valueFor? setting)).getLast?

section
variable {segment : List Char} {key : String} {value : List Char} {setting : Setting}

theorem valueFor?_eq (h : keyValue? segment = some (key, value)) (setting : Setting) :
    valueFor? setting segment = if Setting.ofKey key = setting then some value else none := by
  rw [valueFor?, h, Option.bind_some]

theorem valueFor?_eq_none (h : keyValue? segment = none) (setting : Setting) :
    valueFor? setting segment = none := by
  rw [valueFor?, h, Option.bind_none]

theorem lastValue?_append (a b : List (List Char)) (setting : Setting) :
    lastValue? (a ++ b) setting = (lastValue? b setting).or (lastValue? a setting) := by
  rw [lastValue?, List.filterMap_append, List.getLast?_append]
  rfl

theorem lastValue?_singleton (segment : List Char) (setting : Setting) :
    lastValue? [segment] setting = valueFor? setting segment := by
  rw [lastValue?]
  cases h : valueFor? setting segment <;> simp [h]

/-- A segment at the end gives its setting a new value and leaves the others as they were. -/
theorem lastValue?_concat (a : List (List Char)) (h : keyValue? segment = some (key, value)) :
    lastValue? (a ++ [segment]) = Function.update (lastValue? a) (Setting.ofKey key) value := by
  funext setting
  rw [lastValue?_append, lastValue?_singleton, valueFor?_eq h]
  by_cases hs : Setting.ofKey key = setting
  · subst hs
    simp
  · rw [if_neg hs, Function.update_of_ne (Ne.symm hs), Option.none_or]

end

theorem map_eq_ok {ε α β : Type} {f : α → β} {x : Except ε α} {b : β} (h : x.map f = .ok b) :
    ∃ a, x = .ok a ∧ f a = b := by
  cases x with
  | error e => cases h
  | ok a => exact ⟨a, rfl, Except.ok.inj h⟩

namespace Draft

variable {d d' : Draft} {segment : List Char} {key : String} {value : List Char}

theorem read_keyValue (h : keyValue? segment = some (key, value)) :
    d.read segment = d.enter value (Setting.ofKey key) := by
  obtain ⟨⟨k, v⟩, hcut, he⟩ := Option.map_eq_some_iff.1 h
  obtain ⟨rfl, hk⟩ := cut?_eq_some_iff.1 hcut
  cases he
  exact read_cons hk

/-- Without a key nothing is read, if it is accepted at all. -/
theorem read_without_key (h : keyValue? segment = none) (hr : d.read segment = .ok d') :
    d' = d := by
  have hm : '=' ∉ trimmed segment := by
    intro hm
    rw [keyValue?, Option.map_eq_none_iff, cut?_eq_none_iff] at h
    exact h ((trimmed_sublist segment).mem hm)
  simp only [read] at hr
  split at hr
  · cases hr
    rfl
  · simp [split?, cut?_eq_none_iff.2 hm] at hr

/-! ## What is in a draft -/

/-- What stands in a field: the value that was given, as it is read, or what stands there without
one. -/
def IsRead {β : Type} (read : List Char → Except String β) (unset : β) (given : Option (List Char))
    (b : β) : Prop :=
  match given with
  | some value => read value = .ok b
  | none => b = unset

theorem IsRead.unique {β : Type} {read : List Char → Except String β} {unset b c : β}
    {given : Option (List Char)} (hb : IsRead read unset given b) (hc : IsRead read unset given c) :
    b = c := by
  cases given with
  | none => exact hb.trans hc.symm
  | some value => exact Except.ok.inj (hb.symm.trans hc)

/-- Any text is read as it is. -/
def readText (value : List Char) : Except String String := .ok (String.ofList value)

/-- What a draft is, when the settings were given these values. -/
structure Reflects (d : Draft) (given : Setting → Option (List Char)) : Prop where
  hosts : IsRead (fun v => (readHosts v).map some) none (given .hosts) d.hosts
  port : IsRead readPort defaultPort (given .port) d.port
  endpoints : d.options.endpoints = [⟨"localhost", defaultPort⟩]
  database : IsRead (fun v => (readText v).map some) none (given .database) d.options.database
  user : IsRead (fun v => (readText v).map some) none (given .user) d.options.user
  password : IsRead (fun v => (readText v).map some) none (given .password) d.options.password
  applicationName :
    IsRead readText "sqlconn" (given .applicationName) d.options.applicationName
  connectTimeout :
    IsRead readTimeout (.ofSecs 30) (given .connectTimeout) d.options.connectTimeout
  autocommit : IsRead (fun v => .ok (readBool v)) false (given .autocommit) d.options.autocommit
  hostOrder : IsRead readHostOrder .asListed (given .hostOrder) d.options.hostOrder
  sorted : (Table.keys d.options.extras).Pairwise (· < ·)
  extras : ∀ key, Table.get? d.options.extras key = (given (.extra key)).map String.ofList

theorem reflects_empty : Reflects {} fun _ => none where
  hosts := rfl
  port := rfl
  endpoints := rfl
  database := rfl
  user := rfl
  password := rfl
  applicationName := rfl
  connectTimeout := rfl
  autocommit := rfl
  hostOrder := rfl
  sorted := .nil
  extras := fun _ => rfl

/-- The values that were given determine the options. -/
theorem Reflects.finish_eq {given : Setting → Option (List Char)} (h : d.Reflects given)
    (h' : d'.Reflects given) : d.finish = d'.finish := by
  have extras : d.options.extras = d'.options.extras :=
    Table.eq_of_get? h.sorted h'.sorted fun key => (h.extras key).trans (h'.extras key).symm
  have options : d.options = d'.options := by
    have endpoints := h.endpoints.trans h'.endpoints.symm
    have database := h.database.unique h'.database
    have user := h.user.unique h'.user
    have password := h.password.unique h'.password
    have applicationName := h.applicationName.unique h'.applicationName
    have connectTimeout := h.connectTimeout.unique h'.connectTimeout
    have autocommit := h.autocommit.unique h'.autocommit
    have hostOrder := h.hostOrder.unique h'.hostOrder
    cases hd : d.options
    cases hd' : d'.options
    simp_all
  rw [finish, finish, h.hosts.unique h'.hosts, h.port.unique h'.port, options]

section
variable {given : Setting → Option (List Char)}

/-- A value that is entered is the one that was given last, and the other settings keep theirs. -/
theorem Reflects.enter {setting : Setting} (h : d.Reflects given)
    (he : d.enter value setting = .ok d') : d'.Reflects (Function.update given setting value) := by
  cases setting with
  | hosts =>
    obtain ⟨hosts, hr, rfl⟩ := map_eq_ok he
    exact { h with hosts := congrArg (Except.map some) hr }
  | port =>
    obtain ⟨port, hr, rfl⟩ := map_eq_ok he
    exact { h with port := hr }
  | database =>
    cases he
    exact { h with database := rfl }
  | user =>
    cases he
    exact { h with user := rfl }
  | password =>
    cases he
    exact { h with password := rfl }
  | applicationName =>
    cases he
    exact { h with applicationName := rfl }
  | connectTimeout =>
    obtain ⟨timeout, hr, rfl⟩ := map_eq_ok he
    exact { h with connectTimeout := hr }
  | autocommit =>
    cases he
    exact { h with autocommit := rfl }
  | hostOrder =>
    obtain ⟨order, hr, rfl⟩ := map_eq_ok he
    exact { h with hostOrder := hr }
  | extra key =>
    cases he
    refine { h with sorted := (Table.keys_putSorted h.sorted).1, extras := ?_ }
    intro other
    have found := Table.get?_putSorted d.options.extras key other (String.ofList value)
    refine found.trans ?_
    by_cases ho : key = other
    · subst ho
      rw [if_pos rfl, Function.update_self]
      rfl
    · have hne : Setting.extra other ≠ .extra key := fun e => ho (Setting.extra.inj e).symm
      rw [if_neg ho, h.extras, Function.update_of_ne hne]

end

/-- **Every segment keeps what a draft is** in step with the last values. -/
theorem Reflects.read {a : List (List Char)} (h : d.Reflects (lastValue? a))
    (hr : d.read segment = .ok d') : d'.Reflects (lastValue? (a ++ [segment])) := by
  cases he : keyValue? segment with
  | some p =>
    obtain ⟨key, value⟩ := p
    rw [read_keyValue he] at hr
    rw [lastValue?_concat a he]
    exact h.enter hr
  | none =>
    have last : lastValue? (a ++ [segment]) = lastValue? a := by
      funext setting
      rw [lastValue?_append, lastValue?_singleton, valueFor?_eq_none he, Option.none_or]
    rw [last, read_without_key he hr]
    exact h

theorem Reflects.readAll {a b : List (List Char)} (h : d.Reflects (lastValue? a))
    (hr : d.readAll b = (d', none)) : d'.Reflects (lastValue? (a ++ b)) := by
  induction b generalizing a d with
  | nil =>
    cases hr
    rw [List.append_nil]
    exact h
  | cons segment b ih =>
    rw [Draft.readAll] at hr
    cases hs : d.read segment with
    | error message => simp [hs] at hr
    | ok next =>
      rw [hs] at hr
      rw [List.append_cons]
      exact ih (h.read hs) hr

end Draft

/-! ## Accepted texts -/

variable {s s' : String} {o o' : ConnectOptions}

theorem reflects_of_parse (h : parse s = .ok o) :
    ∃ d : Draft, d.Reflects (lastValue? (segments s)) ∧ d.finish = o := by
  rw [parse] at h
  split at h
  · rename_i d hd
    cases h
    have first : Draft.Reflects {} (lastValue? []) := Draft.reflects_empty
    exact ⟨d, first.readAll hd, rfl⟩
  · cases h

theorem exists_parse_iff : (∃ o, parse s = .ok o) ↔
    ∀ segment ∈ segments s, IsBlankText segment ∨ IsSegment segment := by
  rw [← Draft.readAll_eq_none_iff (d := {}), parse]
  split
  · rename_i h
    simp [h]
  · rename_i h
    simp [h]

/-- **An accepted text says what its last values say**, and nothing else. -/
theorem parse_congr (h : parse s = .ok o) (h' : parse s' = .ok o')
    (same : lastValue? (segments s') = lastValue? (segments s)) : o' = o := by
  obtain ⟨d, hd, rfl⟩ := reflects_of_parse h
  obtain ⟨d', hd', rfl⟩ := reflects_of_parse h'
  exact Draft.Reflects.finish_eq (same ▸ hd') hd

end SessionPool.ConnectionString
