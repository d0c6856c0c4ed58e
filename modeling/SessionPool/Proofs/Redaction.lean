import SessionPool.Proofs.Rearranging

/-!
# Connection strings in a log

A log is shown the options that a connection string stands for, or the message of its error
(`logged`). Options are `redacted` if nothing is known of the password but that there is one, and
this is all that is shown of it (`ConnectOptions.shown_redacted`). Reading a segment does not look
at the password of the draft (`Draft.read_redacted`), nor does it look at the value of a segment
that sets it (`Draft.read_alike`). So drafts that differ in the password only stay so over all
segments (`Draft.readAll_alike`), and neither the text nor the error tells one password from another
(`parse_conceals`).
-/

set_option autoImplicit false

namespace SessionPool

/-- The options without the text of the password. -/
def ConnectOptions.redacted (o : ConnectOptions) : ConnectOptions :=
  { o with password := o.password.map fun _ => "" }

theorem ConnectOptions.shown_redacted (o : ConnectOptions) : o.redacted.shown = o.shown := by
  cases h : o.password <;> simp [shown, redacted, h]

namespace ConnectionString

open Text

/-- What a log is told of a connection string: the options, or what is wrong. -/
def logged (s : String) : String :=
  match parse s with
  | .ok o => o.shown
  | .error e => e.message

/-- The keys of the password. -/
def passwordKeys : List String := ["password", "pwd"]

/-- A segment that sets the password. -/
def IsSecret (segment : List Char) : Prop :=
  ∃ key ∈ passwordKeys, ∃ value, keyValue? segment = some (key, value)

/-- Segments that are the same, or that both set the password. -/
def Alike (x y : List Char) : Prop := x = y ∨ IsSecret x ∧ IsSecret y

theorem ofKey_of_mem_passwordKeys {key : String} (h : key ∈ passwordKeys) :
    Setting.ofKey key = .password := by
  have all : ∀ key ∈ passwordKeys, Setting.ofKey key = .password := by decide
  exact all key h

theorem isSecret_of_key {key : List Char} (first : '=' ∉ key)
    (secret : String.ofList (lower (trimmed key)) ∈ passwordKeys) (value : List Char) :
    IsSecret (key ++ '=' :: value) :=
  ⟨_, secret, trimmed value, by rw [keyValue?, cut?_append first, Option.map_some]⟩

namespace Draft

variable {d d' : Draft} {x y : List Char} {a b : List (List Char)}

def redacted (d : Draft) : Draft := { d with options := d.options.redacted }

theorem redacted_redacted (d : Draft) : d.redacted.redacted = d.redacted := by
  simp [redacted, ConnectOptions.redacted, Function.comp_def]

/-- What is entered does not depend on the password. -/
theorem map_redacted {α : Type} {f g : α → Draft} (same : ∀ a, (f a).redacted = (g a).redacted)
    (r : Except String α) : (r.map f).map redacted = (r.map g).map redacted := by
  cases r with
  | error message => rfl
  | ok a => exact congrArg Except.ok (same a)

/-- Values are read and entered without a look at the password. -/
theorem enter_redacted (d : Draft) (value : List Char) (setting : Setting) :
    (d.redacted.enter value setting).map redacted = (d.enter value setting).map redacted := by
  have same := d.redacted_redacted
  cases setting with
  | hosts | port | connectTimeout | hostOrder =>
    refine map_redacted (fun a => ?_) _
    simpa [redacted, ConnectOptions.redacted] using same
  | password => rfl
  | database | user | applicationName | autocommit | extra =>
    simpa [enter, Except.map, redacted, ConnectOptions.redacted, ConnectOptions.withExtra]
      using same

theorem read_redacted (d : Draft) (x : List Char) :
    (d.redacted.read x).map redacted = (d.read x).map redacted := by
  simp only [read]
  split
  · exact congrArg Except.ok d.redacted_redacted
  · split
    · exact d.enter_redacted _ _
    · rfl

/-- Whatever the password is set to, the same is left without it. -/
theorem read_secret (d : Draft) (hx : IsSecret x) : (d.read x).map redacted =
    .ok { d.redacted with options := { d.redacted.options with password := some "" } } := by
  obtain ⟨key, hk, value, hv⟩ := hx
  rw [read_keyValue hv, ofKey_of_mem_passwordKeys hk]
  rfl

/-- Alike segments are read alike into drafts that differ in the password only. -/
theorem read_alike (hd : d.redacted = d'.redacted) (h : Alike x y) :
    (d.read x).map redacted = (d'.read y).map redacted := by
  rcases h with rfl | ⟨hx, hy⟩
  · rw [← d.read_redacted, hd, d'.read_redacted]
  · rw [d.read_secret hx, d'.read_secret hy, hd]

/-- **Over any number of segments** the drafts stay alike, and what is wrong with the first segment
that cannot be read is the same. -/
theorem readAll_alike (hd : d.redacted = d'.redacted) (h : List.Forall₂ Alike a b) :
    (d.readAll a).1.redacted = (d'.readAll b).1.redacted ∧
      (d.readAll a).2 = (d'.readAll b).2 := by
  induction h generalizing d d' with
  | nil => exact ⟨hd, rfl⟩
  | @cons x y a b hxy _ ih =>
    have both := read_alike hd hxy
    rw [readAll, readAll]
    cases hx : d.read x with
    | error message =>
      cases hy : d'.read y with
      | error message' =>
        rw [hx, hy] at both
        exact ⟨hd, congrArg some (Except.error.inj both)⟩
      | ok next' => simp [hx, hy, Except.map] at both
    | ok next =>
      cases hy : d'.read y with
      | error message' => simp [hx, hy, Except.map] at both
      | ok next' =>
        rw [hx, hy] at both
        exact ih (Except.ok.inj both)

theorem finish_redacted (d : Draft) : d.finish.redacted = d.redacted.finish := by
  rw [finish, finish, show d.redacted.hosts = d.hosts from rfl]
  cases d.hosts <;> rfl

end Draft

theorem logged_eq (s : String) : logged s =
    match (parse s).map ConnectOptions.redacted with
    | .ok o => o.shown
    | .error e => e.message := by
  rw [logged]
  cases parse s with
  | error e => rfl
  | ok o => exact o.shown_redacted.symm

/-- Texts whose segments are alike come to the same but for the password. -/
theorem parse_alike {s s' : String} (h : List.Forall₂ Alike (segments s) (segments s')) :
    (parse s).map ConnectOptions.redacted = (parse s').map ConnectOptions.redacted ∧
      extraKeys s = extraKeys s' := by
  have empty : ({} : Draft).redacted = ({} : Draft).redacted := rfl
  obtain ⟨same, wrong⟩ := Draft.readAll_alike empty h
  have keys := congrArg Draft.extraKeys same
  refine ⟨?_, keys⟩
  rw [parse, parse]
  cases hr : Draft.readAll {} (segments s) with
  | mk d w =>
    cases hr' : Draft.readAll {} (segments s') with
    | mk d' w' =>
      rw [hr, hr'] at same wrong
      obtain rfl : w = w' := wrong
      cases w with
      | some message => rfl
      | none =>
        refine congrArg Except.ok ?_
        rw [d.finish_redacted, d'.finish_redacted]
        exact congrArg Draft.finish same

section
variable {s : String} {x y : List Char} {a b : List (List Char)}

theorem notMem_of_mem_segments (h : x ∈ segments s) : ';' ∉ x := by
  rw [segments, pieces_eq_splitOn] at h
  exact notMem_of_mem_splitOn h

/-- A segment can be replaced by any text without a semicolon. -/
theorem segments_replaced (cut : segments s = a ++ x :: b) (whole : ';' ∉ y) :
    segments (joined (a ++ y :: b)) = a ++ y :: b := by
  apply segments_joined (by simp)
  intro z hz
  have hz : z = y ∨ z ∈ segments s := by
    rw [cut]
    simp only [List.mem_append, List.mem_cons] at hz ⊢
    tauto
  rcases hz with rfl | hz
  · exact whole
  · exact notMem_of_mem_segments hz

end

/-- **The password never shows.** In a text with a segment that sets the password, its value may be
any other: a log is told the same, be it the options or an error. The options differ in the password
alone, and the same keys are taken as settings for the server. -/
theorem parse_conceals {s s' : String} {before after : List (List Char)}
    {key value value' : List Char} (cut : segments s = before ++ (key ++ '=' :: value) :: after)
    (first : '=' ∉ key) (secret : String.ofList (lower (trimmed key)) ∈ ["password", "pwd"])
    (whole : ';' ∉ value') (other : s' = joined (before ++ (key ++ '=' :: value') :: after)) :
    logged s' = logged s ∧
      (parse s').map ConnectOptions.redacted = (parse s).map ConnectOptions.redacted ∧
      extraKeys s' = extraKeys s := by
  have plain : ';' ∉ key ++ '=' :: value := notMem_of_mem_segments (s := s) (by simp [cut])
  have cut' : segments s' = before ++ (key ++ '=' :: value') :: after := by
    rw [other]
    apply segments_replaced cut
    rw [List.mem_append, List.mem_cons, not_or] at plain ⊢
    exact ⟨plain.1, by simpa using whole⟩
  have alike : List.Forall₂ Alike (segments s') (segments s) := by
    have same (a : List (List Char)) : List.Forall₂ Alike a a :=
      List.forall₂_same.2 fun _ _ => .inl rfl
    rw [cut, cut']
    refine List.rel_append (same before) (.cons (.inr ?_) (same after))
    exact ⟨isSecret_of_key first secret value', isSecret_of_key first secret value⟩
  obtain ⟨same, keys⟩ := parse_alike alike
  refine ⟨?_, same, keys⟩
  rw [logged_eq, logged_eq, same]

/-- A password between other segments, one of them another password, is replaced by one that looks
like several values. -/
theorem parse_conceals_crowded :
    let s := "host=a:1,b; PassWord = x ;Mode=\"fast\";pwd=y;port=7"
    let s' := "host=a:1,b; PassWord =\"pwd=z\", :port:=8, \\ ;Mode=\"fast\";pwd=y;port=7"
    logged s' = logged s ∧ logged s =
      "Config \x7b hosts: [HostAddr \x7b host: \"a\", port: 1 \x7d, " ++
        "HostAddr \x7b host: \"b\", port: 7 \x7d], database: None, user: None, " ++
        "password: Some(\"<redacted>\"), application_name: \"sqlconn\", " ++
        "connect_timeout: 30s, autocommit: false, load_balance_hosts: Disable, " ++
        "options: \x7b\"mode\": \"\\\"fast\\\"\"\x7d \x7d" := by
  intro s s'
  have cut : segments s = ["host=a:1,b".toList] ++
      (" PassWord ".toList ++ '=' :: " x ".toList) ::
      ["Mode=\"fast\"".toList, "pwd=y".toList, "port=7".toList] := by decide +kernel
  have other : s' = joined (["host=a:1,b".toList] ++
      (" PassWord ".toList ++ '=' :: "\"pwd=z\", :port:=8, \\ ".toList) ::
      ["Mode=\"fast\"".toList, "pwd=y".toList, "port=7".toList]) := by decide +kernel
  have same := parse_conceals cut (by decide) (by decide +kernel) (by decide) other
  exact ⟨same.1, by decide +kernel⟩

end ConnectionString

end SessionPool
