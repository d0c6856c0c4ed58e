import Mathlib.Tactic.MkIffOfInductiveProp
import SessionPool.Proofs.Grammar

/-!
# Writing connection strings

Connect options written as a connection string (`render`): the endpoints between commas, the fields
that are set and the settings for the server, one segment each. What is written so is read back
(`parse_render`), as long as no text contains a semicolon or loses blanks at its ends, and no
setting for the server has the key of a field (`Renderable`). Nothing more is asked of the name of a
host than that its end is found: it may contain colons and equals signs.
-/

set_option autoImplicit false

namespace SessionPool

open Text

/-! ## Writing -/

/-- The word for an order of hosts. -/
def HostOrder.word : HostOrder → String
  | .asListed => "disable"
  | .shuffled => "random"

namespace ConnectionString

def hostList (endpoints : List Endpoint) : String := ",".intercalate (endpoints.map Endpoint.text)

/-- What stands for a text that may be missing. -/
def writtenIfSet (key : String) (value : Option String) : List (String × String) :=
  (value.map fun v => (key, v)).toList

/-- The keys and values that stand for connect options. -/
def written (o : ConnectOptions) : List (String × String) :=
  [("host", hostList o.endpoints)] ++
    writtenIfSet "dbname" o.database ++ writtenIfSet "user" o.user ++
    writtenIfSet "password" o.password ++
    [("application_name", o.applicationName),
      ("connect_timeout", toString o.connectTimeout.secs),
      ("autocommit", toString o.autocommit),
      ("load_balance_hosts", o.hostOrder.word)] ++
    o.extras

/-- Connect options as a connection string. -/
def render (o : ConnectOptions) : String :=
  ";".intercalate ((written o).map fun p => p.1 ++ "=" ++ p.2)

/-- The keys that stand for a field of the connect options. -/
def reservedKeys : List String :=
  ["host", "server", "data source", "port", "database", "dbname", "initial catalog", "user",
    "user id", "uid", "password", "pwd", "application name", "application_name", "app",
    "connect timeout", "connect_timeout", "autocommit", "load balance hosts", "load_balance_hosts"]

/-- A text that a segment can hold as its value. -/
@[mk_iff]
structure IsValue (text : String) : Prop where
  whole : ';' ∉ text.toList
  trimmed : trimmed text.toList = text.toList

/-- A text that a segment can hold as its key. -/
@[mk_iff]
structure IsKey (text : String) : Prop where
  whole : ';' ∉ text.toList
  apart : '=' ∉ text.toList
  trimmed : trimmed text.toList = text.toList
  lower : lower text.toList = text.toList

/-- A name of a host whose end is found in a list of hosts. -/
@[mk_iff]
structure IsHostName (text : String) : Prop where
  whole : ';' ∉ text.toList
  apart : ',' ∉ text.toList
  unpadded : text.toList.dropWhile isBlank = text.toList

/-- Connect options that can be written as a connection string. -/
@[mk_iff]
structure Renderable (o : ConnectOptions) : Prop where
  listed : o.endpoints ≠ []
  hosts : ∀ e ∈ o.endpoints, IsHostName e.host
  ports : ∀ e ∈ o.endpoints, e.port ≤ maxPort
  database : ∀ text ∈ o.database, IsValue text
  user : ∀ text ∈ o.user, IsValue text
  password : ∀ text ∈ o.password, IsValue text
  applicationName : IsValue o.applicationName
  timeout : o.connectTimeout = .ofSecs o.connectTimeout.secs
  timeoutFits : o.connectTimeout.secs ≤ maxSeconds
  /-- Settings for the server are kept in the order of their keys, each key once. -/
  sorted : (o.extras.map Prod.fst).Pairwise (· < ·)
  keys : ∀ p ∈ o.extras, IsKey p.1
  unreserved : ∀ p ∈ o.extras, p.1 ∉ reservedKeys
  values : ∀ p ∈ o.extras, IsValue p.2

instance (text : String) : Decidable (IsValue text) := decidable_of_iff' _ (isValue_iff text)

instance (text : String) : Decidable (IsKey text) := decidable_of_iff' _ (isKey_iff text)

instance (text : String) : Decidable (IsHostName text) := decidable_of_iff' _ (isHostName_iff text)

instance (o : ConnectOptions) : Decidable (Renderable o) := decidable_of_iff' _ (renderable_iff o)

/-! ## Lists of hosts -/

section
variable {e : Endpoint}

theorem toList_text : e.text.toList = e.host.toList ++ ':' :: (toString e.port).toList := by
  simp [Endpoint.text]

/-- Between its name and its last digit an endpoint has no blanks to lose. -/
theorem trimmed_text (h : IsHostName e.host) : trimmed e.text.toList = e.text.toList := by
  rw [toList_text, trimmed_around (by decide), h.unpadded,
    dropEndWhile_eq_self fun c hc => isBlank_of_isDigit (isDigit_of_mem_toString hc)]

theorem notMem_text {c : Char} (hc : c ≠ ':') (hd : c.isDigit = false) (h : c ∉ e.host.toList) :
    c ∉ e.text.toList := by
  rw [toList_text, List.mem_append, List.mem_cons, not_or, not_or]
  exact ⟨h, hc, notMem_toString hd _⟩

/-- The port stands behind the last colon, whatever the name of the host is. -/
theorem readHost_text {value : List Char} (h : IsHostName e.host) (hp : e.port ≤ maxPort) :
    readHost value e.text.toList = .ok (e.host, some e.port) := by
  have hcut : cutLast? ':' e.text.toList = some (e.host.toList, (toString e.port).toList) :=
    cutLast?_eq_some_iff.2 ⟨toList_text, notMem_toString (by decide) _⟩
  have hne : e.text.toList.isEmpty = false := by simp [toList_text]
  have hport : readPort (toString e.port).toList = .ok e.port := by
    rw [readPort, readNat?_toString hp]
  simp only [readHost, trimmed_text h, hne, hcut, hport, Except.map, String.ofList_toList,
    Bool.false_eq_true, if_false]

end

theorem mapM_eq_ok {ε α β : Type} {f : α → Except ε β} {g : α → β} {xs : List α}
    (h : ∀ x ∈ xs, f x = .ok (g x)) : xs.mapM f = .ok (xs.map g) := by
  induction xs with
  | nil => rfl
  | cons x xs ih =>
    obtain ⟨hx, hxs⟩ := List.forall_mem_cons.1 h
    rw [List.mapM_cons, hx, ih hxs]
    rfl

variable {endpoints : List Endpoint}

theorem readHosts_hostList (hne : endpoints ≠ []) (hn : ∀ e ∈ endpoints, IsHostName e.host)
    (hp : ∀ e ∈ endpoints, e.port ≤ maxPort) :
    readHosts (hostList endpoints).toList = .ok (endpoints.map fun e => (e.host, some e.port)) := by
  have hpieces : pieces ',' (hostList endpoints).toList =
      endpoints.map fun e => e.text.toList := by
    rw [pieces_eq_splitOn, hostList, String.toList_intercalate, List.map_map]
    refine List.splitOn_intercalate ',' ?_ (by simpa using hne)
    simpa using fun e he => notMem_text (by decide) (by decide) (hn e he).apart
  rw [readHosts, hpieces, List.mapM_map]
  exact mapM_eq_ok fun e he => readHost_text (hn e he) (hp e he)

theorem IsValue.comma {a b : String} (ha : IsValue a) (hb : IsValue b) :
    IsValue (a ++ "," ++ b) := by
  have htext : (a ++ "," ++ b).toList = a.toList ++ ',' :: b.toList := by simp
  constructor
  · rw [htext, List.mem_append, List.mem_cons, not_or, not_or]
    exact ⟨ha.whole, by decide, hb.whole⟩
  · rw [htext, trimmed_around (by decide), (trimmed_eq_self_iff.1 ha.trimmed).1,
      (trimmed_eq_self_iff.1 hb.trimmed).2]

theorem isValue_hostList (hne : endpoints ≠ []) (hn : ∀ e ∈ endpoints, IsHostName e.host) :
    IsValue (hostList endpoints) := by
  have htext (e : Endpoint) (h : IsHostName e.host) : IsValue e.text :=
    ⟨notMem_text (by decide) (by decide) h.whole, trimmed_text h⟩
  induction endpoints with
  | nil => exact absurd rfl hne
  | cons e rest ih =>
    obtain ⟨he, hrest⟩ := List.forall_mem_cons.1 hn
    cases rest with
    | nil => simpa [hostList] using htext e he
    | cons e' rest =>
      rw [hostList, List.map_cons, List.map_cons, String.intercalate_cons_cons]
      exact (htext e he).comma (ih (by simp) hrest)

/-! ## What is written can be cut and read -/

theorem isValue_toString (n : Nat) : IsValue (toString n) :=
  ⟨notMem_toString (by decide) n,
    trimmed_eq_self fun c hc => isBlank_of_isDigit (isDigit_of_mem_toString hc)⟩

theorem isKey_of_reserved : ∀ key ∈ reservedKeys, IsKey key := by decide +kernel

theorem sound_written {o : ConnectOptions} (h : Renderable o) :
    ∀ p ∈ written o, IsKey p.1 ∧ IsValue p.2 := by
  have ifSet {key : String} {value : Option String} (hk : key ∈ reservedKeys)
      (hv : ∀ text ∈ value, IsValue text) :
      ∀ p ∈ writtenIfSet key value, IsKey p.1 ∧ IsValue p.2 := by
    cases value with
    | none => simp [writtenIfSet]
    | some text => simpa [writtenIfSet] using ⟨isKey_of_reserved key hk, hv text rfl⟩
  have autocommit : ∀ b : Bool, IsValue (toString b) := by decide
  have order : IsValue o.hostOrder.word := by cases o.hostOrder <;> decide
  simp only [written, List.forall_mem_append, List.forall_mem_cons]
  refine ⟨⟨⟨⟨⟨⟨⟨?_, isValue_hostList h.listed h.hosts⟩, by simp⟩, ifSet (by decide) h.database⟩,
    ifSet (by decide) h.user⟩, ifSet (by decide) h.password⟩, ⟨?_, h.applicationName⟩,
    ⟨?_, isValue_toString _⟩, ⟨?_, autocommit _⟩, ⟨?_, order⟩, by simp⟩,
    fun p hp => ⟨h.keys p hp, h.values p hp⟩⟩
  all_goals exact isKey_of_reserved _ (by decide)

/-- The segment of a key and a value. -/
def segment (p : String × String) : List Char := p.1.toList ++ '=' :: p.2.toList

theorem segments_render {o : ConnectOptions} (h : Renderable o) :
    segments (render o) = (written o).map segment := by
  have htext : ((written o).map fun p => p.1 ++ "=" ++ p.2).map String.toList =
      (written o).map segment := by
    simp [segment, Function.comp_def]
  have hne : written o ≠ [] := by simp [written]
  rw [segments, pieces_eq_splitOn, render, String.toList_intercalate, htext]
  refine List.splitOn_intercalate ';' (List.forall_mem_map.2 fun p hp => ?_) (by simpa using hne)
  obtain ⟨hk, hv⟩ := sound_written h p hp
  simpa [segment] using ⟨hk.whole, hv.whole⟩

namespace Draft

variable {d d' d'' : Draft} {settings : List (String × String)}

/-- Enters what a key and a value say. -/
def enterSetting (d : Draft) (p : String × String) : Except String Draft :=
  d.enter p.2.toList (Setting.ofKey p.1)

theorem read_segment {p : String × String} (hk : IsKey p.1) (hv : IsValue p.2) :
    d.read (segment p) = d.enterSetting p := by
  rw [segment, read_cons hk.apart, hk.trimmed, hk.lower, hv.trimmed, String.ofList_toList]
  rfl

theorem readAll_segments (hs : ∀ p ∈ settings, IsKey p.1 ∧ IsValue p.2)
    (h : settings.foldlM enterSetting d = .ok d') :
    d.readAll (settings.map segment) = (d', none) := by
  induction settings generalizing d with
  | nil =>
    cases h
    rfl
  | cons p settings ih =>
    obtain ⟨⟨hk, hv⟩, hs⟩ := List.forall_mem_cons.1 hs
    rw [List.map_cons, readAll, read_segment hk hv]
    rw [List.foldlM_cons] at h
    cases he : d.enterSetting p with
    | error message => simp [he, bind, Except.bind] at h
    | ok next =>
      rw [he] at h
      exact ih hs h

end Draft

/-! ## What is written says what the options are -/

namespace Draft

variable {d d' d'' : Draft}

/-- A draft becomes another one when all that was written is entered. -/
def Fills (d : Draft) (settings : List (String × String)) (d' : Draft) : Prop :=
  settings.foldlM enterSetting d = .ok d'

theorem Fills.nil (d : Draft) : d.Fills [] d := rfl

theorem Fills.append {a b : List (String × String)} (ha : d.Fills a d') (hb : d'.Fills b d'') :
    d.Fills (a ++ b) d'' := by
  rw [Fills, List.foldlM_append, ha]
  exact hb

theorem Fills.cons {p : String × String} {rest : List (String × String)}
    (h : d.enterSetting p = .ok d') (hr : d'.Fills rest d'') : d.Fills (p :: rest) d'' := by
  rw [Fills, List.foldlM_cons, h]
  exact hr

/-- A field that may be missing stays as it was if nothing was written of it. -/
theorem fills_writtenIfSet (key : String) (fill : Option String → Draft) (value : Option String)
    (h : ∀ text, (fill none).enterSetting (key, text) = .ok (fill (some text))) :
    (fill none).Fills (writtenIfSet key value) (fill value) := by
  cases value with
  | none => exact .nil _
  | some text => exact .cons (h text) (.nil _)

theorem enter_hosts {o : ConnectOptions} (h : Renderable o) :
    d.enterSetting ("host", hostList o.endpoints) =
      .ok { d with hosts := some (o.endpoints.map fun e => (e.host, some e.port)) } := by
  have := readHosts_hostList h.listed h.hosts h.ports
  simp only [enterSetting, Setting.ofKey, enter, this, Except.map]

theorem enter_timeout {o : ConnectOptions} (h : Renderable o) :
    d.enterSetting ("connect_timeout", toString o.connectTimeout.secs) =
      .ok { d with options := { d.options with connectTimeout := o.connectTimeout } } := by
  have : readTimeout (toString o.connectTimeout.secs).toList = .ok o.connectTimeout := by
    rw [readTimeout, readNat?_toString h.timeoutFits]
    exact congrArg Except.ok h.timeout.symm
  simp only [enterSetting, Setting.ofKey, enter, this, Except.map]

theorem enter_autocommit (b : Bool) : d.enterSetting ("autocommit", toString b) =
    .ok { d with options := { d.options with autocommit := b } } := by
  cases b <;> rfl

theorem enter_hostOrder (order : HostOrder) : d.enterSetting ("load_balance_hosts", order.word) =
    .ok { d with options := { d.options with hostOrder := order } } := by
  cases order <;> rfl

theorem putSorted_of_lt {ν : Type} {t : List (String × ν)} {key : String} (value : ν)
    (h : ∀ k ∈ t.map Prod.fst, k < key) : Table.putSorted t key value = t ++ [(key, value)] := by
  induction t with
  | nil => rfl
  | cons p t ih =>
    obtain ⟨hp, ht⟩ := List.forall_mem_cons.1 h
    have hne : key ≠ p.1 := fun e => String.lt_irrefl _ (e ▸ hp)
    rw [Table.putSorted, if_neg hne, if_neg (String.lt_asymm hp), ih ht]
    rfl

theorem ofKey_of_unreserved {key : String} (h : key ∉ reservedKeys) :
    Setting.ofKey key = .extra key := by
  unfold Setting.ofKey
  split <;> simp_all [reservedKeys]

/-- Settings for the server are entered in the order of their keys, none in place of another. -/
theorem fills_extras {extras : List (String × String)} (d : Draft)
    (hu : ∀ p ∈ extras, p.1 ∉ reservedKeys)
    (hs : ((d.options.extras ++ extras).map Prod.fst).Pairwise (· < ·)) :
    d.Fills extras { d with
      options := { d.options with extras := d.options.extras ++ extras }
      extraKeys := d.extraKeys ++ extras.map Prod.fst } := by
  induction extras generalizing d with
  | nil => simp [Fills, pure, Except.pure]
  | cons p extras ih =>
    obtain ⟨key, value⟩ := p
    rw [List.forall_mem_cons] at hu
    -- the key comes after all that were entered, so that it is put at the end
    have hlt : ∀ k ∈ d.options.extras.map Prod.fst, k < key := by
      rw [List.map_append, List.pairwise_append] at hs
      exact fun k hm => hs.2.2 k hm key (by simp)
    have henter : d.enterSetting (key, value) = .ok { d with
        options := { d.options with extras := d.options.extras ++ [(key, value)] }
        extraKeys := d.extraKeys ++ [key] } := by
      simp only [enterSetting, ofKey_of_unreserved hu.1, enter, ConnectOptions.withExtra,
        putSorted_of_lt _ hlt, String.ofList_toList]
    have hrest := ih { d with
      options := { d.options with extras := d.options.extras ++ [(key, value)] }
      extraKeys := d.extraKeys ++ [key] } hu.2 (by simpa using hs)
    exact .cons henter (by simpa using hrest)

/-- The draft of options that lists the endpoints of `o`. -/
def listing (o options : ConnectOptions) : Draft :=
  { options, hosts := some (o.endpoints.map fun e => (e.host, some e.port)) }

/-- Each field is entered in its turn, and nothing that comes after touches it again. -/
theorem fills_written {o : ConnectOptions} (h : Renderable o) :
    Fills {} (written o) { listing o { o with endpoints := ({} : ConnectOptions).endpoints } with
      extraKeys := o.extras.map Prod.fst } := by
  have hosts : Fills {} [("host", hostList o.endpoints)] (listing o {}) :=
    .cons (enter_hosts h) (.nil _)
  have database := fills_writtenIfSet "dbname" (fun v => listing o { database := v }) o.database
    fun text => by simp [enterSetting, Setting.ofKey, enter, listing]
  have user := fills_writtenIfSet "user" (fun v => listing o { database := o.database, user := v })
    o.user fun text => by simp [enterSetting, Setting.ofKey, enter, listing]
  have password := fills_writtenIfSet "password"
    (fun v => listing o { database := o.database, user := o.user, password := v })
    o.password fun text => by simp [enterSetting, Setting.ofKey, enter, listing]
  have name : enterSetting
      (listing o { database := o.database, user := o.user, password := o.password })
      ("application_name", o.applicationName) = .ok (listing o
        { database := o.database, user := o.user, password := o.password
          applicationName := o.applicationName }) := by
    simp [enterSetting, Setting.ofKey, enter, listing]
  -- these are always written, so that nothing is left of what the draft had before
  have others := Fills.cons name (.cons (enter_timeout h)
    (.cons (enter_autocommit o.autocommit) (.cons (enter_hostOrder o.hostOrder) (.nil _))))
  have extras := fills_extras
    (listing o { o with endpoints := ({} : ConnectOptions).endpoints, extras := [] })
    h.unreserved h.sorted
  exact ((((hosts.append database).append user).append password).append others).append extras

end Draft

/-- Connect options that were written are read back as they were. -/
theorem parse_render {o : ConnectOptions} (h : Renderable o) : parse (render o) = .ok o := by
  rw [parse, segments_render h, Draft.readAll_segments (sound_written h) (Draft.fills_written h)]
  simp [Draft.finish, Draft.listing, Function.comp_def]

/-- Options whose texts are full of separators: a host without a name, one with colons, an equals
sign and a blank at its end, empty texts, and a setting without a key. -/
def crowded : ConnectOptions where
  endpoints := [⟨"", 0⟩, ⟨"::1=: ", 65535⟩]
  database := some ""
  password := some "a=b,c:d"
  applicationName := "=,:"
  connectTimeout := .ofSecs maxSeconds
  autocommit := true
  hostOrder := .shuffled
  extras := [("", ""), ("host 2", "host=x")]

theorem parse_render_crowded : Renderable crowded ∧
    render crowded = "host=:0,::1=: :65535;dbname=;password=a=b,c:d;application_name==,:;" ++
      "connect_timeout=18446744073709551615;autocommit=true;load_balance_hosts=random;" ++
      "=;host 2=host=x" ∧
    parse (render crowded) = .ok crowded := by
  have h : Renderable crowded := by decide +kernel
  exact ⟨h, by decide +kernel, parse_render h⟩

end ConnectionString

end SessionPool
