import SessionPool.Proofs.Reading

/-!
# The hosts of a connection string

The endpoints of an accepted text are the items of the last list of hosts, in order (`Lists`): each
names a host, with a port behind its last colon or with the default port (`Names`), and the default
port is the last that was set, wherever that is (`DefaultPort`). An item is refused if it is blank,
and this is seen before the port is cut off. So there is always an endpoint, but an item that has
nothing in front of its only colon is accepted and gives one without a name (`endpoints_named_iff`,
`nameless_accepted`).
-/

set_option autoImplicit false

namespace SessionPool.ConnectionString

open Text

/-! ## What hosts a text lists -/

/-- The keys of a list of hosts. -/
def hostKeys : List String := ["host", "server", "data source"]

/-- The value of a segment that has one of the keys. -/
def valueUnder? (keys : List String) (segment : List Char) : Option (List Char) :=
  (keyValue? segment).bind fun p => if p.1 ∈ keys then some p.2 else none

/-- The value of the last segment that has one of the keys. -/
def lastUnder? (keys : List String) (segments : List (List Char)) : Option (List Char) :=
  (segments.filterMap (valueUnder? keys)).getLast?

/-- A text that stands for a port: a numeral, perhaps after a plus sign. -/
def IsPort (cs : List Char) (port : Nat) : Prop :=
  ∃ digits, (cs = digits ∨ cs = '+' :: digits) ∧ digits ≠ [] ∧ (∀ c ∈ digits, c.isDigit) ∧
    Nat.ofDigitChars 10 digits 0 = port ∧ port ≤ maxPort

/-- The default port is the one of the last port segment, and the standard one if there is none. -/
inductive DefaultPort (segments : List (List Char)) : Nat → Prop
  | given {value : List Char} {port : Nat} (last : lastUnder? ["port"] segments = some value)
    (denotes : IsPort value port) : DefaultPort segments port
  | standard (unset : lastUnder? ["port"] segments = none) : DefaultPort segments defaultPort

/-- The endpoint that an item of a list names, with the port behind its last colon, or, if it has
no colon, with the default port. -/
inductive Names (port : Nat) (item : List Char) : Endpoint → Prop
  | apart {host digits : List Char} {n : Nat} (cut : trimmed item = host ++ ':' :: digits)
    (last : ':' ∉ digits) (denotes : IsPort digits n) : Names port item ⟨String.ofList host, n⟩
  | alone (some : trimmed item ≠ []) (whole : ':' ∉ trimmed item) :
    Names port item ⟨String.ofList (trimmed item), port⟩

/-- The items of the last list of hosts. -/
def hostItems (segments : List (List Char)) : Option (List (List Char)) :=
  (lastUnder? hostKeys segments).map (·.splitOn ',')

/-- The endpoints that segments list, which is the local host if they list none. -/
inductive Lists (segments : List (List Char)) (port : Nat) : List Endpoint → Prop
  | given {items : List (List Char)} {endpoints : List Endpoint}
    (last : hostItems segments = some items) (named : List.Forall₂ (Names port) items endpoints) :
    Lists segments port endpoints
  | standard (unset : hostItems segments = none) : Lists segments port [⟨"localhost", port⟩]

/-- An item with a port and no name in front of it. -/
def IsNameless (item : List Char) : Prop := ∃ port, trimmed item = ':' :: port ∧ ':' ∉ port

/-! ## What is read is what is listed -/

theorem lastUnder?_eq {keys : List String} {setting : Setting}
    (h : ∀ key, Setting.ofKey key = setting ↔ key ∈ keys) :
    lastUnder? keys = (lastValue? · setting) := by
  have value : valueUnder? keys = valueFor? setting := by
    funext segment
    simp only [valueUnder?, valueFor?, h]
  funext segments
  rw [lastUnder?, lastValue?, value]

theorem ofKey_eq_hosts_iff (key : String) : Setting.ofKey key = .hosts ↔ key ∈ hostKeys := by
  unfold Setting.ofKey
  split <;> simp_all [hostKeys]

theorem ofKey_eq_port_iff (key : String) : Setting.ofKey key = .port ↔ key ∈ ["port"] := by
  unfold Setting.ofKey
  split <;> simp_all

theorem isPort_of_readPort {cs : List Char} {port : Nat} (h : readPort cs = .ok port) :
    IsPort cs port := by
  rw [readPort] at h
  split at h
  · rename_i n hn
    cases h
    exact readNat?_eq_some_iff.1 hn
  · cases h

theorem names_of_readHost {value item : List Char} {host : ListedHost} (port : Nat)
    (h : readHost value item = .ok host) : Names port item ⟨host.1, host.2.getD port⟩ := by
  simp only [readHost] at h
  split at h
  · cases h
  · rename_i hne
    rw [List.isEmpty_iff] at hne
    split at h
    · rename_i name digits hcut
      obtain ⟨cut, last⟩ := cutLast?_eq_some_iff.1 hcut
      obtain ⟨n, hn, rfl⟩ := map_eq_ok h
      exact .apart cut last (isPort_of_readPort hn)
    · rename_i hcut
      cases h
      exact .alone hne (cutLast?_eq_none_iff.1 hcut)

theorem forall₂_of_mapM {ε α β : Type} {f : α → Except ε β} {xs : List α} {ys : List β}
    (h : xs.mapM f = .ok ys) : List.Forall₂ (fun x y => f x = .ok y) xs ys := by
  induction xs generalizing ys with
  | nil =>
    cases h
    exact .nil
  | cons x xs ih =>
    rw [List.mapM_cons] at h
    cases hx : f x with
    | error e => simp [hx, bind, Except.bind] at h
    | ok y =>
      cases hxs : xs.mapM f with
      | error e => simp [hx, hxs, bind, Except.bind] at h
      | ok rest =>
        simp only [hx, hxs, bind, Except.bind, pure, Except.pure] at h
        cases h
        exact .cons hx (ih hxs)

theorem forall₂_of_readHosts {value : List Char} {hosts : List ListedHost} (port : Nat)
    (h : readHosts value = .ok hosts) :
    List.Forall₂ (Names port) (value.splitOn ',') (hosts.map fun h => ⟨h.1, h.2.getD port⟩) := by
  rw [readHosts, pieces_eq_splitOn] at h
  rw [List.forall₂_map_right_iff]
  exact (forall₂_of_mapM h).imp fun _ _ => names_of_readHost port

namespace Draft

variable {d : Draft} {a : List (List Char)}

theorem Reflects.defaultPort (h : d.Reflects (lastValue? a)) : DefaultPort a d.port := by
  have last : lastUnder? ["port"] a = lastValue? a .port :=
    congrFun (lastUnder?_eq ofKey_eq_port_iff) a
  have port := h.port
  cases hv : lastValue? a .port with
  | some value =>
    rw [hv] at port last
    exact .given last (isPort_of_readPort port)
  | none =>
    rw [hv] at port last
    rw [show d.port = SessionPool.defaultPort from port]
    exact .standard last

theorem Reflects.lists (h : d.Reflects (lastValue? a)) : Lists a d.port d.finish.endpoints := by
  have last : lastUnder? hostKeys a = lastValue? a .hosts :=
    congrFun (lastUnder?_eq ofKey_eq_hosts_iff) a
  have hosts := h.hosts
  cases hv : lastValue? a .hosts with
  | some value =>
    rw [hv] at hosts last
    obtain ⟨listed, hl, heq⟩ := map_eq_ok hosts
    rw [finish, ← heq]
    exact .given (congrArg _ last) (forall₂_of_readHosts d.port hl)
  | none =>
    rw [hv] at hosts last
    rw [finish, show d.hosts = none from hosts, h.endpoints]
    exact .standard (congrArg _ last)

end Draft

variable {s : String} {o : ConnectOptions}

theorem endpoints_of_parse (h : parse s = .ok o) :
    ∃ port, DefaultPort (segments s) port ∧ Lists (segments s) port o.endpoints := by
  obtain ⟨d, hd, rfl⟩ := reflects_of_parse h
  exact ⟨d.port, hd.defaultPort, hd.lists⟩

/-! ## Names that are there and names that are not -/

section
variable {port : Nat} {item : List Char} {e : Endpoint}

theorem Names.host_eq_empty_iff (h : Names port item e) : e.host = "" ↔ IsNameless item := by
  cases h with
  | @apart host digits n cut last denotes =>
    constructor
    · intro he
      have empty : host = [] := by simpa using he
      rw [empty, List.nil_append] at cut
      exact ⟨digits, cut, last⟩
    · rintro ⟨digits', cut', last'⟩
      -- there is one last colon, so that nothing stands in front of it
      have found := cutLast?_eq_some_iff.2 ⟨cut, last⟩
      have found' := cutLast?_eq_some_iff.2 ⟨cut'.trans (List.nil_append _).symm, last'⟩
      rw [found] at found'
      cases found'
      rfl
  | alone some whole =>
    constructor
    · intro he
      exact absurd (by simpa using he) some
    · rintro ⟨digits, cut, -⟩
      rw [cut] at whole
      exact absurd (.head _) whole

theorem named_iff_of_forall₂ {items : List (List Char)} {endpoints : List Endpoint}
    (h : List.Forall₂ (Names port) items endpoints) :
    (∀ e ∈ endpoints, e.host ≠ "") ↔ ∀ item ∈ items, ¬ IsNameless item := by
  induction h with
  | nil => simp
  | cons hn _ ih => rw [List.forall_mem_cons, List.forall_mem_cons, ih, ne_eq, hn.host_eq_empty_iff]

variable {a : List (List Char)} {endpoints : List Endpoint}

theorem Lists.ne_nil (h : Lists a port endpoints) : endpoints ≠ [] := by
  cases h with
  | given last named =>
    rintro rfl
    rw [List.forall₂_nil_right_iff.1 named, hostItems, Option.map_eq_some_iff] at last
    obtain ⟨value, -, hv⟩ := last
    exact List.splitOn_ne_nil _ _ hv
  | standard => exact List.cons_ne_nil _ _

theorem Lists.named_iff (h : Lists a port endpoints) : (∀ e ∈ endpoints, e.host ≠ "") ↔
    ∀ items ∈ hostItems a, ∀ item ∈ items, ¬ IsNameless item := by
  cases h with
  | given last named => simp [last, named_iff_of_forall₂ named]
  | standard unset => simp [unset]

end

/-- **The endpoints of an accepted text.** There is at least one, and all of them have a name
exactly if no item of the last list of hosts has nothing in front of its only colon. -/
theorem endpoints_named_iff (h : parse s = .ok o) :
    o.endpoints ≠ [] ∧ ((∀ e ∈ o.endpoints, e.host ≠ "") ↔
      ∀ items ∈ hostItems (segments s), ∀ item ∈ items, ¬ IsNameless item) := by
  obtain ⟨port, -, listed⟩ := endpoints_of_parse h
  exact ⟨listed.ne_nil, listed.named_iff⟩

/-- A list without a name that a later one replaces, and colons, blanks and plus signs around the
names of that one. -/
theorem endpoints_named_replaced :
    parse "HOST=:1; port=80;Data Source= ::7 ,a:+0, b ;port=+8" =
        .ok { endpoints := [⟨":", 7⟩, ⟨"a", 0⟩, ⟨"b", 8⟩] } ∧
      hostItems (segments "HOST=:1; port=80;Data Source= ::7 ,a:+0, b ;port=+8") =
        some ["::7 ".toList, "a:+0".toList, " b".toList] ∧
      ∀ item ∈ ["::7 ".toList, "a:+0".toList, " b".toList], ¬ IsNameless item := by
  have accepted : parse "HOST=:1; port=80;Data Source= ::7 ,a:+0, b ;port=+8" =
      .ok { endpoints := [⟨":", 7⟩, ⟨"a", 0⟩, ⟨"b", 8⟩] } := by decide +kernel
  have items : hostItems (segments "HOST=:1; port=80;Data Source= ::7 ,a:+0, b ;port=+8") =
      some ["::7 ".toList, "a:+0".toList, " b".toList] := by decide +kernel
  have named := (endpoints_named_iff accepted).2.1 (by decide)
  exact ⟨accepted, items, named _ items⟩

/-- An item with nothing but a port is accepted, and names no host. -/
theorem nameless_accepted :
    parse "host=:5432" = .ok { endpoints := [⟨"", 5432⟩] } ∧
      ¬ ∀ s o, parse s = .ok o → o.endpoints ≠ [] ∧ ∀ e ∈ o.endpoints, e.host ≠ "" := by
  have accepted : parse "host=:5432" = .ok { endpoints := [⟨"", 5432⟩] } := by decide +kernel
  refine ⟨accepted, fun claimed => ?_⟩
  exact (claimed _ _ accepted).2 _ (.head _) rfl

end SessionPool.ConnectionString
