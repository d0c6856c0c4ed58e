import Mathlib.Logic.Function.Basic
import SessionPool.Adapter.Family

/-!
# What a lookup finds

A stack of adapters is looked up in layer by layer, and it may share its layers with others. None of
this shows in what is found: a lookup answers from what was registered on the stack, and before that
on the stacks that it was made from, and the last registration counts (`Stack.Recalls`, kept by
`Stack.Recalls.enter` and `Stack.Recalls.derive`). For a family of stacks, `Past` keeps these
registrations for each stack, with what was entered in the sets of replacements, and
`Family.lookup_recalls` says that every lookup is answered from it.
-/

set_option autoImplicit false

namespace SessionPool.Adapter

/-- Whether a request is content with a format. -/
def Wanted.admits : Wanted → Format → Bool
  | .any, _ => true
  | .exactly wanted, format => wanted = format

/-! ## Histories -/

inductive Registration
  | encoder (kind : Kind) (e : Encoder)
  | decoder (type : TypeId) (d : Decoder)

/-- What was registered, the latest last. -/
abbrev History := List Registration

namespace Registration

/-- The encoder that was registered, if it answers the request. -/
def encoder? (kind : Kind) (wanted : Wanted) : Registration → Option Encoder
  | .encoder k e => if k = kind ∧ wanted.admits e.format then some e else none
  | .decoder _ _ => none

def decoder? (type : TypeId) (format : Format) : Registration → Option Decoder
  | .encoder _ _ => none
  | .decoder t d => if t = type ∧ d.format = format then some d else none

end Registration

namespace History

/-- The last encoder that was registered for a kind in a format that the request admits. -/
def encoder? (h : History) (kind : Kind) (wanted : Wanted) : Option Encoder :=
  (h.filterMap (Registration.encoder? kind wanted)).getLast?

/-- The last decoder that was registered for a type and a format. -/
def decoder? (h : History) (type : TypeId) (format : Format) : Option Decoder :=
  (h.filterMap (Registration.decoder? type format)).getLast?

theorem encoder?_concat (h : History) (r : Registration) (kind : Kind) (wanted : Wanted) :
    encoder? (h ++ [r]) kind wanted = (r.encoder? kind wanted).or (h.encoder? kind wanted) := by
  rw [encoder?, List.filterMap_append, List.getLast?_append]
  congr 1
  cases hr : r.encoder? kind wanted <;> simp [hr]

theorem decoder?_concat (h : History) (r : Registration) (type : TypeId) (format : Format) :
    decoder? (h ++ [r]) type format = (r.decoder? type format).or (h.decoder? type format) := by
  rw [decoder?, List.filterMap_append, List.getLast?_append]
  congr 1
  cases hr : r.decoder? type format <;> simp [hr]

end History

/-! ## One stack -/

/-- A way to register an adapter: for a kind or a type, or for the name of one. -/
inductive Entry
  | encoder (kind : Kind) (e : Encoder)
  | encoderNamed (name : String) (e : Encoder)
  | decoder (type : TypeId) (d : Decoder)
  | decoderNamed (name : String) (d : Decoder)

namespace Entry

def enter : Entry → Stack → Except SessionError Stack
  | .encoder kind e, s => .ok (s.addEncoder kind e)
  | .encoderNamed name e, s => s.addEncoderNamed name e
  | .decoder type d, s => .ok (s.addDecoder type d)
  | .decoderNamed name d, s => s.addDecoderNamed name d

/-- What is registered in this way; nothing under a name that nobody knows. -/
def registration? : Entry → Option Registration
  | .encoder kind e => some (.encoder kind e)
  | .encoderNamed name e => (Kind.ofName? name).map fun kind => .encoder kind e
  | .decoder type d => some (.decoder type d)
  | .decoderNamed name d => (typeOfName? name).map fun type => .decoder type d

end Entry

namespace Stack

variable {s : Stack} {h : History}

/-- What a search for an encoder comes to before replacements are looked at. -/
def findEncoder (s : Stack) (kind : Kind) (wanted : Wanted) : Option Encoder :=
  s.layers.findSome? fun l => Table.get? l.encoders (kind, wanted)

def findDecoder (s : Stack) (type : TypeId) (format : Format) : Option Decoder :=
  s.layers.findSome? fun l => Table.get? l.decoders (type, format)

theorem findEncoder_addEncoder (s : Stack) (k kind : Kind) (e : Encoder) (wanted : Wanted) :
    (s.addEncoder k e).findEncoder kind wanted =
      ((Registration.encoder k e).encoder? kind wanted).or (s.findEncoder kind wanted) := by
  simp only [findEncoder, layers, addEncoder, List.findSome?_cons, Table.get?_put,
    Registration.encoder?, Prod.mk.injEq]
  by_cases hk : k = kind
  · subst hk
    cases wanted with
    | any => simp [Wanted.admits]
    | exactly f => by_cases hf : f = e.format <;> simp [Wanted.admits, hf, eq_comm]
  · simp [hk]

theorem findDecoder_addDecoder (s : Stack) (t type : TypeId) (d : Decoder) (format : Format) :
    (s.addDecoder t d).findDecoder type format =
      ((Registration.decoder t d).decoder? type format).or (s.findDecoder type format) := by
  simp only [findDecoder, layers, addDecoder, List.findSome?_cons, Table.get?_put,
    Registration.decoder?, Prod.mk.injEq]
  by_cases hd : t = type ∧ d.format = format <;> simp [hd]

/-- The stack finds what was registered last. -/
structure Recalls (s : Stack) (h : History) : Prop where
  encoders : ∀ kind wanted, s.findEncoder kind wanted = h.encoder? kind wanted
  decoders : ∀ type format, s.findDecoder type format = h.decoder? type format

namespace Recalls

theorem empty : Recalls {} [] := ⟨fun _ _ => rfl, fun _ _ => rfl⟩

/-- The new layer of a derived stack holds nothing. -/
theorem derive (hr : s.Recalls h) : s.derive.Recalls h where
  encoders := hr.encoders
  decoders := hr.decoders

theorem addEncoder (hr : s.Recalls h) (kind : Kind) (e : Encoder) :
    (s.addEncoder kind e).Recalls (h ++ [.encoder kind e]) where
  encoders k w := by rw [findEncoder_addEncoder, hr.encoders, History.encoder?_concat]
  decoders t f := by
    rw [History.decoder?_concat]
    exact hr.decoders t f

theorem addDecoder (hr : s.Recalls h) (type : TypeId) (d : Decoder) :
    (s.addDecoder type d).Recalls (h ++ [.decoder type d]) where
  encoders k w := by
    rw [History.encoder?_concat]
    exact hr.encoders k w
  decoders t f := by rw [findDecoder_addDecoder, hr.decoders, History.decoder?_concat]

end Recalls

end Stack

/-- An adapter is registered, unless it is to be so under a name that nobody knows. -/
theorem Entry.enter_cases (entry : Entry) (s : Stack) :
    (∃ r s', entry.registration? = some r ∧ entry.enter s = .ok s' ∧
      ∀ h, s.Recalls h → s'.Recalls (h ++ [r])) ∨
    entry.registration? = none ∧ ∃ e, entry.enter s = .error e := by
  cases entry with
  | encoder kind e => exact .inl ⟨_, _, rfl, rfl, fun h hr => hr.addEncoder kind e⟩
  | decoder type d => exact .inl ⟨_, _, rfl, rfl, fun h hr => hr.addDecoder type d⟩
  | encoderNamed name e =>
    simp only [enter, Stack.addEncoderNamed, registration?]
    cases Kind.ofName? name with
    | some kind => exact .inl ⟨_, _, rfl, rfl, fun h hr => hr.addEncoder kind e⟩
    | none => exact .inr ⟨rfl, _, rfl⟩
  | decoderNamed name d =>
    simp only [enter, Stack.addDecoderNamed, registration?]
    cases typeOfName? name with
    | some type => exact .inl ⟨_, _, rfl, rfl, fun h hr => hr.addDecoder type d⟩
    | none => exact .inr ⟨rfl, _, rfl⟩

/-! ## Replacements -/

/-- What was first entered under a name. -/
def first {α : Type} (entries : List (String × α)) (name : String) : Option α :=
  (entries.find? fun x => x.1 = name).map (·.2)

theorem first_concat {α : Type} (entries : List (String × α)) (key name : String) (a : α) :
    first (entries ++ [(key, a)]) name =
      (first entries name).or (if key = name then some a else none) := by
  rw [first, first, List.find?_append]
  cases entries.find? fun x => x.1 = name with
  | some x => rfl
  | none => by_cases h : key = name <;> simp [h]

/-- A name that has a value keeps it. -/
theorem get?_putNew {α : Type} (t : List (String × α)) (key name : String) (a : α) :
    Table.get? (if (Table.get? t key).isNone then Table.put t key a else t) name =
      (Table.get? t name).or (if key = name then some a else none) := by
  split
  · rename_i hk
    rw [Table.get?_put]
    by_cases h : key = name
    · subst h
      simp [Option.isNone_iff_eq_none.1 hk]
    · simp [h]
  · rename_i hk
    by_cases h : key = name
    · subst h
      obtain ⟨b, hb⟩ := Option.ne_none_iff_exists'.1 (mt Option.isNone_iff_eq_none.2 hk)
      simp [hb]
    · simp [h]

namespace Replacements

theorem get?_addEncoder (r : Replacements) (key name : String) (e : Encoder) :
    Table.get? (r.addEncoder key e).encoders name =
      (Table.get? r.encoders name).or (if key = name then some e else none) := by
  rw [← get?_putNew, addEncoder, lacksEncoder, apply_ite encoders]

theorem get?_addDecoder (r : Replacements) (key name : String) (d : Decoder) :
    Table.get? (r.addDecoder key d).decoders name =
      (Table.get? r.decoders name).or (if key = name then some d else none) := by
  rw [← get?_putNew, addDecoder, lacksDecoder, apply_ite decoders]

theorem decoders_addEncoder (r : Replacements) (key : String) (e : Encoder) :
    (r.addEncoder key e).decoders = r.decoders := by
  unfold addEncoder
  split <;> rfl

theorem encoders_addDecoder (r : Replacements) (key : String) (d : Decoder) :
    (r.addDecoder key d).encoders = r.encoders := by
  unfold addDecoder
  split <;> rfl

end Replacements

/-! ## Families -/

namespace Family

/-- What may be done to a family. -/
inductive Change
  | create (name : String) (replacements : Option String)
  | derive (name parent : String)
  | copy (name source : String)
  | register (name : String) (entry : Entry)
  | replaceEncoder (set name : String) (e : Encoder)
  | replaceDecoder (set name : String) (d : Decoder)

/-- The family after a change; what cannot be registered changes nothing. -/
def change (f : Family) : Change → Family
  | .create name replacements => f.create name replacements
  | .derive name parent => f.derive name parent
  | .copy name source => f.copy name source
  | .register name entry => (f.register name entry.enter).toOption.getD f
  | .replaceEncoder set name e => f.replace set (·.addEncoder name e)
  | .replaceDecoder set name d => f.replace set (·.addDecoder name d)

/-- What a new family comes to. -/
def after (changes : List Change) : Family := changes.foldl change {}

/-- What is remembered of the changes of a family. -/
structure Past where
  /-- What was registered on each stack, and before that on those that it was made from. -/
  history : String → History := fun _ => []
  /-- The set of replacements that each stack consults. -/
  consults : String → Option String := fun _ => none
  /-- What was entered in each set of replacements, the earliest first. -/
  encoders : String → List (String × Encoder) := fun _ => []
  decoders : String → List (String × Decoder) := fun _ => []

namespace Past

open Function (update)

def after (p : Past) : Change → Past
  | .create name set =>
    { p with history := update p.history name [], consults := update p.consults name set }
  | .derive name source | .copy name source =>
    { p with
      history := update p.history name (p.history source)
      consults := update p.consults name (p.consults source) }
  | .register name entry =>
    { p with history := update p.history name (p.history name ++ entry.registration?.toList) }
  | .replaceEncoder set name e =>
    { p with encoders := update p.encoders set (p.encoders set ++ [(name, e)]) }
  | .replaceDecoder set name d =>
    { p with decoders := update p.decoders set (p.decoders set ++ [(name, d)]) }

def of (changes : List Change) : Past := changes.foldl after {}

/-- The encoder that a lookup on a stack is to answer with: the last that was registered, or what
was first entered in its place. -/
def encoder? (p : Past) (name : String) (kind : Kind) (wanted : Wanted) : Option Encoder :=
  ((p.history name).encoder? kind wanted).map fun e =>
    ((p.consults name).bind fun set => first (p.encoders set) e.name).getD e

def decoder? (p : Past) (name : String) (type : TypeId) (format : Format) : Option Decoder :=
  ((p.history name).decoder? type format).map fun d =>
    ((p.consults name).bind fun set => first (p.decoders set) d.name).getD d

end Past

variable {f : Family} {p : Past}

theorem relative_put (f : Family) (name other : String) (r : Relative) :
    (f.put name r).relative other = if name = other then r else f.relative other := by
  rw [relative, put, Table.get?_put]
  split <;> rfl

theorem replacementsOf_replace (f : Family) (set other : String)
    (new : Replacements → Replacements) :
    (f.replace set new).replacementsOf other =
      if set = other then new (f.replacementsOf set) else f.replacementsOf other := by
  rw [replacementsOf, replace, Table.get?_put]
  split <;> rfl

/-- The family knows its past. -/
structure Recalls (f : Family) (p : Past) : Prop where
  stack : ∀ name, (f.relative name).stack.Recalls (p.history name)
  consults : ∀ name, (f.relative name).replacements = p.consults name
  encoders : ∀ set name,
    Table.get? (f.replacementsOf set).encoders name = first (p.encoders set) name
  decoders : ∀ set name,
    Table.get? (f.replacementsOf set).decoders name = first (p.decoders set) name

namespace Recalls

theorem empty : Recalls {} {} :=
  ⟨fun _ => .empty, fun _ => rfl, fun _ _ => rfl, fun _ _ => rfl⟩

/-- A stack is put in the place of another of its name, or it is a new one. -/
theorem put (hr : f.Recalls p) (name : String) {r : Relative} {h : History} {c : Option String}
    (hs : r.stack.Recalls h) (hc : r.replacements = c) :
    (f.put name r).Recalls { p with
      history := Function.update p.history name h, consults := Function.update p.consults name c }
    where
  stack other := by
    rw [relative_put]
    by_cases hn : name = other
    · subst hn
      simpa using hs
    · simpa [hn, Ne.symm hn] using hr.stack other
  consults other := by
    rw [relative_put]
    by_cases hn : name = other
    · subst hn
      simpa using hc
    · simpa [hn, Ne.symm hn] using hr.consults other
  encoders := hr.encoders
  decoders := hr.decoders

theorem register (hr : f.Recalls p) (name : String) (entry : Entry) :
    (f.change (.register name entry)).Recalls (p.after (.register name entry)) := by
  rcases entry.enter_cases (f.relative name).stack with ⟨r, s, hg, hs, hk⟩ | ⟨hg, e, he⟩
  · have hf : f.change (.register name entry) =
        f.put name { f.relative name with stack := s } := by
      simp [Family.change, Family.register, hs, Except.map, Except.toOption]
    have h := hr.put (r := { f.relative name with stack := s }) name (hk _ (hr.stack name))
      (hr.consults name)
    rw [Function.update_eq_self] at h
    simpa [hf, Past.after, hg] using h
  · have hf : f.change (.register name entry) = f := by
      simp [Family.change, Family.register, he, Except.map, Except.toOption]
    simpa [hf, Past.after, hg] using hr

theorem replaceEncoder (hr : f.Recalls p) (set name : String) (e : Encoder) :
    (f.change (.replaceEncoder set name e)).Recalls (p.after (.replaceEncoder set name e)) where
  stack := hr.stack
  consults := hr.consults
  encoders other key := by
    rw [Family.change, replacementsOf_replace, Past.after]
    by_cases hs : set = other
    · subst hs
      simp [Replacements.get?_addEncoder, hr.encoders, first_concat]
    · simpa [hs, Ne.symm hs] using hr.encoders other key
  decoders other key := by
    rw [Family.change, replacementsOf_replace, Past.after]
    by_cases hs : set = other
    · subst hs
      simpa [Replacements.decoders_addEncoder] using hr.decoders set key
    · simpa [hs] using hr.decoders other key

theorem replaceDecoder (hr : f.Recalls p) (set name : String) (d : Decoder) :
    (f.change (.replaceDecoder set name d)).Recalls (p.after (.replaceDecoder set name d)) where
  stack := hr.stack
  consults := hr.consults
  encoders other key := by
    rw [Family.change, replacementsOf_replace, Past.after]
    by_cases hs : set = other
    · subst hs
      simpa [Replacements.encoders_addDecoder] using hr.encoders set key
    · simpa [hs] using hr.encoders other key
  decoders other key := by
    rw [Family.change, replacementsOf_replace, Past.after]
    by_cases hs : set = other
    · subst hs
      simp [Replacements.get?_addDecoder, hr.decoders, first_concat]
    · simpa [hs, Ne.symm hs] using hr.decoders other key

theorem change (hr : f.Recalls p) (c : Change) : (f.change c).Recalls (p.after c) := by
  cases c with
  | create name set => exact hr.put name .empty rfl
  | derive name source => exact hr.put name (hr.stack source).derive (hr.consults source)
  | copy name source => exact hr.put name (hr.stack source) (hr.consults source)
  | register name entry => exact hr.register name entry
  | replaceEncoder set name e => exact hr.replaceEncoder set name e
  | replaceDecoder set name d => exact hr.replaceDecoder set name d

theorem foldl (hr : f.Recalls p) (changes : List Change) :
    (changes.foldl Family.change f).Recalls (changes.foldl Past.after p) := by
  induction changes generalizing f p with
  | nil => exact hr
  | cons c rest ih => exact ih (hr.change c)

end Recalls

/-- A family that was made from nothing knows its past. -/
theorem recalls_after (changes : List Change) : (after changes).Recalls (.of changes) :=
  Recalls.empty.foldl changes

/-! ## Lookups -/

/-- The encoder that a lookup on a stack of the family gives. -/
def encoder (f : Family) (name : String) (kind : Kind) (wanted : Wanted) :
    Except SessionError Encoder :=
  (f.lookup name).1.encoder (f.lookup name).2 kind wanted

def decoder? (f : Family) (name : String) (type : TypeId) (format : Format) : Option Decoder :=
  (f.lookup name).1.decoder? (f.lookup name).2 type format

def depth (f : Family) (name : String) : Nat := (f.lookup name).1.depth

namespace Recalls

theorem encoderFor (hr : f.Recalls p) (name : String) (e : Encoder) :
    (f.lookup name).2.encoderFor e =
      ((p.consults name).bind fun set => first (p.encoders set) e.name).getD e := by
  rw [lookup, ← hr.consults name]
  cases (f.relative name).replacements with
  | none => rfl
  | some set => exact congrArg (·.getD e) (hr.encoders set e.name)

theorem decoderFor (hr : f.Recalls p) (name : String) (d : Decoder) :
    (f.lookup name).2.decoderFor d =
      ((p.consults name).bind fun set => first (p.decoders set) d.name).getD d := by
  rw [lookup, ← hr.consults name]
  cases (f.relative name).replacements with
  | none => rfl
  | some set => exact congrArg (·.getD d) (hr.decoders set d.name)

theorem encoder (hr : f.Recalls p) (name : String) (kind : Kind) (wanted : Wanted) :
    f.encoder name kind wanted = match p.encoder? name kind wanted with
      | some e => .ok e
      | none => .error (.adapt kind wanted) := by
  have found : (f.lookup name).1.findEncoder kind wanted = _ := (hr.stack name).encoders kind wanted
  have answer : f.encoder name kind wanted = match (f.lookup name).1.findEncoder kind wanted with
      | some e => .ok ((f.lookup name).2.encoderFor e)
      | none => .error (.adapt kind wanted) := rfl
  rw [answer, found, Past.encoder?]
  cases (p.history name).encoder? kind wanted with
  | none => rfl
  | some e => exact congrArg Except.ok (hr.encoderFor name e)

theorem decoder? (hr : f.Recalls p) (name : String) (type : TypeId) (format : Format) :
    f.decoder? name type format = p.decoder? name type format := by
  have found : (f.lookup name).1.findDecoder type format = _ := (hr.stack name).decoders type format
  have answer : f.decoder? name type format =
      ((f.lookup name).1.findDecoder type format).map (f.lookup name).2.decoderFor := rfl
  rw [answer, found, Past.decoder?]
  exact congrArg (Option.map · _) (funext (hr.decoderFor name))

end Recalls

/-- Whether an adapter can be registered does not depend on the stack. -/
theorem enter_outcome (entry : Entry) (s s' : Stack) :
    (entry.enter s).map (fun _ => ()) = (entry.enter s').map fun _ => () := by
  cases entry with
  | encoder | decoder => rfl
  | encoderNamed name e =>
    simp only [Entry.enter, Stack.addEncoderNamed]
    cases Kind.ofName? name <;> rfl
  | decoderNamed name d =>
    simp only [Entry.enter, Stack.addDecoderNamed]
    cases typeOfName? name <;> rfl

/-- Nobody who looks adapters up, registers or replaces them can tell two families apart. -/
structure Alike (f g : Family) : Prop where
  encoder : ∀ name kind wanted, f.encoder name kind wanted = g.encoder name kind wanted
  decoder : ∀ name type format, f.decoder? name type format = g.decoder? name type format
  register : ∀ name entry, (f.register name (Entry.enter entry)).map (fun _ => ()) =
    (g.register name (Entry.enter entry)).map fun _ => ()
  replaceEncoder : ∀ set name,
    (f.replacementsOf set).lacksEncoder name = (g.replacementsOf set).lacksEncoder name
  replaceDecoder : ∀ set name,
    (f.replacementsOf set).lacksDecoder name = (g.replacementsOf set).lacksDecoder name

theorem Recalls.alike {g : Family} (hf : f.Recalls p) (hg : g.Recalls p) : f.Alike g where
  encoder name kind wanted := by rw [hf.encoder, hg.encoder]
  decoder name type format := by rw [hf.decoder?, hg.decoder?]
  register name entry := by
    have outcome (f : Family) : (f.register name entry.enter).map (fun _ => ()) =
        (entry.enter (f.relative name).stack).map fun _ => () := by
      rw [Family.register]
      cases entry.enter (f.relative name).stack <;> rfl
    rw [outcome, outcome, enter_outcome]
  replaceEncoder set name := by
    rw [Replacements.lacksEncoder, Replacements.lacksEncoder, hf.encoders, hg.encoders]
  replaceDecoder set name := by
    rw [Replacements.lacksDecoder, Replacements.lacksDecoder, hf.decoders, hg.decoders]

theorem lookup_put_of_ne (f : Family) {name other : String} (h : other ≠ name) (r : Relative) :
    (f.put name r).lookup other = f.lookup other := by
  have hr : (f.put name r).relative other = f.relative other := by
    rw [relative_put, if_neg (Ne.symm h)]
  rw [lookup, lookup, hr]
  rfl

theorem lookup_register_of_ne (f : Family) {name other : String} (h : other ≠ name)
    (entry : Entry) : (f.change (.register name entry)).lookup other = f.lookup other := by
  rw [change, register]
  cases entry.enter (f.relative name).stack with
  | error e => rfl
  | ok s => exact f.lookup_put_of_ne h _

theorem depth_put (f : Family) (name : String) (r : Relative) :
    (f.put name r).depth name = r.stack.depth := by
  rw [depth, lookup, relative_put, if_pos rfl]

/-- **A lookup answers from what was registered**, whatever layers the stack has and shares: the
last registration counts, or what was first entered in its place. What is registered on one stack
does not show on another, and a derived stack differs from a copy in its depth only. -/
theorem lookup_recalls (changes : List Change) (name : String) :
    (∀ kind wanted, (after changes).encoder name kind wanted =
      match (Past.of changes).encoder? name kind wanted with
      | some e => .ok e
      | none => .error (.adapt kind wanted)) ∧
    (∀ type format, (after changes).decoder? name type format =
      (Past.of changes).decoder? name type format) ∧
    (∀ other entry, other ≠ name →
      ((after changes).change (.register name entry)).lookup other =
        (after changes).lookup other) ∧
    ∀ source, ((after changes).derive name source).depth name = (after changes).depth source + 1 ∧
      ((after changes).copy name source).depth name = (after changes).depth source ∧
      ∀ later, (after (changes ++ .derive name source :: later)).Alike
        (after (changes ++ .copy name source :: later)) := by
  have known := recalls_after changes
  refine ⟨known.encoder name, known.decoder? name,
    fun other entry h => lookup_register_of_ne _ h entry, fun source => ⟨?_, ?_, fun later => ?_⟩⟩
  · exact depth_put _ name _
  · exact depth_put _ name _
  · -- the past of a stack does not tell whether it was derived or copied
    have same : Past.of (changes ++ .derive name source :: later) =
        Past.of (changes ++ .copy name source :: later) := by
      simp only [Past.of, List.foldl_append, List.foldl_cons]
      rfl
    exact (recalls_after _).alike (same ▸ recalls_after _)

/-- An encoder for texts is registered on a derived stack and replaced for all stacks. -/
def overriding : List Change :=
  [.create "parent" (some "shared"), .register "parent" (.encoder .bool .boolText),
    .register "parent" (.encoder .bool .boolBinary), .derive "child" "parent",
    .register "child" (.encoderNamed "boolean" (.constant "YesNo" .text 25 "yes")),
    .replaceEncoder "shared" "YesNo" (.constant "OnOff" .text 25 "on"),
    .replaceEncoder "shared" "YesNo" (.constant "TrueFalse" .text 25 "true")]

example : ["parent", "child"].map (fun name =>
    [Wanted.any, .exactly .text].map fun wanted =>
      ((after overriding).encoder name .bool wanted).toOption.map (·.name)) =
    [[some "BoolBinaryDumper", some "BoolDumper"], [some "OnOff", some "OnOff"]] := by
  decide +kernel

end Family

end SessionPool.Adapter
