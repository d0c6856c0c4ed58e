import SessionPool.Proofs.Lookup

/-!
# The format of what a lookup finds

An adapter is found under its own format (`History.format_of_encoder?`), but it is replaced by its
name, and nobody compares the formats then: a stack may answer with an adapter of the other format
(`Family.unfaithful`). `Family.faithful_iff` says when a stack is faithful to the formats that it is
asked for: exactly if nothing that it may find is replaced by an adapter of the other format. This
holds of all stacks if every replacement has the format of whatever is registered under the name
that it replaces (`Family.Respectful`), since a stack knows only of what was registered, and a set
of replacements only of what was entered in it (`Family.Past.Stems`).
-/

set_option autoImplicit false

namespace SessionPool.Adapter

namespace History

variable {h : History} {format : Format}

theorem mem_of_encoder? {kind : Kind} {wanted : Wanted} {e : Encoder}
    (found : h.encoder? kind wanted = some e) :
    .encoder kind e ∈ h ∧ wanted.admits e.format = true := by
  obtain ⟨r, hr, he⟩ := List.mem_filterMap.1 (List.mem_of_getLast? found)
  cases r with
  | decoder type d => cases he
  | encoder k e' =>
    rw [Registration.encoder?, Option.ite_none_right_eq_some] at he
    obtain ⟨⟨rfl, admitted⟩, same⟩ := he
    cases same
    exact ⟨hr, admitted⟩

theorem mem_of_decoder? {type : TypeId} {d : Decoder}
    (found : h.decoder? type format = some d) : .decoder type d ∈ h ∧ d.format = format := by
  obtain ⟨r, hr, hd⟩ := List.mem_filterMap.1 (List.mem_of_getLast? found)
  cases r with
  | encoder kind e => cases hd
  | decoder t d' =>
    rw [Registration.decoder?, Option.ite_none_right_eq_some] at hd
    obtain ⟨⟨rfl, asked⟩, same⟩ := hd
    cases same
    exact ⟨hr, asked⟩

theorem format_of_encoder? {kind : Kind} {e : Encoder}
    (found : h.encoder? kind (.exactly format) = some e) : e.format = format := by
  have admitted := (mem_of_encoder? found).2
  rw [Wanted.admits, decide_eq_true_eq] at admitted
  exact admitted.symm

end History

namespace Family

/-- Whoever asks a stack for a format gets an adapter of that format, if any. -/
structure Faithful (f : Family) (name : String) : Prop where
  encoder : ∀ kind format e, f.encoder name kind (.exactly format) = .ok e → e.format = format
  decoder : ∀ type format d, f.decoder? name type format = some d → d.format = format

namespace Past

/-- What a stack answers with in place of an encoder. -/
def encoderInstead? (p : Past) (name : String) (e : Encoder) : Option Encoder :=
  (p.consults name).bind fun set => first (p.encoders set) e.name

def decoderInstead? (p : Past) (name : String) (d : Decoder) : Option Decoder :=
  (p.consults name).bind fun set => first (p.decoders set) d.name

/-- Nothing that a stack may find for a format is replaced by an adapter of another one. -/
structure KeepsFormats (p : Past) (name : String) : Prop where
  encoder : ∀ kind format e r, (p.history name).encoder? kind (.exactly format) = some e →
    p.encoderInstead? name e = some r → r.format = e.format
  decoder : ∀ type format d r, (p.history name).decoder? type format = some d →
    p.decoderInstead? name d = some r → r.format = d.format

/-- All that is in a history was registered by changes. -/
def Registered (changes : List Change) (h : History) : Prop :=
  ∀ r ∈ h, ∃ stack entry, .register stack entry ∈ changes ∧ entry.registration? = some r

/-- All that is in a set of replacements was entered by changes. -/
def Entered {α : Type} (replace : String → String → α → Change) (changes : List Change)
    (set : String) (entries : List (String × α)) : Prop :=
  ∀ x ∈ entries, replace set x.1 x.2 ∈ changes

/-- What is remembered of changes is among them. -/
structure Stems (p : Past) (changes : List Change) : Prop where
  history : ∀ name, Registered changes (p.history name)
  encoders : ∀ set, Entered .replaceEncoder changes set (p.encoders set)
  decoders : ∀ set, Entered .replaceDecoder changes set (p.decoders set)

end Past

/-- Every replacement has the format of whatever is registered under the name that it replaces. -/
structure Respectful (changes : List Change) : Prop where
  encoder : ∀ set name r, .replaceEncoder set name r ∈ changes →
    ∀ stack entry kind e, .register stack entry ∈ changes →
      entry.registration? = some (.encoder kind e) → e.name = name → r.format = e.format
  decoder : ∀ set name r, .replaceDecoder set name r ∈ changes →
    ∀ stack entry type d, .register stack entry ∈ changes →
      entry.registration? = some (.decoder type d) → d.name = name → r.format = d.format

theorem mem_of_first {α : Type} {entries : List (String × α)} {name : String} {a : α}
    (h : first entries name = some a) : (name, a) ∈ entries := by
  obtain ⟨x, hx, rfl⟩ := Option.map_eq_some_iff.1 h
  have key : x.1 = name := by simpa using List.find?_some hx
  exact key ▸ List.mem_of_find?_eq_some hx

/-! ## What is remembered -/

namespace Past.Stems

variable {p : Past} {changes : List Change}

theorem empty : Stems {} [] where
  history _ _ hr := absurd hr List.not_mem_nil
  encoders _ _ hx := absurd hx List.not_mem_nil
  decoders _ _ hx := absurd hx List.not_mem_nil

theorem mono {more : List Change} (h : p.Stems changes) (sub : changes ⊆ more) :
    p.Stems more where
  history name r hr :=
    let ⟨stack, entry, hm, he⟩ := h.history name r hr
    ⟨stack, entry, sub hm, he⟩
  encoders set x hx := sub (h.encoders set x hx)
  decoders set x hx := sub (h.decoders set x hx)

theorem put (h : p.Stems changes) (name : String) {new : History}
    (registered : Registered changes new) :
    ∀ other, Registered changes (Function.update p.history name new other) :=
  (Function.forall_update_iff p.history fun _ => Registered changes).2
    ⟨registered, fun other _ => h.history other⟩

theorem entered_concat {α : Type} {replace : String → String → α → Change}
    {entries : String → List (String × α)} (h : ∀ set, Entered replace changes set (entries set))
    {set name : String} {a : α} (new : replace set name a ∈ changes) :
    ∀ other, Entered replace changes other
      (Function.update entries set (entries set ++ [(name, a)]) other) := by
  refine (Function.forall_update_iff entries (Entered replace changes)).2
    ⟨fun x hx => ?_, fun other _ => h other⟩
  rcases List.mem_append.1 hx with hx | hx
  · exact h set x hx
  · obtain rfl := List.mem_singleton.1 hx
    exact new

/-- **Every change is remembered as what it is.** -/
theorem after (h : p.Stems changes) (c : Change) : (p.after c).Stems (changes ++ [c]) := by
  have old := h.mono (List.subset_append_left changes [c])
  have new : c ∈ changes ++ [c] := List.mem_append_right _ (.head _)
  cases c with
  | create name set =>
    exact { old with history := old.put name fun _ hr => absurd hr List.not_mem_nil }
  | derive name source | copy name source =>
    exact { old with history := old.put name (old.history source) }
  | register name entry =>
    refine { old with history := old.put name fun r hr => ?_ }
    rcases List.mem_append.1 hr with hr | hr
    · exact old.history name r hr
    · exact ⟨name, entry, new, Option.mem_toList.1 hr⟩
  | replaceEncoder set name e => exact { old with encoders := entered_concat old.encoders new }
  | replaceDecoder set name d => exact { old with decoders := entered_concat old.decoders new }

theorem foldl (h : p.Stems changes) (more : List Change) :
    (more.foldl Past.after p).Stems (changes ++ more) := by
  induction more generalizing p changes with
  | nil => rwa [List.append_nil]
  | cons c more ih =>
    rw [List.append_cons]
    exact ih (h.after c)

theorem of (changes : List Change) : (Past.of changes).Stems changes := empty.foldl changes

end Past.Stems

/-! ## Lookups -/

variable {f : Family} {p : Past} {name : String}

theorem Recalls.encoder_eq_ok_iff (hr : f.Recalls p) {kind : Kind} {wanted : Wanted} {e : Encoder} :
    f.encoder name kind wanted = .ok e ↔
      ∃ found, (p.history name).encoder? kind wanted = some found ∧
        (p.encoderInstead? name found).getD found = e := by
  rw [hr.encoder, Past.encoder?]
  cases (p.history name).encoder? kind wanted with
  | none => simp
  | some found => simp [Past.encoderInstead?]

theorem Recalls.decoder?_eq_some_iff (hr : f.Recalls p) {type : TypeId} {format : Format}
    {d : Decoder} : f.decoder? name type format = some d ↔
      ∃ found, (p.history name).decoder? type format = some found ∧
        (p.decoderInstead? name found).getD found = d := by
  rw [hr.decoder?, Past.decoder?, Option.map_eq_some_iff]
  rfl

/-- A stack is faithful exactly if nothing that it may find is replaced by something of another
format. -/
theorem Recalls.faithful_iff_keepsFormats (hr : f.Recalls p) :
    f.Faithful name ↔ p.KeepsFormats name := by
  constructor
  · rintro ⟨encoder, decoder⟩
    constructor
    · intro kind format e r found instead
      have asked := encoder kind format r (hr.encoder_eq_ok_iff.2 ⟨e, found, by simp [instead]⟩)
      rw [asked, History.format_of_encoder? found]
    · intro type format d r found instead
      have asked := decoder type format r (hr.decoder?_eq_some_iff.2 ⟨d, found, by simp [instead]⟩)
      rw [asked, (History.mem_of_decoder? found).2]
  · rintro ⟨encoder, decoder⟩
    constructor
    · intro kind format e h
      obtain ⟨found, hf, rfl⟩ := hr.encoder_eq_ok_iff.1 h
      have asked := History.format_of_encoder? hf
      cases hi : p.encoderInstead? name found with
      | none => exact asked
      | some r => exact (encoder kind format found r hf hi).trans asked
    · intro type format d h
      obtain ⟨found, hf, rfl⟩ := hr.decoder?_eq_some_iff.1 h
      have asked := (History.mem_of_decoder? hf).2
      cases hi : p.decoderInstead? name found with
      | none => exact asked
      | some r => exact (decoder type format found r hf hi).trans asked

/-- Whatever a stack may find was registered, and what is in its place was entered as such. -/
theorem Past.Stems.keepsFormats {changes : List Change} (h : p.Stems changes)
    (respectful : Respectful changes) (name : String) : p.KeepsFormats name where
  encoder kind format e r found instead := by
    obtain ⟨set, -, entered⟩ := Option.bind_eq_some_iff.1 instead
    obtain ⟨stack, entry, registered, he⟩ :=
      h.history name _ (History.mem_of_encoder? found).1
    have replaced := h.encoders set _ (mem_of_first entered)
    exact respectful.encoder set e.name r replaced stack entry kind e registered he rfl
  decoder type format d r found instead := by
    obtain ⟨set, -, entered⟩ := Option.bind_eq_some_iff.1 instead
    obtain ⟨stack, entry, registered, hd⟩ :=
      h.history name _ (History.mem_of_decoder? found).1
    have replaced := h.decoders set _ (mem_of_first entered)
    exact respectful.decoder set d.name r replaced stack entry type d registered hd rfl

/-- **The format of what is found.** Whatever was registered on stacks and entered as a replacement,
in any order: a stack answers requests for a format with adapters of that format exactly if nothing
that it may find is replaced by an adapter of the other format, and all stacks do so if every
replacement has the format of whatever is registered under the name that it replaces. -/
theorem faithful_iff (changes : List Change) :
    (∀ name, (after changes).Faithful name ↔ (Past.of changes).KeepsFormats name) ∧
      (Respectful changes → ∀ name, (after changes).Faithful name) := by
  have known := recalls_after changes
  refine ⟨fun name => known.faithful_iff_keepsFormats, fun respectful name => ?_⟩
  exact known.faithful_iff_keepsFormats.2 ((Past.Stems.of changes).keepsFormats respectful name)

/-- Both encoders of the set replace one for texts by one for texts. -/
theorem faithful_overriding :
    Respectful overriding ∧ ∀ name, (after overriding).Faithful name := by
  have replaced : ∀ set name r, .replaceEncoder set name r ∈ overriding →
      name = "YesNo" ∧ r.format = .text := by
    simp only [overriding, List.mem_cons, reduceCtorEq, Change.replaceEncoder.injEq,
      List.not_mem_nil, or_false, false_or]
    rintro set name r (⟨-, rfl, rfl⟩ | ⟨-, rfl, rfl⟩) <;> exact ⟨rfl, rfl⟩
  have registered : ∀ stack entry, .register stack entry ∈ overriding →
      ∀ kind e, entry.registration? = some (.encoder kind e) → e.name = "YesNo" →
        e.format = .text := by
    simp only [overriding, List.mem_cons, reduceCtorEq, Change.register.injEq,
      List.not_mem_nil, or_false, false_or]
    rintro stack entry (⟨-, rfl⟩ | ⟨-, rfl⟩ | ⟨-, rfl⟩) kind e he hn <;> cases he
    · rfl
    · exact absurd hn (by decide)
    · rfl
  have respectful : Respectful overriding := by
    constructor
    · intro set name r hr stack entry kind e he hreg same
      obtain ⟨rfl, text⟩ := replaced set name r hr
      rw [text, registered stack entry he kind e hreg same]
    · intro set name r hr
      simp [overriding] at hr
  exact ⟨respectful, (faithful_iff overriding).2 respectful⟩

def crossing : List Change :=
  [.create "plain" (some "shared"), .register "plain" (.encoder .bool .boolText),
    .register "plain" (.decoder boolType .boolText),
    .replaceEncoder "shared" "BoolDumper" .boolBinary,
    .replaceDecoder "shared" "BoolLoader" .boolBinary]

/-- A stack that is asked for texts answers with adapters for bytes. -/
theorem unfaithful :
    (after crossing).encoder "plain" .bool (.exactly .text) = .ok .boolBinary ∧
      (after crossing).decoder? "plain" boolType .text = some .boolBinary ∧
      Encoder.boolBinary.format = .binary ∧ Decoder.boolBinary.format = .binary ∧
      ¬ ∀ changes name, (after changes).Faithful name := by
  have crossed : (after crossing).encoder "plain" .bool (.exactly .text) = .ok .boolBinary := by rfl
  refine ⟨crossed, by rfl, rfl, rfl, fun claimed => ?_⟩
  have same := (claimed crossing "plain").encoder .bool .text .boolBinary crossed
  cases same

end Family

end SessionPool.Adapter
