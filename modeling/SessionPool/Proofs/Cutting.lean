import Mathlib.Data.List.DropRight
import SessionPool.Text.Blank
import SessionPool.Text.Numeral

/-!
# Cut and trimmed text, and numerals

What the functions on texts come to, without a look at how they go about it: `pieces` is
`List.splitOn`, `cut?` and `cutLast?` find the first and the last separator (`cut?_eq_some_iff`,
`cutLast?_eq_some_iff`), trimming works on either side of a character that is not blank
(`trimmed_around`), and a numeral is a row of digits of a certain value (`readNat?_eq_some_iff`).
-/

set_option autoImplicit false

namespace SessionPool.Text

variable {sep : Char} {cs a b : List Char}

/-! ## Cutting -/

theorem pieces_eq_splitOn (sep : Char) (cs : List Char) : pieces sep cs = cs.splitOn sep := by
  have ne_nil (cs : List Char) : pieces sep cs ≠ [] := by
    cases cs with
    | nil => simp [pieces]
    | cons c cs =>
      rw [pieces]
      split
      · simp
      · split <;> simp
  induction cs with
  | nil => rfl
  | cons c cs ih =>
    rw [List.splitOn, List.splitOnP_cons_eq_if_modifyHead, ← List.splitOn, ← ih, pieces]
    by_cases hc : c = sep
    · simp [hc]
    · cases hp : pieces sep cs with
      | nil => exact absurd hp (ne_nil cs)
      | cons p ps => simp [hc]

theorem cut?_append (h : sep ∉ a) (b : List Char) : cut? sep (a ++ sep :: b) = some (a, b) := by
  induction a with
  | nil => simp [cut?]
  | cons c a ih =>
    obtain ⟨hc, ha⟩ := not_or.1 (mt List.mem_cons.2 h)
    simp [cut?, Ne.symm hc, ih ha]

theorem cut?_eq_none_iff : cut? sep cs = none ↔ sep ∉ cs := by
  induction cs with
  | nil => simp [cut?]
  | cons c cs ih =>
    by_cases hc : c = sep
    · simp [cut?, hc]
    · simp [cut?, hc, Ne.symm hc, ih]

/-- A text is cut at the first separator. -/
theorem cut?_eq_some_iff : cut? sep cs = some (a, b) ↔ cs = a ++ sep :: b ∧ sep ∉ a := by
  refine ⟨fun h => ?_, fun h => h.1 ▸ cut?_append h.2 b⟩
  have hm : sep ∈ cs := by
    by_contra hm
    rw [cut?_eq_none_iff.2 hm] at h
    cases h
  obtain ⟨a', b', rfl, ha⟩ := List.eq_append_cons_of_mem hm
  rw [cut?_append ha] at h
  cases h
  exact ⟨rfl, ha⟩

/-- A text is cut at the last separator. -/
theorem cutLast?_eq_some_iff : cutLast? sep cs = some (a, b) ↔ cs = a ++ sep :: b ∧ sep ∉ b := by
  rw [cutLast?, Option.map_eq_some_iff]
  constructor
  · rintro ⟨⟨b', a'⟩, h, he⟩
    cases he
    obtain ⟨h, hb⟩ := cut?_eq_some_iff.1 h
    exact ⟨by simpa using congrArg List.reverse h, by simpa using hb⟩
  · rintro ⟨rfl, hb⟩
    exact ⟨(b.reverse, a.reverse), cut?_eq_some_iff.2 ⟨by simp, by simpa using hb⟩, by simp⟩

theorem cutLast?_eq_none_iff : cutLast? sep cs = none ↔ sep ∉ cs := by
  rw [cutLast?, Option.map_eq_none_iff, cut?_eq_none_iff, List.mem_reverse]

/-! ## Trimming -/

section
variable {p : Char → Bool}

theorem dropEndWhile_eq_nil_iff : dropEndWhile p cs = [] ↔ ∀ c ∈ cs, p c = true :=
  List.rdropWhile_eq_nil_iff

/-- What stands behind a character that stays does not touch what stands before it. -/
theorem dropEndWhile_append_cons {c : Char} (h : p c = false) (a b : List Char) :
    dropEndWhile p (a ++ c :: b) = a ++ c :: dropEndWhile p b := by
  simp [dropEndWhile, List.dropWhile_append, h]

theorem dropWhile_append_cons {c : Char} (h : p c = false) (a b : List Char) :
    (a ++ c :: b).dropWhile p = a.dropWhile p ++ c :: b := by
  rw [List.dropWhile_append]
  split
  · rename_i ha
    simp [List.isEmpty_iff.1 ha, h]
  · rfl

/-- It does not matter at which end the characters are dropped first. -/
theorem dropEndWhile_dropWhile (cs : List Char) :
    dropEndWhile p (cs.dropWhile p) = (dropEndWhile p cs).dropWhile p := by
  by_cases h : ∀ c ∈ cs, p c = true
  · rw [List.dropWhile_eq_nil_iff.2 h, dropEndWhile_eq_nil_iff.2 h]
    rfl
  · push Not at h
    obtain ⟨c, hc, hp⟩ := h
    -- a character that stays keeps the two ends apart
    obtain ⟨a, b, rfl⟩ := List.append_of_mem hc
    have hp : p c = false := by simpa using hp
    rw [dropWhile_append_cons hp, dropEndWhile_append_cons hp, dropEndWhile_append_cons hp,
      dropWhile_append_cons hp]

end

theorem trimmed_dropWhile (cs : List Char) : trimmed (cs.dropWhile isBlank) = trimmed cs := by
  rw [trimmed, stripped, List.dropWhile_idempotent]
  rfl

theorem trimmed_dropEndWhile (cs : List Char) : trimmed (dropEndWhile isBlank cs) = trimmed cs := by
  rw [trimmed, stripped, ← dropEndWhile_dropWhile]
  exact List.rdropWhile_idempotent _ _

/-- A text is trimmed on either side of a character that is not blank. -/
theorem trimmed_around (h : isBlank sep = false) (a b : List Char) :
    trimmed (a ++ sep :: b) = a.dropWhile isBlank ++ sep :: dropEndWhile isBlank b := by
  rw [trimmed, stripped, dropWhile_append_cons h, dropEndWhile_append_cons h]

theorem trimmed_eq_nil_iff : trimmed cs = [] ↔ ∀ c ∈ cs, isBlank c = true := by
  refine ⟨fun h => ?_, fun h => ?_⟩
  · by_contra hn
    push Not at hn
    obtain ⟨c, hc, hb⟩ := hn
    obtain ⟨a, b, rfl⟩ := List.append_of_mem hc
    rw [trimmed_around (by simpa using hb)] at h
    simp at h
  · rw [trimmed, stripped, List.dropWhile_eq_nil_iff.2 h]
    rfl

theorem dropEndWhile_sublist (p : Char → Bool) (cs : List Char) :
    (dropEndWhile p cs).Sublist cs := (List.rdropWhile_prefix p cs).sublist

theorem trimmed_sublist (cs : List Char) : (trimmed cs).Sublist cs :=
  (dropEndWhile_sublist _ _).trans (List.dropWhile_sublist _)

/-- Trimming leaves alone what has no blanks at either end. -/
theorem trimmed_eq_self_iff :
    trimmed cs = cs ↔ cs.dropWhile isBlank = cs ∧ dropEndWhile isBlank cs = cs := by
  refine ⟨fun h => ⟨?_, ?_⟩, fun h => by rw [trimmed, stripped, h.1, h.2]⟩
  · refine (List.dropWhile_sublist _).antisymm ?_
    conv_lhs => rw [← h]
    exact dropEndWhile_sublist _ _
  · refine (dropEndWhile_sublist _ _).antisymm ?_
    conv_lhs => rw [← h, trimmed, stripped, dropEndWhile_dropWhile]
    exact List.dropWhile_sublist _

theorem dropEndWhile_eq_self (h : ∀ c ∈ cs, isBlank c = false) : dropEndWhile isBlank cs = cs :=
  List.rdropWhile_eq_self_iff.2 fun hl => by simp [h _ (List.getLast_mem hl)]

theorem trimmed_eq_self (h : ∀ c ∈ cs, isBlank c = false) : trimmed cs = cs := by
  refine trimmed_eq_self_iff.2 ⟨?_, dropEndWhile_eq_self h⟩
  exact List.dropWhile_eq_self_iff.2 fun hl => by simp [h _ (List.getElem_mem hl)]

/-! ## Numerals -/

theorem digitsValue?_eq_some_iff {acc n : Nat} : digitsValue? acc cs = some n ↔
    (∀ c ∈ cs, c.isDigit) ∧ Nat.ofDigitChars 10 cs acc = n := by
  induction cs generalizing acc with
  | nil => simp [digitsValue?]
  | cons c cs ih =>
    rw [digitsValue?, Nat.ofDigitChars_cons, Nat.mul_comm 10]
    by_cases hc : c.isDigit = true
    · simp [hc, ih]
    · simp [hc]

/-- A numeral is a row of digits, perhaps after a plus sign. -/
theorem readNat?_eq_some_iff {bound n : Nat} : readNat? bound cs = some n ↔
    ∃ digits, (cs = digits ∨ cs = '+' :: digits) ∧ digits ≠ [] ∧ (∀ c ∈ digits, c.isDigit) ∧
      Nat.ofDigitChars 10 digits 0 = n ∧ n ≤ bound := by
  have reads (digits : List Char) :
      (if digits.isEmpty then none else (digitsValue? 0 digits).filter (· ≤ bound)) = some n ↔
        digits ≠ [] ∧ (∀ c ∈ digits, c.isDigit) ∧ Nat.ofDigitChars 10 digits 0 = n ∧ n ≤ bound := by
    simp [Option.filter_eq_some_iff, digitsValue?_eq_some_iff, and_assoc]
  unfold readNat?
  split
  · rename_i rest
    refine (reads rest).trans ⟨fun h => ⟨rest, .inr rfl, h⟩, ?_⟩
    rintro ⟨digits, rfl | he, h⟩
    · exact absurd (h.2.1 '+' (.head _)) (by decide)
    · cases he
      exact h
  · rename_i hs
    refine (reads cs).trans ⟨fun h => ⟨cs, .inl rfl, h⟩, ?_⟩
    rintro ⟨digits, rfl | he, h⟩
    · exact h
    · exact absurd he (hs digits)

theorem isBlank_of_isDigit {c : Char} (h : c.isDigit = true) : isBlank c = false := by
  have hc : 48 ≤ c.toNat ∧ c.toNat ≤ 57 := by
    simpa [Char.isDigit, UInt32.le_iff_toNat_le] using h
  simp only [isBlank, Bool.or_eq_false_iff, Bool.and_eq_false_iff, beq_eq_false_iff_ne,
    decide_eq_false_iff_not]
  omega

theorem toList_toString (n : Nat) : (toString n).toList = Nat.toDigits 10 n := by
  rw [Nat.toString_eq_repr, Nat.repr_eq_ofList_toDigits, String.toList_ofList]

theorem isDigit_of_mem_toString {n : Nat} {c : Char} (h : c ∈ (toString n).toList) :
    c.isDigit = true :=
  Nat.isDigit_of_mem_toDigits (by decide) (by decide) (toList_toString n ▸ h)

theorem notMem_toString {c : Char} (h : c.isDigit = false) (n : Nat) : c ∉ (toString n).toList :=
  fun hm => by simp [isDigit_of_mem_toString hm] at h

/-- A number that was written is read back. -/
theorem readNat?_toString {bound n : Nat} (h : n ≤ bound) :
    readNat? bound (toString n).toList = some n := by
  refine readNat?_eq_some_iff.2 ⟨_, .inl rfl, ?_, fun c => isDigit_of_mem_toString, ?_, h⟩
  · rw [toList_toString]
    exact Nat.toDigits_ne_nil
  · rw [toList_toString, Nat.ofDigitChars_ten_toDigits]

end SessionPool.Text
