import OverlayChain.Proofs.Text.Bytes
import OverlayChain.Proofs.Text.Pattern
import OverlayChain.Validator

/-!
# The grammar of labels

The strict validator matches patterns. What they cover is said here without them: how long a text
is, which characters it has, and which of them stand at its ends. A text that is covered is ASCII, so
it has as many bytes as characters.

## Main definitions

- `Validator.Edged`: one to 63 characters of a class, with a narrower class at both ends.
- `Validator.IsNamespace`, `Validator.IsLabel`: what is a namespace, and what is a label.
- `Validator.IsLabelKey`: a key whose name is a label.

## Main statements

- `Validator.edged_iff`: one edge, or two of them and what stands between.
- `Validator.namespacePattern_iff`, `Validator.isLabel_iff`: what the patterns cover.
- `Validator.dns1123_accepts_iff`: what the strict validator accepts.
-/

namespace OverlayChain.Validator

section Edges

variable {edge inner edge' inner' : Char → Prop} {cs : List Char}

/-- One to 63 characters of a class, those at both ends of a class of their own. -/
structure Edged (edge inner : Char → Prop) (cs : List Char) : Prop where
  length_pos : 1 ≤ cs.length
  length_le : cs.length ≤ 63
  inner : ∀ c ∈ cs, inner c
  head : ∀ c, cs.head? = some c → edge c
  last : ∀ c, cs.getLast? = some c → edge c

/-- Only the edges among the inner characters count. -/
theorem Edged.congr (hinner : ∀ c, inner c ↔ inner' c) (hedge : ∀ c, inner c → (edge c ↔ edge' c)) :
    Edged edge inner cs ↔ Edged edge' inner' cs := by
  constructor
  · intro h
    refine ⟨h.length_pos, h.length_le, fun c hc => (hinner c).1 (h.inner c hc), fun c hc => ?_,
      fun c hc => ?_⟩
    · exact (hedge c (h.inner c (List.mem_of_mem_head? hc))).1 (h.head c hc)
    · exact (hedge c (h.inner c (List.mem_of_getLast? hc))).1 (h.last c hc)
  · intro h
    have hback : ∀ c ∈ cs, inner c := fun c hc => (hinner c).2 (h.inner c hc)
    refine ⟨h.length_pos, h.length_le, hback, fun c hc => ?_, fun c hc => ?_⟩
    · exact (hedge c (hback c (List.mem_of_mem_head? hc))).2 (h.head c hc)
    · exact (hedge c (hback c (List.mem_of_getLast? hc))).2 (h.last c hc)

/-- One edge, or two edges with at most 61 characters between them. -/
theorem edged_iff (hedge : ∀ c, edge c → inner c) :
    Edged edge inner cs ↔ (∃ c, edge c ∧ cs = [c]) ∨
      ∃ first middle last, edge first ∧ middle.length ≤ 61 ∧ (∀ c ∈ middle, inner c) ∧ edge last ∧
        cs = first :: (middle ++ [last]) := by
  constructor
  · intro h
    cases cs with
    | nil =>
      have hpos := h.length_pos
      simp at hpos
    | cons first rest =>
      have hfirst := h.head first rfl
      rcases List.eq_nil_or_concat rest with rfl | ⟨middle, last, rfl⟩
      · exact .inl ⟨first, hfirst, rfl⟩
      · rw [List.concat_eq_append] at h ⊢
        have hle := h.length_le
        have hlast : edge last := h.last last (by simp [List.getLast?_cons])
        refine .inr ⟨first, middle, last, hfirst, ?_, fun c hc => h.inner c ?_, hlast, rfl⟩
        · simp at hle
          omega
        · simp [hc]
  · rintro (⟨c, hc, rfl⟩ | ⟨first, middle, last, hfirst, hle, hmiddle, hlast, rfl⟩)
    · refine ⟨by simp, by simp, ?_, ?_, ?_⟩
      · simpa using hedge c hc
      · simpa using hc
      · simpa using hc
    · refine ⟨by simp, ?_, ?_, ?_, ?_⟩
      · simp
        omega
      · intro c hc
        simp only [List.mem_cons, List.mem_append, List.not_mem_nil, or_false] at hc
        rcases hc with rfl | hc | rfl
        · exact hedge c hfirst
        · exact hmiddle c hc
        · exact hedge c hlast
      · simpa using hfirst
      · simpa [List.getLast?_cons] using hlast

end Edges

section Patterns

open Text Pattern

variable {edge inner : Char → Bool} {cs : List Char}

/-- An edge, and behind it perhaps more that ends with an edge. -/
theorem mem_edge_first_iff (hedge : ∀ c, edge c = true → inner c = true) :
    cs ∈ (andThen (one edge) (optional (andThen (atMost 61 (one inner)) (one edge)))).language ↔
      Edged (edge · = true) (inner · = true) cs := by
  rw [edged_iff hedge]
  simp only [mem_andThen_iff, mem_optional_iff, mem_one_iff, mem_atMost_one_iff]
  constructor
  · rintro ⟨_, ⟨first, hfirst, rfl⟩, _, rfl | ⟨middle, ⟨hle, hall⟩, _, ⟨last, hlast, rfl⟩, rfl⟩, rfl⟩
    · exact .inl ⟨first, hfirst, rfl⟩
    · exact .inr ⟨first, middle, last, hfirst, hle, hall, hlast, rfl⟩
  · rintro (⟨c, hc, rfl⟩ | ⟨first, middle, last, hfirst, hle, hall, hlast, rfl⟩)
    · exact ⟨[c], ⟨c, hc, rfl⟩, [], .inl rfl, rfl⟩
    · exact ⟨[first], ⟨first, hfirst, rfl⟩, middle ++ [last],
        .inr ⟨middle, ⟨hle, hall⟩, [last], ⟨last, hlast, rfl⟩, rfl⟩, rfl⟩

/-- An edge, and before it perhaps more that begins with an edge. -/
theorem mem_edge_last_iff (hedge : ∀ c, edge c = true → inner c = true) :
    cs ∈ (andThen (optional (andThen (one edge) (atMost 61 (one inner)))) (one edge)).language ↔
      Edged (edge · = true) (inner · = true) cs := by
  rw [edged_iff hedge]
  simp only [mem_andThen_iff, mem_optional_iff, mem_one_iff, mem_atMost_one_iff]
  constructor
  · rintro ⟨_, rfl | ⟨_, ⟨first, hfirst, rfl⟩, middle, ⟨hle, hall⟩, rfl⟩, _, ⟨last, hlast, rfl⟩, rfl⟩
    · exact .inl ⟨last, hlast, rfl⟩
    · exact .inr ⟨first, middle, last, hfirst, hle, hall, hlast, by simp⟩
  · rintro (⟨c, hc, rfl⟩ | ⟨first, middle, last, hfirst, hle, hall, hlast, rfl⟩)
    · exact ⟨[], .inl rfl, [c], ⟨c, hc, rfl⟩, rfl⟩
    · exact ⟨first :: middle, .inr ⟨[first], ⟨first, hfirst, rfl⟩, middle, ⟨hle, hall⟩, rfl⟩,
        [last], ⟨last, hlast, rfl⟩, by simp⟩

end Patterns

section Grammar

variable {c : Char} {cs : List Char}

/-- An ASCII letter of either case or a digit. -/
def IsAlphanumeric (c : Char) : Prop :=
  ('A' ≤ c ∧ c ≤ 'Z') ∨ ('a' ≤ c ∧ c ≤ 'z') ∨ ('0' ≤ c ∧ c ≤ '9')

/-- A namespace has one to 63 lower-case letters, digits and hyphens, and no hyphen at its ends. -/
def IsNamespace (cs : List Char) : Prop :=
  Edged (· ≠ '-') (fun c => ('a' ≤ c ∧ c ≤ 'z') ∨ ('0' ≤ c ∧ c ≤ '9') ∨ c = '-') cs

/-- A label has one to 63 letters, digits, hyphens, underscores and dots, and a letter or a digit at
both ends. -/
def IsLabel (cs : List Char) : Prop :=
  Edged IsAlphanumeric (fun c => IsAlphanumeric c ∨ c = '-' ∨ c = '_' ∨ c = '.') cs

/-- The part of a key behind its last slash, or the whole key if it has none, is a label. -/
def IsLabelKey (key : List Char) : Prop :=
  ∃ front name, key = front ++ name ∧ (front = [] ∨ front.getLast? = some '/') ∧ '/' ∉ name ∧
    IsLabel name

/-- The texts that the pattern of namespaces covers. -/
theorem namespacePattern_iff : namespacePattern.covers cs = true ↔ IsNamespace cs := by
  have hedge : ∀ c, isNamespaceEdge c = true → isNamespaceInner c = true := by
    intro c hc
    simp [isNamespaceInner, hc]
  rw [Text.Pattern.covers_iff, namespacePattern, mem_edge_first_iff hedge]
  apply Edged.congr
  · intro c
    simp [isNamespaceInner, isNamespaceEdge, Text.isLowerLetter, Text.isDigit, or_assoc]
  · intro c hc
    constructor
    · rintro hedge rfl
      exact absurd hedge (by decide)
    · intro hne
      simpa [isNamespaceInner, hne] using hc

instance : DecidablePred IsNamespace := fun _ => decidable_of_iff _ namespacePattern_iff

theorem isLabelEdge_iff : isLabelEdge c = true ↔ IsAlphanumeric c := by
  simp only [isLabelEdge, Text.isLetter, Text.isLowerLetter, Text.isDigit, Bool.or_eq_true,
    Bool.and_eq_true, decide_eq_true_eq, IsAlphanumeric]
  tauto

/-- The texts that the pattern of labels covers. -/
theorem labelPattern_iff : labelPattern.covers cs = true ↔ cs = [] ∨ IsLabel cs := by
  have hedge : ∀ c, isLabelEdge c = true → isLabelInner c = true := by
    intro c hc
    simp [isLabelInner, hc]
  rw [Text.Pattern.covers_iff, labelPattern, Text.Pattern.mem_optional_iff, mem_edge_last_iff hedge]
  apply or_congr Iff.rfl
  apply Edged.congr
  · intro c
    simp [isLabelInner, isLabelEdge_iff, or_assoc]
  · intro c hc
    exact isLabelEdge_iff

theorem IsLabel.ascii (h : IsLabel cs) : ∀ c ∈ cs, c.toNat < 128 := by
  intro c hc
  have hinner := h.inner c hc
  simp only [IsAlphanumeric, Char.le_def, UInt32.le_iff_toNat_le] at hinner
  rcases hinner with (⟨-, hz⟩ | ⟨-, hz⟩ | ⟨-, hz⟩) | rfl | rfl | rfl
  · exact Nat.lt_of_le_of_lt hz (by decide)
  · exact Nat.lt_of_le_of_lt hz (by decide)
  · exact Nat.lt_of_le_of_lt hz (by decide)
  · decide
  · decide
  · decide

/-- The size adds nothing to the pattern, as a label has as many bytes as characters. -/
theorem isLabel_iff {text : String} : isLabel text = true ↔ text = "" ∨ IsLabel text.toList := by
  rw [isLabel, Bool.and_eq_true, decide_eq_true_eq, labelPattern_iff, String.toList_eq_nil_iff]
  constructor
  · exact And.right
  · rintro (rfl | h)
    · exact ⟨by decide, .inl rfl⟩
    · refine ⟨?_, .inr h⟩
      rw [Text.utf8ByteSize_of_ascii h.ascii]
      exact h.length_le

theorem isLabelKey_iff {key : List Char} : IsLabelKey key ↔ IsLabel (Text.afterLast '/' key) := by
  constructor
  · rintro ⟨front, name, rfl, hfront, hslash, h⟩
    rwa [Text.afterLast_append hslash hfront]
  · intro h
    obtain ⟨front, hkey, hfront, hslash⟩ := Text.exists_eq_append_afterLast '/' key
    exact ⟨front, _, hkey, hfront, hslash, h⟩

/-- The name of a key is checked as a label that is not empty. -/
theorem isLabel_name_iff {name : List Char} :
    ((String.ofList name).isEmpty || !isLabel (String.ofList name)) = false ↔ IsLabel name := by
  rw [Bool.or_eq_false_iff, Bool.not_eq_false', isLabel_iff, String.toList_ofList]
  constructor
  · rintro ⟨hempty, hnone | h⟩
    · simp [hnone] at hempty
    · exact h
  · intro h
    refine ⟨?_, .inr h⟩
    rw [Bool.eq_false_iff]
    intro hempty
    have hpos := h.length_pos
    have hnil : name = [] := by simpa using hempty
    simp [hnil] at hpos

instance : DecidablePred IsLabel := fun _ => decidable_of_iff _ isLabel_name_iff

instance : DecidablePred IsLabelKey := fun _ => decidable_of_iff _ isLabelKey_iff.symm

/-- The name of a key is looked at first, whatever the value. -/
theorem checkLabel_of_not_isLabelKey {key : String} (h : ¬ IsLabelKey key.toList) (value : String) :
    dns1123.checkLabel key value =
      .error (.invalidValue "label key" key "invalid label name") := by
  rw [isLabelKey_iff, ← isLabel_name_iff, Bool.not_eq_false] at h
  simp only [dns1123]
  rw [if_pos h]

theorem checkLabel_of_isLabelKey {key : String} (h : IsLabelKey key.toList) (value : String) :
    dns1123.checkLabel key value =
      if isLabel value then .ok ()
      else .error (.invalidValue "label value" value "invalid label value") := by
  rw [isLabelKey_iff, ← isLabel_name_iff] at h
  simp only [dns1123]
  rw [if_neg (by simp only [h, Bool.false_eq_true, not_false_eq_true])]
  cases isLabel value <;> rfl

end Grammar

/-- The strict validator accepts the namespaces, and the labels whose key ends with a label and whose
value is empty or a label. What it says about a label is about its key, if that is wrong, and only
otherwise about its value. -/
theorem dns1123_accepts_iff (name key value : String) :
    (dns1123.checkNamespace name = .ok () ↔ IsNamespace name.toList) ∧
      (dns1123.checkLabel key value = .ok () ↔
        IsLabelKey key.toList ∧ (value = "" ∨ IsLabel value.toList)) ∧
      (¬ IsLabelKey key.toList →
        dns1123.checkLabel key value = .error (.invalidValue "label key" key "invalid label name")) ∧
      (IsLabelKey key.toList → ¬ (value = "" ∨ IsLabel value.toList) →
        dns1123.checkLabel key value =
          .error (.invalidValue "label value" value "invalid label value")) := by
  refine ⟨?_, ?_, fun hkey => checkLabel_of_not_isLabelKey hkey value, fun hkey hvalue => ?_⟩
  · rw [← namespacePattern_iff]
    simp only [dns1123]
    cases namespacePattern.covers name.toList <;> simp
  · by_cases hkey : IsLabelKey key.toList
    · rw [checkLabel_of_isLabelKey hkey, ← isLabel_iff]
      cases isLabel value <;> simp [hkey]
    · simp [checkLabel_of_not_isLabelKey hkey, hkey]
  · rw [← isLabel_iff] at hvalue
    rw [checkLabel_of_isLabelKey hkey, if_neg hvalue]

/-- A namespace of 63 characters, a key with several slashes, a key without a name before a value that
is wrong too, and a value of 64 characters behind a key that is right. -/
theorem Sample.labels_checked :
    dns1123.checkNamespace (String.ofList (List.replicate 63 'a')) = .ok () ∧
      dns1123.checkLabel "a/b/Tier_1" "" = .ok () ∧
      ¬ IsLabelKey "example.com/".toList ∧
      dns1123.checkLabel "example.com/" "-bad" =
        .error (.invalidValue "label key" "example.com/" "invalid label name") ∧
      IsLabelKey "tier".toList ∧
      dns1123.checkLabel "tier" (String.ofList (List.replicate 64 'a')) =
        .error (.invalidValue "label value" (String.ofList (List.replicate 64 'a'))
          "invalid label value") := by
  obtain ⟨hlong, -⟩ := dns1123_accepts_iff (String.ofList (List.replicate 63 'a')) "" ""
  obtain ⟨-, hslashes, -⟩ := dns1123_accepts_iff "" "a/b/Tier_1" ""
  obtain ⟨-, -, hnameless, -⟩ := dns1123_accepts_iff "" "example.com/" "-bad"
  obtain ⟨-, -, -, hwrong⟩ := dns1123_accepts_iff "" "tier" (String.ofList (List.replicate 64 'a'))
  have hnamespace : IsNamespace (String.ofList (List.replicate 63 'a')).toList := by decide +kernel
  have hname : IsLabelKey "a/b/Tier_1".toList := by decide +kernel
  have hmissing : ¬ IsLabelKey "example.com/".toList := by decide +kernel
  have hkey : IsLabelKey "tier".toList := by decide +kernel
  refine ⟨hlong.2 hnamespace, hslashes.2 ⟨hname, .inl rfl⟩, hmissing, hnameless hmissing, hkey,
    hwrong hkey ?_⟩
  decide +kernel

end OverlayChain.Validator
