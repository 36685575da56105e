import Mathlib.Data.List.Induction
import OverlayChain.Proofs.Path.Location
import OverlayChain.Proofs.Text.Utf8

/-!
# Names and paths that are texts

What shows a name spells a name again. It is the same name exactly if the bytes of the name are those
of a text, and a path that is a text has no other names. So a name that such a path adds below some
place is reported as itself, whatever the names above it are.

## Main definitions

- `Name.shown`: the name that is spelled by what shows a name.
- `Path.IsText`: a path whose bytes are those of a text.

## Main statements

- `Path.parts_text`: what stands between the separators of a text.
- `Location.walk_text`: where what shows a name leads.
- `Location.shown_of_walk`: a text adds only names that are shown as themselves.
-/

namespace OverlayChain

variable {name : Name} {p : Path} {place : Location}

namespace Name

/-- What shows a name can be the name of an entry. -/
theorem isName_text (name : Name) : IsName (Text.encode name.text) := by
  -- None of the texts that are no names can show other bytes than their own.
  have hne : ∀ text : String, Text.replacement ∉ text.toList → name.bytes ≠ Text.encode text →
      Text.encode name.text ≠ Text.encode text := fun text hno hbytes hsame =>
    hbytes (Text.eq_encode_of_decode (Text.encode_injective hsame) hno)
  obtain ⟨hempty, hdot, hup, hslash⟩ := name.valid
  refine ⟨hne "" (by decide) hempty, hne "." (by decide) hdot, hne ".." (by decide) hup, ?_⟩
  exact fun hmem => hslash (Text.mem_of_mem_encode_decode (by decide) hmem)

/-- The name that is spelled by what shows a name. -/
def shown (name : Name) : Name := ⟨Text.encode name.text, name.isName_text⟩

@[simp] theorem bytes_shown (name : Name) : name.shown.bytes = Text.encode name.text := rfl

@[simp] theorem text_shown (name : Name) : name.shown.text = name.text := by
  rw [text, bytes_shown, Text.decode_encode]

theorem text_eq_iff {other : Name} : name.text = other.text ↔ name.shown = other.shown := by
  constructor
  · intro h
    apply Name.ext
    rw [bytes_shown, h, bytes_shown]
  · intro h
    rw [← text_shown, h, text_shown]

@[simp] theorem shown_shown (name : Name) : name.shown.shown = name.shown :=
  text_eq_iff.1 name.text_shown

/-- The bytes of characters are shown as themselves. -/
theorem shown_of_bytes {cs : List Char} (h : name.bytes = Text.bytes cs) : name.shown = name := by
  have hbytes : name.bytes = Text.encode (String.ofList cs) := by
    rw [h, Text.encode, String.toList_ofList]
  have htext : name.text = String.ofList cs := by
    rw [text, hbytes, Text.decode_encode]
  refine Name.ext ?_
  rw [bytes_shown, htext, hbytes]

end Name

namespace Path

/-- The bytes of the path are those of a text. -/
def IsText (p : Path) : Prop := Text.encode p.text = p.bytes

instance (p : Path) : Decidable p.IsText := inferInstanceAs (Decidable (_ = _))

@[simp] theorem isText_mk (text : String) : IsText ⟨text⟩ :=
  congrArg Text.encode (Text.decode_encode text)

/-- What stands between the separators of a text. -/
theorem parts_text (text : String) : parts ⟨text⟩ = (text.toList.splitOn '/').map Text.bytes :=
  Text.splitOn_bytes (d := '/') (by decide) text.toList

theorem isAbsolute_text_iff {text : String} :
    isAbsolute ⟨text⟩ = true ↔ text.toList.head? = some '/' := by
  have hslash : '/'.toNat < 128 := by decide
  rw [isAbsolute, beq_iff_eq, List.head?_eq_getElem?]
  exact Text.getElem?_bytes_eq_some_iff hslash

theorem eq_of_ofPart? {part : List UInt8} (h : Component.ofPart? part = some (.named name)) :
    part = name.bytes := by
  rw [Component.ofPart?] at h
  split at h
  · cases h
  · rw [Name.ofBytes?] at h
    split at h
    · cases h
      rfl
    · cases h

theorem mem_steps_of_mem_components (h : .named name ∈ p.components) : .named name ∈ p.steps := by
  by_cases habs : p.isAbsolute = true
  · simpa [components_of_isAbsolute habs] using h
  · rcases components_of_not_isAbsolute (by simpa using habs) with hc | hc
    · rwa [hc] at h
    · simpa [hc] using h

/-- The names in a text are shown as themselves. -/
theorem IsText.shown (h : p.IsText) (hname : .named name ∈ p.components) : name.shown = name := by
  obtain ⟨part, hpart, hread⟩ := List.mem_filterMap.1 (mem_steps_of_mem_components hname)
  have hparts : p.parts = parts ⟨p.text⟩ := by
    rw [parts, ← h, parts]
  rw [hparts, parts_text] at hpart
  obtain ⟨cs, -, hcs⟩ := List.mem_map.1 hpart
  have hbytes : name.bytes = Text.bytes cs := by
    rw [hcs, eq_of_ofPart? hread]
  exact Name.shown_of_bytes hbytes

end Path

namespace Location

/-- What shows a name leads to the name that it spells. -/
theorem walk_text (place : Location) (name : Name) :
    walk place ⟨name.text⟩ = place ++ [name.shown] := walk_name place name.shown

/-- Steps keep some of the names above, and all other names are their own. -/
theorem exists_kept (steps : List Component) (place : Location) :
    ∃ kept names : Location, steps.foldl step place = kept ++ names ∧ kept <+: place ∧
      ∀ name ∈ names, .named name ∈ steps := by
  induction steps using List.reverseRecOn with
  | nil => exact ⟨place, [], by simp, List.prefix_refl place, by simp⟩
  | append_singleton steps last ih =>
    obtain ⟨kept, names, hfold, hkept, hnames⟩ := ih
    have hold : ∀ name ∈ names, .named name ∈ steps ++ [last] := fun name hname =>
      List.mem_append_left [last] (hnames name hname)
    rw [List.foldl_append, hfold, List.foldl_cons, List.foldl_nil]
    cases last with
    | root => exact ⟨[], [], rfl, List.nil_prefix, by simp⟩
    | here => exact ⟨kept, names, rfl, hkept, hold⟩
    | named name =>
      refine ⟨kept, names ++ [name], List.append_assoc kept names [name], hkept, ?_⟩
      intro other hother
      rcases List.mem_append.1 hother with hother | hother
      · exact hold other hother
      · rw [List.mem_singleton.1 hother]
        simp
    | up =>
      rw [step]
      by_cases hnil : names = []
      · refine ⟨kept.dropLast, [], by simp [hnil], ?_, by simp⟩
        exact (List.dropLast_prefix kept).trans hkept
      · refine ⟨kept, names.dropLast, List.dropLast_append_of_ne_nil hnil, hkept, ?_⟩
        exact fun name hname => hold name (List.dropLast_subset _  hname)

/-- A name that a text adds below a place is shown as itself. -/
theorem shown_of_walk {root dir : Location} (hp : p.IsText) (h : root.walk p = dir ++ [name])
    (hroot : root <+: dir) : name.shown = name := by
  obtain ⟨kept, names, hwalk, hkept, hnames⟩ := exists_kept p.components root
  have hsplit : dir ++ [name] = kept ++ names := by
    rw [← h, walk, hwalk]
  -- No more is kept than the root, so the last name is one that the path has.
  have hshort : kept.length ≤ dir.length := Nat.le_trans hkept.length_le hroot.length_le
  have hlength := congrArg List.length hsplit
  rw [List.length_append, List.length_append, List.length_singleton] at hlength
  have hne : names ≠ [] := by
    rintro rfl
    rw [List.length_nil] at hlength
    omega
  have hlast : names.getLast? = some name := by
    rw [← List.getLast?_append_of_ne_nil kept hne, ← hsplit, List.getLast?_concat]
  exact hp.shown (hnames name (List.mem_of_getLast? hlast))

end Location

end OverlayChain
