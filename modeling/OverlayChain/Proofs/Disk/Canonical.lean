import OverlayChain.Proofs.Disk.Plain
import OverlayChain.Proofs.Memory.History

/-!
# Answers that are located as themselves

The directory of an answer is located as itself, and in memory so is the whole answer to a text. On a
disk the name in it may be a link after all: if the path was not found at the limits of the system, or
if the name is not the one of the entry but only shows it. Asked for in its directory the link is
found, and what it leads to is another answer.

## Main definitions

- `Sight`: what a state of a file system shows.
- `Sight.Confirms`: a directory that is located as itself.
- `Sight.Canonical`: an answer that is located as itself.
- `Disk.KeepsName`: a place that strays nowhere but to an entry that is shown by the same name.

## Main statements

- `Memory.Built.canonical_of_text`: in memory all answers to texts are located as themselves.
- `Disk.Answers.canonical_iff`: on a disk those are whose place keeps its name.
- `Disk.Strays.limit_of_texts`: where all names are texts, places stray only at the limits.
- `locate_canonical`: locating once is locating twice, in memory and on a disk.
-/

namespace OverlayChain

/-- What a state of a file system shows: where paths are located, which places are directories, and
which paths lead to a directory. -/
structure Sight where
  locate : Path → Except Error Located
  isDirectory : Location → Bool
  leads : Path → Bool

namespace Sight

variable {sight : Sight} {place : Location}

/-- A directory by its own path. The path is absolute and in its shortest spelling, only directories
are on it and so no link, and it is located as itself. -/
structure Confirms (sight : Sight) (dir : Directory) : Prop where
  absolute : dir.path.isAbsolute = true
  clean : dir.path.clean = dir.path
  plain : ∃ place : Location, dir.path = place.path ∧
    ∀ above : Location, above <+: place → sight.isDirectory above = true
  leads : sight.leads dir.path = true
  located : sight.locate dir.path = .ok ⟨dir, none⟩

/-- An answer that is located as itself: a confirmed directory, or a name in one that leads to no
directory. -/
structure Canonical (sight : Sight) (found : Located) : Prop where
  dir : sight.Confirms found.dir
  name : ∀ text : String, found.file = some text → IsName (Text.encode text)
  noDirectory : ∀ text : String, found.file = some text → sight.leads (found.dir.join ⟨text⟩) = false
  located : ∀ text : String, found.file = some text → sight.locate (found.dir.join ⟨text⟩) = .ok found

theorem Confirms.of_place (hplain : ∀ above : Location, above <+: place →
    sight.isDirectory above = true) (hleads : sight.leads place.path = true)
    (hlocate : sight.locate place.path = .ok ⟨⟨place.path⟩, none⟩) :
    sight.Confirms ⟨place.path⟩ := by
  have habs : place.path.isAbsolute = true := Location.isAbsolute_path place
  refine ⟨habs, ?_, ⟨place, rfl, hplain⟩, hleads, hlocate⟩
  rw [Path.clean_of_isAbsolute habs, Location.walk_path]

theorem Confirms.canonical {dir : Directory} (h : sight.Confirms dir) :
    sight.Canonical ⟨dir, none⟩ :=
  ⟨h, by simp, by simp, by simp⟩

/-- A name in a confirmed directory is located as itself if that holds of the path of its place. -/
theorem Confirms.canonical_name_iff {dir : Location} (h : sight.Confirms ⟨dir.path⟩) (name : Name) :
    sight.Canonical ⟨⟨dir.path⟩, some name.text⟩ ↔
      sight.leads (dir ++ [name.shown]).path = false ∧
        sight.locate (dir ++ [name.shown]).path = .ok ⟨⟨dir.path⟩, some name.text⟩ := by
  have hjoin : Directory.join ⟨dir.path⟩ ⟨name.text⟩ = (dir ++ [name.shown]).path := by
    rw [Directory.join_path, Location.walk_text]
  constructor
  · rintro ⟨-, -, hno, hlocate⟩
    rw [← hjoin]
    exact ⟨hno name.text rfl, hlocate name.text rfl⟩
  · rintro ⟨hno, hlocate⟩
    rw [← hjoin] at hno hlocate
    refine ⟨h, ?_, ?_, ?_⟩
    · rintro text ⟨⟩
      exact name.isName_text
    · rintro text ⟨⟩
      exact hno
    · rintro text ⟨⟩
      exact hlocate

end Sight

namespace Memory

variable {m : Memory} {place : Location}

/-- What a store shows. -/
def sight (m : Memory) : Sight := ⟨m.locate, m.isDir, fun path => m.isDir (Memory.place path)⟩

theorem Built.confirms (h : m.Built) (hdir : m.isDir place = true) :
    m.sight.Confirms ⟨place.path⟩ := by
  have hplace : m.isDir (Memory.place place.path) = true := by
    rw [place_path, hdir]
  refine .of_place (fun above habove => h.isDir_prefix hdir habove) hplace ?_
  refine locate_directory_iff.2 ⟨hplace, ?_⟩
  rw [place_path]

/-- The directory of an answer is confirmed. -/
theorem confirms_of_locate (h : m.Built) {path : Path} {found : Located}
    (hlocate : m.locate path = .ok found) : m.sight.Confirms found.dir := by
  rcases locate_eq_ok_iff.1 hlocate with ⟨hdir, rfl⟩ | ⟨above, name, -, -, habove, rfl⟩
  · exact h.confirms hdir
  · exact h.confirms habove

/-- An answer is located as itself exactly if what shows its name leads to no directory. -/
theorem Built.canonical_iff (h : m.Built) {path : Path} {found : Located}
    (hlocate : m.locate path = .ok found) :
    m.sight.Canonical found ↔
      ∀ text : String, found.file = some text → m.sight.leads (found.dir.join ⟨text⟩) = false := by
  rcases locate_eq_ok_iff.1 hlocate with ⟨hdir, rfl⟩ | ⟨above, name, -, -, habove, rfl⟩
  · exact iff_of_true (h.confirms hdir).canonical (by simp)
  · refine ⟨Sight.Canonical.noDirectory, fun hno => ?_⟩
    have hplace : Memory.place (above ++ [name.shown]).path = above ++ [name.shown] := place_path _
    have hleads : m.sight.leads (above ++ [name.shown]).path = false := by
      rw [← Location.walk_text, ← Directory.join_path]
      exact hno name.text rfl
    refine ((h.confirms habove).canonical_name_iff name).2 ⟨hleads, locate_eq_ok_iff.2 (.inr ?_)⟩
    exact ⟨above, name.shown, hplace, hleads, habove, by rw [Name.text_shown]⟩

/-- What a text is answered by is located as itself. -/
theorem Built.canonical_of_text (h : m.Built) {path : Path} (hpath : path.IsText) {found : Located}
    (hlocate : m.locate path = .ok found) : m.sight.Canonical found := by
  refine (h.canonical_iff hlocate).2 fun text htext => ?_
  rcases locate_eq_ok_iff.1 hlocate with ⟨-, rfl⟩ | ⟨above, name, hplace, hno, -, rfl⟩
  · cases htext
  · cases htext
    have hshown := Location.shown_of_walk hpath hplace List.nil_prefix
    rw [Directory.join_path, Location.walk_text, hshown]
    change m.isDir (Memory.place (above ++ [name]).path) = false
    rw [place_path, ← hplace, hno]

end Memory

namespace Disk

variable {disk : Disk} {target place dir file : Location} {name : Name}

/-- What a disk shows. -/
def sight (disk : Disk) : Sight :=
  ⟨disk.locate, disk.isDirectory, fun path => (disk.findDirectory? path).isSome⟩

/-- If a place strays, then to an entry of the same directory that is shown by the same name. The
entry is no directory, and its own path is not too long. -/
def KeepsName (disk : Disk) (target : Location) : Prop :=
  ∀ dir name file, disk.Strays target dir name file → disk.isDirectory file = false ∧
    (∃ own : Name, own.shown = name ∧ file = dir ++ [own]) ∧ file.path.bytes.length ≤ maxPathBytes

theorem Settled.isDirectory_of_prefix (h : disk.Settled place)
    (hdir : disk.isDirectory place = true) {above : Location} (habove : above <+: place) :
    disk.isDirectory above = true := by
  by_cases hlt : above.length < place.length
  · rw [List.prefix_iff_eq_take.1 habove]
    exact h.above _ hlt
  · rw [habove.eq_of_length_le (by omega)]
    exact hdir

theorem nominal_path (disk : Disk) (place : Location) : disk.nominal place.path = .ok place := by
  rw [nominal, if_pos (Location.isAbsolute_path place), Location.walk_path]

/-- A directory that was found is confirmed, unless its path is too long. -/
theorem WellFormed.confirms (h : disk.WellFormed) (hsettled : disk.Settled place)
    (hdir : disk.isDirectory place = true)
    (hfits : place.path.bytes.length ≤ maxPathBytes) : disk.sight.Confirms ⟨place.path⟩ := by
  have hfind := h.find_path hsettled hfits
  refine .of_place (fun above habove => hsettled.isDirectory_of_prefix hdir habove) ?_ ?_
  · exact Option.isSome_iff_exists.2 ⟨place, findDirectory?_eq_some_iff.2 ⟨hfind, hdir⟩⟩
  · exact (locate_of_find (disk.nominal_path place) hfind).2 ⟨hfits, .inl ⟨hdir, rfl⟩⟩

/-- A name that finds an entry is located as itself if the entry is in the same directory, is shown
by the name and is no directory. -/
theorem canonical_of_find_iff (hconfirms : disk.sight.Confirms ⟨dir.path⟩)
    (hfind : disk.find (dir ++ [name.shown]).path = .ok file) :
    disk.sight.Canonical ⟨⟨dir.path⟩, some name.text⟩ ↔
      disk.isDirectory file = false ∧ (∃ own : Name, own.shown = name.shown ∧ file = dir ++ [own]) ∧
        file.path.bytes.length ≤ maxPathBytes := by
  rw [hconfirms.canonical_name_iff name]
  constructor
  · rintro ⟨-, hlocate⟩
    obtain ⟨hfits, ⟨-, hnone⟩ | ⟨hno, above, own, hfile, hfound⟩⟩ :=
      (locate_of_find (disk.nominal_path _) hfind).1 hlocate
    · have htext := congrArg Located.file hnone
      cases htext
    · have hdir : dir = above := by
        have hpath := congrArg (fun found : Located => found.dir.path) hfound
        exact Location.path_injective hpath
      have htext : name.text = own.text := Option.some.inj (congrArg Located.file hfound)
      rw [hdir]
      exact ⟨hno, ⟨own, (Name.text_eq_iff.1 htext).symm, hfile⟩, hfits⟩
  · rintro ⟨hno, ⟨own, hown, rfl⟩, hfits⟩
    constructor
    · change (disk.findDirectory? (dir ++ [name.shown]).path).isSome = false
      rw [Option.isSome_eq_false_iff, Option.isNone_iff_eq_none, Option.eq_none_iff_forall_ne_some]
      intro found hfound
      obtain ⟨hfound, hdir⟩ := findDirectory?_eq_some_iff.1 hfound
      cases hfind.symm.trans hfound
      rw [hno] at hdir
      cases hdir
    · rw [Name.text_eq_iff.2 hown.symm]
      exact (locate_of_find (disk.nominal_path _) hfind).2
        ⟨hfits, .inr ⟨hno, dir, own, rfl, rfl⟩⟩

/-- A name that finds nothing is located as itself. -/
theorem canonical_of_not_find (hconfirms : disk.sight.Confirms ⟨dir.path⟩)
    (hdir : disk.findDirectory? dir.path = some dir)
    (hfits : dir.path.bytes.length ≤ maxPathBytes) {why : OsError}
    (hfind : disk.find (dir ++ [name.shown]).path = .error why) :
    disk.sight.Canonical ⟨⟨dir.path⟩, some name.text⟩ := by
  refine (hconfirms.canonical_name_iff name).2 ⟨?_, ?_⟩
  · change (disk.findDirectory? (dir ++ [name.shown]).path).isSome = false
    rw [findDirectory?, hfind]
    rfl
  · rw [← name.text_shown]
    exact (locate_of_not_find (disk.nominal_path _) hfind).2
      ⟨dir, name.shown, dir, rfl, hdir, hfits, rfl⟩

/-- The directory of an answer was found, and its path is not too long. -/
theorem Answers.dir_found (hanswers : disk.Answers target dir name) (h : disk.WellFormed) :
    disk.Settled dir ∧ disk.isDirectory dir = true ∧ dir.path.bytes.length ≤ maxPathBytes := by
  cases hanswers with
  | entry hfind hno hfits =>
    have hsettled := settled_of_find hfind
    have hdir : disk.isDirectory dir = true := by
      have habove := hsettled.above dir.length (by simp)
      rwa [List.take_left] at habove
    have hdropped := hsettled.dropLast
    rw [List.dropLast_concat] at hdropped
    have hcheck := (find_path_eq_ok_iff.1 (h.find_path hsettled hfits)).1
    exact ⟨hdropped, hdir, (checkPath_eq_ok_iff.1 (checkPath_of_snoc hcheck)).2⟩
  | last above why htarget hfind hdir hfits =>
    obtain ⟨hfound, hisDir⟩ := findDirectory?_eq_some_iff.1 hdir
    exact ⟨settled_of_find hfound, hisDir, hfits⟩

/-- Wherever a place strays, it is under what shows the name of its answer. -/
theorem Answers.of_strays {top : Location} {other : Name} (hanswers : disk.Answers target dir name)
    (h : disk.Strays target top other file) :
    top = dir ∧ other = name.shown ∧ disk.find (dir ++ [name.shown]).path = .ok file := by
  obtain ⟨own, hown, rfl⟩ := h.exists_answers
  obtain ⟨rfl, rfl⟩ := hown.unique hanswers
  exact ⟨rfl, rfl, h.found⟩

/-- The name that a place is answered by is located as itself exactly if the place keeps it. -/
theorem Answers.canonical_iff (hanswers : disk.Answers target dir name) (h : disk.WellFormed) :
    disk.sight.Canonical ⟨⟨dir.path⟩, some name.text⟩ ↔ disk.KeepsName target := by
  obtain ⟨hsettled, hdir, hfits⟩ := hanswers.dir_found h
  have hconfirms := h.confirms hsettled hdir hfits
  cases hfind : disk.find (dir ++ [name.shown]).path with
  | error why =>
    have hself : disk.findDirectory? dir.path = some dir :=
      findDirectory?_eq_some_iff.2 ⟨h.find_path hsettled hfits, hdir⟩
    refine iff_of_true (canonical_of_not_find hconfirms hself hfits hfind) ?_
    intro top other file hstrays
    obtain ⟨-, -, hfound⟩ := hanswers.of_strays hstrays
    cases hfind.symm.trans hfound
  | ok file =>
    rw [canonical_of_find_iff hconfirms hfind]
    constructor
    · intro hshown top other found hstrays
      obtain ⟨rfl, rfl, hfound⟩ := hanswers.of_strays hstrays
      cases hfind.symm.trans hfound
      exact hshown
    · intro hkeeps
      rcases hanswers.resolves_or_strays hfind with ⟨rfl, hresolves⟩ | hstrays
      · cases hanswers with
        | entry _ hno hfits => exact ⟨hno, ⟨name, rfl, rfl⟩, hfits⟩
        | last above why htarget hlost =>
          cases hlost.symm.trans hresolves.found
      · exact hkeeps dir name.shown file hstrays

/-- Where all names are those of texts, a place strays only at the limits of the system. -/
theorem Strays.limit_of_texts (h : disk.Strays target dir name file)
    (hentries : ∀ entry ∈ disk.entries, ∀ name ∈ entry.1, name.shown = name)
    (htarget : ∀ name ∈ target, name.shown = name) :
    disk.find target.path = .error .tooManyLinks ∨
      disk.find target.path = .error .nameTooLong := by
  cases h with
  | limit above htarget hlimit hdir hshown hfile => exact hlimit
  | renamed own hanswers hother hname hfile =>
    cases hanswers with
    | entry hfind hno hfits =>
      obtain ⟨entry, hentry, -⟩ := (settled_of_find hfind).entry
      have hmem := mem_entries (by simp) hentry
      exact absurd (hentries _ hmem own (by simp)) hother
    | last above why hsplit hfind hdir hfits =>
      exact absurd (htarget own (by simp [hsplit])) hother

end Disk

/-- Locating is a projection onto the answers that are located as themselves. In memory, in every
store that was built, the directory of every answer is, and the whole answer for every text; for other
bytes it is exactly if what shows the name leads to no directory. On a disk with links the directory
of every answer is, and the whole answer exactly if the place of the path keeps its name: unless the
path is not found at the limits of the system, or is answered by a name that is no text, and what shows
the name is found in that directory as a link to another place or as a directory. -/
theorem locate_canonical (path : Path) (found : Located) :
    (∀ m : Memory, m.Built → m.locate path = .ok found →
      m.sight.Confirms found.dir ∧ (path.IsText → m.sight.Canonical found) ∧
        (m.sight.Canonical found ↔ ∀ text : String, found.file = some text →
          m.sight.leads (found.dir.join ⟨text⟩) = false)) ∧
    (∀ disk : Disk, disk.WellFormed → disk.locate path = .ok found →
      ∃ target, disk.nominal path = .ok target ∧ disk.sight.Confirms found.dir ∧
        (disk.sight.Canonical found ↔ found.file = none ∨ disk.KeepsName target)) := by
  constructor
  · intro m hbuilt hlocate
    exact ⟨Memory.confirms_of_locate hbuilt hlocate,
      fun hpath => hbuilt.canonical_of_text hpath hlocate, hbuilt.canonical_iff hlocate⟩
  · intro disk hwf hlocate
    obtain ⟨target, hnominal, ⟨place, hfind, hdir, hfits, rfl⟩ | ⟨dir, name, hanswers, rfl⟩⟩ :=
      Disk.locate_eq_ok_iff.1 hlocate
    · have hconfirms := hwf.confirms (Disk.settled_of_find hfind) hdir hfits
      exact ⟨target, hnominal, hconfirms, iff_of_true hconfirms.canonical (.inl rfl)⟩
    · obtain ⟨hsettled, hdir, hfits⟩ := hanswers.dir_found hwf
      refine ⟨target, hnominal, hwf.confirms hsettled hdir hfits, ?_⟩
      rw [hanswers.canonical_iff hwf]
      simp

namespace Disk.Sample

/-- A disk with links that lead back to its root, and a link to a directory. -/
def winding : Disk where
  entries := [(Memory.place ⟨"/l"⟩, .link "."), (Memory.place ⟨"/m"⟩, .link "l/l/l/l/l/l/l/l/l"),
    (Memory.place ⟨"/s"⟩, .link "shelf"), (Memory.place ⟨"/shelf"⟩, .directory)]
  workDir := some []

theorem winding_wellFormed : winding.WellFormed := ⟨by decide +kernel, by decide +kernel⟩

/-- A directory behind links is confirmed by its own path, and so is a name in memory. -/
theorem winding_confirms :
    (Memory.empty.after [.addDirectory ⟨"/a"⟩]).Built ∧
      (Memory.empty.after [.addDirectory ⟨"/a"⟩]).locate ⟨"/a/./b"⟩ = .ok ⟨⟨⟨"/a"⟩⟩, some "b"⟩ ∧
      (Memory.empty.after [.addDirectory ⟨"/a"⟩]).locate ⟨"/a/b"⟩ = .ok ⟨⟨⟨"/a"⟩⟩, some "b"⟩ ∧
      winding.WellFormed ∧ winding.locate ⟨"/m/s"⟩ = .ok ⟨⟨⟨"/shelf"⟩⟩, none⟩ ∧
      winding.sight.Confirms ⟨⟨"/shelf"⟩⟩ := by
  have hbuilt : (Memory.empty.after [.addDirectory ⟨"/a"⟩]).Built := Memory.Built.empty.after _
  have hname : (Memory.empty.after [.addDirectory ⟨"/a"⟩]).locate ⟨"/a/./b"⟩ =
      .ok ⟨⟨⟨"/a"⟩⟩, some "b"⟩ := rfl
  have hlocate : winding.locate ⟨"/m/s"⟩ = .ok ⟨⟨⟨"/shelf"⟩⟩, none⟩ := rfl
  have hcanonical := ((locate_canonical _ _).1 _ hbuilt hname).2.1 (by decide)
  obtain ⟨-, -, hconfirms, -⟩ := (locate_canonical _ _).2 winding winding_wellFormed hlocate
  exact ⟨hbuilt, hname, hcanonical.located "b" rfl, winding_wellFormed, hlocate, hconfirms⟩

/-- A path over too many links is answered by a name that is located as another directory. -/
theorem winding_not_canonical :
    winding.WellFormed ∧ winding.locate ⟨"/m/m/m/m/s"⟩ = .ok ⟨⟨⟨"/"⟩⟩, some "s"⟩ ∧
      winding.locate ⟨"/s"⟩ = .ok ⟨⟨⟨"/shelf"⟩⟩, none⟩ ∧
      ¬ winding.sight.Canonical ⟨⟨⟨"/"⟩⟩, some "s"⟩ := by
  have hs : winding.locate ⟨"/s"⟩ = .ok ⟨⟨⟨"/shelf"⟩⟩, none⟩ := rfl
  refine ⟨winding_wellFormed, rfl, hs, fun h => ?_⟩
  have hself : winding.locate ⟨"/s"⟩ = .ok ⟨⟨⟨"/"⟩⟩, some "s"⟩ := h.located "s" rfl
  have hfile := congrArg Located.file (Except.ok.inj (hs.symm.trans hself))
  cases hfile

end Disk.Sample

end OverlayChain
