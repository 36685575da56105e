import OverlayChain.Proofs.Disk.Find
import OverlayChain.Proofs.FileSystem
import OverlayChain.Proofs.Path.Text

/-!
# What a disk answers about a path

A path that finds an entry is answered by the entry's own place. A path that finds none is
answered by the directory that its other names lead to, with its last name, which may be a link
that leads elsewhere. Either way the name is reported by the text that shows it. So what is read
under an answer need not be what the path itself finds.

## Main definitions

- `Disk.Resolves`: a place leads to another one, under a path that the system takes.
- `Disk.Answers`: the name in a directory that is answered for a place.
- `Disk.Strays`: a place is answered by a name that leads to another place than the path does.

## Main statements

- `Disk.strays_of_find`: a place that is not found strays only at the limits of the system.
- `Disk.locate_eq_ok_iff`: what a path is answered by.
- `Disk.read_answered_iff`: what is read under such an answer.
-/

namespace OverlayChain

namespace Location

theorem intercalate_snoc (sep last : List UInt8) {parts : List (List UInt8)} (h : parts ≠ []) :
    sep.intercalate (parts ++ [last]) = sep.intercalate parts ++ sep ++ last := by
  induction parts with
  | nil => exact absurd rfl h
  | cons part parts ih =>
    cases parts with
    | nil => simp
    | cons next parts =>
      have hne : next :: parts ≠ [] := by simp
      rw [List.cons_append, List.intercalate_cons_of_ne_nil (by simp), ih hne,
        List.intercalate_cons_of_ne_nil hne]
      simp only [List.append_assoc]

theorem bytes_snoc (place : Location) (name : Name) :
    (place ++ [name]).path.bytes =
      (if place = [] then [] else place.path.bytes) ++ slash :: name.bytes := by
  by_cases hnil : place = []
  · simp [hnil, path]
  · have hmap : place.map Name.bytes ≠ [] := by simpa using hnil
    rw [if_neg hnil, path, path, List.map_append, List.map_singleton, intercalate_snoc _ _ hmap]
    simp

end Location

namespace Disk

variable {disk : Disk} {target dir file : Location} {name : Name}

theorem checkPath_eq_ok_iff {place : Location} :
    checkPath place.path = .ok () ↔
      0 ∉ place.path.bytes ∧ place.path.bytes.length ≤ maxPathBytes := by
  have hne : place.path.bytes.isEmpty = false := rfl
  rw [checkPath, hne]
  by_cases hnul : 0 ∈ place.path.bytes
  · simp [hnul]
  · by_cases hlong : maxPathBytes < place.path.bytes.length
    · simp [hnul, hlong]
    · simp [hnul, hlong, Nat.le_of_not_lt hlong]

theorem nul_mem_snoc {place : Location} {name : Name} :
    0 ∈ (place ++ [name]).path.bytes ↔ 0 ∈ place.path.bytes ∨ 0 ∈ name.bytes := by
  have hslash : (0 : UInt8) ≠ slash := by decide
  rw [Location.bytes_snoc, List.mem_append, List.mem_cons, or_iff_right hslash]
  by_cases hnil : place = []
  · have hroot : 0 ∉ (Location.path []).bytes := by decide
    simp [hnil, hroot]
  · simp [hnil]

/-- The directory of a place that the system takes is taken as well. -/
theorem checkPath_of_snoc {name : Name} (h : checkPath (dir ++ [name]).path = .ok ()) :
    checkPath dir.path = .ok () := by
  obtain ⟨hnul, hsize⟩ := checkPath_eq_ok_iff.1 h
  refine checkPath_eq_ok_iff.2 ⟨fun hdir => hnul (nul_mem_snoc.2 (.inl hdir)), ?_⟩
  by_cases hnil : dir = []
  · rw [hnil]
    decide
  · rw [Location.bytes_snoc, if_neg hnil, List.length_append] at hsize
    omega

/-- A place in a directory is refused only because its path is too long, if the path of the
directory is taken, and the name in another directory. -/
theorem checkPath_snoc {above : Location} {name : Name} {why : OsError}
    (habove : checkPath above.path = .ok ()) (hname : checkPath (dir ++ [name]).path = .ok ())
    (h : checkPath (above ++ [name]).path = .error why) : why = .nameTooLong := by
  have hnul : 0 ∉ (above ++ [name]).path.bytes := by
    rw [nul_mem_snoc]
    rintro (hmem | hmem)
    · exact (checkPath_eq_ok_iff.1 habove).1 hmem
    · exact (checkPath_eq_ok_iff.1 hname).1 (nul_mem_snoc.2 (.inr hmem))
  by_cases hsize : (above ++ [name]).path.bytes.length ≤ maxPathBytes
  · rw [checkPath_eq_ok_iff.2 ⟨hnul, hsize⟩] at h
    cases h
  · have hne : (above ++ [name]).path.bytes.isEmpty = false := rfl
    rw [checkPath, hne] at h
    simp only [List.contains_iff_mem, hnul, Nat.lt_of_not_le hsize, if_true, Bool.false_eq_true,
      if_false] at h
    cases h
    rfl

/-- A place leads to a file that is shown by its own name, and that the system also takes under its
own path. -/
structure Resolves (disk : Disk) (target file : Location) : Prop where
  found : disk.find target.path = .ok file
  named : disk.find file.path = .ok file
  shown : ∀ name, file.getLast? = some name → name.shown = name

/-- A place without a directory is answered by a name in a directory: the entry to which it leads,
or its own last name where the other names lead. -/
inductive Answers (disk : Disk) (target dir : Location) (name : Name) : Prop
  | entry (hfind : disk.find target.path = .ok (dir ++ [name]))
      (hfile : disk.isDirectory (dir ++ [name]) = false)
      (hfits : (dir ++ [name]).path.bytes.length ≤ maxPathBytes)
  | last (above : Location) (why : OsError) (htarget : target = above ++ [name])
      (hfind : disk.find target.path = .error why)
      (hdir : disk.findDirectory? above.path = some dir)
      (hfits : dir.path.bytes.length ≤ maxPathBytes)

/-- A place is answered by a name in a directory that leads to a file which the place itself does not
lead to. Either the place is not found, since too many links are on the way to it or its path is too
long, although its last name leads to the file from the directory of the names above. Or the name
that is answered has bytes that are not those of a text, and what shows it is another name. -/
inductive Strays (disk : Disk) (target dir : Location) (name : Name) (file : Location) : Prop
  | limit (above : Location) (htarget : target = above ++ [name])
      (hlimit : disk.find target.path = .error .tooManyLinks ∨
        disk.find target.path = .error .nameTooLong)
      (hdir : disk.findDirectory? above.path = some dir) (hshown : name.shown = name)
      (hfile : disk.find (dir ++ [name]).path = .ok file)
  | renamed (own : Name) (hanswers : disk.Answers target dir own) (hother : own.shown ≠ own)
      (hname : name = own.shown) (hfile : disk.find (dir ++ [name]).path = .ok file)

theorem findDirectory?_eq_some_iff {place found : Location} :
    disk.findDirectory? place.path = some found ↔
      disk.find place.path = .ok found ∧ disk.isDirectory found = true := by
  rw [findDirectory?]
  cases disk.find place.path with
  | error why => simp
  | ok place =>
    dsimp only
    split
    · next hdir =>
      constructor
      · intro h
        cases h
        exact ⟨rfl, hdir⟩
      · rintro ⟨h, -⟩
        cases h
        rfl
    · next hdir =>
      constructor
      · intro h
        cases h
      · rintro ⟨h, hfound⟩
        cases h
        exact absurd hfound hdir

/-- A place whose last name leads somewhere, although it is not found itself, strays. -/
theorem strays_of_find {above : Location} {name : Name} {why : OsError}
    (habove : disk.findDirectory? above.path = some dir)
    (htarget : disk.find (above ++ [name]).path = .error why) (hshown : name.shown = name)
    (hfile : disk.find (dir ++ [name]).path = .ok file) :
    disk.Strays (above ++ [name]) dir name file := by
  have hfound := (findDirectory?_eq_some_iff.1 habove).1
  have hlimit : why = .tooManyLinks ∨ why = .nameTooLong := by
    rcases find_snoc hfound htarget hfile with hcheck | ⟨hlinks, -⟩
    · exact .inr (checkPath_snoc (find_path_eq_ok_iff.1 hfound).1
        (find_path_eq_ok_iff.1 hfile).1 hcheck)
    · exact .inl hlinks
  refine .limit above rfl ?_ habove hshown hfile
  rw [htarget]
  rcases hlimit with rfl | rfl
  · exact .inl rfl
  · exact .inr rfl

/-- The name under which a place strays is the one that is found there. -/
theorem Strays.found (h : disk.Strays target dir name file) :
    disk.find (dir ++ [name]).path = .ok file := by
  cases h with
  | limit above htarget hlimit hdir hshown hfile => exact hfile
  | renamed own hanswers hother hname hfile => exact hfile

/-- A place strays under what shows the name by which it is answered. -/
theorem Strays.exists_answers (h : disk.Strays target dir name file) :
    ∃ own, disk.Answers target dir own ∧ name = own.shown := by
  cases h with
  | limit above htarget hlimit hdir hshown hfile =>
    have hcheck := checkPath_of_snoc (find_path_eq_ok_iff.1 hfile).1
    have hfits := (checkPath_eq_ok_iff.1 hcheck).2
    obtain ⟨why, hfind⟩ : ∃ why, disk.find target.path = .error why :=
      hlimit.elim (fun h => ⟨_, h⟩) (fun h => ⟨_, h⟩)
    exact ⟨name, .last above why htarget hfind hdir hfits, hshown.symm⟩
  | renamed own hanswers hother hname hfile => exact ⟨own, hanswers, hname⟩

theorem realPath_eq_ok_iff {place : Location} {path : Path} :
    realPath place = .ok path ↔
      place.path.bytes.length ≤ maxPathBytes ∧ path = place.path := by
  rw [realPath]
  split
  · next hlong =>
    have hno : ¬ place.path.bytes.length ≤ maxPathBytes := by omega
    simp [hno]
  · next hfits =>
    have hyes : place.path.bytes.length ≤ maxPathBytes := by omega
    simp [hyes, eq_comm]

theorem splitPlace_eq_ok_iff {place above : Location} {name : Name} :
    splitPlace place = .ok (above, name) ↔ place = above ++ [name] := by
  rw [splitPlace]
  rcases List.eq_nil_or_concat place with rfl | ⟨init, last, rfl⟩
  · simp [Location.split?]
  · have hsplit : Location.split? (init.concat last) = some (init, last) := by
      simp [Location.split?]
    rw [hsplit]
    constructor
    · intro h
      cases h
      exact List.concat_eq_append
    · intro h
      obtain ⟨rfl, hlast⟩ := List.append_inj' (List.concat_eq_append.symm.trans h) rfl
      cases hlast
      rfl

/-- A path that finds an entry is answered by it: a directory by its path, anything else by its
name. -/
theorem locate_of_find {path : Path} {place : Location} {found : Located}
    (hnominal : disk.nominal path = .ok target) (hfind : disk.find target.path = .ok place) :
    disk.locate path = .ok found ↔
      place.path.bytes.length ≤ maxPathBytes ∧
        (disk.isDirectory place = true ∧ found = ⟨⟨place.path⟩, none⟩ ∨
          disk.isDirectory place = false ∧ ∃ (dir : Location) (name : Name),
            place = dir ++ [name] ∧ found = ⟨⟨dir.path⟩, some name.text⟩) := by
  rw [locate, hnominal, Action.except_ok_bind, hfind]
  dsimp only
  rw [Action.except_bind_eq_ok_iff]
  constructor
  · rintro ⟨real, hreal, h⟩
    obtain ⟨hfits, rfl⟩ := realPath_eq_ok_iff.1 hreal
    refine ⟨hfits, ?_⟩
    by_cases hdir : disk.isDirectory place = true
    · rw [if_pos hdir] at h
      cases h
      exact .inl ⟨hdir, rfl⟩
    · rw [if_neg hdir, Action.except_bind_eq_ok_iff] at h
      obtain ⟨⟨dir, name⟩, hsplit, h⟩ := h
      cases h
      exact .inr ⟨by simpa using hdir, dir, name, splitPlace_eq_ok_iff.1 hsplit, rfl⟩
  · rintro ⟨hfits, hanswer⟩
    refine ⟨_, realPath_eq_ok_iff.2 ⟨hfits, rfl⟩, ?_⟩
    rcases hanswer with ⟨hdir, rfl⟩ | ⟨hno, dir, name, hsplit, rfl⟩
    · rw [if_pos hdir]
      rfl
    · rw [if_neg (by simp [hno])]
      exact Action.except_bind_eq_ok_iff.2 ⟨_, splitPlace_eq_ok_iff.2 hsplit, rfl⟩

/-- A path that finds none is answered by its last name, where its other names lead. -/
theorem locate_of_not_find {path : Path} {why : OsError} {found : Located}
    (hnominal : disk.nominal path = .ok target) (hfind : disk.find target.path = .error why) :
    disk.locate path = .ok found ↔
      ∃ (above : Location) (name : Name) (dir : Location), target = above ++ [name] ∧
        disk.findDirectory? above.path = some dir ∧
        dir.path.bytes.length ≤ maxPathBytes ∧ found = ⟨⟨dir.path⟩, some name.text⟩ := by
  rw [locate, hnominal, Action.except_ok_bind, hfind]
  dsimp only
  rw [Action.except_bind_eq_ok_iff]
  constructor
  · rintro ⟨⟨above, name⟩, hsplit, h⟩
    dsimp only at h
    cases hdir : disk.findDirectory? above.path with
    | none =>
      rw [hdir] at h
      cases h
    | some dir =>
      rw [hdir] at h
      obtain ⟨real, hreal, h⟩ := Action.except_bind_eq_ok_iff.1 h
      obtain ⟨hfits, rfl⟩ := realPath_eq_ok_iff.1 hreal
      cases h
      exact ⟨above, name, dir, splitPlace_eq_ok_iff.1 hsplit, hdir, hfits, rfl⟩
  · rintro ⟨above, name, dir, hsplit, hdir, hfits, rfl⟩
    refine ⟨_, splitPlace_eq_ok_iff.2 hsplit, ?_⟩
    dsimp only
    rw [hdir]
    exact Action.except_bind_eq_ok_iff.2 ⟨_, realPath_eq_ok_iff.2 ⟨hfits, rfl⟩, rfl⟩

/-- A path is answered by the directory that it finds, or else by a name in a directory. -/
theorem locate_eq_ok_iff {path : Path} {found : Located} :
    disk.locate path = .ok found ↔ ∃ target, disk.nominal path = .ok target ∧
      ((∃ place, disk.find target.path = .ok place ∧ disk.isDirectory place = true ∧
          place.path.bytes.length ≤ maxPathBytes ∧ found = ⟨⟨place.path⟩, none⟩) ∨
        ∃ dir name, disk.Answers target dir name ∧ found = ⟨⟨dir.path⟩, some name.text⟩) := by
  constructor
  · intro h
    obtain ⟨target, hnominal, -⟩ := Action.except_bind_eq_ok_iff.1 h
    refine ⟨target, hnominal, ?_⟩
    cases hfind : disk.find target.path with
    | ok place =>
      obtain ⟨hfits, ⟨hdir, rfl⟩ | ⟨hno, dir, name, rfl, rfl⟩⟩ :=
        (locate_of_find hnominal hfind).1 h
      · exact .inl ⟨place, rfl, hdir, hfits, rfl⟩
      · exact .inr ⟨dir, name, .entry hfind hno hfits, rfl⟩
    | error why =>
      obtain ⟨above, name, dir, htarget, hdir, hfits, rfl⟩ :=
        (locate_of_not_find hnominal hfind).1 h
      exact .inr ⟨dir, name, .last above why htarget hfind hdir hfits, rfl⟩
  · rintro ⟨target, hnominal, ⟨place, hfind, hdir, hfits, rfl⟩ | ⟨dir, name, hanswers, rfl⟩⟩
    · exact (locate_of_find hnominal hfind).2 ⟨hfits, .inl ⟨hdir, rfl⟩⟩
    · cases hanswers with
      | entry hfind hno hfits =>
        exact (locate_of_find hnominal hfind).2 ⟨hfits, .inr ⟨hno, dir, name, rfl, rfl⟩⟩
      | last above why htarget hfind hdir hfits =>
        exact (locate_of_not_find hnominal hfind).2 ⟨above, name, dir, htarget, hdir, hfits, rfl⟩

/-- A path that is answered by a name in a directory. -/
theorem locate_file_iff {path : Path} (habs : path.isAbsolute = true) {found : Directory}
    {text : String} :
    disk.locate path = .ok ⟨found, some text⟩ ↔
      ∃ dir name, disk.Answers (Location.walk [] path) dir name ∧ found = ⟨dir.path⟩ ∧
        text = name.text := by
  have hnominal : disk.nominal path = .ok (Location.walk [] path) := by
    rw [nominal, if_pos habs]
  rw [locate_eq_ok_iff]
  constructor
  · rintro ⟨target, htarget, ⟨place, -, -, -, h⟩ | ⟨dir, name, hanswers, h⟩⟩
    · cases h
    · cases hnominal.symm.trans htarget
      cases h
      exact ⟨dir, name, hanswers, rfl, rfl⟩
  · rintro ⟨dir, name, hanswers, rfl, rfl⟩
    exact ⟨_, hnominal, .inr ⟨dir, name, hanswers, rfl⟩⟩

theorem read_eq_ok_iff {path : Path} {content : ByteArray} :
    disk.read path = .ok content ↔
      ∃ file, disk.find path = .ok file ∧ disk.entry? file = some (.file content) := by
  rw [read, Action.except_bind_eq_ok_iff]
  refine exists_congr fun file => and_congr_right fun _ => ?_
  split
  · next found hentry =>
    rw [hentry]
    constructor
    · intro h
      cases h
      rfl
    · intro h
      cases h
      rfl
  · next hentry => simp [hentry]
  · next hfile _ =>
    constructor
    · intro h
      cases h
    · intro h
      exact absurd h (hfile content)

/-- What is found under an answer is what the place leads to, or the place strays. -/
theorem Answers.resolves_or_strays (h : disk.Answers target dir name)
    (hfile : disk.find (dir ++ [name.shown]).path = .ok file) :
    file = dir ++ [name] ∧ disk.Resolves target file ∨ disk.Strays target dir name.shown file := by
  by_cases hshown : name.shown = name
  · rw [hshown] at hfile ⊢
    cases h with
    | entry hfind hno hfits =>
      -- The entry was found under a longer way, and is found again under its own path.
      have hown : file = dir ++ [name] := eq_of_find_path (settled_of_find hfind) hfile
      rw [hown] at hfile ⊢
      refine .inl ⟨rfl, hfind, hfile, ?_⟩
      rw [List.getLast?_concat]
      rintro other ⟨⟩
      exact hshown
    | last above why htarget hfind hdir hfits =>
      rw [htarget] at hfind ⊢
      exact .inr (strays_of_find hdir hfind hshown hfile)
  · exact .inr (.renamed name h hshown rfl hfile)

/-- A place is answered in one way. -/
theorem Answers.unique {other : Location} {own : Name} (h : disk.Answers target dir name)
    (h' : disk.Answers target other own) : dir = other ∧ name = own := by
  cases h with
  | entry hfind hno hfits =>
    cases h' with
    | entry hfind' hno' hfits' =>
      obtain ⟨hdir, hname⟩ := List.append_inj' (Except.ok.inj (hfind.symm.trans hfind')) rfl
      exact ⟨hdir, List.head_eq_of_cons_eq hname⟩
    | last above why htarget hfind' hdir hfits' => cases hfind.symm.trans hfind'
  | last above why htarget hfind hdir hfits =>
    cases h' with
    | entry hfind' hno hfits' => cases hfind.symm.trans hfind'
    | last above' why' htarget' hfind' hdir' hfits' =>
      obtain ⟨rfl, hname⟩ := List.append_inj' (htarget.symm.trans htarget') rfl
      exact ⟨Option.some.inj (hdir.symm.trans hdir'), List.head_eq_of_cons_eq hname⟩

/-- What is read under an answer: the file to which the place leads, or the one where it strays
to. -/
theorem read_answered_iff {root : Location} {content : ByteArray} :
    (∃ dir name, disk.Answers target dir name ∧ root <+: dir ∧
        disk.read (dir ++ [name.shown]).path = .ok content) ↔
      ∃ file, disk.HasFile file content ∧
        (disk.Resolves target file ∧ root <+: file.dropLast ∨
          ∃ dir name, disk.Strays target dir name file ∧ root <+: dir) := by
  constructor
  · rintro ⟨dir, name, hanswers, hroot, hread⟩
    obtain ⟨file, hfile, hentry⟩ := read_eq_ok_iff.1 hread
    refine ⟨file, (settled_of_find hfile).hasFile hentry, ?_⟩
    rcases hanswers.resolves_or_strays hfile with ⟨rfl, hresolves⟩ | hstrays
    · refine .inl ⟨hresolves, ?_⟩
      rwa [List.dropLast_concat]
    · exact .inr ⟨dir, name.shown, hstrays, hroot⟩
  · rintro ⟨file, hhas, ⟨hresolves, hroot⟩ | ⟨dir, name, hstrays, hroot⟩⟩
    · have hno : disk.isDirectory file = false := by
        rw [isDirectory, hhas.entry]
      rcases List.eq_nil_or_concat file with rfl | ⟨dir, name, rfl⟩
      · cases hno
      · rw [List.concat_eq_append] at *
        rw [List.dropLast_concat] at hroot
        have hfits := (checkPath_eq_ok_iff.1 (find_path_eq_ok_iff.1 hresolves.named).1).2
        have hshown := hresolves.shown name List.getLast?_concat
        refine ⟨dir, name, .entry hresolves.found hno hfits, hroot, ?_⟩
        rw [hshown]
        exact read_eq_ok_iff.2 ⟨_, hresolves.named, hhas.entry⟩
    · obtain ⟨own, hanswers, rfl⟩ := hstrays.exists_answers
      exact ⟨dir, own, hanswers, hroot, read_eq_ok_iff.2 ⟨file, hstrays.found, hhas.entry⟩⟩

/-- Directories that are found are named by the paths of their places. -/
theorem fileSystem_places : Disk.fileSystem.Places := by
  intro path disk found t h
  have hlocate : disk.locate path = .ok found := congrArg Prod.fst h
  obtain ⟨target, -, ⟨place, -, -, -, rfl⟩ | ⟨dir, name, -, rfl⟩⟩ := locate_eq_ok_iff.1 hlocate
  · exact ⟨place, rfl⟩
  · exact ⟨dir, rfl⟩

end Disk

end OverlayChain
