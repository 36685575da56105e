import OverlayChain.Proofs.Memory.Built
import OverlayChain.Proofs.Overlay.Reading

/-!
# What is left of a store on the way

While overlays are resolved with clones in one directory, the store is as it was or has lost that
directory. So what a loader finds there was there before, and what it does not find was not, with
one exception: a clone directory that has the name of an overlay file is no longer in the way of
the next name.

## Main definitions

- `Memory.Remains`: what is left of a store.
- `Memory.overlayContent?`: the first of the overlay files of a directory that is not a directory.

## Main statements

- `Memory.Remains.isDir_of_content?`: a file that is left was no directory.
- `Memory.overlayContent?_of_readFile`: the overlay file that a loader reads from what is left.
- `Memory.overlayContent?_eq`: where no overlay file is a directory, it is the first one.
-/

namespace OverlayChain.Memory

/-- What is left of a store: all of it, or all but what was below one of its directories. -/
inductive Remains (top : Location) (m : Memory) : Memory → Prop
  | whole : Remains top m m
  | without (htop : m.isDir top = true) : Remains top m (m.removeBelow top)

variable {top root : Location} {m m' u : Memory} {cloner : Cloner Memory} {loader : Loader}

theorem removeBelow_removeBelow (m : Memory) (top : Location) :
    (m.removeBelow top).removeBelow top = m.removeBelow top := by
  simp [removeBelow]

theorem Remains.covers (h : Remains top m m') : m.Covers m' := by
  cases h with
  | whole => exact .refl m
  | without => exact (Covers.refl m).removeBelow top

theorem Remains.removeBelow (h : Remains top m m') (htop : m.isDir top = true) :
    Remains top m (m'.removeBelow top) := by
  cases h with
  | whole => exact .without htop
  | without =>
    rw [removeBelow_removeBelow]
    exact .without htop

/-- A file that is left is a directory exactly if it was one. -/
theorem Remains.isDir_of_content? (h : Remains top m m') {place : Location} {content : ByteArray}
    (hcontent : m'.content? place = some content) : m.isDir place = m'.isDir place := by
  cases h with
  | whole => rfl
  | without =>
    rw [content?_removeBelow] at hcontent
    split at hcontent
    · cases hcontent
    · next hkept =>
      rw [Bool.eq_iff_iff, isDir_removeBelow]
      constructor
      · exact fun hdir => .inr ⟨hdir, hkept⟩
      · rintro (rfl | ⟨hdir, -⟩)
        · rfl
        · exact hdir

/-- A file that is lost beside one that is left was a directory. -/
theorem Remains.isDir_of_absent (h : Remains top m m') {name other : Name}
    {content kept : ByteArray} (hkept : m'.content? (root ++ [other]) = some kept)
    (hcontent : m.content? (root ++ [name]) = some content)
    (habsent : m'.content? (root ++ [name]) = none) : m.isDir (root ++ [name]) = true := by
  cases h with
  | whole =>
    rw [hcontent] at habsent
    cases habsent
  | without htop =>
    rw [content?_removeBelow] at hkept habsent
    split at hkept
    · cases hkept
    · next hnot =>
      rw [hcontent] at habsent
      split at habsent
      · next hbelow =>
        -- The removed directory reaches the lost file but not the one beside it.
        rcases List.prefix_concat_iff.1 hbelow with heq | hbegins
        · rwa [← heq]
        · exact absurd (hbegins.trans (List.prefix_append root [other])) hnot
      · cases habsent

/-- The content under the first of the names that is a file and not a directory. -/
def contentUnder? (m : Memory) (root : Location) (names : List String) : Option ByteArray :=
  names.findSome? fun name : String =>
    if m.isDir (root.walk ⟨name⟩) then none else m.content? (root.walk ⟨name⟩)

/-- The first of the overlay files of a directory that is not a directory. -/
def overlayContent? (m : Memory) (root : Location) : Option ByteArray :=
  m.contentUnder? root Overlay.fileNames

/-- Where no overlay file is a directory, this is the first one. -/
theorem overlayContent?_eq (h : ∀ name : String, name ∈ Overlay.fileNames →
      m.isDir (root.walk ⟨name⟩) = true → m.content? (root.walk ⟨name⟩) = none) :
    m.overlayContent? root =
      Overlay.fileNames.findSome? fun name : String => m.content? (root.walk ⟨name⟩) := by
  rw [overlayContent?, contentUnder?]
  generalize Overlay.fileNames = names at h
  induction names with
  | nil => rfl
  | cons name names ih =>
    have hfirst : (if m.isDir (root.walk ⟨name⟩) then none else m.content? (root.walk ⟨name⟩)) =
        m.content? (root.walk ⟨name⟩) := by
      split
      · next hdir => exact (h name (List.mem_cons_self ..) hdir).symm
      · rfl
    rw [List.findSome?_cons, List.findSome?_cons, hfirst,
      ih fun other hother => h other (List.mem_cons_of_mem _ hother)]

/-- A confined loader misses a file only where there is none. -/
theorem content?_of_load_error (hpolicy : loader.node.policy = .confined)
    (hroot : loader.root = ⟨root.path⟩) {path : Path} (hpath : path.IsText) {cause : IoError}
    (h : loader.load (env cloner) path m = (.error (.io cause), u)) :
    m.content? (root.walk path) = none := by
  have hplace : place (loader.requested path) = root.walk path := Loader.walk_requested hroot path
  rw [load_confined hpolicy] at h
  rcases hfound : m.locate (loader.requested path) with error | ⟨dir, file⟩
  · -- A path that leads nowhere is not an error of reading.
    have hlocate : fileSystem.locate (loader.requested path) m = (.error error, m) := by
      rw [fileSystem_locate, hfound]
    obtain ⟨message, rfl⟩ := locate_fails _ m error m hlocate
    rw [hfound] at h
    cases h
  · rw [hfound] at h
    cases file with
    | none => cases h
    | some text =>
      dsimp only at h
      split at h
      · next hwithin =>
        have hread : m.read (dir.join ⟨text⟩) = .error (.io cause) := congrArg Prod.fst h
        rw [read_located hpath hfound hwithin, read, hplace] at hread
        split at hread
        · cases hread
        · next hnone => exact hnone
      · cases h

/-- A file that is lost beside one that is left is passed over. -/
theorem Remains.passed (h : Remains top m m') {name other : Name} {kept : ByteArray}
    (hkept : m'.content? (root ++ [other]) = some kept)
    (habsent : m'.content? (root ++ [name]) = none) :
    (if m.isDir (root ++ [name]) then none else m.content? (root ++ [name])) = none := by
  split
  · rfl
  · next hdir =>
    cases hcontent : m.content? (root ++ [name]) with
    | none => rfl
    | some content => exact absurd (h.isDir_of_absent hkept hcontent habsent) hdir

/-- An overlay file that a confined loader reads from what is left was the first one in its root
that is not a directory. -/
theorem contentUnder?_of_readFirst (hremains : Remains top m m')
    (hpolicy : loader.node.policy = .confined) (hroot : loader.root = ⟨root.path⟩)
    {names : List String} (hnames : ∀ text ∈ names, IsName (Text.encode text)) {file : Overlay.File}
    (h : Overlay.readFirst (env cloner) loader names m' = (.ok file, u)) :
    m.isDir root = true ∧ ∃ content, m.contentUnder? root names = some content ∧
      Overlay.File.parse content = .ok file := by
  induction names with
  | nil => cases h
  | cons text names ih =>
    have hname := hnames text (List.mem_cons_self ..)
    have hothers : ∀ other ∈ names, IsName (Text.encode other) :=
      fun other hother => hnames other (List.mem_cons_of_mem _ hother)
    have hplace : root.walk ⟨text⟩ = root ++ [⟨text, hname⟩] :=
      Location.walk_name root ⟨text, hname⟩
    rw [Overlay.readFirst, Action.bind_of_ok (Action.attempt_apply _ m'), load_snd] at h
    rw [contentUnder?, List.findSome?_cons]
    rcases hload : loader.load (env cloner) ⟨text⟩ m' with ⟨error | content, v⟩
    · rw [hload] at h
      cases error with
      | io cause =>
        dsimp only at h
        split at h
        · have habsent := content?_of_load_error hpolicy hroot (Path.isText_mk text) hload
          obtain ⟨other, hother, kept, hkept, -⟩ := content?_of_readFirst hroot h
          have hplace' : root.walk ⟨other⟩ = root ++ [⟨other, hothers other hother⟩] :=
            Location.walk_name root ⟨other, hothers other hother⟩
          rw [hplace'] at hkept
          rw [hplace] at habsent ⊢
          rw [hremains.passed hkept habsent]
          exact ih hothers h
        · cases h
      | _ => cases h
    · rw [hload] at h
      obtain ⟨-, dir, name, hsplit, -, hno, hdir, hcontent⟩ :=
        (load_confined_eq_ok_iff hpolicy hroot (Path.isText_mk text)).1 hload
      obtain ⟨rfl, -⟩ := List.append_inj' (hplace.symm.trans hsplit) rfl
      have hno' : m.isDir (root.walk ⟨text⟩) = false := by
        rw [hremains.isDir_of_content? hcontent, hno]
      have hfirst : (if m.isDir (root.walk ⟨text⟩) then none
          else m.content? (root.walk ⟨text⟩)) = some content := by
        rw [hno', hremains.covers.content? _ _ hcontent]
        rfl
      rw [hfirst]
      exact ⟨hremains.covers.isDir root hdir, content, rfl, (Action.check_eq_ok_iff.1 h).1⟩

theorem overlayContent?_of_readFile (hremains : Remains top m m')
    (hpolicy : loader.node.policy = .confined) (hroot : loader.root = ⟨root.path⟩)
    {file : Overlay.File} (h : Overlay.readFile (env cloner) loader m' = (.ok file, u)) :
    m.isDir root = true ∧ ∃ content, m.overlayContent? root = some content ∧
      Overlay.File.parse content = .ok file :=
  contentUnder?_of_readFirst hremains hpolicy hroot isName_of_mem_fileNames h

end OverlayChain.Memory
