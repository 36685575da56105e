import OverlayChain.Proofs.Loader.Reading

/-!
# Loaders that keep to a clone

Once a chain went through a clone, its roots lie in the clone and its policy confines it. Over files
in memory such a loader reads nothing outside its root. Over a disk it does so only where a place
strays: it is not found at the limits of the system, or it is answered by a name whose bytes are not
those of a text, and the name that is read instead is a link that leads somewhere.

## Main definitions

- `Loader.KeepsTo`: a confined loader, with its root in its nearest clone.

## Main statements

- `Loader.Reachable.keepsTo`: loaders below a clone keep to the nearest one.
- `Loader.nearestClone_confines`: what such a loader reads, over files in memory and over a disk.
- `Loader.Sample.linked_escapes`: a loader that reads a file outside its clone.
-/

namespace OverlayChain.Loader

variable {σ : Type} {env : Env σ} {loader : Loader} {clone : Clone}

/-- A confined loader with its root in a clone, all by the paths of their places. -/
structure KeepsTo (loader : Loader) (clone : Clone) (top root : Location) : Prop where
  source : clone.dir = ⟨top.path⟩
  rooted : loader.root = ⟨root.path⟩
  within : top <+: root
  confined : loader.node.policy = .confined

theorem place_of_admitRoot (hplaces : env.fs.Places) {path : Path} {root : Directory} {s t : σ}
    (h : env.fs.admitRoot path s = (.ok root, t)) : ∃ place : Location, root = ⟨place.path⟩ := by
  obtain ⟨place, hplace⟩ := hplaces path s _ t (FileSystem.admitRoot_eq_ok_iff.1 h).2
  exact ⟨place, congrArg Directory.mk hplace⟩

theorem place_of_clone (hplaces : env.fs.Places) (hcloner : env.cloner.Locates env.fs)
    {ref left : RemoteRef} {dir : Directory} {s t : σ}
    (h : env.cloner.take env.fs ref s = (.ok ⟨left, some dir⟩, t)) :
    ∃ place : Location, dir = ⟨place.path⟩ := by
  obtain ⟨path, u, file, v, hlocate⟩ := hcloner ref s _ t h dir rfl
  obtain ⟨place, hplace⟩ := hplaces path u _ v hlocate
  exact ⟨place, congrArg Directory.mk hplace⟩

/-- A local child keeps to the clone that its parent keeps to. -/
theorem KeepsTo.extend {parent : Loader} {top above root : Location}
    (h : parent.KeepsTo clone top above) (hclone : parent.nearestClone? = some clone)
    (hwithin : checkWithin (parent.nearestClone?.map Clone.dir) ⟨root.path⟩ = .ok ()) :
    (parent.extend ⟨⟨root.path⟩, parent.node.policy, none⟩ none).KeepsTo clone top root := by
  rw [hclone, Option.map_some, checkWithin_some_iff, h.source] at hwithin
  exact ⟨h.source, rfl, (Directory.isWithin_path_iff root top).1 hwithin, h.confined⟩

/-- A loader with a clone on its chain keeps to the nearest one. -/
theorem Reachable.keepsTo (h : loader.Reachable env) (hplaces : env.fs.Places)
    (hcloner : env.cloner.Locates env.fs) (hclone : loader.nearestClone? = some clone) :
    ∃ top root, loader.KeepsTo clone top root := by
  -- A local child inherits the nearest clone, so the clone varies in what is proved.
  refine h.induction
    (P := fun loader => ∀ clone, loader.nearestClone? = some clone →
      ∃ top root, loader.KeepsTo clone top root) ?_ ?_ ?_ clone hclone
  · intro root policy validator path s t _ clone hclone
    cases hclone
  · intro parent base child _ ih hgrows clone hclone
    cases hgrows with
    | within root s t hbase hrelative hroot hwithin hcycle =>
      have hparent : parent.nearestClone? = some clone := hclone
      obtain ⟨top, above, hkeeps⟩ := ih clone hparent
      obtain ⟨place, rfl⟩ := place_of_admitRoot hplaces hroot
      exact ⟨top, place, hkeeps.extend hparent hwithin⟩
    | remote ref left dir root s t u v hbase hcycle hcloned hroot hwithin =>
      cases hclone
      obtain ⟨top, rfl⟩ := place_of_clone hplaces hcloner hcloned
      obtain ⟨place, rfl⟩ := place_of_admitRoot hplaces hroot
      exact ⟨top, place, rfl, rfl, (Directory.isWithin_path_iff place top).1 hwithin, rfl⟩
  · intro loader ih clone hclone
    obtain ⟨top, root, hkeeps⟩ := ih clone hclone
    exact ⟨top, root, hkeeps.source, hkeeps.rooted, hkeeps.within, hkeeps.confined⟩

/-- A loader with a clone on its chain is confined to a root in the nearest one. Over files in
memory it reads exactly the files in directories of its root, each by the text that shows the name
that is asked for. Over a disk it reads exactly the files below its root that are found under names
that are texts, and those to which a place strays from a directory of the root, wherever they lie. -/
theorem nearestClone_confines (h : loader.Reachable env) (hcloner : env.cloner.Locates env.fs)
    (hclone : loader.nearestClone? = some clone) :
    (∀ view : σ → Memory, env.fs.Mirrors Memory.fileSystem view →
      ∃ top root, loader.KeepsTo clone top root ∧ ∀ path s content,
        (∃ t, loader.load env path s = (.ok content, t)) ↔
          ∃ (dir : Location) (name : Name), root.walk path = dir ++ [name] ∧ root <+: dir ∧
            (view s).isDir (dir ++ [name]) = false ∧ (view s).isDir dir = true ∧
            (view s).content? (dir ++ [name.shown]) = some content) ∧
    (∀ view : σ → Disk, env.fs.Mirrors Disk.fileSystem view →
      ∃ top root, loader.KeepsTo clone top root ∧ ∀ path s content,
        (∃ t, loader.load env path s = (.ok content, t)) ↔
          ∃ file, (view s).HasFile file content ∧
            ((view s).Resolves (root.walk path) file ∧ root <+: file.dropLast ∨
              ∃ dir name, (view s).Strays (root.walk path) dir name file ∧ root <+: dir)) := by
  constructor
  · intro view hmirrors
    obtain ⟨top, root, hkeeps⟩ :=
      h.keepsTo (hmirrors.places Memory.fileSystem_places) hcloner hclone
    refine ⟨top, root, hkeeps, fun path s content => ?_⟩
    rw [load_memory_iff hmirrors hkeeps.confined hkeeps.rooted]
    refine exists_congr fun dir => exists_congr fun name => and_congr_right fun hsplit => ?_
    rw [hsplit]
  · intro view hmirrors
    obtain ⟨top, root, hkeeps⟩ :=
      h.keepsTo (hmirrors.places Disk.fileSystem_places) hcloner hclone
    refine ⟨top, root, hkeeps, fun path s content => ?_⟩
    exact load_disk_iff hmirrors hkeeps.confined hkeeps.rooted

/-- A file name with bytes that are not those of a text, and the name that is read in its stead. -/
def Sample.broken : Name := ⟨[0xff], by decide⟩

def Sample.mended : Name := ⟨"\ufffd", by decide⟩

/-- A clone with links below itself, a file whose name is no text with a link to it, and two links to
a file outside of the clone. -/
def Sample.linked : Disk where
  entries := [(Memory.place ⟨"/clone"⟩, .directory), (Memory.place ⟨"/clone/l"⟩, .link "."),
    (Memory.place ⟨"/clone/m"⟩, .link "l/l/l/l/l/l/l/l/l"),
    (Memory.place ⟨"/clone/s"⟩, .link "../secret"),
    (Memory.place ⟨"/clone/n"⟩, .link Sample.broken.bytes),
    (Memory.place ⟨"/clone"⟩ ++ [Sample.broken], .file "public".toUTF8),
    (Memory.place ⟨"/clone"⟩ ++ [Sample.mended], .link "../secret"),
    (Memory.place ⟨"/secret"⟩, .file "token".toUTF8)]
  workDir := none

/-- The environment of a chain over a disk with one clone, where nothing is logged. -/
def Sample.linkedEnv : Env Disk := ⟨Disk.fileSystem, .fixed ⟨"/clone"⟩, fun _ disk => disk⟩

/-- The clone of the repository. -/
def Sample.checkout : Clone := ⟨⟨"git@h:o/r", "git@h:", "o/r", "", none, false⟩, ⟨⟨"/clone"⟩⟩⟩

/-- The loader of the clone. -/
def Sample.guest : Loader :=
  ⟨⟨⟨⟨"/clone"⟩⟩, .confined, some checkout⟩, [⟨⟨⟨"/"⟩⟩, .unrestricted, none⟩], .permissive,
    some ⟨⟨"/clone"⟩⟩⟩

/-- A path to the link out of the clone, over as many links as a walk may cross. -/
def Sample.winding : Path := ⟨"m/m/m/m/s"⟩

theorem Sample.guest_reachable : Sample.guest.Reachable Sample.linkedEnv := by
  have horigin := Reachable.origin (show Loader.origin Sample.linkedEnv .permissive
    .unrestricted ⟨"/"⟩ linked = (.ok _, linked) from rfl)
  exact horigin.child (show Loader.child _ _ "git@h:o/r" linked = (.ok _, linked) from rfl)

/-- The path is not found, and its last name leads out of the clone. -/
theorem Sample.winding_strays :
    Sample.linked.Strays (Location.walk (Memory.place ⟨"/clone"⟩) Sample.winding)
      (Memory.place ⟨"/clone"⟩) ⟨"s", by decide⟩ (Memory.place ⟨"/secret"⟩) := by
  have htarget : Location.walk (Memory.place ⟨"/clone"⟩) winding =
      Memory.place ⟨"/clone/m/m/m/m"⟩ ++ [⟨"s", by decide⟩] := by decide +kernel
  -- Each step over `m` crosses ten links, so the last name would be the one link too many.
  obtain ⟨why, hlost⟩ : ∃ why,
      linked.find (Location.walk (Memory.place ⟨"/clone"⟩) winding).path = .error why := by
    have hnone : (linked.find (Location.walk (Memory.place ⟨"/clone"⟩) winding).path).toOption =
        none := by decide +kernel
    cases hfind : linked.find (Location.walk (Memory.place ⟨"/clone"⟩) winding).path with
    | error why => exact ⟨why, rfl⟩
    | ok place =>
      rw [hfind] at hnone
      cases hnone
  rw [htarget] at hlost ⊢
  exact Disk.strays_of_find (by decide +kernel) hlost (by decide) rfl

/-- A link to the file whose name is no text strays to the link with the name that is read. -/
theorem Sample.link_strays :
    Sample.linked.Strays (Location.walk (Memory.place ⟨"/clone"⟩) ⟨"n"⟩)
      (Memory.place ⟨"/clone"⟩) Sample.mended (Memory.place ⟨"/secret"⟩) := by
  have hanswers : linked.Answers (Location.walk (Memory.place ⟨"/clone"⟩) ⟨"n"⟩)
      (Memory.place ⟨"/clone"⟩) broken := .entry rfl rfl (by decide)
  exact .renamed broken hanswers (by decide) (by decide) rfl

/-- No file in the clone has the content of the file outside. -/
theorem Sample.not_hasFile_below (file : Location) (h : Memory.place ⟨"/clone"⟩ <+: file) :
    ¬ Sample.linked.HasFile file "token".toUTF8 := by
  rintro ⟨-, hentry⟩
  have hne : file.isEmpty = false := by
    rw [List.isEmpty_eq_false_iff]
    rintro rfl
    exact absurd h (by decide)
  have hlookup : linked.entries.lookup file = some (.file "token".toUTF8) := by
    simpa [Disk.entry?, hne] using hentry
  have hmem : (file, Disk.Entry.file "token".toUTF8) ∈ linked.entries := mem_of_lookup hlookup
  have hpublic : "token".toUTF8 ≠ "public".toUTF8 := by decide
  simp only [linked, List.mem_cons, List.not_mem_nil, Prod.mk.injEq, reduceCtorEq, and_false,
    or_false, false_or, Disk.Entry.file.injEq, hpublic] at hmem
  rw [hmem.1] at h
  exact absurd h (by decide)

/-- The loader of the clone reads a file outside of it, over too many links and by a name that is no
text. -/
theorem Sample.linked_escapes :
    Sample.guest.Reachable Sample.linkedEnv ∧
      Sample.linkedEnv.cloner.Locates Sample.linkedEnv.fs ∧
      Sample.guest.nearestClone? = some Sample.checkout ∧
      (∀ path ∈ [Sample.winding, ⟨"n"⟩], ∃ t,
        Sample.guest.load Sample.linkedEnv path Sample.linked = (.ok "token".toUTF8, t)) ∧
      ∀ file, Memory.place ⟨"/clone"⟩ <+: file → ¬ Sample.linked.HasFile file "token".toUTF8 := by
  refine ⟨guest_reachable, Cloner.fixed_locates _ _, rfl, ?_, not_hasFile_below⟩
  have hsecret : linked.HasFile (Memory.place ⟨"/secret"⟩) "token".toUTF8 := ⟨by decide, rfl⟩
  have hroot : guest.root = ⟨(Memory.place ⟨"/clone"⟩).path⟩ := by decide
  have hload : ∀ path name,
      linked.Strays (Location.walk (Memory.place ⟨"/clone"⟩) path) (Memory.place ⟨"/clone"⟩) name
        (Memory.place ⟨"/secret"⟩) →
      ∃ t, guest.load linkedEnv path linked = (.ok "token".toUTF8, t) := fun path name hstrays =>
    (load_disk_iff (FileSystem.mirrors_self _) rfl hroot).2
      ⟨_, hsecret, .inr ⟨_, name, hstrays, List.prefix_refl _⟩⟩
  exact List.forall_mem_cons.2
    ⟨hload _ _ winding_strays, List.forall_mem_singleton.2 (hload _ _ link_strays)⟩

/-- What the loader of the clone reads. -/
theorem Sample.guest_confined :
    Sample.guest.Reachable Sample.linkedEnv ∧
      Sample.linkedEnv.cloner.Locates Sample.linkedEnv.fs ∧
      Sample.guest.nearestClone? = some Sample.checkout ∧
      ∃ top root, Sample.guest.KeepsTo Sample.checkout top root ∧ ∀ path content,
        (∃ t, Sample.guest.load Sample.linkedEnv path Sample.linked = (.ok content, t)) ↔
          ∃ file, Sample.linked.HasFile file content ∧
            (Sample.linked.Resolves (root.walk path) file ∧ root <+: file.dropLast ∨
              ∃ dir name, Sample.linked.Strays (root.walk path) dir name file ∧ root <+: dir) := by
  have hcloner : Sample.linkedEnv.cloner.Locates Sample.linkedEnv.fs := Cloner.fixed_locates _ _
  have hclone : Sample.guest.nearestClone? = some Sample.checkout := rfl
  obtain ⟨top, root, hkeeps, hload⟩ :=
    (nearestClone_confines Sample.guest_reachable hcloner hclone).2 id (FileSystem.mirrors_self _)
  exact ⟨Sample.guest_reachable, hcloner, hclone, top, root, hkeeps, fun path => hload path linked⟩

end OverlayChain.Loader
