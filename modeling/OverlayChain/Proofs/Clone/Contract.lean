import OverlayChain.Clone.Basic
import OverlayChain.Proofs.FileSystem

/-!
# What cloners promise

A cloner is handed a reference to change, and what counts afterwards is the reference as the cloner left
it. Its contract is to record a directory on the reference and to change nothing else. To obtain a
directory and record it meets the contract, and all cloners of the chain do just that.

## Main definitions

- `Cloner.OnlyRecords`: the contract.
- `Checkout.record`: a checkout after a directory was obtained for it, or after that failed.
- `Cloner.Locates`: a cloner records only directories that the file system found.
- `Cloner.pointing`: a cloner that points references at directories that are already there.

## Main statements

- `Cloner.recording_onlyRecords`: to obtain a directory and record it meets the contract.
- `Cloner.take_recording_eq_ok_iff`: what such a cloner leaves.
- `Cloner.pointing_onlyRecords`, `Cloner.pointing_locates`: what the cloners that fetch nothing promise.
-/

namespace OverlayChain

variable {σ : Type}

/-- A checkout after a directory was obtained for it, or after that failed. -/
def Checkout.record (checkout : Checkout) : Except Error Directory → Except Error Unit × Checkout
  | .ok dir => (.ok (), { checkout with dir := some dir })
  | .error error => (.error error, checkout)

namespace Cloner

variable {fs : FileSystem σ} {cloner : Cloner σ} {ref : RemoteRef} {left : Checkout} {s t : σ}

/-- A reference is cloned exactly if the cloner ends in success, with no directory recorded before. -/
theorem take_eq_ok_iff :
    cloner.take fs ref s = (.ok left, t) ↔ cloner.clone fs ⟨ref, none⟩ s = ((.ok (), left), t) := by
  rw [take, Action.transition]
  rcases cloner.clone fs ⟨ref, none⟩ s with ⟨⟨error | done, left'⟩, t'⟩
  · exact iff_of_false nofun nofun
  · constructor
    · rintro ⟨⟩
      rfl
    · rintro ⟨⟩
      rfl

/-- What became of the state does not depend on what is made of the checkout. -/
theorem take_snd (cloner : Cloner σ) (fs : FileSystem σ) (ref : RemoteRef) (s : σ) :
    (cloner.take fs ref s).2 = (cloner.clone fs ⟨ref, none⟩ s).2 := rfl

/-- The contract of cloners: one that succeeds changed nothing of its checkout but the directory. -/
def OnlyRecords (cloner : Cloner σ) (fs : FileSystem σ) : Prop :=
  ∀ checkout s left t, cloner.clone fs checkout s = ((.ok (), left), t) → left.ref = checkout.ref

theorem OnlyRecords.ref_eq (h : cloner.OnlyRecords fs) (hclone : cloner.take fs ref s = (.ok left, t)) :
    left.ref = ref := h _ _ _ _ (take_eq_ok_iff.1 hclone)

section Recording

variable {request : FileSystem σ → RemoteRef → Action σ Directory}

/-- A cloner that records what it obtains ends as the request for the directory. -/
theorem recording_apply (checkout : Checkout) (s : σ) :
    (recording request).clone fs checkout s =
      (checkout.record (request fs checkout.ref s).1, (request fs checkout.ref s).2) := by
  rw [recording]
  dsimp only
  rcases request fs checkout.ref s with ⟨error | dir, t⟩
  · rfl
  · rfl

/-- A cloner that records what it obtains is the request for the directory. -/
theorem take_recording (ref : RemoteRef) :
    (recording request).take fs ref = do
      let dir ← request fs ref
      return ⟨ref, some dir⟩ := by
  funext s
  rw [Action.bind_apply, take, Action.transition, recording_apply]
  rcases request fs ref s with ⟨error | dir, t⟩
  · rfl
  · rfl

theorem recording_snd (ref : RemoteRef) (s : σ) :
    ((recording request).take fs ref s).2 = (request fs ref s).2 := by
  rw [take_snd, recording_apply]

theorem take_recording_eq_ok_iff :
    (recording request).take fs ref s = (.ok left, t) ↔
      ∃ dir, request fs ref s = (.ok dir, t) ∧ left = ⟨ref, some dir⟩ := by
  rw [take_recording, Action.bind_eq_ok_iff]
  constructor
  · rintro ⟨dir, u, hdir, h⟩
    cases h
    exact ⟨dir, hdir, rfl⟩
  · rintro ⟨dir, hdir, rfl⟩
    exact ⟨dir, t, hdir, rfl⟩

/-- To obtain a directory and record it meets the contract. -/
theorem recording_onlyRecords (fs : FileSystem σ) : (recording request).OnlyRecords fs := by
  intro checkout s left t h
  rw [recording_apply] at h
  generalize request fs checkout.ref s = outcome at h
  rcases outcome with ⟨error | dir, u⟩
  · cases h
  · cases h
    rfl

end Recording

/-- The cloner that fetches nothing and points every reference that it knows at a directory. -/
def pointing (dirOf : RemoteRef → Option Path) : Cloner σ :=
  recording fun fs ref =>
    match dirOf ref with
    | some dir => fs.locateDirectory dir
    | none => throw (.cloneFailed ref.cloneUrl ref.refOrHead "unknown repository" none)

theorem fixed_eq_pointing (dir : Path) : (fixed dir : Cloner σ) = pointing fun _ => some dir := rfl

theorem byUrl_eq_pointing (dirs : List (String × Path)) :
    (byUrl dirs : Cloner σ) = pointing fun ref => dirs.lookup ref.cloneUrl := rfl

theorem pointing_onlyRecords (dirOf : RemoteRef → Option Path) (fs : FileSystem σ) :
    (pointing dirOf).OnlyRecords fs := recording_onlyRecords fs

theorem fixed_onlyRecords (dir : Path) (fs : FileSystem σ) : (fixed dir).OnlyRecords fs := by
  rw [fixed_eq_pointing]
  exact pointing_onlyRecords _ fs

theorem byUrl_onlyRecords (dirs : List (String × Path)) (fs : FileSystem σ) :
    (byUrl dirs).OnlyRecords fs := by
  rw [byUrl_eq_pointing]
  exact pointing_onlyRecords _ fs

theorem pointing_eq_ok_iff {dirOf : RemoteRef → Option Path} :
    (pointing dirOf).take fs ref s = (.ok left, t) ↔
      ∃ path dir, dirOf ref = some path ∧ left = ⟨ref, some dir⟩ ∧
        fs.locate path s = (.ok ⟨dir, none⟩, t) := by
  rw [pointing, take_recording_eq_ok_iff]
  cases hdir : dirOf ref with
  | none => simp
  | some path =>
    dsimp only
    simp only [FileSystem.locateDirectory_eq_ok_iff]
    constructor
    · rintro ⟨dir, hlocate, hleft⟩
      exact ⟨path, dir, rfl, hleft, hlocate⟩
    · rintro ⟨_, dir, hpath, hleft, hlocate⟩
      cases hpath
      exact ⟨dir, hlocate, hleft⟩

theorem fixed_eq_ok_iff {path : Path} :
    (fixed path).take fs ref s = (.ok left, t) ↔
      ∃ dir, left = ⟨ref, some dir⟩ ∧ fs.locate path s = (.ok ⟨dir, none⟩, t) := by
  rw [fixed_eq_pointing, pointing_eq_ok_iff]
  simp

/-- The directories that a cloner records were found by the file system at some time. -/
def Locates (cloner : Cloner σ) (fs : FileSystem σ) : Prop :=
  ∀ ref s left t, cloner.take fs ref s = (.ok left, t) → ∀ dir ∈ left.dir,
    ∃ path u file v, fs.locate path u = (.ok ⟨dir, file⟩, v)

theorem pointing_locates (dirOf : RemoteRef → Option Path) (fs : FileSystem σ) :
    (pointing dirOf).Locates fs := by
  intro ref s left t h dir hdir
  obtain ⟨path, found, -, rfl, hlocate⟩ := pointing_eq_ok_iff.1 h
  cases hdir
  exact ⟨path, s, none, t, hlocate⟩

theorem fixed_locates (dir : Path) (fs : FileSystem σ) : (fixed dir).Locates fs := by
  rw [fixed_eq_pointing]
  exact pointing_locates _ fs

theorem byUrl_locates (dirs : List (String × Path)) (fs : FileSystem σ) :
    (byUrl dirs).Locates fs := by
  rw [byUrl_eq_pointing]
  exact pointing_locates _ fs

end Cloner

end OverlayChain
