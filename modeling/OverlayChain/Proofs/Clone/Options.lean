import OverlayChain.Proofs.Clone.Calls
import OverlayChain.Proofs.Remote.Identity

/-!
# The options of the commands of a clone

An argument that begins with a hyphen is read as an option. A clone URL never does, since it begins
with an opening of the host part. A branch or tag is taken from the reference as it stands there, so
it does where a hyphen follows the query.

## Main definitions

- `Git.options`: the options of a command.
- `Git.plainOptions`: the options of the commands of a clone, apart from the reference.

## Main statements

- `RemoteRef.isOption_cloneUrl`: a clone URL is no option.
- `Git.options_iff`: a clone gives no other options exactly if the branch or tag is none.
-/

namespace OverlayChain

open Remote

namespace Git

/-- Whether an argument is read as an option. -/
def isOption (arg : String) : Bool := arg.toList.head? == some '-'

/-- The options of a command. -/
def options (args : List String) : List String := args.filter isOption

/-- The options of the commands that fetch a reference, which no reference should change. -/
def plainOptions : List (List String) :=
  [["--quiet"], [], ["--quiet", "--depth=1"], ["--quiet", "--hard"],
    ["--init", "--recursive", "--depth=1"]]

end Git

namespace Remote

variable {cs : List Char}

/-- Nothing is taken off a text that begins with a hyphen, so it has no host part. -/
theorem splitHost_hyphen (cs : List Char) : splitHost ('-' :: cs) = ([], '-' :: cs) := by
  have hopeners : ∀ opening ∈ openings, opening ≠ [] ∧ '-' ∉ Text.lower opening := by decide
  exact splitHost_of_opens_nil (opens_excluded rfl hopeners cs)

theorem splitHost_suffix (cs : List Char) : (splitHost cs).2 <:+ cs := by
  obtain ⟨taken, rest, hopens⟩ := exists_opens openings cs
  obtain ⟨server, after, rfl, -, hcut, -⟩ := exists_server (closesServer_toLower taken) rest
  rw [splitHost_eq hopens, hcut]
  exact (List.suffix_append server after).trans hopens.suffix

end Remote

namespace RemoteRef

variable {text : String} {ref : RemoteRef}

/-- A clone URL is no option: it is read again as a reference with a host part. -/
theorem isOption_cloneUrl (h : parse? text = some ref) : Git.isOption ref.cloneUrl = false := by
  obtain ⟨host, rest, hreads⟩ := exists_reads h
  -- Behind a bare user name a clone URL may be read in another way, but its beginning is known.
  by_cases huser : host = "git@".toList
  · rw [Git.isOption, hreads.toList_cloneUrl, huser]
    rfl
  · cases hurl : ref.cloneUrl.toList with
    | nil => simp [Git.isOption, hurl]
    | cons c more =>
      have hc : c ≠ '-' := by
        rintro rfl
        have hagain := hreads.splitHost_cloneUrl huser
        rw [hurl, splitHost_hyphen] at hagain
        exact hreads.host_ne hagain.symm
      simp [Git.isOption, hurl, hc]

/-- A branch or tag that is an option stands behind its query in the reference. -/
theorem infix_of_isOption {name : String} (h : parse? text = some ref) (href : ref.ref = some name)
    (hoption : Git.isOption name = true) :
    "?ref=-".toList <:+: text.toList ∨ "?version=-".toList <:+: text.toList := by
  obtain ⟨host, rest, hreads⟩ := exists_reads h
  have hcut : (cutRest host rest).ref = some name.toList := by
    rw [hreads.eq] at href
    obtain ⟨cut, hcut, heq⟩ := Option.map_eq_some_iff.1 href
    rw [← heq, String.toList_ofList]
    exact (Option.filter_eq_some_iff.1 hcut).1
  have hname : ∃ more, name.toList = '-' :: more := by
    rw [Git.isOption, beq_iff_eq] at hoption
    cases hlist : name.toList with
    | nil => simp [hlist] at hoption
    | cons c more =>
      rw [hlist] at hoption
      exact ⟨more, by rw [Option.some.inj hoption]⟩
  obtain ⟨more, hmore⟩ := hname
  obtain ⟨query, hquery, hends⟩ := exists_query_of_cutRest hreads.repository_ne hcut
  have hrest : rest <:+ text.toList := by
    have hsuffix := splitHost_suffix text.toList
    rwa [hreads.split] at hsuffix
  have hinside : query ++ ['-'] <:+: text.toList := by
    refine List.IsInfix.trans ?_ (hends.trans hrest).isInfix
    rw [hmore]
    exact ⟨[], more, by simp⟩
  have hcases : query = "?ref=".toList ∨ query = "?version=".toList := by
    simpa [queries] using hquery
  rcases hcases with rfl | rfl
  · exact .inl hinside
  · exact .inr hinside

end RemoteRef

namespace Git

variable {text : String} {ref : RemoteRef}

/-- A git for which every command succeeds. -/
def obliging : Git Unit where
  freshDirectory opening := pure ⟨"/tmp/" ++ opening⟩
  run _ _ s := (.exited true ByteArray.empty, s)
  log _ s := s

/-- A file system in which every path is a directory. -/
def bare : FileSystem Unit where
  locate path := pure ⟨⟨path⟩, none⟩
  read _ := pure ByteArray.empty
  remove _ := pure ()

theorem args_calls_obliging (ref : RemoteRef) :
    (obliging.calls bare ref ()).map Call.args = steps ref := rfl

/-- What is read as options of the commands that fetch a reference: their own, and with the fetch
the branch or tag if it is one. -/
theorem options_steps (h : isOption ref.cloneUrl = false) :
    (steps ref).map options = plainOptions.modify 2 (· ++ options [ref.refOrHead]) := by
  have hremote : options ["remote", "add", "origin", ref.cloneUrl] = [] := by
    have hwords : options ["remote", "add", "origin", ref.cloneUrl] = options [ref.cloneUrl] := rfl
    rw [hwords, options, List.filter_cons, h]
    rfl
  rw [steps, List.map_cons, List.map_cons, hremote]
  rfl

theorem options_steps_eq_iff (h : isOption ref.cloneUrl = false) :
    (steps ref).map options = plainOptions ↔ isOption ref.refOrHead = false := by
  rw [options_steps h]
  cases hoption : isOption ref.refOrHead <;> simp [plainOptions, options, hoption]

theorem isOption_refOrHead_iff :
    isOption ref.refOrHead = false ↔ ∀ name, ref.ref = some name → isOption name = false := by
  rw [RemoteRef.refOrHead]
  cases ref.ref with
  | none => exact iff_of_true rfl (by simp)
  | some name => simp

/-- What a clone gives to git is read as no other options than those of its commands exactly if the
branch or tag does not begin with a hyphen. The clone URL never does, and the branch or tag does not
where no hyphen follows a query of the reference. -/
theorem options_iff (h : RemoteRef.parse? text = some ref) :
    isOption ref.cloneUrl = false ∧
      ((∀ (σ : Type) (git : Git σ) (fs : FileSystem σ) (s : σ),
          (git.calls fs ref s).map (fun call => options call.args) <+: plainOptions) ↔
        ∀ name, ref.ref = some name → isOption name = false) ∧
      (¬ "?ref=-".toList <:+: text.toList → ¬ "?version=-".toList <:+: text.toList →
        ∀ name, ref.ref = some name → isOption name = false) := by
  have hurl := RemoteRef.isOption_cloneUrl h
  refine ⟨hurl, ?_, fun href hversion name hname => ?_⟩
  · rw [← isOption_refOrHead_iff, ← options_steps_eq_iff hurl]
    constructor
    · -- A git for which every command succeeds is given all of them.
      intro hall
      have hprefix : ((obliging.calls bare ref ()).map Call.args).map options <+: plainOptions := by
        rw [List.map_map]
        exact hall Unit obliging bare ()
      rw [args_calls_obliging] at hprefix
      exact hprefix.eq_of_length rfl
    · intro hplain σ git fs s
      have hprefix := (git.args_calls_prefix fs ref s).map options
      rwa [hplain, List.map_map] at hprefix
  · by_cases hoption : isOption name = true
    · exact ((RemoteRef.infix_of_isOption h hname hoption).elim href hversion).elim
    · exact eq_false_of_ne_true hoption

/-- A branch or tag that is none of the options. -/
theorem Sample.tag_plain :
    ∃ ref, RemoteRef.parse? "git::https://git.example.com/org/repo?ref=v1" = some ref ∧
      ∀ (σ : Type) (git : Git σ) (fs : FileSystem σ) (s : σ),
        (git.calls fs ref s).map (fun call => options call.args) <+: plainOptions := by
  have h : RemoteRef.parse? "git::https://git.example.com/org/repo?ref=v1" =
      some ⟨"git::https://git.example.com/org/repo?ref=v1", "https://git.example.com/", "org/repo", "",
        some "v1", false⟩ := by decide +kernel
  have hall := options_iff h
  exact ⟨_, h, hall.2.1.2 (hall.2.2 (by decide +kernel) (by decide +kernel))⟩

/-- What follows the query is given to git as it stands there. -/
theorem Sample.ref_option :
    ∃ ref, RemoteRef.parse? "github.com/org/repo?ref=--upload-pack=touch" = some ref ∧
      ∃ call ∈ obliging.calls bare ref (),
        call.args = ["fetch", "--quiet", "--depth=1", "origin", "--upload-pack=touch"] ∧
          options call.args = ["--quiet", "--depth=1", "--upload-pack=touch"] := by
  let ref : RemoteRef := ⟨"github.com/org/repo?ref=--upload-pack=touch", "https://github.com/",
    "org/repo", "", some "--upload-pack=touch", false⟩
  have hargs : ["fetch", "--quiet", "--depth=1", "origin", "--upload-pack=touch"] ∈
      (obliging.calls bare ref ()).map Call.args := by
    rw [args_calls_obliging]
    decide +kernel
  obtain ⟨call, hcall, heq⟩ := List.mem_map.1 hargs
  refine ⟨ref, by decide +kernel, call, hcall, heq, ?_⟩
  rw [heq]
  decide +kernel

end Git

end OverlayChain
