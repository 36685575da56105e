import OverlayChain.FileSystem

/-!
# Read policies

A policy decides which files a loader may read. It is chosen at the origin of a chain and
inherited by local children; a loader rooted in a clone is always confined.

## Main definitions

- `ReadPolicy`: confined to the root, or unrestricted.
- `ReadPolicy.parse`: the policy that a text names.
- `ReadPolicy.permit`: the path to read, or why it is refused.
-/

namespace OverlayChain

/-- Which files a loader may read. -/
inductive ReadPolicy where
  /-- Only files at or below the root. -/
  | confined
  /-- Every file. -/
  | unrestricted
  deriving DecidableEq, Inhabited

namespace ReadPolicy

/-- The policy in force when none is asked for. -/
def standard : ReadPolicy := confined

/-- The name under which a policy is shown and asked for. -/
def name : ReadPolicy → String
  | confined => "root-only"
  | unrestricted => "none"

/-- The name of a policy in the inspection of a loader. -/
def inspected : ReadPolicy → String
  | confined => "RootOnly"
  | unrestricted => "Unrestricted"

/-- The policy that a text names. -/
def parse (text : String) : Except Error ReadPolicy :=
  if text ∈ ["root-only", "rootOnly", "LoadRestrictionsRootOnly"] then .ok confined
  else if text ∈ ["none", "LoadRestrictionsNone"] then .ok unrestricted
  else .error (.invalidValue "load restrictor" text "expected 'root-only' or 'none'")

/-- Reading a shown name gives the policy back. -/
theorem parse_name (policy : ReadPolicy) : parse policy.name = .ok policy := by
  cases policy <;> simp [parse, name]

/-- The path to read for `path`. A confined loader resolves the path first, so that neither `..`
nor a link leads out of the root. -/
def permit {σ : Type} (policy : ReadPolicy) (fs : FileSystem σ) (root : Directory) (path : Path) :
    Action σ Path :=
  match policy with
  | unrestricted => pure path
  | confined => do
    let found ← fs.locate path
    match found.file with
    | none => throw (.notAFile path)
    | some file =>
      if found.dir.isWithin root.path then return found.dir.join ⟨file⟩
      else throw (.outsideRoot path root.path)

end ReadPolicy

end OverlayChain
