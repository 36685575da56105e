import OverlayChain.Path.Basic

/-!
# The lexical normal form of a path

Reading a path component by component, without looking at any file system, leads either to a
place below the root, or to a place some levels above the starting point and then down. At the
root `..` stays at the root.

## Main definitions

- `Location`: a place below the root.
- `Location.walk`: the place that a path leads to from another place.
- `Lexical`: the place that a path leads to from an unknown start.
- `Path.clean`: the shortest spelling of the same place.
-/

namespace OverlayChain

/-- A place given by the names that lead to it from the root. -/
abbrev Location := List Name

/-- The place that a path leads to from an unknown start: below the root, or `ups` levels above
the start and then down along `names`. -/
inductive Lexical where
  | absolute (names : Location)
  | relative (ups : Nat) (names : List Name)
  deriving DecidableEq

namespace Location

/-- The place one component further. -/
def step (place : Location) : Component → Location
  | .root => []
  | .here => place
  | .up => place.dropLast
  | .named n => place ++ [n]

/-- The place that a path leads to from `place`. -/
def walk (place : Location) (p : Path) : Location := p.components.foldl step place

/-- `place` is `top` or lies below it. -/
def isWithin (place top : Location) : Bool := top.isPrefixOf place

/-- The path that leads to a place from the root. -/
def path (place : Location) : Path := ⟨slash :: [slash].intercalate (place.map Name.bytes)⟩

/-- The directory that holds a place, and the place's name in it. The root has none. -/
def split? (place : Location) : Option (Location × Name) :=
  place.getLast?.map fun name => (place.dropLast, name)

end Location

namespace Lexical

/-- The place one component further. -/
def step : Lexical → Component → Lexical
  | _, .root => .absolute []
  | place, .here => place
  | .absolute names, .up => .absolute names.dropLast
  | .relative ups names, .up =>
    if names.isEmpty then .relative (ups + 1) [] else .relative ups names.dropLast
  | .absolute names, .named n => .absolute (names ++ [n])
  | .relative ups names, .named n => .relative ups (names ++ [n])

/-- The shortest path that leads to a place. -/
def path : Lexical → Path
  | .absolute names => Location.path names
  | .relative ups names =>
    match List.replicate ups (Text.encode "..") ++ names.map Name.bytes with
    | [] => ⟨"."⟩
    | parts => ⟨[slash].intercalate parts⟩

end Lexical

namespace Path

/-- The place that a path leads to. -/
def lexical (p : Path) : Lexical := p.components.foldl Lexical.step (.relative 0 [])

/-- The shortest spelling of the place that a path leads to. -/
def clean (p : Path) : Path := p.lexical.path

end Path

end OverlayChain
