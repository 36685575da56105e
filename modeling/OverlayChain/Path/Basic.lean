import OverlayChain.Text.Utf8

/-!
# Paths

A path is kept exactly as it was written, in bytes that need not be those of a text. Reading it gives
a list of components: empty parts between separators say nothing, and neither does a `.` that is not
at the start.

## Main definitions

- `Name`: a single file name, with the text that shows it.
- `Path`, `Path.components`: the bytes of a path and their reading.
- `Path.join`: a path taken relative to another one, byte for byte.
- `Path.isWithin`: being at or below another path, compared component by component.
-/

namespace OverlayChain

/-- A text stands for its bytes. -/
instance Text.coeBytes : Coe String (List UInt8) := ⟨Text.encode⟩

/-- The byte between the parts of a path. -/
abbrev slash : UInt8 := '/'.toUInt8

/-- Bytes that name one entry of a directory. -/
def IsName (bytes : List UInt8) : Prop :=
  bytes ≠ [] ∧ bytes ≠ Text.encode "." ∧ bytes ≠ Text.encode ".." ∧ slash ∉ bytes

instance (bytes : List UInt8) : Decidable (IsName bytes) :=
  inferInstanceAs (Decidable (_ ∧ _ ∧ _ ∧ _))

/-- The name of one entry of a directory. -/
structure Name where
  bytes : List UInt8
  valid : IsName bytes
  deriving DecidableEq

namespace Name

/-- Read bytes as a name. -/
def ofBytes? (bytes : List UInt8) : Option Name :=
  if h : IsName bytes then some ⟨bytes, h⟩ else none

/-- The text that shows a name. -/
def text (name : Name) : String := Text.decode name.bytes

@[ext] theorem ext {a b : Name} (h : a.bytes = b.bytes) : a = b := by
  cases a; cases b; cases h; rfl

@[simp] theorem ofBytes?_bytes (name : Name) : ofBytes? name.bytes = some name := by
  simp [ofBytes?, name.valid]

end Name

/-- What one part of a path says. -/
inductive Component where
  /-- Start at the root of the file system. -/
  | root
  /-- Stay. -/
  | here
  /-- Go to the parent. -/
  | up
  /-- Go to an entry. -/
  | named (name : Name)
  deriving DecidableEq

/-- The reading of a part between two separators. -/
def Component.ofPart? (part : List UInt8) : Option Component :=
  if part = Text.encode ".." then some .up else (Name.ofBytes? part).map .named

/-- A path exactly as it was written. -/
structure Path where
  bytes : List UInt8
  deriving DecidableEq, Inhabited

namespace Path

/-- The path of the root directory. -/
def root : Path := ⟨"/"⟩

/-- The text that shows a path. -/
def text (p : Path) : String := Text.decode p.bytes

/-- A path that starts at the root. -/
def isAbsolute (p : Path) : Bool := p.bytes.head? == some slash

/-- The components of a path. -/
def components (p : Path) : List Component :=
  match p.bytes.splitOn slash with
  | [] :: part :: parts => .root :: (part :: parts).filterMap Component.ofPart?
  -- A `.` alone.
  | [0x2e] :: parts => .here :: parts.filterMap Component.ofPart?
  | parts => parts.filterMap Component.ofPart?

/-- `q` taken relative to `p`, byte for byte: an absolute `q` stands alone. -/
def join (p q : Path) : Path :=
  if q.isAbsolute then q
  else if p.bytes.isEmpty || p.bytes.getLast? == some slash then ⟨p.bytes ++ q.bytes⟩
  else ⟨p.bytes ++ slash :: q.bytes⟩

/-- `p` is `q` or lies below it, compared component by component. -/
def isWithin (p q : Path) : Bool := q.components.isPrefixOf p.components

instance : ToString Path := ⟨text⟩

end Path

end OverlayChain
