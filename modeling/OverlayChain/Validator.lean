import OverlayChain.Action
import OverlayChain.Text.Ascii
import OverlayChain.Text.Pattern
import OverlayChain.Text.Search

/-!
# Validators

The chain carries a validator from its origin to every child, so that the namespace and the
labels of every overlay are held against the same rules.

## Main definitions

- `Validator`: the two checks.
- `Validator.permissive`: accepts everything.
- `Validator.dns1123`: the rules of RFC 1123 labels.
-/

namespace OverlayChain

/-- The checks on values that overlays declare. -/
structure Validator where
  checkNamespace : (name : String) → Except Error Unit
  checkLabel : (key value : String) → Except Error Unit

namespace Validator

/-- The validator that accepts everything. -/
def permissive : Validator where
  checkNamespace _ := .ok ()
  checkLabel _ _ := .ok ()

/-- A lower-case letter or a digit. -/
def isNamespaceEdge (c : Char) : Bool := Text.isLowerLetter c || Text.isDigit c

/-- A lower-case letter, a digit or a hyphen. -/
def isNamespaceInner (c : Char) : Bool := isNamespaceEdge c || c == '-'

/-- A letter or a digit. -/
def isLabelEdge (c : Char) : Bool := Text.isLetter c || Text.isDigit c

/-- A letter, a digit, a hyphen, an underscore or a dot. -/
def isLabelInner (c : Char) : Bool := isLabelEdge c || c == '-' || c == '_' || c == '.'

/-- A namespace: an edge, or an edge, at most 61 characters and an edge. -/
def namespacePattern : Text.Pattern :=
  .andThen (.one isNamespaceEdge)
    (.optional (.andThen (.atMost 61 (.one isNamespaceInner)) (.one isNamespaceEdge)))

/-- A label: nothing, or an edge, or an edge, at most 61 characters and an edge. -/
def labelPattern : Text.Pattern :=
  .optional (.andThen
    (.optional (.andThen (.one isLabelEdge) (.atMost 61 (.one isLabelInner))))
    (.one isLabelEdge))

/-- The number of bytes that a label and the name of a label may have. -/
def labelSize : Nat := 63

/-- Whether a text is short enough for a label, and covered by its pattern. -/
def isLabel (text : String) : Bool :=
  text.utf8ByteSize ≤ labelSize && labelPattern.covers text.toList

/-- The validator that demands RFC 1123 labels. The name of a label is what follows the last
slash of its key; its value may be empty. -/
def dns1123 : Validator where
  checkNamespace name :=
    if namespacePattern.covers name.toList then .ok ()
    else
      .error (.invalidValue "namespace" name
        "must be a lowercase RFC 1123 label of at most 63 characters")
  checkLabel key value :=
    let name := String.ofList (Text.afterLast '/' key.toList)
    if name.isEmpty || !isLabel name then
      .error (.invalidValue "label key" key "invalid label name")
    else if !isLabel value then
      .error (.invalidValue "label value" value "invalid label value")
    else .ok ()

/-- The strict validator or the permissive one. -/
def ofStrictness (strict : Bool) : Validator := if strict then dns1123 else permissive

end Validator

end OverlayChain
