import OverlayChain.Overlay.Tree

/-!
# Trees as text

A tree of labels is drawn with one label a line. Lines to the left of a label show which labels
above still have others to come.

## Main definitions

- `Outline`: a tree of labels.
- `Outline.lines`: its drawing.
- `Outline.ofTree`: the labels of a resolved overlay, down to a depth.
-/

namespace OverlayChain

/-- A tree of labels. -/
inductive Outline where
  | item (label : String) (items : List Outline)

namespace Outline

mutual

/-- The lines of a tree. The first begins with `opening`, all others with `margin`. -/
def lines (opening margin : String) : Outline → List String
  | item label items => (opening ++ label) :: linesOfAll margin items

/-- The lines of trees that stand below one label. The last of them closes the branch. -/
def linesOfAll (margin : String) : List Outline → List String
  | [] => []
  | [last] => lines (margin ++ "└─ ") (margin ++ "   ") last
  | first :: rest => lines (margin ++ "├─ ") (margin ++ "│  ") first ++ linesOfAll margin rest

end

/-- The drawing of a tree. -/
def text (outline : Outline) : String :=
  String.join ((lines "" "" outline).map fun line => line ++ "\n")

/-- The label of an overlay: its root, where it was cloned from, and its namespace. -/
def labelOf (overlay : Overlay.Resolved) : String :=
  let remote := match overlay.remote with
    | some remote => s!" ({remote})"
    | none => ""
  let name := match overlay.namespaceName with
    | some name => s!" [namespace: {name}]"
    | none => ""
  overlay.root.text ++ remote ++ name

/-- The label of a file that an overlay read. -/
def labelOfFile (file : Overlay.LoadedFile) : String := s!"{file.path} ({file.size} bytes)"

mutual

/-- The labels of a resolved overlay, with `depth` levels below it; without a depth, all. The files
of an overlay come before the overlays that it is based on. -/
def ofTree (depth : Option Nat) : Overlay.Tree → Outline
  | .node overlay bases =>
    if depth == some 0 then item (labelOf overlay) []
    else
      let files := overlay.files.map fun file => item (labelOfFile file) []
      item (labelOf overlay) (files ++ ofTrees (depth.map (· - 1)) bases)

/-- The labels of resolved overlays. -/
def ofTrees (depth : Option Nat) : List Overlay.Tree → List Outline
  | [] => []
  | tree :: trees => ofTree depth tree :: ofTrees depth trees

end

end Outline

end OverlayChain
