import ExperimentGroups.Wire.Shape
import ExperimentGroups.Json.Reader
import ExperimentGroups.Json.Printer

/-!
# Documents

A document is the JSON text of a value of some shape.

## Main definitions

* `Wire.Shape.ofText`: reads a document
* `Wire.Shape.toText`: writes a document in a style
-/

namespace ExperimentGroups

namespace Wire

/-- **Reads a document**; a text that is no JSON is one problem, which shows the text. -/
def Shape.ofText {α : Type} (s : Shape α) (document : String) : Checked α :=
  match Json.read? .strict document.toList with
  | some j => s.read .document j
  | none => fail .notJson (.text document)

/-- **Writes a document.** -/
def Shape.toText {α : Type} (s : Shape α) (style : Style) (a : α) : String :=
  (s.write style a).render

end Wire

end ExperimentGroups
