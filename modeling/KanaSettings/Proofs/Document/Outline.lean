import KanaSettings.Proofs.Document.Numbers
import KanaSettings.Proofs.Json.Outline

/-!
# Documents without their numbers

What was stored for a slice has no numbers.  So if a document has the outline of another one, the two
hold the same for each slice that was stored there, and what they hold anywhere else differs in
numbers at most.
-/

namespace KanaSettings.Document

variable {document other : Document}

/-- A document with every number made zero. -/
def outline (document : Document) : Document := document.mapNumbers fun _ => .int 0

@[simp] lemma toJson_outline (document : Document) :
    document.outline.toJson = document.toJson.outline := toJson_mapNumbers _ document

lemma slice?_outline (document : Document) (name : SliceName) :
    document.outline.slice? name = (document.slice? name).map Json.outline :=
  slice?_mapNumbers _ document name

end KanaSettings.Document
