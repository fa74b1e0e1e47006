import KanaSettings.Proofs.Json.Legible
import KanaSettings.Proofs.Wire.Message

/-!
# Legible messages

What makes a message come out of its payload can be said of the JSON value that it is written as:
no object in it has a name twice, its numbers read back, and it nests no deeper than a reader goes.
That goes for every request and every response.
-/

namespace KanaSettings

open Json (Reader spell Legible maxDepth)

/-! ## Reports -/

namespace Capabilities

open Json (Layout)
open Json.Reader (Ends)

lemma bool_spell (flag : Bool) (rest : List Char) :
    Reader.bool (spell .compact (.bool flag) ++ rest) = some (flag, rest) := by
  cases flag <;>
    simp [spell, Reader.bool, Reader.skipBlanks_cons, Reader.isBlank, Reader.keyword, Reader.after?]

/-- How a field of a report is written. -/
def spellField (field : String × Option Bool) : List Char :=
  Layout.compact.spellMember field.1 (spell .compact (.bool (field.2.getD false)))

lemma readsBack_field {key : String} (known : key = "cpu" ∨ key = "cuda" ∨ key = "vulkan")
    (flag : Bool) (mark : Option Char) (bound : Nat) :
    Json.ReadsAs (Reader.member (field mark bound)) spellField '\x7d' (key, some flag)
      (id (key, some flag)) := by
  refine ⟨fun rest _ => ?_, _, _, rfl, rfl, by decide⟩
  have name := Reader.string_spellText key (':' :: (spell .compact (.bool flag) ++ rest))
  simp [Reader.member, spellField, Layout.spellMember, Layout.colon, Reader.skipBlanks_spellText,
    name, Reader.skipBlanks_cons (c := ':') rfl, field, known, Reader.map, bool_spell]

/-- A report reads as itself. -/
theorem reader_encode (report : Capabilities) (mark : Option Char) {bound : Nat} (long : 3 ≤ bound)
    (rest : List Char) :
    reader mark bound (spell .compact report.encode ++ rest) = some (report, rest) := by
  obtain ⟨cpu, cuda, vulkan⟩ := report
  have each : ∀ f ∈ [("cpu", some cpu), ("cuda", some cuda), ("vulkan", some vulkan)],
      Json.ReadsAs (Reader.member (field mark bound)) spellField '\x7d' f (id f) := by
    simp only [List.forall_mem_cons, List.not_mem_nil, false_implies, implies_true, and_true]
    exact ⟨readsBack_field (by simp) _ _ _, readsBack_field (by simp) _ _ _,
      readsBack_field (by simp) _ _ _⟩
  obtain ⟨body, whole, read⟩ := Json.list_enclose '\x7b' id (Json.skips_member (field mark bound))
    ⟨rfl, rfl, by decide⟩ .compact each long
  have spelled : spell .compact (encode ⟨cpu, cuda, vulkan⟩) = '\x7b' :: body := by
    rw [← whole]
    simp [encode, spell, spellField, Layout.deeper]
  rw [spelled, List.cons_append]
  simp [reader, Reader.fields, Reader.skipBlanks_cons (c := '\x7b') rfl, Reader.members, read,
    ofFields?, Members.only?]

end Capabilities

namespace Wire

/-- A report comes out of its payload. -/
theorem Response.ofPayload?_capabilities (report : Capabilities) :
    ofPayload? (payload (capabilities report).encode) = some (capabilities report) := by
  rw [response_ofPayload?, parse?, Json.toList_compact]
  have known (bound : Nat) : data? none bound "Capabilities" =
      some ((Capabilities.reader none bound).map capabilities) := by
    simp [data?]
  refine run_variant_object (known _) ?_
  have long : 3 ≤ (spell .compact (encode (capabilities report))).length := by
    rw [encode, spell_variant]
    simp only [List.length_cons, List.length_append]
    omega
  simp [Reader.map, report.reader_encode none long]

/-! ## Messages that read back -/

/-- The data of a message is as legible as the message, and leaves one level to it. -/
lemma legible_data {name : String} {v : Json} (h : Legible maxDepth (.object [(name, v)])) :
    Legible (maxDepth - 1) v := by
  obtain ⟨below, deep, -, each⟩ := Json.legible_object.1 h
  rw [deep]
  exact each (name, v) List.mem_cons_self

lemma Request.ofPayload?_of_legible (request : Request) (legible : Legible maxDepth request.encode) :
    ofPayload? (payload request.encode) = some request := by
  refine Request.ofPayload?_encode request ?_
  rintro v rfl
  obtain ⟨distinct, numbers, nesting⟩ := legible_data legible
  exact ⟨distinct, numbers, nesting⟩

lemma Response.ofPayload?_of_legible (response : Response) (legible : Legible maxDepth response.encode) :
    ofPayload? (payload response.encode) = some response := by
  cases response with
  | document v =>
    obtain ⟨distinct, numbers, nesting⟩ := legible_data legible
    exact ofPayload?_document distinct numbers nesting
  | replaced => exact ofPayload?_replaced
  | capabilities report => exact ofPayload?_capabilities report
  | ready =>
    rw [response_ofPayload?, parse?, Json.toList_compact]
    exact run_variant_text _
  | error message => exact ofPayload?_error message

end Wire

end KanaSettings
