import KanaSettings.Json.Printer
import Mathlib.Tactic

/-!
# The characters of a value

The printer appends to a text what it writes.  Here is what it appends, for each value by itself:
`spell` is a list of characters put together from those of the parts, and `toList_writeOnto` says
that these are the ones which are written.
-/

namespace KanaSettings.Json

/-! ## Induction -/

lemma sizeOf_item {items : List Json} {item : Json} (h : item ∈ items) :
    sizeOf item < sizeOf (array items) := by
  have := List.sizeOf_lt_of_mem h
  simp only [array.sizeOf_spec]
  omega

lemma sizeOf_member {members : List (String × Json)} {member : String × Json}
    (h : member ∈ members) : sizeOf member.2 < sizeOf (object members) := by
  have := List.sizeOf_lt_of_mem h
  have : sizeOf member = 1 + sizeOf member.1 + sizeOf member.2 := Prod.mk.sizeOf_spec _ _
  simp only [object.sizeOf_spec]
  omega

/-- Induction on values, with every part at hand. -/
@[elab_as_elim]
theorem induction {motive : Json → Prop} (null : motive .null)
    (bool : ∀ value, motive (.bool value)) (number : ∀ value, motive (.number value))
    (string : ∀ value, motive (.string value))
    (array : ∀ items, (∀ item ∈ items, motive item) → motive (.array items))
    (object : ∀ members, (∀ member ∈ members, motive member.2) → motive (.object members)) :
    ∀ value, motive value
  | .null => null
  | .bool value => bool value
  | .number value => number value
  | .string value => string value
  | .array items => array items fun item _ =>
    induction null bool number string array object item
  | .object members => object members fun member _ =>
    induction null bool number string array object member.2
termination_by value => sizeOf value
decreasing_by
  · exact sizeOf_item ‹_›
  · exact sizeOf_member ‹_›

/-! ## What is written -/

/-- A quoted text. -/
def spellText (text : String) : List Char := '"' :: text.toList.flatMap escape ++ ['"']

/-- A part after another one. -/
def Layout.next (layout : Layout) (part : List Char) : List Char := ',' :: (layout.lineBreak ++ part)

/-- Parts between two brackets, with commas between them. -/
def Layout.enclose (layout : Layout) (opening closing : Char) : List (List Char) → List Char
  | [] => [opening, closing]
  | part :: parts =>
    opening :: (layout.deeper.lineBreak ++ (part ++
      (parts.flatMap layout.deeper.next ++ (layout.lineBreak ++ [closing]))))

/-- A name, and a value after it. -/
def Layout.spellMember (layout : Layout) (name : String) (value : List Char) : List Char :=
  spellText name ++ layout.colon ++ value

/-- A value. -/
def spell (layout : Layout) : Json → List Char
  | .null => "null".toList
  | .bool value => (if value then "true" else "false").toList
  | .number value => value.text.toList
  | .string value => spellText value
  | .array items => layout.enclose '[' ']' (items.map fun item => spell layout.deeper item)
  | .object members => layout.enclose '\x7b' '\x7d'
    (members.map fun member => layout.deeper.spellMember member.1 (spell layout.deeper member.2))
termination_by value => sizeOf value
decreasing_by
  · exact sizeOf_item ‹_›
  · exact sizeOf_member ‹_›

/-! ## It is what the printer writes -/

@[simp] lemma toList_pushAll (out : String) (cs : List Char) :
    (pushAll out cs).toList = out.toList ++ cs := by
  induction cs generalizing out with
  | nil => simp [pushAll]
  | cons c cs ih => simpa [pushAll] using ih (out.push c)

lemma toList_quoteOnto (text out : String) :
    (quoteOnto text out).toList = out.toList ++ spellText text := by
  have escaped (cs : List Char) (out : String) :
      (cs.foldl (fun out c => (escape c).foldl String.push out) out).toList =
        out.toList ++ cs.flatMap escape := by
    induction cs generalizing out with
    | nil => simp
    | cons c cs ih =>
      rw [List.foldl_cons, ih, ← pushAll, toList_pushAll, List.flatMap_cons, List.append_assoc]
  simp [quoteOnto, String.foldl_eq_foldl_toList, escaped, spellText]

section

variable {layout : Layout}

lemma toList_writeItems (items : List Json)
    (each : ∀ item ∈ items, ∀ out,
      (writeOnto layout item out).toList = out.toList ++ spell layout item) (out : String) :
    (writeItems layout items false out).toList =
      out.toList ++ (items.map (spell layout)).flatMap layout.next := by
  induction items generalizing out with
  | nil => simp [writeItems]
  | cons item items ih =>
    obtain ⟨first, others⟩ := List.forall_mem_cons.1 each
    simp [writeItems, ih others, first, Layout.next]

lemma toList_writeMembers (members : List (String × Json))
    (each : ∀ member ∈ members, ∀ out,
      (writeOnto layout member.2 out).toList = out.toList ++ spell layout member.2) (out : String) :
    (writeMembers layout members false out).toList =
      out.toList ++
        (members.map fun member => layout.spellMember member.1 (spell layout member.2)).flatMap
          layout.next := by
  induction members generalizing out with
  | nil => simp [writeMembers]
  | cons member members ih =>
    obtain ⟨first, others⟩ := List.forall_mem_cons.1 each
    simp [writeMembers, ih others, first, toList_quoteOnto, Layout.spellMember, Layout.next]

end

/-- What the printer appends. -/
theorem toList_writeOnto (value : Json) (layout : Layout) (out : String) :
    (writeOnto layout value out).toList = out.toList ++ spell layout value := by
  induction value using induction generalizing layout out with
  | null => simp [writeOnto, spell]
  | bool value => cases value <;> simp [writeOnto, spell]
  | number value => simp [writeOnto, spell]
  | string value => simp [writeOnto, spell, toList_quoteOnto]
  | array items ih =>
    cases items with
    | nil => simp [writeOnto, spell, Layout.enclose]
    | cons item items =>
      obtain ⟨first, others⟩ := List.forall_mem_cons.1 ih
      simp [writeOnto, writeItems, spell, Layout.enclose, first,
        toList_writeItems items fun item mem => others item mem layout.deeper]
  | object members ih =>
    cases members with
    | nil => simp [writeOnto, spell, Layout.enclose]
    | cons member members =>
      obtain ⟨first, others⟩ := List.forall_mem_cons.1 ih
      simp [writeOnto, writeMembers, spell, Layout.enclose, Layout.spellMember, first,
        toList_quoteOnto, toList_writeMembers members fun member mem => others member mem _]

lemma toList_compact (value : Json) : value.compact.toList = spell .compact value := by
  simp [compact, toList_writeOnto]

lemma toList_pretty (value : Json) : value.pretty.toList = spell (.indented 0) value := by
  simp [pretty, toList_writeOnto]

end KanaSettings.Json
