import KanaSettings.Proofs.Document.Distinct
import KanaSettings.Proofs.Slice.Overlay

/-!
# Patches of single fields

A patch with one member sets the field of that name, and a patch with a few members sets these fields.  To
set them on the value itself comes to the same, though the functions that do so look up neither names nor
fields: for the widths of groups and of symbols the one goes by cases and the other through all keys, and of
the choices of the general style each is given or is not.
-/

namespace KanaSettings

namespace Patch

variable {α : Type} [Choice α] {key other : String}

/-- A choice as a member of a patch, if it is given. -/
def given (key : String) (choice : Option α) : Members Json :=
  (choice.map fun a => (key, Choice.encode a)).toList

lemma get?_given (choice : Option α) :
    (given key choice).get? other = if key = other then choice.map Choice.encode else none := by
  cases choice <;> simp [given, Members.get?]

lemma keys_given_sublist (key : String) (choice : Option α) :
    (given key choice).keys.Sublist [key] := by
  cases choice <;> simp [given]

lemma legible_of_mem_given {choice : Option α} {m : String × Json} (mem : m ∈ given key choice) :
    Json.Legible 1 m.2 := by
  cases choice with
  | none => cases mem
  | some a =>
    rw [List.mem_singleton.1 mem]
    exact Slice.legible_encode_choice 1 a

lemma choice_eq_getD {patch : Members Json} {choice : Option α} {ofName? : String → Option α}
    (found : patch.get? key = choice.map Choice.encode)
    (named : ∀ a : α, ofName? (Choice.name a) = some a) (current : α) :
    Patch.choice patch key ofName? current = choice.getD current := by
  rw [Patch.choice, found]
  cases choice with
  | none => rfl
  | some a => simp [Choice.encode, named]

end Patch

namespace General

/-- The patch that sets the choices that are given. -/
def patchOf (punctuation : Option PunctuationStyle) (symbol : Option SymbolStyle)
    (space : Option SpaceInput) (numpad : Option NumpadInput) : Members Json :=
  Patch.given "punctuation_style" punctuation ++ (Patch.given "symbol_style" symbol ++
    (Patch.given "space_input" space ++ Patch.given "numpad_input" numpad))

variable (punctuation : Option PunctuationStyle) (symbol : Option SymbolStyle)
  (space : Option SpaceInput) (numpad : Option NumpadInput)

lemma nodup_keys_patchOf : (patchOf punctuation symbol space numpad).keys.Nodup := by
  have names : (patchOf punctuation symbol space numpad).keys.Sublist
      ["punctuation_style", "symbol_style", "space_input", "numpad_input"] := by
    simp only [patchOf, Members.keys_append]
    exact (Patch.keys_given_sublist _ _).append <| (Patch.keys_given_sublist _ _).append <|
      (Patch.keys_given_sublist _ _).append <| Patch.keys_given_sublist _ _
  exact names.nodup (by decide)

lemma overlay_patchOf (base : General) :
    base.overlay (.object (patchOf punctuation symbol space numpad)) =
      ⟨punctuation.getD base.punctuationStyle, symbol.getD base.symbolStyle,
        space.getD base.spaceInput, numpad.getD base.numpadInput⟩ := by
  have stored (a : SpaceInput) : SpaceInput.ofStoredName? (Choice.name a) = some a := by
    cases a <;> decide
  rw [overlay, mk.injEq]
  refine ⟨Patch.choice_eq_getD ?_ LawfulChoice.ofName?_name _,
    Patch.choice_eq_getD ?_ LawfulChoice.ofName?_name _, Patch.choice_eq_getD ?_ stored _,
    Patch.choice_eq_getD ?_ LawfulChoice.ofName?_name _⟩ <;>
    simp [patchOf, Members.get?_append, Patch.get?_given]

end General

namespace WidthGroups

/-- To set the width of a group is to patch the member with its name. -/
lemma overlay_single (base : WidthGroups) (group : WidthGroup) (mode : WidthMode) :
    base.overlay (.object [(Choice.name group, Choice.encode mode)]) = base.set group mode := by
  have same (other : WidthGroup) :
      (base.overlay (.object [(Choice.name group, Choice.encode mode)])).get other =
        (base.set group mode).get other := by
    rw [get_overlay, get_set, Patch.choice]
    by_cases h : group = other
    · simp [Members.get?, h, Choice.encode]
    · simp [Members.get?, h, Choice.name_injective.ne h]
  refine @Slice.ext_fields .widthGroups rfl _ _ trivial trivial ?_
  simp only [Slice.fields, List.forall_mem_cons]
  exact ⟨same .alphabet, same .number, same .bracket, same .commaPeriod, same .middleDotCornerBracket,
    same .quote, same .colonSemicolon, same .hashGroup, same .tilde, same .mathSymbol,
    same .questionExclamation, List.forall_mem_nil _⟩

end WidthGroups

namespace SymbolWidth

variable {m : SymbolWidth} {key : String}

/-- To set the width of a symbol in a map that has all symbols is to patch the member under its key, and
the result needs no check. -/
lemma canonical_set?_getD (closed : Slice.Closed .symbolWidth m) (known : key ∈ symbols.map Prod.fst)
    (fullwidth : Bool) :
    ((m.set? key fullwidth).getD m).canonical = m.overlay (.object [(key, .bool fullwidth)]) := by
  have known := isSome_standardWidth?_iff.2 known
  refine ext_isFullwidth? fun other => ?_
  have same := closed_iff.1 closed other
  rw [isFullwidth?_canonical, isFullwidth?_set?_getD, isFullwidth?_overlay]
  by_cases symbol : (standardWidth? other).isSome
  · obtain ⟨width, found⟩ := Option.isSome_iff_exists.1 (same.2 symbol)
    by_cases here : key = other <;> simp [symbol, found, here, Patch.flag, Members.get?]
  · simp [symbol, Option.not_isSome_iff_eq_none.1 (mt same.1 symbol)]

end SymbolWidth

end KanaSettings
