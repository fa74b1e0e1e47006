import KanaSettings.Proofs.Document.Aged
import KanaSettings.Proofs.Json.Written
import KanaSettings.Proofs.Store.File

/-!
# Files with one number in them

A number that somebody has typed may be kept as one that is written with another token, and read
from that as yet another number.  The smallest files with such a number show what it does.
-/

namespace KanaSettings

namespace Json

/-- A text that stands for a value wherever so many levels are left. -/
def Stands (text : List Char) (value : Json) (levels : Nat) : Prop :=
  ∀ bound, text.length ≤ bound → ∀ depth, levels ≤ depth → ∀ rest, Reader.Ends rest →
    Reader.value bound depth (text ++ rest) = some (value, rest)

/-- The text of an object with one member, whose value is spelled in some way. -/
def lone (key : String) (value : List Char) : List Char :=
  Layout.compact.enclose '\x7b' '\x7d' [Layout.compact.spellMember key value]

namespace Stands

variable {text : List Char} {value : Json} {levels : Nat}

lemma number {n : Number} {c : Char} {cs : List Char} (first : c = '-' ∨ c.isDigit)
    (read : Reader.number (c :: cs) = some (n, [])) : Stands (c :: cs) (.number n) 0 :=
  fun _ _ _ _ _ ends => value_of_number first read ends

lemma lone (h : Stands text value levels) (key : String) :
    Stands (lone key text) (.object [(key, value)]) (levels + 1) := by
  intro bound long depth deep rest ends
  obtain ⟨depth, rfl⟩ := Nat.exists_eq_add_of_le' (Nat.zero_lt_succ levels |>.trans_le deep)
  have inner : text.length ≤ (Json.lone key text).length := by
    simp only [Json.lone, Layout.enclose, Layout.spellMember, List.length_cons, List.length_append]
    omega
  have some : 1 ≤ (Json.lone key text).length := by simp [Json.lone, Layout.enclose]
  exact value_single key (some.trans long) (h bound (inner.trans long) depth (by omega)) rest

lemma parse? (h : Stands text value levels) (few : levels ≤ maxDepth) :
    parse? (String.ofList text) = some value := by
  have read := h text.length le_rfl maxDepth few [] (by rintro c ⟨⟩)
  rw [List.append_nil] at read
  simp [Json.parse?, Reader.run, read]

end Stands

end Json

namespace Number

/-- Three times ten to the thirtieth, when it is read from thirty times ten to the twenty-ninth. -/
def thirty : Number := .double ⟨false, 5329070518200751, 1123, by decide, by decide, by decide⟩

lemma not_readsBack_thirty : ¬ thirty.ReadsBack := by
  unfold ReadsBack
  decide +kernel

lemma token_reread_thirty_ne : thirty.reread.token ≠ thirty.token := by decide +kernel

lemma reread_thirty_ne : thirty.reread ≠ thirty :=
  fun same => token_reread_thirty_ne (congrArg token same)

lemma stands_thirty : Json.Stands "30e29".toList (.number thirty) 0 :=
  .number (.inr rfl) (by decide +kernel)

end Number

namespace Document

/-- A document with one number in it. -/
def single (n : Number) : Document := ⟨[("x", .number n)]⟩

lemma aged_single (n : Number) : (single n).aged 1 = single n.reread := by
  simp [single, aged, mapNumbers, Json.mapNumbers]

end Document

namespace SettingsFile

/-- A tree with nothing but a file in it. -/
def shelf (text : List Char) : FileTree :=
  FileTree.empty.set ["s"] (.file (String.ofList text).toUTF8)

lemma read_shelf (text : List Char) :
    (shelf text).read ⟨"s"⟩ = .ok (String.ofList text).toUTF8 := rfl

lemma read_shelf_ne (text : List Char) : (shelf text).read ⟨"s"⟩ ≠ .error .notFound := by
  simp [read_shelf]

lemma load_shelf (document : Document) {text : List Char} {levels : Nat}
    (stands : Json.Stands text document.toJson levels) (few : levels ≤ Json.maxDepth) :
    load ⟨⟨"s"⟩⟩ (shelf text) = .ok document := by
  rw [load, read_shelf]
  exact decode_eq_ok.2 ⟨_, fromUTF8?_toUTF8 _, stands.parse? few⟩

/-- Contents show the token of the number. -/
lemma encode_single_ne {n m : Number} (other : n.token ≠ m.token) (value : SliceName.Value .general) :
    encode ((Document.single n).write .general value) ≠
      encode ((Document.single m).write .general value) := by
  intro same
  have shallow (n : Number) :
      ((Document.single n).write .general value).toJson.nesting ≤ Json.maxDepth := by
    have distinct : (Document.single n).Distinct := by
      simp [Document.single, Document.Distinct, Document.toJson, Json.Distinct]
    have deep : (Document.single n).toJson.nesting ≤ 123 + 4 := by
      simp [Document.single, Document.toJson, Json.nesting]
    exact Document.nesting_write distinct deep _ _
  have text := fromUTF8?_toUTF8 ((Document.single n).write .general value).toJson.pretty
  rw [encode, encode] at same
  rw [same, fromUTF8?_toUTF8, Option.some.injEq] at text
  have spelled := Json.spelled?_pretty (shallow n)
  rw [← text, Json.spelled?_pretty (shallow m)] at spelled
  have members (n : Number) : ((Document.single n).write .general value).toJson =
      .object [("x", .number n), ("general", Slice.encode .general value)] := rfl
  simp [members, Json.written] at spelled
  exact other spelled.symm

end SettingsFile

end KanaSettings
