import KanaSettings.Proofs.Editor.Session
import KanaSettings.Proofs.Json.Kept
import KanaSettings.Proofs.Json.Place
import KanaSettings.Proofs.Store.Shelf

/-!
# What an edit makes of the numbers around it

An edit of a slice reads the whole file and writes all of it again.  So every number token in the file
that has nothing to do with the slice is replaced by the token that is written for the number which is
kept for it.  Whole numbers in range stay what they are.  Other numbers need not: a long one comes out
as another one.
-/

namespace KanaSettings

open Json (Step Written)

/-! ## Places apart from a slice -/

/-- A place that has nothing to do with a slice: it is under another top-level key, or under another
key of the slice's container. -/
inductive SliceName.Apart (name : SliceName) : List Step → Prop where
  | top {key : String} {place : List Step} (other : key ≠ name.path.1) :
      Apart name (.member key :: place)
  | sibling {own key : String} {place : List Step} (nested : name.path.2 = some own)
      (other : key ≠ own) : Apart name (.member name.path.1 :: .member key :: place)

namespace Document

/-- To store a value of a slice changes nothing at such a place. -/
lemma at?_write_of_apart {document : Document} {name : SliceName} {place : List Step} {found : Json}
    (apart : name.Apart place) (there : document.toJson.at? place = some found)
    (value : name.Value) : (document.write name value).toJson.at? place = some found := by
  rw [toJson] at there ⊢
  cases apart with
  | top other =>
    rw [Json.at?] at there ⊢
    rw [Document.write, get?_put_of_container_ne other]
    exact there
  | @sibling own key place nested other =>
    have path : name.path = (name.path.1, some own) := Prod.ext rfl nested
    rw [Json.at?] at there ⊢
    obtain ⟨container, held, there⟩ := Option.bind_eq_some_iff.1 there
    rw [Document.write, get?_put_of_path path, Option.bind_some]
    cases container with
    | object members =>
      rw [held, containerMembers]
      rw [Json.at?] at there ⊢
      rw [Members.get?_put_of_ne other.symm]
      exact there
    | _ => cases there

end Document

/-! ## Files -/

/-- What an edit of a slice makes of the numbers in a text. -/
structure KeepsNumerals (name : SliceName) (before after : String) : Prop where
  /-- Both texts spell a value, and a number token at a place apart from the slice is replaced by what
  is written for the number that is kept for it. -/
  spelled : ∃ old new, Json.spelled? before = some old ∧ Json.spelled? after = some new ∧
    ∀ place token, name.Apart place → old.at? place = some (.number token) →
      ∃ other, new.at? place = some (.number other) ∧ token.Becomes other

namespace SettingsFile

variable {file : SettingsFile} {document : Document} {tree : FileTree}

lemma parse?_of_load {text : String} (holds : tree.read file.path = .ok text.toUTF8)
    (loads : file.load tree = .ok document) : Json.parse? text = some document.toJson := by
  rw [load, holds] at loads
  obtain ⟨other, valid, parsed⟩ := decode_eq_ok.1 loads
  rw [fromUTF8?_toUTF8] at valid
  cases valid
  exact parsed

/-- A text that is loaded is kept, but for the slice that is stored. -/
theorem keepsNumerals_write {text : String} (holds : tree.read file.path = .ok text.toUTF8)
    (loads : file.load tree = .ok document) (name : SliceName) (value : name.Value) :
    KeepsNumerals name text (document.write name value).toJson.pretty := by
  have parsed := parse?_of_load holds loads
  have distinct := distinct_of_load loads
  obtain ⟨rest, reads⟩ := Json.value_of_parse? parsed
  have deep := Document.nesting_write distinct (Json.nesting_le_of_value reads) name value
  obtain ⟨old, spells, keeps⟩ := Json.exists_spelled_of_parse? parsed
  refine ⟨old, _, spells, Json.spelled?_pretty deep, fun place token apart there => ?_⟩
  obtain ⟨kept, stands, keeps⟩ := Json.exists_at?_of_keeps keeps there
  cases keeps with
  | @number _ n kept =>
    have stays := Document.at?_write_of_apart apart stands value
    have written := Json.at?_written (distinct.write name value) stays
    rw [Json.written] at written
    exact ⟨n.token, written, Json.Numeral.becomes_token kept⟩

end SettingsFile

/-! ## Sessions -/

namespace Session

lemma exists_keepsNumerals {file : SettingsFile} {call : Finished (FileTree × List (Option Fault))}
    (carried : call.Carried file.faulty Prod.fst) {name : SliceName} {value : name.Value}
    (answer : call.answer = .ok (.value name value)) :
    ∃ after, call.after.1.read file.path = .ok after.toUTF8 ∧
      ∀ before, call.before.1.read file.path = .ok before.toUTF8 →
        KeepsNumerals name before after := by
  obtain ⟨ticket, call, before, after, given, snapshot⟩ := call
  cases answer
  cases carried with
  | written halfway replace =>
    cases halfway with
    | @intro _ _ _ _ _ _ fetched _ lull fetch edit pause =>
      have loads : file.load before.1 = .ok fetched := by
        rw [← lull]
        exact congrArg Prod.fst fetch
      have saved := SettingsFile.replace_of_save_eq_ok (SettingsFile.save_of_faulty replace)
      refine ⟨_, FileTree.read_of_replace saved, fun text holds => ?_⟩
      exact SettingsFile.keepsNumerals_write holds loads name value

/-- Whatever happens in a session with a file that nobody else changes, an edit of a slice that
succeeds replaces every number token in the file that is apart from the slice by the token that is
written for the number which is kept for it. -/
theorem keepsNumerals_run (file : SettingsFile) (disk : FileTree × List (Option Fault))
    {actions : List (Action (FileTree × List (Option Fault)))}
    (alone : ∀ action ∈ actions, action.Keeps Prod.fst) :
    ∀ call ∈ ((fresh disk).run file.faulty actions).finished, ∀ name value,
      call.answer = .ok (.value name value) →
      ∃ after, call.after.1.read file.path = .ok after.toUTF8 ∧
        ∀ before, call.before.1.read file.path = .ok before.toUTF8 →
          KeepsNumerals name before after := by
  intro call mem name value answer
  have carried := (sound_run file.faulty Prod.fst disk alone).carried call mem
  exact exists_keepsNumerals carried answer

/-! ## A file with one number in it -/

/-- An edit from its beginning to its end. -/
def edit : List (Action (FileTree × List (Option Fault))) :=
  [.submit (.edit .general .settled), .acquire 0, .advance, .advance]

lemma run_edit {text : List Char} {n : Number} (stands : Json.Stands text (.number n) 0) :
    ∃ call, ((fresh (SettingsFile.shelf (Json.lone "a" text), [])).run
        (SettingsFile.faulty ⟨⟨"s"⟩⟩) edit).finished = [call] ∧
      call.answer = .ok (.value .general .standard) ∧
      call.before.1.read ⟨"s"⟩ = .ok (String.ofList (Json.lone "a" text)).toUTF8 := by
  have load := SettingsFile.load_shelf ⟨[("a", .number n)]⟩ (stands.lone "a") (by decide)
  have fetch : (SettingsFile.faulty ⟨⟨"s"⟩⟩).fetch (SettingsFile.shelf (Json.lone "a" text), []) =
      (.ok ⟨[("a", .number n)]⟩, (SettingsFile.shelf (Json.lone "a" text), [])) :=
    congrArg (fun result => (result, _)) load
  simp only [edit, Session.run, List.foldl_cons, List.foldl_nil, act, fresh, ended, Action.perform,
    Action.grant?, Editor.fresh, Editor.submit, Editor.acquire, Editor.start, Editor.grant?,
    Editor.remember, Editor.enter, Editor.note, Editor.advance, fetch, Editor.fetched]
  exact ⟨_, rfl, rfl, rfl⟩

lemma alone_edit : ∀ action ∈ edit, action.Keeps Prod.fst := by simp [edit, Action.Keeps]

lemma apart_a : SliceName.Apart .general [.member "a"] := .top (by decide)

/-- A whole number is still there after an edit. -/
theorem keepsNumerals_run_seven : ∃ after new other, Json.spelled? after = some new ∧
    (∃ call ∈ ((fresh (SettingsFile.shelf (Json.lone "a" ['7']), [])).run
        (SettingsFile.faulty ⟨⟨"s"⟩⟩) edit).finished,
      call.after.1.read ⟨"s"⟩ = .ok after.toUTF8) ∧
    new.at? [.member "a"] = some (.number other) ∧ other.value = 7 := by
  have stands : Json.Stands ['7'] (.number (.int 7)) 0 := .number (.inr rfl) rfl
  obtain ⟨call, ran, answer, holds⟩ := run_edit stands
  have mem := ran ▸ List.mem_singleton_self call
  obtain ⟨after, saved, keeps⟩ := keepsNumerals_run ⟨⟨"s"⟩⟩ _ alone_edit call mem .general _ answer
  obtain ⟨old, new, spells, written, each⟩ := (keeps _ holds).spelled
  have seven : Json.spelled? (String.ofList (Json.lone "a" ['7'])) =
      some (.object [("a", .number ⟨false, [7], [], none⟩)]) := by cbv
  rw [seven] at spells
  cases spells
  obtain ⟨other, there, becomes⟩ := each _ ⟨false, [7], [], none⟩ apart_a rfl
  have value : Json.Numeral.value ⟨false, [7], [], none⟩ = 7 := by
    norm_num [Json.Numeral.value, Json.Numeral.amount]
  have same := becomes.whole rfl (by rw [value]; norm_num) (by rw [value]; norm_num)
  exact ⟨after, new, other, written, ⟨call, mem, saved⟩, there, same.trans value⟩

/-- A token with more digits than are kept. -/
def long : Json.Numeral :=
  ⟨false, [1, 2, 3, 4, 5, 6, 7, 8, 9, 0, 1, 2, 3, 4, 5, 6, 7, 8, 9, 0, 1, 2, 3], [], none⟩

/-- The double that is kept for it. -/
def rounded : Binary64 := ⟨false, 5886878443352970, 1095, by decide, by decide, by decide⟩

lemma decimal_rounded : rounded.decimal = 12345678901234568 * 10 ^ 6 := by
  have shortest : rounded.shortest = (12345678901234568, 6) := by decide +kernel
  have positive : rounded.significand ≠ 0 := by decide
  rw [Binary64.decimal, if_neg positive, shortest]
  norm_num [rounded]

lemma value_long : long.value = 12345678901234567890123 := by
  norm_num [long, Json.Numeral.value, Json.Numeral.amount]

/-- An edit that succeeds can change a number that is apart from the slice. -/
theorem exists_number_that_is_changed :
    ¬ ∀ (file : SettingsFile) (disk : FileTree × List (Option Fault))
      (actions : List (Action (FileTree × List (Option Fault)))),
      (∀ action ∈ actions, action.Keeps Prod.fst) →
      ∀ call ∈ ((fresh disk).run file.faulty actions).finished, ∀ name value,
      call.answer = .ok (.value name value) →
      ∀ before after old new, call.before.1.read file.path = .ok before.toUTF8 →
      call.after.1.read file.path = .ok after.toUTF8 →
      Json.spelled? before = some old → Json.spelled? after = some new →
      ∀ place token, name.Apart place → old.at? place = some (.number token) →
      ∃ other, new.at? place = some (.number other) ∧ other.value = token.value := by
  intro h
  have read : Json.Reader.number "12345678901234567890123".toList = some (.double rounded, []) := by
    decide +kernel
  have kept : long.number? = some (.double rounded) := by decide +kernel
  have stands : Json.Stands "12345678901234567890123".toList (.number (.double rounded)) 0 :=
    .number (.inr rfl) read
  obtain ⟨call, ran, answer, holds⟩ := run_edit stands
  have mem := ran ▸ List.mem_singleton_self call
  have carried := (sound_run _ Prod.fst _ alone_edit).carried call mem
  obtain ⟨after, saved, keeps⟩ := exists_keepsNumerals carried answer
  obtain ⟨old, new, spells, written, each⟩ := (keeps _ holds).spelled
  have spelled : Json.spelled? (String.ofList (Json.lone "a" "12345678901234567890123".toList)) =
      some (.object [("a", .number long)]) := by cbv
  rw [spelled] at spells
  cases spells
  obtain ⟨other, there, becomes⟩ := each _ long apart_a rfl
  obtain ⟨same, here, value⟩ := h _ _ edit alone_edit call mem _ _ answer _ after _ new holds saved
    spelled written _ long apart_a rfl
  rw [there] at here
  cases here
  rw [becomes.double rounded kept, decimal_rounded, value_long] at value
  norm_num at value

end Session

end KanaSettings
