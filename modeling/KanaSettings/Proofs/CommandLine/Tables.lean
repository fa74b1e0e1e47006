import KanaSettings.CommandLine.Run
import KanaSettings.Proofs.Editor.Refusal
import KanaSettings.Proofs.Slice.Tables
import KanaSettings.Proofs.Store.Steady

/-!
# Adding to a table and removing again

Who adds a row and then removes it expects to have what was there before.  Every command brings the
whole table into the form that is kept, so that can only be said of tables in this form.
-/

namespace KanaSettings.CommandLine

/-! ## What is printed -/

lemma listing_append (n : Nat) (rules more : List RomajiRule) :
    listing n (rules ++ more) = listing n rules ++ listing (n + rules.length) more := by
  induction rules generalizing n with
  | nil => simp [listing]
  | cons rule rules ih =>
    have next : n + 1 + rules.length = n + (rules.length + 1) := by omega
    simp only [List.cons_append, listing, ih, List.length_cons, next, String.append_assoc]

/-! ## One command -/

/-- A command has succeeded with a text, and a value of a slice is stored afterwards. -/
structure Saves (good : World → Prop) (held : World → Document) (name : SliceName)
    (value : name.Value) (text : String) (result : Result) : Prop where
  printed : result.1 = .ok text
  good : good result.2
  slice : (held result.2).slice? name = some (Slice.encode name value)
  read : (held result.2).read name = value

lemma steady_fileStore (file : SettingsFile) :
    (fileStore file).Steady (fun world => file.Usable world.tree) fun world => file.held world.tree :=
  file.steady.inside fun _ _ => rfl

section

variable {store : Store World} {good : World → Prop} {held : World → Document}
  (h : store.Steady good held) (remote : Remote) {world : World} (fine : good world)
include h fine

lemma saves_editingTable [Wording] {name : SliceName} {change : name.Value → Outcome name.Value}
    {value : name.Value} (silent : Bool) (edit : (held world).edit name change = .settled value) :
    Saves good held name value (if silent then "" else line (Slice.encode name value))
      (editingTable store world silent (.edit name change)) := by
  obtain ⟨next, attempt, -, fine', slice, read⟩ := h.attempt_settled fine edit
  rw [editingTable, attempt]
  exact ⟨rfl, fine', slice, read⟩

lemma editingTable_refused [Wording] {name : SliceName} {change : name.Value → Outcome name.Value}
    {objections : List Objection} (silent : Bool)
    (edit : (held world).edit name change = .refused objections) :
    editingTable store world silent (.edit name change) =
      (.error (.ofTableEdit (.rejected objections)), (store.fetch world).2) := by
  rw [editingTable, h.attempt_refused fine edit]

/-! ### Words -/

/-- To add a word settles on what the check makes of the longer dictionary. -/
lemma saves_addWord [Wording] {reading word : String} {longer : List DictionaryEntry}
    (accepted : UserDictionary.check ((held world).read .userDictionary ++ [⟨reading, word⟩]) =
      .ok longer) :
    Saves good held .userDictionary longer (line (UserDictionary.encode longer))
      (execute store remote world (.addWord reading word)) := by
  refine saves_editingTable h fine false ?_
  rw [Document.edit]
  exact congrArg Outcome.ofExcept accepted

lemma execute_addWord_refused [Wording] {reading word : String} {objections : List Objection}
    (refused : UserDictionary.check ((held world).read .userDictionary ++ [⟨reading, word⟩]) =
      .error objections) :
    execute store remote world (.addWord reading word) =
      (.error (.ofTableEdit (.rejected objections)), (store.fetch world).2) := by
  refine editingTable_refused h fine false ?_
  rw [Document.edit]
  exact congrArg Outcome.ofExcept refused

/-- To remove a word that is there settles on what the check makes of the rest. -/
lemma saves_removeWord [Wording] {reading word : String} {target : DictionaryEntry}
    {shorter : List DictionaryEntry} (named : DictionaryEntry.trimmed ⟨reading, word⟩ = target)
    (mem : target ∈ (held world).read .userDictionary)
    (accepted : UserDictionary.check (((held world).read .userDictionary).erase target) =
      .ok shorter) :
    Saves good held .userDictionary shorter (line (UserDictionary.encode shorter))
      (execute store remote world (.removeWord reading word)) := by
  refine saves_editingTable h fine false ?_
  rw [Document.edit_ofExcept, UserDictionary.removeWord_of_mem named mem]
  exact congrArg Outcome.ofExcept accepted

lemma execute_removeWord_of_not_mem [Wording] {reading word : String} {target : DictionaryEntry}
    (named : DictionaryEntry.trimmed ⟨reading, word⟩ = target)
    (absent : target ∉ (held world).read .userDictionary) :
    execute store remote world (.removeWord reading word) =
      (.error (.ofTableEdit (.rejected
          [.malformed none s!"no dictionary entry {target.reading} -> {target.word}"])),
        (store.fetch world).2) := by
  refine editingTable_refused h fine false ?_
  rw [Document.edit_ofExcept, UserDictionary.removeWord_of_not_mem named absent]
  rfl

/-! ### Rules -/

lemma execute_listRules [Wording] :
    execute store remote world .listRules =
      (.ok (listing 0 ((held world).read .romajiTable)), (store.fetch world).2) := by
  rw [execute, reading, h.attempt_refresh fine]

lemma saves_addRule [Wording] {rule : RomajiRule} {longer : List RomajiRule}
    (accepted : RomajiTable.check ((held world).read .romajiTable ++ [rule]) = .ok longer) :
    Saves good held .romajiTable longer ""
      (execute store remote world (.addRule rule.input rule.output rule.nextInput)) := by
  refine saves_editingTable h fine true ?_
  rw [Document.edit]
  exact congrArg Outcome.ofExcept accepted

lemma saves_removeRule [Wording] {index : Nat} {rule : RomajiRule} {rest shorter : List RomajiRule}
    (removed : Rows.remove ((held world).read .romajiTable) index = .ok (rule, rest))
    (accepted : RomajiTable.check rest = .ok shorter) :
    Saves good held .romajiTable shorter "" (execute store remote world (.removeRule index)) := by
  refine saves_editingTable h fine true ?_
  rw [Document.edit_ofExcept, removed]
  exact congrArg Outcome.ofExcept accepted

lemma execute_removeRule_of_le [Wording] {index : Nat}
    (past : ((held world).read .romajiTable).length ≤ index) :
    execute store remote world (.removeRule index) =
      (.error (.ofTableEdit (.rejected [.malformed (some index)
          s!"no row at {index} (table has {((held world).read .romajiTable).length} rows)"])),
        (store.fetch world).2) := by
  refine editingTable_refused h fine true ?_
  rw [Document.edit_ofExcept, Rows.remove_of_le past]
  rfl

/-! ## Two commands -/

/-- To add a row and then to remove it leaves a table as it is kept, over any store that keeps what is
stored.  A word is added exactly if reading and word hold something besides blanks, the pair is not
there yet and there is room, and else the store is left as it is when somebody only looks.  A rule with
an input and an output is always added, is listed last with its position, and is removed by that
position; and no rule is removed by a position that is not listed. -/
theorem remove_add [Wording] :
    (∀ kept, UserDictionary.check ((held world).read .userDictionary) = .ok kept →
      ∀ reading word : String,
        let entry := DictionaryEntry.trimmed ⟨reading, word⟩
        let added := execute store remote world (.addWord reading word)
        ((∃ text, added.1 = .ok text) ↔
          (entry.reading ≠ "" ∧ entry.word ≠ "") ∧ entry ∉ kept ∧ kept.length < 50) ∧
        (∀ text, added.1 = .ok text →
          Saves good held .userDictionary (kept ++ [entry])
              (line (UserDictionary.encode (kept ++ [entry]))) added ∧
            Saves good held .userDictionary kept (line (UserDictionary.encode kept))
              (execute store remote added.2 (.removeWord reading word))) ∧
        ∀ failure, added.1 = .error failure → added.2 = (store.fetch world).2) ∧
    (∀ kept, RomajiTable.check ((held world).read .romajiTable) = .ok kept →
      ∀ input output nextInput : String,
        let rule := RomajiRule.trimmed ⟨input, output, nextInput⟩
        let added := execute store remote world (.addRule input output nextInput)
        rule.input ≠ "" → rule.output ≠ "" →
          Saves good held .romajiTable (kept ++ [rule]) "" added ∧
          (execute store remote added.2 .listRules).1 =
            .ok (listing 0 kept ++ listing kept.length [rule]) ∧
          Saves good held .romajiTable kept ""
            (execute store remote added.2 (.removeRule kept.length))) ∧
    let rules := (held world).read .romajiTable
    (execute store remote world .listRules).1 = .ok (listing 0 rules) ∧
      ∀ index, rules.length ≤ index → execute store remote world (.removeRule index) =
        (.error (.ofTableEdit (.rejected [.malformed (some index)
            s!"no row at {index} (table has {rules.length} rows)"])), (store.fetch world).2) := by
  refine ⟨?_, ?_, ?_, ?_⟩
  · intro kept accepted reading word entry added
    have allowed := @UserDictionary.check_append_iff _ kept ⟨reading, word⟩ accepted
    cases longer : UserDictionary.check ((held world).read .userDictionary ++ [⟨reading, word⟩]) with
    | error objections =>
      have refused : added = _ := execute_addWord_refused h remote fine longer
      have never : ¬ ((entry.reading ≠ "" ∧ entry.word ≠ "") ∧ entry ∉ kept ∧ kept.length < 50) := by
        intro may
        cases longer.symm.trans (allowed.2 ⟨may, rfl⟩)
      rw [refused]
      exact ⟨by simp [never], by rintro _ ⟨⟩, fun _ _ => rfl⟩
    | ok table =>
      obtain ⟨may, rfl⟩ := allowed.1 longer
      have saved : Saves good held .userDictionary (kept ++ [entry]) _ added :=
        saves_addWord h remote fine longer
      refine ⟨⟨fun _ => may, fun _ => ⟨_, saved.printed⟩⟩, ?_, ?_⟩
      · rintro text -
        refine ⟨saved, saves_removeWord h remote saved.good rfl (by simp [saved.read, entry]) ?_⟩
        -- The first entry with these fields is the one at the end.
        rw [saved.read, List.erase_append_right _ may.2.1, List.erase_cons_head, List.append_nil]
        exact UserDictionary.check_of_check accepted
      · intro failure failed
        cases saved.printed.symm.trans failed
  · intro kept accepted input output nextInput rule added full full'
    have complete : rule.isComplete = true := by simp [RomajiRule.isComplete, full, full']
    have saved : Saves good held .romajiTable (kept ++ [rule]) "" added :=
      saves_addRule h remote fine (RomajiTable.check_append accepted complete)
    refine ⟨saved, ?_, ?_⟩
    · rw [execute_listRules h remote saved.good, saved.read, listing_append, Nat.zero_add]
    · have removed : Rows.remove ((held added.2).read .romajiTable) kept.length = .ok (rule, kept) := by
        rw [saved.read]
        exact Rows.remove_append kept rule
      exact saves_removeRule h remote saved.good removed (RomajiTable.check_of_check accepted)
  · rw [execute_listRules h remote fine]
  · exact fun index past => execute_removeRule_of_le h remote fine past

end

/-! ### A file with one slice -/

/-- A world with nothing but a settings file, in which one slice is stored. -/
def holding (name : SliceName) (value : name.Value) : World :=
  ⟨FileTree.empty.set ["s"] (.file (SettingsFile.encode (Document.empty.write name value))), none⟩

lemma load_holding (name : SliceName) (value : name.Value) :
    SettingsFile.load ⟨⟨"s"⟩⟩ (holding name value).tree = .ok (Document.empty.write name value) := by
  have legible : Json.Legible (123 + 4) (Document.empty.write name value).toJson :=
    Document.legible_write Document.legible_empty name value
  exact SettingsFile.decode_encode _ legible.distinct legible.numbers legible.nesting

/-- In a file with an empty romaji table and without a dictionary: a word with blanks around it, a rule
with one, and a position past the end. -/
theorem remove_add_empty :
    let store := fileStore ⟨⟨"s"⟩⟩
    let world := holding .romajiTable []
    let added := execute store ⟨⟨"r"⟩⟩ world (.addWord " a" "b\n")
    let ruled := execute store ⟨⟨"r"⟩⟩ world (.addRule "x " "y" "")
    added.1 = .ok (line (UserDictionary.encode [⟨"a", "b"⟩])) ∧
      (execute store ⟨⟨"r"⟩⟩ added.2 (.removeWord " a" "b\n")).1 = .ok (line (.array [])) ∧
      (execute store ⟨⟨"r"⟩⟩ ruled.2 .listRules).1 = .ok "   0  x\ty\t\n" ∧
      (execute store ⟨⟨"r"⟩⟩ ruled.2 (.removeRule 0)).1 = .ok "" ∧
      (execute store ⟨⟨"r"⟩⟩ world (.removeRule 0)).2 = world := by
  intro store world added ruled
  have loads := load_holding .romajiTable []
  have usable : SettingsFile.Usable ⟨⟨"s"⟩⟩ world.tree := ⟨⟨_, loads⟩, fun _ => ⟨_, rfl⟩⟩
  have inverse := @remove_add _ _ _ (steady_fileStore ⟨⟨"s"⟩⟩) ⟨⟨"r"⟩⟩ world usable
  rw [SettingsFile.held_eq loads] at inverse
  obtain ⟨words, rules, -, past⟩ := inverse
  obtain ⟨succeeds, saves, -⟩ := words [] rfl " a" "b\n"
  obtain ⟨text, done⟩ := succeeds.2 (by decide)
  obtain ⟨saved, removed⟩ := saves text done
  obtain ⟨-, listed, removed'⟩ := rules [] rfl "x " "y" "" (by decide) (by decide)
  have nothing := congrArg Prod.snd (past 0 (by decide))
  exact ⟨saved.printed, removed.printed, listed, removed'.printed, nothing⟩

end KanaSettings.CommandLine
