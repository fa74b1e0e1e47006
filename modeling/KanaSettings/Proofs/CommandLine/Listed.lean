import KanaSettings.Proofs.CommandLine.Local
import KanaSettings.Proofs.CommandLine.Tables

/-!
# Words that are listed

An entry of the user dictionary is listed as it stands in the file, and removed by its two fields,
which are trimmed first.  So one that somebody has written with blanks around its fields is listed,
and no words remove it.
-/

namespace KanaSettings.CommandLine

/-! ## Commands on the file -/

lemma carryOut_fileStore [Wording] {file : SettingsFile} {socket : Path} {world : World}
    {command : Command} (other : ∀ cuda vulkan, command ≠ .serve cuda vulkan) :
    carryOut file socket false world command =
      (.exits (.ofResult (execute (fileStore file) ⟨socket⟩ world command).1),
        (execute (fileStore file) ⟨socket⟩ world command).2) :=
  carryOut_eq other

section

variable {file : SettingsFile} (socket : Path) {world : World} {document : Document}
  (loads : file.load world.tree = .ok document)
include loads

lemma carryOut_listWords [Wording] : carryOut file socket false world .listWords =
    (.exits ⟨0, line (UserDictionary.encode (document.read .userDictionary)), ""⟩, world) := by
  have attempt : (fileStore file).attempt .refresh world = (.ok (.document document), world) := by
    rw [Store.attempt, show (fileStore file).fetch world = (file.load world.tree, world) from rfl,
      loads]
  rw [carryOut_fileStore (by rintro _ _ ⟨⟩), execute, reading, attempt]
  rfl

/-- A file in which an entry is found can be saved. -/
lemma usable_of_mem {entry : DictionaryEntry} (mem : entry ∈ document.read .userDictionary) :
    file.Usable world.tree := by
  refine SettingsFile.usable_of_load loads fun missing => ?_
  rw [SettingsFile.load, missing] at loads
  cases loads
  cases mem

lemma carryOut_removeWord_of_not_mem [Wording] (usable : file.Usable world.tree)
    {reading word : String}
    {target : DictionaryEntry} (named : DictionaryEntry.trimmed ⟨reading, word⟩ = target)
    (absent : target ∉ document.read .userDictionary) :
    carryOut file socket false world (.removeWord reading word) =
      (.exits (.ofResult (.error (.ofTableEdit (.rejected
        [.malformed none s!"no dictionary entry {target.reading} -> {target.word}"])))), world) := by
  rw [← SettingsFile.held_eq loads] at absent
  have refused := execute_removeWord_of_not_mem (steady_fileStore file) ⟨socket⟩ usable named absent
  rw [carryOut_fileStore (by rintro _ _ ⟨⟩), refused]
  rfl

lemma carryOut_removeWord_of_mem [Wording] {kept : List DictionaryEntry}
    (accepted : UserDictionary.check (document.read .userDictionary) = .ok kept)
    {reading word : String} {target : DictionaryEntry}
    (named : DictionaryEntry.trimmed ⟨reading, word⟩ = target)
    (mem : target ∈ document.read .userDictionary) :
    ∃ after other, carryOut file socket false world (.removeWord reading word) =
        (.exits ⟨0, line (UserDictionary.encode (kept.erase target)), ""⟩, after) ∧
      file.load after.tree = .ok other ∧
      other.slice? .userDictionary = some (UserDictionary.encode (kept.erase target)) ∧
      other.read .userDictionary = kept.erase target := by
  have usable := usable_of_mem loads mem
  have trimmed : target.trimmed = target := by
    rw [← named, DictionaryEntry.trimmed_trimmed]
  have shorter := UserDictionary.check_erase accepted mem
  rw [trimmed] at shorter
  rw [← SettingsFile.held_eq loads] at mem shorter
  have saved := saves_removeWord (steady_fileStore file) ⟨socket⟩ usable named mem shorter
  obtain ⟨other, loads'⟩ := saved.good.loads
  have slice := saved.slice
  have read := saved.read
  rw [SettingsFile.held_eq loads'] at slice read
  refine ⟨_, other, ?_, loads', slice, read⟩
  rw [carryOut_fileStore (by rintro _ _ ⟨⟩), saved.printed]
  rfl

/-! ## Every entry that is listed -/

/-- Of a dictionary that may be kept, every entry is listed as it stands in the file.  One without blanks
around its fields is removed by the words that are listed, and of what is kept it alone is missing
afterwards.  One with blanks is not removed by the words that are listed, nor by any others: the command
fails and changes nothing, or it has removed something else. -/
theorem removes_listed [Wording] {kept : List DictionaryEntry}
    (accepted : UserDictionary.check (document.read .userDictionary) = .ok kept) :
    carryOut file socket false world .listWords =
        (.exits ⟨0, line (UserDictionary.encode (document.read .userDictionary)), ""⟩, world) ∧
    ∀ entry ∈ document.read .userDictionary,
      (entry.trimmed = entry → ∃ after other,
        carryOut file socket false world (.removeWord entry.reading entry.word) =
            (.exits ⟨0, line (UserDictionary.encode (kept.erase entry)), ""⟩, after) ∧
          file.load after.tree = .ok other ∧
          other.slice? .userDictionary = some (UserDictionary.encode (kept.erase entry)) ∧
          other.read .userDictionary = kept.erase entry) ∧
      (entry.trimmed ≠ entry →
        carryOut file socket false world (.removeWord entry.reading entry.word) =
            (.exits (.ofResult (.error (.ofTableEdit (.rejected [.malformed none
              s!"no dictionary entry {entry.trimmed.reading} -> {entry.trimmed.word}"])))), world) ∧
          ∀ reading word out after,
            carryOut file socket false world (.removeWord reading word) =
                (.exits ⟨0, out, ""⟩, after) →
              ∃ other, file.load after.tree = .ok other ∧
                entry.trimmed ∈ other.read .userDictionary) := by
  refine ⟨carryOut_listWords socket loads, fun entry mem => ⟨fun trimmed => ?_, fun blank => ?_⟩⟩
  · have named : DictionaryEntry.trimmed ⟨entry.reading, entry.word⟩ = entry := trimmed
    exact carryOut_removeWord_of_mem socket loads accepted named mem
  -- The entry without its blanks is not there, for it would be the same entry to the check.
  have usable := usable_of_mem loads mem
  have absent : entry.trimmed ∉ document.read .userDictionary := by
    intro mem'
    have same := UserDictionary.eq_of_trimmed_eq accepted mem' mem (DictionaryEntry.trimmed_trimmed entry)
    exact blank same
  refine ⟨carryOut_removeWord_of_not_mem socket loads usable rfl absent, ?_⟩
  intro reading word out after done
  by_cases there : DictionaryEntry.trimmed ⟨reading, word⟩ ∈ document.read .userDictionary
  · obtain ⟨after', other, removed, loads', -, read⟩ :=
      carryOut_removeWord_of_mem socket loads accepted rfl there
    obtain rfl : after = after' := congrArg Prod.snd (done.symm.trans removed)
    refine ⟨other, loads', ?_⟩
    have other_entry : entry.trimmed ≠ DictionaryEntry.trimmed ⟨reading, word⟩ := by
      intro same
      exact absent (same ▸ there)
    obtain ⟨-, rfl⟩ := UserDictionary.check_eq_ok_iff.1 accepted
    rw [read]
    exact (List.mem_erase_of_ne other_entry).2 (List.mem_map_of_mem mem)
  · have failed := carryOut_removeWord_of_not_mem socket loads usable rfl there
    cases done.symm.trans failed

end

/-! ### Two words in a file -/

lemma read_write_words (entries : List DictionaryEntry) :
    (Document.empty.write .userDictionary entries).read .userDictionary = entries :=
  UserDictionary.normalize_encode entries

/-- An entry without blanks is removed, and one with a blank is not. -/
theorem removes_listed_two :
    let world := holding .userDictionary [⟨"a", "b"⟩, ⟨" c", "d"⟩]
    (∃ after, carryOut ⟨⟨"s"⟩⟩ ⟨"r"⟩ false world (.removeWord "a" "b") =
      (.exits ⟨0, line (UserDictionary.encode [⟨"c", "d"⟩]), ""⟩, after)) ∧
    (carryOut ⟨⟨"s"⟩⟩ ⟨"r"⟩ false world (.removeWord " c" "d")).2 = world := by
  intro world
  have loads := load_holding .userDictionary [⟨"a", "b"⟩, ⟨" c", "d"⟩]
  have words := read_write_words [⟨"a", "b"⟩, ⟨" c", "d"⟩]
  obtain ⟨-, each⟩ := removes_listed ⟨"r"⟩ loads (by rw [words]; rfl)
  rw [words] at each
  obtain ⟨after, -, removed, -⟩ := (each ⟨"a", "b"⟩ (by simp)).1 (by decide)
  exact ⟨⟨after, removed⟩, congrArg Prod.snd ((each ⟨" c", "d"⟩ (by simp)).2 (by decide)).1⟩

/-- There is an entry that is listed, in a dictionary that the check accepts, and that is not removed by
the words that are listed. -/
theorem exists_listed_word_that_stays :
    ¬ ∀ (file : SettingsFile) (socket : Path) (world : World) (document : Document)
      (kept : List DictionaryEntry), file.load world.tree = .ok document →
      UserDictionary.check (document.read .userDictionary) = .ok kept →
      ∀ entry ∈ document.read .userDictionary, ∃ out after other,
        carryOut file socket false world (.removeWord entry.reading entry.word) =
            (.exits ⟨0, out, ""⟩, after) ∧
          file.load after.tree = .ok other ∧
          other.read .userDictionary = kept.erase entry.trimmed := by
  intro h
  have loads := load_holding .userDictionary [⟨" a", "b"⟩]
  have words := read_write_words [⟨" a", "b"⟩]
  have mem : ⟨" a", "b"⟩ ∈ (Document.empty.write .userDictionary [⟨" a", "b"⟩]).read .userDictionary := by
    rw [words]
    exact List.mem_singleton_self _
  obtain ⟨out, after, other, removed, -⟩ :=
    h ⟨⟨"s"⟩⟩ ⟨"r"⟩ _ _ [⟨"a", "b"⟩] loads (by rw [words]; rfl) ⟨" a", "b"⟩ mem
  have absent : (⟨"a", "b"⟩ : DictionaryEntry) ∉
      (Document.empty.write .userDictionary [⟨" a", "b"⟩]).read .userDictionary := by
    rw [words]
    decide
  have stays := carryOut_removeWord_of_not_mem ⟨"r"⟩ loads (usable_of_mem loads mem)
    (show DictionaryEntry.trimmed ⟨" a", "b"⟩ = ⟨"a", "b"⟩ by decide) absent
  cases removed.symm.trans stays

end KanaSettings.CommandLine
