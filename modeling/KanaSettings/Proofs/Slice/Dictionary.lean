import KanaSettings.Slice.Dictionary
import KanaSettings.Proofs.Slice.Report

/-!
# What is wrong with a dictionary

The loop that checks a dictionary keeps the pairs it has seen.  What it knows of them is where each
complete entry before the present one occurs first.
-/

namespace KanaSettings

@[simp] lemma DictionaryEntry.isComplete_iff {entry : DictionaryEntry} :
    entry.isComplete = true ↔ entry.reading ≠ "" ∧ entry.word ≠ "" := by
  simp [isComplete]

namespace UserDictionary

variable {rows : List DictionaryEntry}

/-- The first position of an entry. -/
structure FirstAt (rows : List DictionaryEntry) (entry : DictionaryEntry) (first : Nat) : Prop where
  here : rows[first]? = some entry
  least : ∀ earlier < first, rows[earlier]? ≠ some entry

/-- What is wrong with the row at a position. -/
inductive Faulty (rows : List DictionaryEntry) : Nat → Objection → Prop
  | incomplete {index : Nat} {row : DictionaryEntry} (here : rows[index]? = some row)
      (empty : row.reading = "" ∨ row.word = "") : Faulty rows index (.incomplete index)
  /-- The row is complete and stands further up already, at `first` to begin with. -/
  | duplicate {first index : Nat} {row : DictionaryEntry} (here : rows[index]? = some row)
      (reading : row.reading ≠ "") (word : row.word ≠ "") (above : first < index)
      (origin : FirstAt rows row first) : Faulty rows index (.duplicate first index)

/-! ## First positions -/

lemma exists_firstAt {entry : DictionaryEntry} {index : Nat} (here : rows[index]? = some entry) :
    ∃ first ≤ index, FirstAt rows entry first := by
  classical
  have somewhere : ∃ position, rows[position]? = some entry := ⟨index, here⟩
  exact ⟨Nat.find somewhere, Nat.find_min' somewhere here, Nat.find_spec somewhere,
    fun _ lt => Nat.find_min somewhere lt⟩

lemma FirstAt.unique {entry : DictionaryEntry} {first second : Nat} (h : FirstAt rows entry first)
    (h' : FirstAt rows entry second) : first = second := by
  rcases Nat.lt_trichotomy first second with lt | same | gt
  · exact absurd h.here (h'.least first lt)
  · exact same
  · exact absurd h'.here (h.least second gt)

lemma Faulty.culprit? {index : Nat} {objection : Objection} (fault : Faulty rows index objection) :
    objection.culprit? = some index := by
  cases fault <;> rfl

lemma Faulty.lt_length {index : Nat} {objection : Objection} (fault : Faulty rows index objection) :
    ∀ position ∈ objection.mentioned, position < rows.length := by
  cases fault with
  | incomplete here empty =>
    obtain ⟨lt, -⟩ := List.getElem?_eq_some_iff.1 here
    simpa [Objection.mentioned] using lt
  | duplicate here reading word above origin =>
    obtain ⟨lt, -⟩ := List.getElem?_eq_some_iff.1 here
    simpa [Objection.mentioned] using ⟨above.trans lt, lt⟩

lemma rightUnique_faulty (rows : List DictionaryEntry) : Relator.RightUnique (Faulty rows) := by
  intro index one other fault fault'
  cases fault with
  | incomplete here empty =>
    cases fault' with
    | incomplete => rfl
    | duplicate here' reading word =>
      cases here.symm.trans here'
      exact absurd empty (by simp [reading, word])
  | duplicate here reading word above origin =>
    cases fault' with
    | incomplete here' empty =>
      cases here.symm.trans here'
      exact absurd empty (by simp [reading, word])
    | duplicate here' _ _ above' origin' =>
      cases here.symm.trans here'
      rw [origin.unique origin']

/-- There is nothing wrong with complete entries that differ from each other, and with no others. -/
lemma forall_not_faulty_iff :
    (∀ index objection, ¬ Faulty rows index objection) ↔
      (∀ row ∈ rows, row.reading ≠ "" ∧ row.word ≠ "") ∧ rows.Nodup := by
  constructor
  · intro fine
    have complete : ∀ row ∈ rows, row.reading ≠ "" ∧ row.word ≠ "" := by
      intro row mem
      obtain ⟨index, here⟩ := List.mem_iff_getElem?.1 mem
      rw [← not_or]
      exact fun empty => fine _ _ (.incomplete here empty)
    refine ⟨complete, List.nodup_iff_getElem?_ne_getElem?.2 fun i j lt bound same => ?_⟩
    have here : rows[j]? = some rows[j] := List.getElem?_eq_getElem bound
    obtain ⟨reading, word⟩ := complete _ (List.getElem_mem bound)
    obtain ⟨first, le, origin⟩ := exists_firstAt (same.trans here)
    exact fine _ _ (.duplicate here reading word (le.trans_lt lt) origin)
  · rintro ⟨complete, distinct⟩ index objection fault
    cases fault with
    | incomplete here empty =>
      have := complete _ (List.mem_iff_getElem?.2 ⟨index, here⟩)
      simp_all
    | duplicate here reading word above origin =>
      obtain ⟨bound, -⟩ := List.getElem?_eq_some_iff.1 here
      exact List.nodup_iff_getElem?_ne_getElem?.1 distinct _ _ above bound
        (origin.here.trans here.symm)

/-! ## The loop -/

/-- What the loop knows when it comes to a position: of the complete entries before, each with the
place where it occurs first. -/
def Knows (rows : List DictionaryEntry) (index : Nat) (seen : List (DictionaryEntry × Nat)) : Prop :=
  ∀ entry : DictionaryEntry, entry.isComplete = true → ∀ first,
    (seen.find? fun earlier => earlier.1 = entry).map Prod.snd = some first ↔
      first < index ∧ FirstAt rows entry first

lemma knows_nothing (rows : List DictionaryEntry) : Knows rows 0 [] := by
  simp [Knows]

namespace Knows

variable {index : Nat} {seen : List (DictionaryEntry × Nat)} {row : DictionaryEntry}
  (knows : Knows rows index seen) (here : rows[index]? = some row)
include knows here

/-- Nothing is learnt from an entry that is no first one, or not complete. -/
lemma step (old : row.isComplete = true → ∃ first, first < index ∧ FirstAt rows row first) :
    Knows rows (index + 1) seen := by
  intro entry complete first
  rw [knows entry complete]
  refine ⟨fun ⟨lt, origin⟩ => ⟨by omega, origin⟩, fun ⟨lt, origin⟩ => ⟨?_, origin⟩⟩
  refine Nat.lt_of_le_of_ne (Nat.le_of_lt_succ lt) ?_
  rintro rfl
  -- Then the entry would be the one at the present position, which occurs before.
  cases here.symm.trans origin.here
  obtain ⟨earlier, before, origin'⟩ := old complete
  exact absurd (origin.unique origin') (by omega)

/-- A complete entry that has not been seen is remembered with its position. -/
lemma learn (complete : row.isComplete = true)
    (new : seen.find? (fun earlier => earlier.1 = row) = none) :
    Knows rows (index + 1) ((row, index) :: seen) := by
  have origin : FirstAt rows row index := by
    obtain ⟨first, le, origin⟩ := exists_firstAt here
    rcases Nat.eq_or_lt_of_le le with rfl | lt
    · exact origin
    · have := (knows row complete first).2 ⟨lt, origin⟩
      simp [new] at this
  intro entry complete' first
  by_cases same : row = entry
  · subst same
    rw [List.find?_cons_of_pos (by simp), Option.map_some, Option.some.injEq]
    refine ⟨?_, fun later => origin.unique later.2⟩
    rintro rfl
    exact ⟨Nat.lt_succ_self _, origin⟩
  · rw [List.find?_cons_of_neg (by simpa using same), knows entry complete']
    refine ⟨fun ⟨lt, origin'⟩ => ⟨by omega, origin'⟩, fun ⟨lt, origin'⟩ => ⟨?_, origin'⟩⟩
    refine Nat.lt_of_le_of_ne (Nat.le_of_lt_succ lt) ?_
    rintro rfl
    exact same (Option.some.inj (here.symm.trans origin'.here))

end Knows

/-- The loop reports what is wrong from the present position on. -/
lemma exists_report_objectionsFrom {seen : List (DictionaryEntry × Nat)} {index : Nat}
    {rest : List DictionaryEntry} (ahead : rows.drop index = rest) (knows : Knows rows index seen) :
    ∃ positions,
      Rows.Report (Rows.From index (Faulty rows)) positions (objectionsFrom seen index rest) := by
  -- By induction on the rows ahead, while what is known of those behind grows.
  induction rest generalizing seen index with
  | nil =>
    refine ⟨[], .nil ?_⟩
    rintro position objection ⟨le, fault⟩
    have past : rows[position]? = none := List.getElem?_eq_none (by simp at ahead; omega)
    cases fault <;> simp_all
  | cons row rest ih =>
    have here : rows[index]? = some row := by rw [← List.head?_drop, ahead, List.head?_cons]
    have ahead' : rows.drop (index + 1) = rest := by rw [← List.tail_drop, ahead, List.tail_cons]
    simp only [objectionsFrom]
    split
    · rename_i complete
      obtain ⟨reading, word⟩ := DictionaryEntry.isComplete_iff.1 complete
      split
      · rename_i first found
        obtain ⟨above, origin⟩ := (knows row complete first).1 (by rw [found]; rfl)
        obtain ⟨positions, report⟩ := ih ahead' (knows.step here fun _ => ⟨first, above, origin⟩)
        exact ⟨_, report.cons (.duplicate here reading word above origin)⟩
      · rename_i new
        -- The pair is new: the row is not at fault, and is known from here on.
        obtain ⟨positions, report⟩ := ih ahead' (knows.learn here complete new)
        refine ⟨positions, report.skip fun objection fault => ?_⟩
        cases fault with
        | incomplete here' empty =>
          cases here.symm.trans here'
          exact absurd empty (by simp [reading, word])
        | duplicate here' _ _ above origin =>
          cases here.symm.trans here'
          have := (knows row complete _).2 ⟨above, origin⟩
          simp [new] at this
    · rename_i incomplete
      -- A row that lacks something is at fault and does not become known.
      obtain ⟨positions, report⟩ := ih ahead' (knows.step here fun complete => absurd complete incomplete)
      refine ⟨_, report.cons (.incomplete here ?_)⟩
      by_contra full
      exact incomplete (DictionaryEntry.isComplete_iff.2 (not_or.1 full))

lemma exists_report (rows : List DictionaryEntry) :
    ∃ positions, Rows.Report (Faulty rows) positions (objectionsFrom [] 0 rows) := by
  obtain ⟨positions, report⟩ := exists_report_objectionsFrom List.drop_zero (knows_nothing rows)
  exact ⟨positions, report.of_from_zero⟩

/-! ## The check -/

/-- That there are too many entries is nobody's fault, and speaks of no row. -/
lemma of_mem_lengthObjections {objection : Objection} (mem : objection ∈ lengthObjections rows) :
    objection.culprit? = none ∧ objection.mentioned = [] := by
  unfold lengthObjections at mem
  split at mem
  · rw [List.mem_singleton.1 mem]
    exact ⟨rfl, rfl⟩
  · cases mem

lemma check_eq (entries : List DictionaryEntry) :
    let rows := entries.map DictionaryEntry.trimmed
    check entries = Rows.verdict (objectionsFrom [] 0 rows ++ lengthObjections rows) rows := by
  intro rows
  unfold check Rows.verdict
  dsimp only
  split
  · rename_i none
    rw [if_pos none]
  · rename_i some
    rw [if_neg some]

lemma check_eq_ok_iff {entries kept : List DictionaryEntry} :
    check entries = .ok kept ↔
      ((∀ row ∈ entries.map DictionaryEntry.trimmed, row.reading ≠ "" ∧ row.word ≠ "") ∧
        (entries.map DictionaryEntry.trimmed).Nodup ∧ entries.length ≤ capacity) ∧
      kept = entries.map DictionaryEntry.trimmed := by
  obtain ⟨positions, report⟩ := exists_report (entries.map DictionaryEntry.trimmed)
  have room : lengthObjections (entries.map DictionaryEntry.trimmed) = [] ↔
      entries.length ≤ capacity := by
    simp [lengthObjections]
  rw [check_eq, Rows.verdict_eq_ok_iff, List.append_eq_nil_iff, report.eq_nil_iff,
    forall_not_faulty_iff, room, and_assoc (c := entries.length ≤ capacity)]

/-- A dictionary is taken, with its fields trimmed, if each trimmed reading and word holds something,
the trimmed pairs differ and there are at most fifty.  Otherwise there is an objection to each faulty
row in ascending order, and a last one if there are more than fifty.  No row is named as the culprit
twice, and only rows of the candidate are spoken of. -/
theorem check_reports (entries : List DictionaryEntry) :
    let rows := entries.map DictionaryEntry.trimmed
    let surplus : List Objection :=
      if 50 < entries.length then [.tooMany entries.length 50] else []
    (∀ kept, check entries = .ok kept ↔
      ((∀ row ∈ rows, row.reading ≠ "" ∧ row.word ≠ "") ∧ rows.Nodup ∧ entries.length ≤ 50) ∧
        kept = rows) ∧
    (∀ objections, check entries = .error objections ↔
      objections ≠ [] ∧ ∃ positions named, objections = named ++ surplus ∧
        Rows.Report (Faulty rows) positions named) ∧
    ∀ objections, check entries = .error objections →
      (objections.filterMap Objection.culprit?).Pairwise (· < ·) ∧
      ∀ objection ∈ objections, ∀ position ∈ objection.mentioned, position < entries.length := by
  intro rows surplus
  obtain ⟨positions, report⟩ := exists_report rows
  have long : lengthObjections rows = surplus := by simp [lengthObjections, capacity, rows, surplus]
  refine ⟨fun kept => check_eq_ok_iff, fun objections => ?_, fun objections refused => ?_⟩
  · rw [check_eq, Rows.verdict_eq_error_iff, long]
    -- There is but one report, so the rows that are named can be found again.
    refine and_congr_right fun _ => ⟨fun same => ⟨positions, _, same, report⟩, ?_⟩
    rintro ⟨positions', named, rfl, report'⟩
    rw [report.unique (rightUnique_faulty rows) report']
  · rw [check_eq, Rows.verdict_eq_error_iff] at refused
    obtain ⟨-, rfl⟩ := refused
    constructor
    · rw [List.filterMap_append, report.culprits Faulty.culprit?,
        List.filterMap_eq_nil_iff.2 fun _ mem => (of_mem_lengthObjections mem).1, List.append_nil]
      exact report.ascending
    · intro objection mem position named
      rcases List.mem_append.1 mem with mem | mem
      · obtain ⟨index, fault⟩ := report.exists_of_mem mem
        simpa [rows] using fault.lt_length position named
      · rw [(of_mem_lengthObjections mem).2] at named
        cases named

/-- A pair that occurs three times, with blanks around it and without, and an entry with an
ideographic space for its word. -/
theorem check_reports_triplicate :
    let entries : List DictionaryEntry :=
      [⟨"あい", "愛"⟩, ⟨"こい", "　"⟩, ⟨" あい", "愛"⟩, ⟨"あい", "愛\t"⟩]
    let objections : List Objection := [.incomplete 1, .duplicate 0 2, .duplicate 0 3]
    check entries = .error objections ∧
      (objections.filterMap Objection.culprit?).Pairwise (· < ·) ∧
      ∀ objection ∈ objections, ∀ position ∈ objection.mentioned, position < entries.length := by
  intro entries objections
  have refused : check entries = .error objections := by decide
  exact ⟨refused, (check_reports entries).2.2 _ refused⟩

end UserDictionary

end KanaSettings
