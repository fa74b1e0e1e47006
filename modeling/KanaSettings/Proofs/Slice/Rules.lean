import KanaSettings.Slice.Romaji
import KanaSettings.Proofs.Slice.Report

/-!
# What is wrong with a romaji table

A rule of a romaji table is judged by itself.  Blank rules are dropped but count in positions, so a
table that is put together from two parts is answered for each of its parts.
-/

namespace KanaSettings

namespace RomajiRule

/-- The rule that is blank throughout. -/
abbrev blank : RomajiRule := ⟨"", "", ""⟩

lemma isBlank_iff {rule : RomajiRule} : rule.isBlank = true ↔ rule = blank := by
  cases rule
  simp [isBlank, blank, and_assoc]

lemma isComplete_iff {rule : RomajiRule} :
    rule.isComplete = true ↔ rule.input ≠ "" ∧ rule.output ≠ "" := by
  simp [isComplete]

end RomajiRule

namespace RomajiTable

open RomajiRule (blank)

/-- What is wrong with the row at a position: it is not blank throughout, and it has no input or no
output. -/
inductive Faulty (rows : List RomajiRule) : Nat → Objection → Prop
  | incomplete {index : Nat} {row : RomajiRule} (here : rows[index]? = some row)
      (visible : row ≠ blank) (empty : row.input = "" ∨ row.output = "") :
      Faulty rows index (.incomplete index)

section

variable {rows : List RomajiRule}

lemma rightUnique_faulty (rows : List RomajiRule) : Relator.RightUnique (Faulty rows) := by
  rintro index _ _ ⟨⟩ ⟨⟩
  rfl

lemma Faulty.lt_length {index : Nat} {objection : Objection} (fault : Faulty rows index objection) :
    index < rows.length := by
  cases fault with
  | incomplete here visible empty => exact (List.getElem?_eq_some_iff.1 here).1

/-- There is nothing wrong with rows that are blank or complete, and with no others. -/
lemma forall_not_faulty_iff :
    (∀ index objection, ¬ Faulty rows index objection) ↔
      ∀ row ∈ rows, row ≠ blank → row.input ≠ "" ∧ row.output ≠ "" := by
  constructor
  · intro fine row mem visible
    obtain ⟨index, here⟩ := List.mem_iff_getElem?.1 mem
    rw [← not_or]
    exact fun empty => fine _ _ (.incomplete here visible empty)
  · rintro complete index objection ⟨here, visible, empty⟩
    obtain ⟨input, output⟩ := complete _ (List.mem_iff_getElem?.2 ⟨index, here⟩) visible
    exact empty.elim input output

end

/-! ## The loop -/

/-- What becomes of the rule in front: it is passed over, kept, or objected to. -/
lemma sort_cons (index : Nat) (rule : RomajiRule) (rules : List RomajiRule) :
    sort index (rule :: rules) =
      if rule.trimmed = blank then sort (index + 1) rules
      else if rule.trimmed.isComplete then
        ((sort (index + 1) rules).1, rule.trimmed :: (sort (index + 1) rules).2)
      else (.incomplete index :: (sort (index + 1) rules).1, (sort (index + 1) rules).2) := by
  simp only [sort, RomajiRule.isBlank_iff]

lemma sort_snd (index : Nat) (rules : List RomajiRule) :
    (sort index rules).2 = (rules.map RomajiRule.trimmed).filter RomajiRule.isComplete := by
  induction rules generalizing index with
  | nil => rfl
  | cons rule rules ih =>
    rw [sort_cons, List.map_cons, List.filter_cons, ← ih (index + 1)]
    split
    · rename_i hidden
      rw [hidden]
      rfl
    · split <;> rfl

/-- Only the positions that are named depend on where the rules stand. -/
lemma sort_fst_add (before index : Nat) (rules : List RomajiRule) :
    (sort (before + index) rules).1 = (sort index rules).1.map (.shifted before) := by
  induction rules generalizing index with
  | nil => rfl
  | cons rule rules ih =>
    rw [sort_cons, sort_cons, Nat.add_assoc]
    split
    · exact ih (index + 1)
    · split
      · exact ih (index + 1)
      · rw [List.map_cons, ← ih (index + 1)]
        rfl

lemma sort_fst_append (index : Nat) (rules more : List RomajiRule) :
    (sort index (rules ++ more)).1 =
      (sort index rules).1 ++ (sort (index + rules.length) more).1 := by
  induction rules generalizing index with
  | nil => rfl
  | cons rule rules ih =>
    have rest := ih (index + 1)
    rw [Nat.add_right_comm, Nat.add_assoc, ← List.length_cons (a := rule)] at rest
    rw [List.cons_append, sort_cons, sort_cons]
    split
    · exact rest
    · split
      · exact rest
      · rw [rest, List.cons_append]

lemma exists_report (rules : List RomajiRule) :
    ∃ positions, Rows.Report (Faulty (rules.map RomajiRule.trimmed)) positions (sort 0 rules).1 := by
  refine Rows.Report.exists_of_loop rules (fun index rest => (sort index rest).1)
    (fun fault => by simpa using fault.lt_length) (fun _ => rfl) ?_
  intro index rule here rest
  have here' : (rules.map RomajiRule.trimmed)[index]? = some rule.trimmed := by simp [here]
  -- A row is dropped for being blank, kept for being complete, or else objected to.
  simp only [sort_cons]
  split
  · rename_i hidden
    refine .inr ⟨fun objection fault => ?_, rfl⟩
    cases fault with
    | incomplete here'' visible _ =>
      cases here'.symm.trans here''
      exact visible hidden
  · rename_i visible
    split
    · rename_i complete
      refine .inr ⟨fun objection fault => ?_, rfl⟩
      obtain ⟨input, output⟩ := RomajiRule.isComplete_iff.1 complete
      cases fault with
      | incomplete here'' _ empty =>
        cases here'.symm.trans here''
        exact empty.elim input output
    · rename_i incomplete
      refine .inl ⟨_, .incomplete here' visible ?_, rfl⟩
      by_contra full
      exact incomplete (RomajiRule.isComplete_iff.2 (not_or.1 full))

/-! ## The check -/

lemma check_eq (rules : List RomajiRule) :
    check rules = Rows.verdict (sort 0 rules).1
      ((rules.map RomajiRule.trimmed).filter RomajiRule.isComplete) := by
  rw [← sort_snd 0 rules, check, Rows.verdict]
  split
  · rename_i kept sorted
    rw [sorted, if_pos rfl]
  · rename_i objections kept some sorted
    rw [sorted, if_neg some]

lemma check_eq_ok_iff {rules kept : List RomajiRule} :
    check rules = .ok kept ↔
      (∀ row ∈ rules.map RomajiRule.trimmed, row ≠ blank → row.input ≠ "" ∧ row.output ≠ "") ∧
        kept = (rules.map RomajiRule.trimmed).filter (· ≠ blank) := by
  obtain ⟨positions, report⟩ := exists_report rules
  rw [check_eq, Rows.verdict_eq_ok_iff, report.eq_nil_iff, forall_not_faulty_iff]
  refine and_congr_right fun complete => ?_
  -- Then the complete rules are those that are not blank.
  have same : (rules.map RomajiRule.trimmed).filter RomajiRule.isComplete =
      (rules.map RomajiRule.trimmed).filter (· ≠ blank) := by
    refine List.filter_congr fun row mem => ?_
    by_cases hidden : row = blank
    · subst hidden
      rfl
    · simp [hidden, RomajiRule.isComplete_iff.2 (complete row mem hidden)]
  rw [same]

lemma check_append_eq (rules more : List RomajiRule) :
    check (rules ++ more) = Rows.join rules.length (check rules) (check more) := by
  rw [check_eq, check_eq rules, check_eq more, Rows.join_verdict, List.map_append,
    List.filter_append, sort_fst_append, Nat.zero_add, ← Nat.add_zero rules.length, sort_fst_add]
  rfl

/-- A table is taken if each rule that is not blank throughout has an input and an output when it is
trimmed.  What is kept are the trimmed rules that are not blank, in their order and as often as they
stand there.  Otherwise there is one objection to each faulty rule, in ascending order, under the position
that the rule has in the table as it was handed in.  And of a table that is put together from two parts
the answer is put together too. -/
theorem check_outcome (rules : List RomajiRule) :
    let rows := rules.map RomajiRule.trimmed
    (∀ kept, check rules = .ok kept ↔
      (∀ row ∈ rows, row ≠ ⟨"", "", ""⟩ → row.input ≠ "" ∧ row.output ≠ "") ∧
        kept = rows.filter (· ≠ ⟨"", "", ""⟩)) ∧
    (∀ objections, check rules = .error objections ↔
      objections ≠ [] ∧ ∃ positions, Rows.Report (Faulty rows) positions objections) ∧
    ∀ more, check (rules ++ more) = Rows.join rules.length (check rules) (check more) := by
  intro rows
  obtain ⟨positions, report⟩ := exists_report rules
  refine ⟨fun kept => check_eq_ok_iff, fun objections => ?_, check_append_eq rules⟩
  rw [check_eq]
  exact report.verdict_eq_error_iff (rightUnique_faulty rows)

/-- A blank rule in front is dropped and counts; one that only has something left to convert is no blank
rule. -/
example : check [⟨" ", "", "\t"⟩, ⟨"a", "あ", ""⟩, ⟨"b", "　", ""⟩, ⟨"a", "あ", ""⟩, ⟨"", "", "n"⟩] =
    .error [.incomplete 2, .incomplete 4] := by decide

end RomajiTable

end KanaSettings
