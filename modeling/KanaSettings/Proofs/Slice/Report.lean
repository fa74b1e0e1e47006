import KanaSettings.Objection
import Mathlib.Tactic

/-!
# Reports on rows

A check goes through the rows of a candidate and objects once to each row that is at fault.  What
comes of that can be told without the loop: positions in ascending order, an objection to each of
them, and no faulty position left out.  There is only one such list of objections, so to say of a
check that it reports is to say exactly what it answers.
-/

namespace KanaSettings

namespace Objection

/-- The row that is at fault, where the objection is to a single row. -/
def culprit? : Objection → Option Nat
  | incomplete index => some index
  | duplicate _ repeated => some repeated
  | tooMany _ _ => none
  | malformed index _ => index

/-- Every row that the objection speaks of. -/
def mentioned : Objection → List Nat
  | incomplete index => [index]
  | duplicate first repeated => [first, repeated]
  | tooMany _ _ => []
  | malformed index _ => index.toList

/-- The same objection where `before` more rows stand in front. -/
def shifted (before : Nat) : Objection → Objection
  | incomplete index => incomplete (before + index)
  | duplicate first repeated => duplicate (before + first) (before + repeated)
  | tooMany count limit => tooMany count limit
  | malformed index reason => malformed (index.map (before + ·)) reason

end Objection

namespace Rows

/-! ## Verdicts -/

section

variable {α : Type} {objections objections' : List Objection} {value value' : α}

/-- What a check answers: the value if nobody objects, and all objections otherwise. -/
def verdict (objections : List Objection) (value : α) : Except (List Objection) α :=
  if objections = [] then .ok value else .error objections

lemma verdict_eq_ok_iff :
    verdict objections value = .ok value' ↔ objections = [] ∧ value' = value := by
  by_cases none : objections = [] <;> simp [verdict, none, eq_comm]

lemma verdict_eq_error_iff :
    verdict objections value = .error objections' ↔
      objections' ≠ [] ∧ objections' = objections := by
  by_cases none : objections = []
  · simp +contextual [verdict, none]
  · simp only [verdict, if_neg none, Except.error.injEq]
    exact ⟨fun same => ⟨same ▸ none, same.symm⟩, fun ⟨_, same⟩ => same.symm⟩

/-- The answer to rows of which `before` were checked as one part and the others as a second one: what
is kept of both, or all that there is to object to. -/
def join (before : Nat) :
    Except (List Objection) (List α) → Except (List Objection) (List α) →
      Except (List Objection) (List α)
  | .ok kept, .ok more => .ok (kept ++ more)
  | .ok _, .error later => .error (later.map (.shifted before))
  | .error objections, .ok _ => .error objections
  | .error objections, .error later => .error (objections ++ later.map (.shifted before))

lemma join_verdict (before : Nat) (objections later : List Objection) (kept more : List α) :
    join before (verdict objections kept) (verdict later more) =
      verdict (objections ++ later.map (.shifted before)) (kept ++ more) := by
  cases objections <;> cases later <;> simp [join, verdict]

end

/-! ## Reports -/

/-- Objections that report on rows.  `Faulty` tells what there is to object to at a position. -/
structure Report (Faulty : Nat → Objection → Prop) (positions : List Nat)
    (objections : List Objection) : Prop where
  ascending : positions.Pairwise (· < ·)
  /-- There is one objection to each position, and it is to what is at fault there. -/
  each : List.Forall₂ Faulty positions objections
  complete : ∀ {position objection}, Faulty position objection → position ∈ positions

/-- The faults from a position on. -/
def From (start : Nat) (Faulty : Nat → Objection → Prop) (position : Nat) (objection : Objection) :
    Prop :=
  start ≤ position ∧ Faulty position objection

namespace Report

variable {Faulty : Nat → Objection → Prop} {positions positions' : List Nat}
  {objections objections' : List Objection} {start : Nat}

/-! ### Going through the rows -/

lemma nil (fine : ∀ position objection, ¬ Faulty position objection) : Report Faulty [] [] :=
  ⟨.nil, .nil, fun faulty => absurd faulty (fine _ _)⟩

lemma cons {objection : Objection} (faulty : Faulty start objection)
    (report : Report (From (start + 1) Faulty) positions objections) :
    Report (From start Faulty) (start :: positions) (objection :: objections) := by
  obtain ⟨after, each⟩ := (List.forall₂_and_left positions objections).1 report.each
  refine ⟨List.pairwise_cons.2 ⟨fun position mem => after position mem, report.ascending⟩, ?_, ?_⟩
  · refine .cons ⟨le_rfl, faulty⟩ ((List.forall₂_and_left _ _).2 ⟨fun position mem => ?_, each⟩)
    exact Nat.le_of_succ_le (after position mem)
  · rintro position objection ⟨le, fault⟩
    rcases Nat.eq_or_lt_of_le le with rfl | lt
    · exact List.mem_cons_self
    · exact List.mem_cons_of_mem _ (report.complete ⟨lt, fault⟩)

/-- A report on the rows after the first is one on all of them if the first is without fault. -/
lemma skip (fine : ∀ objection, ¬ Faulty start objection)
    (report : Report (From (start + 1) Faulty) positions objections) :
    Report (From start Faulty) positions objections := by
  obtain ⟨after, each⟩ := (List.forall₂_and_left positions objections).1 report.each
  refine ⟨report.ascending, (List.forall₂_and_left _ _).2 ⟨fun position mem => ?_, each⟩, ?_⟩
  · exact Nat.le_of_succ_le (after position mem)
  · rintro position objection ⟨le, fault⟩
    rcases Nat.eq_or_lt_of_le le with rfl | lt
    · exact absurd fault (fine objection)
    · exact report.complete ⟨lt, fault⟩

lemma of_from_zero (report : Report (From 0 Faulty) positions objections) :
    Report Faulty positions objections :=
  ⟨report.ascending, report.each.imp fun _ _ fault => fault.2,
    fun fault => report.complete ⟨Nat.zero_le _, fault⟩⟩

/-- A loop that remembers nothing of the rows behind it reports, if at each row it says what is at fault
there, or passes over the row if nothing is, and goes on to the next one. -/
lemma exists_of_loop {α : Type} (rows : List α) (loop : Nat → List α → List Objection)
    (inside : ∀ {index objection}, Faulty index objection → index < rows.length)
    (last : ∀ index, loop index [] = [])
    (step : ∀ {index row}, rows[index]? = some row → ∀ rest,
      (∃ objection, Faulty index objection ∧
        loop index (row :: rest) = objection :: loop (index + 1) rest) ∨
      (∀ objection, ¬ Faulty index objection) ∧
        loop index (row :: rest) = loop (index + 1) rest) :
    ∃ positions, Report Faulty positions (loop 0 rows) := by
  -- What is still ahead at a position is reported from there on.
  suffices ahead : ∀ rest index, rows.drop index = rest →
      ∃ positions, Report (From index Faulty) positions (loop index rest) by
    obtain ⟨positions, report⟩ := ahead rows 0 List.drop_zero
    exact ⟨positions, report.of_from_zero⟩
  intro rest
  induction rest with
  | nil =>
    intro index ahead
    refine ⟨[], ?_⟩
    rw [last]
    refine .nil ?_
    rintro position objection ⟨le, fault⟩
    exact absurd (le.trans_lt (inside fault)) (Nat.not_lt.2 (List.drop_eq_nil_iff.1 ahead))
  | cons row rest ih =>
    intro index ahead
    have here : rows[index]? = some row := by rw [← List.head?_drop, ahead, List.head?_cons]
    obtain ⟨positions, report⟩ := ih (index + 1) (by rw [← List.tail_drop, ahead, List.tail_cons])
    rcases step here rest with ⟨objection, fault, next⟩ | ⟨fine, next⟩
    · exact ⟨index :: positions, next ▸ report.cons fault⟩
    · exact ⟨positions, next ▸ report.skip fine⟩

/-! ### What a report tells -/

lemma exists_of_mem (report : Report Faulty positions objections) {objection : Objection}
    (mem : objection ∈ objections) : ∃ position, Faulty position objection := by
  obtain ⟨⟨position, objection'⟩, pair, rfl⟩ :=
    List.mem_map.1 (List.map_snd_zip report.each.length_eq.ge ▸ mem)
  exact ⟨position, (List.forall₂_iff_zip.1 report.each).2 pair⟩

lemma mem_positions_iff (report : Report Faulty positions objections) {position : Nat} :
    position ∈ positions ↔ ∃ objection, Faulty position objection := by
  refine ⟨fun mem => ?_, fun ⟨_, fault⟩ => report.complete fault⟩
  obtain ⟨⟨position', objection⟩, pair, rfl⟩ :=
    List.mem_map.1 (List.map_fst_zip report.each.length_eq.le ▸ mem)
  exact ⟨objection, (List.forall₂_iff_zip.1 report.each).2 pair⟩

lemma eq_nil_iff (report : Report Faulty positions objections) :
    objections = [] ↔ ∀ position objection, ¬ Faulty position objection := by
  refine ⟨fun none position objection fault => ?_, fun fine => ?_⟩
  · have each := report.each
    rw [none, List.forall₂_nil_right_iff] at each
    exact absurd (report.complete fault) (each ▸ List.not_mem_nil)
  · refine List.eq_nil_iff_forall_not_mem.2 fun objection mem => ?_
    obtain ⟨position, fault⟩ := report.exists_of_mem mem
    exact fine position objection fault

/-- Where at most one thing is at fault at each position, there is one report only. -/
lemma unique (single : Relator.RightUnique Faulty) (report : Report Faulty positions objections)
    (report' : Report Faulty positions' objections') : objections = objections' := by
  have perm : positions.Perm positions' := by
    refine (List.perm_ext_iff_of_nodup (report.ascending.imp Nat.ne_of_lt)
      (report'.ascending.imp Nat.ne_of_lt)).2 fun position => ?_
    rw [report.mem_positions_iff, report'.mem_positions_iff]
  have same : positions = positions' :=
    perm.eq_of_pairwise (fun a b _ _ lt gt => absurd gt (Nat.lt_asymm lt)) report.ascending
      report'.ascending
  subst same
  exact List.right_unique_forall₂' single report.each report'.each

/-- A check that answers with a report refuses with the report that there is, and with no other. -/
lemma verdict_eq_error_iff {α : Type} {value : α} (single : Relator.RightUnique Faulty)
    (report : Report Faulty positions objections) :
    verdict objections value = .error objections' ↔
      objections' ≠ [] ∧ ∃ positions, Report Faulty positions objections' := by
  rw [Rows.verdict_eq_error_iff]
  refine and_congr_right fun _ => ⟨?_, fun ⟨_, report'⟩ => report'.unique single report⟩
  rintro rfl
  exact ⟨positions, report⟩

/-- Where each objection is to the position that it names as the culprit, no culprit is named
twice. -/
lemma culprits (named : ∀ {position objection}, Faulty position objection →
      objection.culprit? = some position)
    (report : Report Faulty positions objections) :
    objections.filterMap Objection.culprit? = positions := by
  obtain ⟨-, each, -⟩ := report
  induction each with
  | nil => rfl
  | cons fault _ ih => rw [List.filterMap_cons_some (named fault), ih]

end Report

end Rows

end KanaSettings
