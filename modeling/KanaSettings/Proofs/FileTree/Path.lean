import KanaSettings.FileTree.Path
import Mathlib.Data.List.TakeWhile
import Mathlib.Tactic

/-!
# The moves of paths

A path is a text, and what is done with it is done to the text: the last part is split off, endings
that say nothing are dropped.  This file says what that means for the moves of the path.  The path
of a file's directory goes into one name less than the path of the file, if neither goes back.
-/

namespace KanaSettings.Path

/-! ## Parts -/

lemma split_ne_nil (cs : List Char) : split cs ≠ [] := by
  cases cs with
  | nil => simp [split]
  | cons c cs =>
    simp only [split]
    split
    · simp
    · split <;> simp

lemma split_append_slash (front back : List Char) :
    split (front ++ '/' :: back) = split front ++ split back := by
  induction front with
  | nil =>
    obtain ⟨part, parts, h⟩ := List.exists_cons_of_ne_nil (split_ne_nil back)
    simp [split, h]
  | cons c front ih =>
    obtain ⟨part, parts, h⟩ := List.exists_cons_of_ne_nil (split_ne_nil front)
    simp only [List.cons_append, split, ih, h]
    split <;> simp

lemma split_of_not_mem {cs : List Char} (h : '/' ∉ cs) : split cs = [cs] := by
  induction cs with
  | nil => rfl
  | cons c cs ih =>
    rw [List.mem_cons, not_or] at h
    simp [split, ih h.2, Ne.symm h.1]

/-- The moves that the characters of a path say. -/
def movesOf (cs : List Char) : List Move := (split cs).map Move.ofPart

lemma moves_eq (path : Path) : path.moves = movesOf path.text.toList := rfl

@[simp] lemma movesOf_nil : movesOf [] = [.stay] := by decide

lemma movesOf_append_slash (front back : List Char) :
    movesOf (front ++ '/' :: back) = movesOf front ++ movesOf back := by
  simp [movesOf, split_append_slash]

lemma movesOf_of_not_mem {cs : List Char} (h : '/' ∉ cs) : movesOf cs = [Move.ofPart cs] := by
  simp [movesOf, split_of_not_mem h]

/-- Slashes at the end say to stay. -/
lemma movesOf_append_slashes (cs : List Char) (count : Nat) :
    movesOf (cs ++ List.replicate count '/') = movesOf cs ++ List.replicate count .stay := by
  induction count with
  | zero => simp
  | succ count ih =>
    rw [List.replicate_succ', ← List.append_assoc, movesOf_append_slash, ih, movesOf_nil,
      List.append_assoc, ← List.replicate_succ']

/-! ## The last part -/

/-- The last part of reversed characters, and what is in front of it.  All of it but the part ends
in a slash, which says to stay. -/
lemma exists_last_part (reversed : List Char) :
    ∃ front, movesOf (reversed.dropWhile (· ≠ '/')).reverse = front ++ [.stay] ∧
      movesOf reversed.reverse =
        front ++ [Move.ofPart (reversed.takeWhile (· ≠ '/')).reverse] := by
  -- Reversed, the last part comes first and ends before the first slash, if there is one.
  by_cases slash : '/' ∈ reversed
  · obtain ⟨last, above, rfl, absent⟩ := List.eq_append_cons_of_mem slash
    have pass : ∀ c ∈ last, decide (c ≠ '/') = true := by
      intro c mem
      simpa using ne_of_mem_of_not_mem mem absent
    rw [List.takeWhile_append_of_pos pass, List.dropWhile_append_of_pos pass]
    refine ⟨movesOf above.reverse, ?_, ?_⟩
    · simp [movesOf_append_slash]
    · simp [movesOf_append_slash, movesOf_of_not_mem (by simpa using absent : '/' ∉ last.reverse)]
  · have pass : ∀ c ∈ reversed, decide (c ≠ '/') = true := by
      intro c mem
      simpa using ne_of_mem_of_not_mem mem slash
    rw [List.takeWhile_eq_self_iff.2 pass, List.dropWhile_eq_nil_iff.2 pass]
    exact ⟨[], rfl, movesOf_of_not_mem (by simpa using slash)⟩

/-- The slashes at the end of characters, and what is in front of them. -/
lemma exists_ending_slashes (cs : List Char) :
    ∃ count, cs = (cs.reverse.dropWhile (· = '/')).reverse ++ List.replicate count '/' ∧
      (cs.getLast? ≠ some '/' → count = 0) := by
  have slashes : ∀ c ∈ cs.reverse.takeWhile (· = '/'), c = '/' := by
    intro c mem
    simpa using List.mem_takeWhile_imp mem
  refine ⟨(cs.reverse.takeWhile (· = '/')).length, ?_, ?_⟩
  · rw [← List.reverse_replicate, ← List.eq_replicate_of_mem slashes, ← List.reverse_append,
      List.takeWhile_append_dropWhile, List.reverse_reverse]
  · intro last
    rw [← List.head?_reverse] at last
    cases h : cs.reverse with
    | nil => rfl
    | cons c rest =>
      rw [h, List.head?_cons, ne_eq, Option.some.injEq] at last
      simp [last]

/-- What a path says is what it says before its last part, the last part, and then only to stay. -/
lemma exists_moves_eq_lastMove (path : Path) :
    ∃ front count, path.lastMove.1 = front ++ [.stay] ∧
      path.moves = front ++ path.lastMove.2 :: List.replicate count .stay ∧
      (path.namesDirectory = false → count = 0) := by
  obtain ⟨front, above, last⟩ := exists_last_part (path.text.toList.reverse.dropWhile (· = '/'))
  obtain ⟨count, slashes, none⟩ := exists_ending_slashes path.text.toList
  refine ⟨front, count, above, ?_, fun h => none ?_⟩
  · rw [moves_eq, slashes, movesOf_append_slashes, last]
    simp [lastMove]
  · simpa [namesDirectory] using h

/-! ## The path of the directory -/

/-- How many names are in moves. -/
def depthOf (moves : List Move) : Nat := moves.countP fun
  | .enter _ => true
  | .stay | .back => false

/-- How many names are in a path. -/
def depth (path : Path) : Nat := depthOf path.moves

lemma depth_eq (path : Path) : path.depth = depthOf path.moves := rfl

lemma dropEnding_ne (cs rest : List Char) :
    dropEnding cs ≠ '/' :: rest ∧ dropEnding cs ≠ '.' :: '/' :: rest := by
  fun_induction dropEnding cs with
  | case1 _ ih => exact ih
  | case2 _ ih => exact ih
  | case3 cs slash dot => exact ⟨fun h => slash _ h, fun h => dot _ h⟩

/-- What is dropped at the end of a path says to stay. -/
lemma exists_movesOf_dropEnding (reversed : List Char) :
    ∃ count, movesOf reversed.reverse =
      movesOf (dropEnding reversed).reverse ++ List.replicate count .stay := by
  fun_induction dropEnding reversed with
  | case1 rest ih =>
    obtain ⟨count, ih⟩ := ih
    refine ⟨count + 1, ?_⟩
    rw [List.reverse_cons, movesOf_append_slash, ih, movesOf_nil, List.replicate_succ',
      List.append_assoc]
  | case2 rest ih =>
    obtain ⟨count, ih⟩ := ih
    refine ⟨count + 1, ?_⟩
    rw [List.reverse_cons, List.reverse_cons, List.append_assoc, List.singleton_append,
      movesOf_append_slash, ih, List.replicate_succ', List.append_assoc]
    rfl
  | case3 rest => exact ⟨0, by simp⟩

@[simp] lemma depthOf_append (front back : List Move) :
    depthOf (front ++ back) = depthOf front + depthOf back := by
  simp [depthOf]

@[simp] lemma depthOf_replicate_stay (count : Nat) : depthOf (List.replicate count .stay) = 0 := by
  simp [depthOf, List.countP_replicate]

@[simp] lemma depthOf_nil : depthOf [] = 0 := rfl

@[simp] lemma depthOf_stay (moves : List Move) : depthOf (.stay :: moves) = depthOf moves := by
  simp [depthOf]

@[simp] lemma depthOf_back (moves : List Move) : depthOf (.back :: moves) = depthOf moves := by
  simp [depthOf]

@[simp] lemma depthOf_enter (name : String) (moves : List Move) :
    depthOf (.enter name :: moves) = depthOf moves + 1 := by
  simp [depthOf]

lemma ofPart_eq_stay {part : List Char} (h : Move.ofPart part = .stay) :
    part = [] ∨ part = ['.'] := by
  unfold Move.ofPart at h
  split at h
  · assumption
  · split at h <;> cases h

/-- The last part of a path whose ending is dropped says to stay only if it is all of the path. -/
lemma dropWhile_eq_nil_of_stay {reversed : List Char}
    (stays : Move.ofPart ((dropEnding reversed).takeWhile (· ≠ '/')).reverse = .stay) :
    (dropEnding reversed).dropWhile (· ≠ '/') = [] := by
  have parts : (dropEnding reversed).takeWhile (· ≠ '/') ++
      (dropEnding reversed).dropWhile (· ≠ '/') = dropEnding reversed :=
    List.takeWhile_append_dropWhile
  cases rest : (dropEnding reversed).dropWhile (· ≠ '/') with
  | nil => rfl
  | cons c above =>
    have slash : c = '/' := by
      have := List.head?_dropWhile_not (fun c => decide (c ≠ '/')) (dropEnding reversed)
      rw [rest] at this
      simpa using this
    rw [rest, slash] at parts
    -- With the slash in front of it, the part is an ending that would have been dropped.
    rcases ofPart_eq_stay stays with h | h
    · rw [List.reverse_eq_nil_iff.1 h] at parts
      exact absurd parts.symm (dropEnding_ne reversed above).1
    · rw [List.reverse_eq_iff.1 h] at parts
      exact absurd parts.symm (dropEnding_ne reversed above).2

/-- What a path says is what stands before its last part, one move more, and then only to stay; and
the path of the directory has as many names as what stands before.  If the last move is none, there
was none before. -/
lemma exists_moves_of_parent {path parent : Path} (h : path.parent? = some parent) :
    ∃ front move count, path.moves = front ++ move :: List.replicate count .stay ∧
      parent.depth = depthOf front ∧ (move = .stay → front = []) := by
  obtain ⟨count, ending⟩ := exists_movesOf_dropEnding path.text.toList.reverse
  rw [List.reverse_reverse, ← moves_eq] at ending
  unfold parent? at h
  generalize path.text.toList.reverse = reversed at h ending
  obtain ⟨front, above, last⟩ := exists_last_part (dropEnding reversed)
  obtain ⟨k, ending'⟩ :=
    exists_movesOf_dropEnding ((dropEnding reversed).dropWhile (· ≠ '/'))
  -- The ending is dropped once more in front of the last part, and that costs no name.
  have deep : depthOf (movesOf
      (dropEnding ((dropEnding reversed).dropWhile (· ≠ '/'))).reverse) = depthOf front := by
    simpa using congrArg depthOf (ending'.symm.trans above)
  have whole : path.moves =
      front ++ Move.ofPart ((dropEnding reversed).takeWhile (· ≠ '/')).reverse ::
        List.replicate count .stay := by
    rw [ending, last, List.append_assoc, List.singleton_append]
  have still : Move.ofPart ((dropEnding reversed).takeWhile (· ≠ '/')).reverse = .stay →
      front = [] := by
    intro still
    rw [dropWhile_eq_nil_of_stay still] at above
    simpa using above
  split at h
  · cases h
  · refine ⟨front, _, count, whole, ?_, still⟩
    rw [← deep]
    split at h
    · -- Nothing is in front of the last part but the root, or where one stands.
      rename_i none
      cases h
      rw [none]
      split <;> decide
    · cases h
      rw [depth_eq, moves_eq, String.toList_ofList]

/-- The path of the directory that holds what a path names goes into one name less, unless there is
no name to go into or the path ends by going back. -/
lemma depth_parent {path parent : Path} (h : path.parent? = some parent) :
    parent.depth ≤ path.depth ∧
      (.back ∉ path.moves → path.depth ≠ 0 → parent.depth < path.depth) := by
  obtain ⟨front, move, count, moves, deep, stays⟩ := exists_moves_of_parent h
  rw [deep, depth_eq path, moves]
  cases move with
  | stay => simp [stays rfl]
  | back => simp
  | enter name => simp

/-- The directory of a file goes into one name less than the file, unless there is no name to go
into or the path ends by going back. -/
lemma depth_directory (path : Path) :
    path.directory.depth ≤ path.depth ∧
      (.back ∉ path.moves → path.depth ≠ 0 → path.directory.depth < path.depth) := by
  have here : depth ⟨"."⟩ = 0 := by decide
  unfold directory
  split
  · rename_i parent h
    split
    · rw [here]
      exact ⟨Nat.zero_le _, fun _ deep => Nat.pos_of_ne_zero deep⟩
    · exact depth_parent h
  · rw [here]
    exact ⟨Nat.zero_le _, fun _ deep => Nat.pos_of_ne_zero deep⟩

/-- A directory always has a path that can be given to the system. -/
lemma isEmpty_directory (path : Path) : path.directory.text.isEmpty = false := by
  unfold directory
  split
  · split
    · rfl
    · rename_i some
      simpa using some
  · rfl

lemma depth_of_mem_ancestorsWithin {count : Nat} {path above : Path}
    (h : above ∈ ancestorsWithin count path) : above.depth ≤ path.depth := by
  induction count generalizing path with
  | zero => cases h
  | succ count ih =>
    simp only [ancestorsWithin] at h
    split at h
    · cases h
    · split at h
      · rw [List.mem_singleton.1 h]
      · rename_i parent hp
        rcases List.mem_cons.1 h with rfl | h
        · exact le_rfl
        · exact (ih h).trans (depth_parent hp).1

/-- No directory above goes deeper. -/
lemma depth_of_mem_ancestors {path above : Path} (h : above ∈ path.ancestors) :
    above.depth ≤ path.depth :=
  depth_of_mem_ancestorsWithin h

lemma exists_ancestors_eq_cons {path : Path} (some : path.text.isEmpty = false) :
    ∃ above, path.ancestors = path :: above := by
  have length : path.text.length ≠ 0 := by
    intro h
    rw [String.length_eq_zero_iff.1 h] at some
    simp at some
  obtain ⟨count, h⟩ := Nat.exists_eq_succ_of_ne_zero length
  rw [ancestors, h, Nat.succ_eq_add_one, ancestorsWithin, if_neg (by simp [some])]
  split
  · exact ⟨[], rfl⟩
  · exact ⟨_, rfl⟩

/-! ## The directory of a file -/

lemma dropEnding_suffix (cs : List Char) : dropEnding cs <:+ cs := by
  fun_induction dropEnding cs with
  | case1 rest ih => exact ih.trans (List.suffix_cons _ _)
  | case2 rest ih => exact ih.trans ((List.suffix_cons _ _).trans (List.suffix_cons _ _))
  | case3 => exact List.suffix_rfl

/-- The directory of a file is where one stands, or the root, or what the path of the file begins
with. -/
lemma directory_cases (path : Path) :
    path.directory = ⟨"."⟩ ∨ path.directory = ⟨"/"⟩ ∨
      path.directory.text.toList <+: path.text.toList := by
  -- Seen from behind, the directory is what is left when the last part and slashes are dropped.
  have begins : dropEnding ((dropEnding path.text.toList.reverse).dropWhile (· ≠ '/')) <:+
      path.text.toList.reverse :=
    (dropEnding_suffix _).trans ((List.dropWhile_suffix _).trans (dropEnding_suffix _))
  unfold directory
  split
  · rename_i parent found
    split
    · exact .inl rfl
    · rename_i some
      unfold parent? at found
      split at found
      · cases found
      · split at found
        · cases found
          cases absolute : path.isAbsolute
          · simp [absolute] at some
          · exact .inr (.inl rfl)
        · cases found
          refine .inr (.inr ?_)
          rw [String.toList_ofList, ← List.reverse_suffix, List.reverse_reverse]
          exact begins
  · exact .inl rfl

/-- The path of a file's directory says what stands before the last part, and apart from that only to
stay. -/
lemma exists_moves_directory {path : Path} {front : List Move} {name : String}
    (named : path.moves = front ++ [.enter name]) : ∃ count count',
      path.directory.moves ++ List.replicate count .stay =
        front ++ .stay :: List.replicate count' .stay := by
  obtain ⟨ending, dropped⟩ := exists_movesOf_dropEnding path.text.toList.reverse
  obtain ⟨front', above, last⟩ := exists_last_part (dropEnding path.text.toList.reverse)
  obtain ⟨count, dropped'⟩ := exists_movesOf_dropEnding
    ((dropEnding path.text.toList.reverse).dropWhile (· ≠ '/'))
  rw [List.reverse_reverse, ← moves_eq, named] at dropped
  -- The path does not end by staying, so there is nothing to drop.
  obtain rfl : ending = 0 := by
    by_contra some
    obtain ⟨less, rfl⟩ := Nat.exists_eq_succ_of_ne_zero some
    rw [Nat.succ_eq_add_one, List.replicate_succ', ← List.append_assoc] at dropped
    cases (List.append_inj' dropped rfl).2
  rw [List.replicate_zero, List.append_nil, last] at dropped
  obtain ⟨rfl, part⟩ := List.append_inj' dropped rfl
  rw [above] at dropped'
  have here : moves ⟨"."⟩ = [.stay] := by decide
  have root : moves ⟨"/"⟩ = [.stay, .stay] := by decide
  unfold directory
  split
  · rename_i parent found
    unfold parent? at found
    split at found
    · cases found
    · split at found
      · rename_i none
        cases found
        rw [none, List.reverse_nil, movesOf_nil] at dropped'
        cases path.isAbsolute
        · exact ⟨count, 0, by simpa [here] using dropped'.symm⟩
        · refine ⟨count, 1, ?_⟩
          have longer := congrArg (· ++ [Move.stay]) dropped'.symm
          simpa [root, ← List.replicate_succ, ← List.replicate_succ'] using longer
      · rename_i some
        cases found
        refine ⟨count, 0, ?_⟩
        rw [if_neg (by simpa using some), moves_eq, String.toList_ofList, ← dropped']
        rfl
  · -- There is a last part, so there is something before it.
    rename_i none
    unfold parent? at none
    split at none
    · rename_i nothing
      rw [nothing] at part
      cases part
    · split at none <;> cases none

/-- A path that ends in a slash says to stay in the end. -/
lemma exists_moves_of_namesDirectory {path : Path} (slash : path.namesDirectory = true) :
    ∃ front, path.moves = front ++ [.stay] := by
  have last : path.text.toList.getLast? = some '/' := by simpa [namesDirectory] using slash
  obtain ⟨front, text⟩ := List.getLast?_eq_some_iff.1 last
  exact ⟨movesOf front, by rw [moves_eq, text, movesOf_append_slash, movesOf_nil]⟩

end KanaSettings.Path
