import EnergyReport.Files.Basic
import EnergyReport.Proofs.Text.Basic
import Mathlib.Data.List.TakeWhile

namespace EnergyReport

namespace Text

theorem intercalate_splitOn (separator : Char) (text : Text) :
    List.intercalate [separator] (splitOn separator text) = text := by
  rw [splitOn_eq]
  exact List.intercalate_splitOn separator

end Text

namespace Path

/-! The directory above a path is named by a shorter path, so a walk upward ends. -/

variable {path : Path}

theorem length_le_ofParts {part : Text} {parts : List Text} (member : part ∈ parts) :
    part.length ≤ (ofParts parts).length := by
  induction parts with
  | nil => contradiction
  | cons first others ih =>
      cases others with
      | nil => simp [ofParts, List.mem_singleton.mp member]
      | cons next more =>
          rw [ofParts, List.intercalate_cons_cons, List.length_append, List.length_append]
          rcases List.mem_cons.mp member with rfl | further
          · omega
          · have shorter := ih further
            rw [ofParts] at shorter
            omega

/-- Parts behind others make a path longer, by a slash at least. -/
theorem length_ofParts_lt_append {front back : List Text} (some : front ≠ []) (more : back ≠ []) :
    (ofParts front).length < (ofParts (front ++ back)).length := by
  induction front with
  | nil => contradiction
  | cons part others ih =>
      cases others with
      | nil =>
          obtain ⟨next, rest, rfl⟩ := List.exists_cons_of_ne_nil more
          simp [ofParts]
      | cons next rest =>
          have shorter := ih (List.cons_ne_nil next rest)
          simpa [ofParts] using shorter

theorem dropIdle_suffix (reversed : List Text) : dropIdle reversed <:+ reversed := by
  fun_induction dropIdle reversed with
  | case1 => exact List.suffix_refl []
  | case2 first => exact List.suffix_refl [first]
  | case3 part more _ _ ih => exact ih.trans (List.suffix_cons part more)
  | case4 part more => exact List.suffix_refl (part :: more)

/-- The last part of a path that leads somewhere, with the parts before it and behind it. -/
theorem parts_of_lastPart {last : Text} {before : List Text}
    (found : lastPart? path = some (last, before)) :
    last ≠ [] ∧ ∃ behind, parts path = before.reverse ++ last :: behind := by
  unfold lastPart? at found
  split at found
  · contradiction
  · rename_i part others dropped
    split at found
    · contradiction
    · rename_i nonempty
      cases found
      obtain ⟨idle, whole⟩ := dropped ▸ dropIdle_suffix (parts path).reverse
      refine ⟨by simpa using nonempty, idle.reverse, ?_⟩
      rw [← List.reverse_reverse (parts path), ← whole]
      simp

theorem length_lt_of_parent {above : Path} (up : parent? path = some above) :
    above.length < path.length := by
  have whole : ofParts (parts path) = path := Text.intercalate_splitOn '/' path
  unfold parent? at up
  split at up
  · contradiction
  · rename_i last before found
    obtain ⟨nonempty, behind, split⟩ := parts_of_lastPart found
    -- what stands above is made of parts before the last one
    obtain ⟨skipped, kept⟩ := dropIdle_suffix before
    obtain ⟨back, isBack⟩ : ∃ back, back = skipped.reverse ++ last :: behind := ⟨_, rfl⟩
    rw [split, ← kept, List.reverse_append, List.append_assoc, ← isBack] at whole
    have inBack : last ∈ back := by simp [isBack]
    have some : 0 < last.length := List.length_pos_of_ne_nil nonempty
    have atLeast := length_le_ofParts inBack
    have more : back ≠ [] := List.ne_nil_of_mem inBack
    cases front : dropIdle before with
    | nil =>
        simp only [front, Option.some.injEq] at up
        simp only [front, List.reverse_nil, List.nil_append] at whole
        rw [← up, ← whole, List.length_nil]
        omega
    | cons first others =>
        cases others with
        | nil =>
            simp only [front, Option.some.injEq] at up
            simp only [front, List.reverse_singleton] at whole
            have longer := length_ofParts_lt_append (List.cons_ne_nil first []) more
            have slash : (ofParts ([[]] ++ back)).length = 1 + (ofParts back).length := by
              obtain ⟨next, rest, rfl⟩ := List.exists_cons_of_ne_nil more
              simp [ofParts, Nat.add_comm]
            rw [← up, ← whole]
            split
            · rename_i empty
              rw [List.isEmpty_iff.mp empty, slash]
              simp only [List.length_singleton]
              omega
            · simpa [ofParts] using longer
        | cons next rest =>
            simp only [front, Option.some.injEq] at up
            rw [← up, ← whole, front]
            exact length_ofParts_lt_append (by simp) more

/-! ### Names in a folder -/

/-- Whether a name may follow at once. -/
def Open (stem : Path) : Prop :=
  stem = [] ∨ ∃ before, stem = before ++ ['/']

theorem Open.exists_parts {stem : Path} (isOpen : Open stem) :
    ∃ front, ∀ name, '/' ∉ name → parts (stem ++ name) = front ++ [name] := by
  rcases isOpen with rfl | ⟨before, rfl⟩
  · exact ⟨[], fun name slashless => Text.splitOn_of_not_mem slashless⟩
  · refine ⟨parts before, fun name slashless => ?_⟩
    rw [parts, List.append_assoc, List.singleton_append, Text.splitOn_append_cons,
      Text.splitOn_of_not_mem slashless]
    rfl

theorem exists_base (workingDirectory : Path) : ∃ base, Open base ∧
    ∀ relative, isAbsolute relative = false →
      join workingDirectory relative = base ++ relative := by
  by_cases ended : (workingDirectory.isEmpty || workingDirectory.getLast? = some '/') = true
  · refine ⟨workingDirectory, ?_, fun relative isRelative => ?_⟩
    · simp only [Bool.or_eq_true, List.isEmpty_iff, decide_eq_true_eq] at ended
      exact ended.imp_right fun last => List.getLast?_eq_some_iff.mp last
    · rw [join, isRelative, if_neg (by simp), if_pos ended]
  · refine ⟨workingDirectory ++ ['/'], .inr ⟨_, rfl⟩, fun relative isRelative => ?_⟩
    rw [join, isRelative, if_neg (by simp), if_neg ended, List.append_assoc]
    rfl

theorem Open.exists_front {before : Path} (isOpen : Open before) (workingDirectory : Path) :
    ∃ front, ∀ name, '/' ∉ name →
      parts (join workingDirectory (before ++ name)) = front ++ [name] := by
  obtain ⟨base, isBase, fromBase⟩ := exists_base workingDirectory
  rcases isOpen with rfl | ⟨more, rfl⟩
  · obtain ⟨front, named⟩ := isBase.exists_parts
    refine ⟨front, fun name slashless => ?_⟩
    have relative : isAbsolute name = false := by
      cases name with
      | nil => rfl
      | cons c rest => simpa [isAbsolute, eq_comm] using fun slash => slashless (by simp [slash])
    rw [List.nil_append, fromBase name relative, named name slashless]
  · have head (name : Path) : isAbsolute (more ++ ['/'] ++ name) = isAbsolute (more ++ ['/']) := by
      cases more <;> rfl
    by_cases absolute : isAbsolute (more ++ ['/'])
    · obtain ⟨front, named⟩ := Open.exists_parts (.inr ⟨more, rfl⟩)
      refine ⟨front, fun name slashless => ?_⟩
      rw [join, head, if_pos absolute, named name slashless]
    · have further : Open (base ++ (more ++ ['/'])) := .inr ⟨base ++ more, by simp⟩
      obtain ⟨front, named⟩ := further.exists_parts
      refine ⟨front, fun name slashless => ?_⟩
      rw [fromBase _ ((head name).trans (by simpa using absolute)), ← List.append_assoc,
        named name slashless]

end Path

namespace Files

/-- A path is a name behind what leads to its folder. -/
theorem exists_folder (path : Path) :
    ∃ before, Path.Open before ∧ path = before ++ nameAfterSlash path ∧
      '/' ∉ nameAfterSlash path := by
  have whole : path.reverse.takeWhile (· ≠ '/') ++ path.reverse.dropWhile (· ≠ '/') =
      path.reverse :=
    List.takeWhile_append_dropWhile
  refine ⟨(path.reverse.dropWhile (· ≠ '/')).reverse, ?_, ?_, ?_⟩
  · have head := List.head?_dropWhile_not (· ≠ '/') path.reverse
    cases rest : path.reverse.dropWhile (· ≠ '/') with
    | nil => exact .inl rfl
    | cons c more =>
        rw [rest] at head
        have slash : c = '/' := by simpa using head
        exact .inr ⟨more.reverse, by simp [slash]⟩
  · rw [nameAfterSlash, ← List.reverse_append, whole, List.reverse_reverse]
  · intro member
    rw [nameAfterSlash, List.mem_reverse] at member
    simpa using List.mem_takeWhile_imp member

theorem folderOf_eq {path before : Path} (split : path = before ++ nameAfterSlash path)
    (named : nameAfterSlash path ≠ []) :
    folderOf path = if before.isEmpty then ['.'] else before := by
  have named : (nameAfterSlash path).isEmpty = false := by simpa using named
  have folder : path.take (path.length - (nameAfterSlash path).length) = before := by
    have size := congrArg List.length split
    rw [List.length_append] at size
    rw [size, Nat.add_sub_cancel]
    nth_rewrite 1 [split]
    exact List.take_left
  simp only [folderOf, named, folder, Bool.false_eq_true, if_false]

theorem exists_front {path : Path} (workingDirectory : Path) (named : nameAfterSlash path ≠ []) :
    ∃ front idle, Path.isIdle idle ∧
      Path.parts (Path.join workingDirectory (folderOf path)) = front ++ [idle] ∧
      Path.parts (Path.join workingDirectory path) = front ++ [nameAfterSlash path] := by
  obtain ⟨before, isOpen, split, slashless⟩ := exists_folder path
  obtain ⟨front, parts⟩ := isOpen.exists_front workingDirectory
  have inFolder := parts (nameAfterSlash path) slashless
  rw [← split] at inFolder
  rw [folderOf_eq split named]
  cases before with
  | nil => exact ⟨front, ['.'], rfl, parts ['.'] (by decide), inFolder⟩
  | cons c more => exact ⟨front, [], rfl, by simpa using parts [] (by simp), inFolder⟩

end Files

end EnergyReport
