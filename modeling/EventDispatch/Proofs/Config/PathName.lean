import EventDispatch.Config.PathName
import Mathlib.Data.List.TakeWhile
/-!
The last part of a name.

Purpose: a file's own name is the part behind the last slash, whatever directory stands in front of
it, and its extension is the part behind the last dot of that. So a file that is named below a
directory keeps its stem and its extension.

Main exports: `PathName.EndsIn`, `PathName.EndsIn.join`, `PathName.EndsIn.stem?`,
`PathName.EndsIn.extension?`.
-/

namespace EventDispatch.PathName

/-- A name whose last part is a given one. -/
def EndsIn (path : String) (last : List Char) : Prop :=
  '/' ∉ last ∧ (path.toList = last ∨ ∃ front, path.toList = front ++ '/' :: last)

variable {path own directory : String} {last front back : List Char}

theorem split_ne_nil (cs : List Char) : split cs ≠ [] := by
  cases cs with
  | nil => simp [split]
  | cons c cs =>
      unfold split
      split
      · simp
      · split <;> simp

theorem split_cons_of_ne {c : Char} (other : c ≠ '/') {first : List Char} {rest : List (List Char)}
    {cs : List Char} (parts : split cs = first :: rest) :
    split (c :: cs) = (c :: first) :: rest := by
  rw [split, if_neg other, parts]

/-- The parts on both sides of a slash. -/
theorem split_append (front back : List Char) :
    split (front ++ '/' :: back) = split front ++ split back := by
  induction front with
  | nil => simp [split]
  | cons c cs inductionHypothesis =>
      rw [List.cons_append]
      by_cases slash : c = '/'
      · simp [split, slash, inductionHypothesis]
      · cases parts : split cs with
        | nil => exact absurd parts (split_ne_nil cs)
        | cons first rest =>
            rw [split_cons_of_ne slash parts]
            apply split_cons_of_ne slash
            rw [inductionHypothesis, parts]
            rfl

theorem split_of_not_mem (whole : '/' ∉ last) : split last = [last] := by
  induction last with
  | nil => rfl
  | cons c cs inductionHypothesis =>
      simp only [List.mem_cons, not_or] at whole
      exact split_cons_of_ne (Ne.symm whole.1) (inductionHypothesis whole.2)

namespace EndsIn

/-- Every text without a slash is its own last part. -/
theorem self (whole : '/' ∉ own.toList) : EndsIn own own.toList := ⟨whole, Or.inl rfl⟩

/-- A file below a directory keeps its last part. -/
theorem join (ends : EndsIn own last) (directory : String) :
    EndsIn (PathName.join directory own) last := by
  have behind : ∀ front : List Char, ∃ more, front ++ '/' :: own.toList = more ++ '/' :: last := by
    intro front
    rcases ends.2 with whole | ⟨inner, split⟩
    · exact ⟨front, by rw [whole]⟩
    · exact ⟨front ++ '/' :: inner, by simp [split]⟩
  refine ⟨ends.1, ?_⟩
  unfold PathName.join
  split
  · exact ends.2
  · right
    split
    · rename_i slash
      obtain ⟨front, closed⟩ := List.getLast?_eq_some_iff.mp slash
      simpa [closed] using behind front
    · simpa using behind directory.toList

/-- A last part that means something is the last of those that do. -/
theorem getLast?_parts (ends : EndsIn path last) (nonempty : last ≠ []) (noDot : last ≠ ['.']) :
    (parts path).getLast? = some (String.ofList last) := by
  unfold parts
  rcases ends.2 with whole | ⟨front, whole⟩
  · simp [whole, split_of_not_mem ends.1, nonempty]
  · rw [whole, split_append, split_of_not_mem ends.1]
    cases before : split front with
    | nil => exact absurd before (split_ne_nil front)
    | cons first rest => simp [nonempty, noDot, List.getLast?_append]

theorem fileName? (ends : EndsIn path last) (nonempty : last ≠ []) (noDot : last ≠ ['.'])
    (noDots : last ≠ ['.', '.']) : fileName? path = some (String.ofList last) := by
  have one : String.ofList last ≠ "." := fun same =>
    noDot (by simpa using congrArg String.toList same)
  have two : String.ofList last ≠ ".." := fun same =>
    noDots (by simpa using congrArg String.toList same)
  simp [PathName.fileName?, ends.getLast?_parts nonempty noDot, one, two]

end EndsIn

/-- The last part of a name is made of a base, a dot and an extension. -/
structure Ending (path : String) (base extension : List Char) : Prop where
  ends : EndsIn path (base ++ '.' :: extension)
  nonempty : extension ≠ []
  last : '.' ∉ extension

namespace Ending

variable {base extension : List Char}

theorem fileName? (ending : Ending path base extension) :
    fileName? path = some (String.ofList (base ++ '.' :: extension)) := by
  have inside := ending.last
  apply ending.ends.fileName?
  · simp
  · intro same
    cases base with
    | nil => exact ending.nonempty (by simpa using same)
    | cons c cs => simp at same
  · intro same
    match base with
    | [] =>
        have extension : extension = ['.'] := by simpa using same
        simp [extension] at inside
    | [c] => exact ending.nonempty (by simp_all)
    | c :: d :: more => simp at same

theorem splitExtension (ending : Ending path base extension) :
    splitExtension (String.ofList (base ++ '.' :: extension)) =
      if base = [] then (String.ofList (base ++ '.' :: extension), none)
      else (String.ofList base, some (String.ofList extension)) := by
  have taken : (extension.reverse ++ '.' :: base.reverse).takeWhile (· ≠ '.')
      = extension.reverse := by
    rw [List.takeWhile_append_of_pos]
    · simp
    · intro c member
      simp only [decide_eq_true_eq]
      rintro rfl
      exact ending.last (List.mem_reverse.mp member)
  have reversed : (String.ofList (base ++ '.' :: extension)).toList.reverse
      = extension.reverse ++ '.' :: base.reverse := by simp
  simp only [PathName.splitExtension, reversed, taken, List.drop_left]
  cases empty : base.reverse with
  | nil =>
      have nothing : base = [] := by simpa using empty
      simp [nothing]
  | cons c cs =>
      have nonempty : base ≠ [] := by
        rintro rfl
        cases empty
      have again : (c :: cs).reverse = base := by rw [← empty, List.reverse_reverse]
      simp [nonempty, again]

/-- A name with a base in front of its last dot has what is behind the dot for its extension. -/
theorem extension? (ending : Ending path base extension) :
    extension? path = if base = [] then none else some (String.ofList extension) := by
  rw [PathName.extension?, ending.fileName?, Option.bind_some, ending.splitExtension]
  split <;> rfl

theorem stem? (ending : Ending path base extension) (nonempty : base ≠ []) :
    stem? path = some (String.ofList base) := by
  rw [PathName.stem?, ending.fileName?, Option.map_some, ending.splitExtension, if_neg nonempty]

end Ending
end EventDispatch.PathName
