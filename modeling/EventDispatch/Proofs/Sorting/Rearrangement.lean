import EventDispatch.Proofs.Sorting.Insertion
/-!
Sorting keeps the items.

Purpose: whatever a comparison says, what comes out of sorting without a crash is a rearrangement of
what went in: the runs that are cut off are, and so are the runs that they are joined to, and both
sides of a list that is parted by a pivot. The two passes of a merge from both ends take different
items, since they have to meet.

Main exports: `Sorting.mergeHalves_perm`, `Sorting.small_perm`, `Sorting.byRuns_perm`,
`Sorting.byPivots_perm`, `Sorting.sort_perm`.
-/

namespace EventDispatch.Sorting

open scoped List

variable {α : Type} {less : α → α → Bool}

/-! ### Few items -/

theorem sortFour_perm (less : α → α → Bool) (a b c d : α) :
    sortFour less a b c d ~ [a, b, c, d] := by
  classical
  rw [List.perm_iff_count]
  intro x
  unfold sortFour
  by_cases first : less b a = true <;> by_cases second : less d c = true
  all_goals
    simp only [first, second, if_true]
    split <;> (repeat' split) <;> simp only [List.count_cons, List.count_nil] <;> omega

/-- What is taken from the fronts of two runs are their first items, so many of each. -/
theorem takeFronts_spec (fromSecond : α → α → Bool) (n : Nat) (xs ys : List α) :
    ∃ i j, (takeFronts fromSecond n xs ys).2 = (xs.drop i, ys.drop j) ∧
      (takeFronts fromSecond n xs ys).1 ~ xs.take i ++ ys.take j ∧
      (n ≤ xs.length → n ≤ ys.length → i + j = n) := by
  induction n generalizing xs ys with
  | zero => exact ⟨0, 0, by simp [takeFronts]⟩
  | succ n inductionHypothesis =>
      cases xs with
      | nil => exact ⟨0, 0, by simp [takeFronts]⟩
      | cons x xs =>
          cases ys with
          | nil => exact ⟨0, 0, by simp [takeFronts]⟩
          | cons y ys =>
              unfold takeFronts
              split
              · obtain ⟨i, j, rest, taken, count⟩ := inductionHypothesis (x :: xs) ys
                refine ⟨i, j + 1, rest, ?_, ?_⟩
                · exact (taken.cons y).trans List.perm_middle.symm
                · intro enough enough'
                  simp only [List.length_cons] at enough enough' count
                  omega
              · obtain ⟨i, j, rest, taken, count⟩ := inductionHypothesis xs (y :: ys)
                refine ⟨i + 1, j, rest, taken.cons x, ?_⟩
                intro enough enough'
                simp only [List.length_cons] at enough enough' count
                omega

/-- Merging the halves of a list keeps the items. -/
theorem mergeHalves_perm {items merged : List α} (merges : mergeHalves less items = some merged) :
    merged ~ items := by
  classical
  rw [List.perm_iff_count]
  intro x
  have parts : ∀ (n : Nat) (xs : List α), (xs.take n).count x + (xs.drop n).count x = xs.count x :=
    fun n xs => by rw [← List.count_append, List.take_append_drop]
  simp only [mergeHalves] at merges
  generalize sizes : items.length / 2 = half at merges
  have lengthLeft : (items.take half).length = half := by simp; omega
  have lengthRight : (items.drop half).length = half + items.length % 2 := by simp; omega
  have whole := parts half items
  generalize items.take half = left at merges lengthLeft whole
  generalize items.drop half = right at merges lengthRight whole
  obtain ⟨i, j, restFront, front, count⟩ :=
    takeFronts_spec (fun x y => less y x) half left right
  obtain ⟨i', j', restBack, back, count'⟩ :=
    takeFronts_spec (fun x y => !less y x) half left.reverse right.reverse
  have taken := front.count_eq x
  have takenBack := back.count_eq x
  rw [List.count_append] at taken
  rw [List.count_append, List.take_reverse, List.take_reverse, List.count_reverse,
    List.count_reverse, lengthLeft, lengthRight] at takenBack
  simp only [List.length_reverse] at count'
  have sum := count (by omega) (by omega)
  have sum' := count' (by omega) (by omega)
  simp only [restFront, restBack, List.length_drop, List.length_reverse, lengthLeft] at merges
  split at merges
  · -- The passes meet in both halves: between them is at most one item of the second half.
    rename_i meet
    cases merges
    have between := parts (items.length % 2) (right.drop j)
    rw [List.drop_drop] at between
    have here : half - i' = i := by omega
    have there : half + items.length % 2 - j' = j + items.length % 2 := by omega
    rw [here, there] at takenBack
    simp only [List.count_append, List.count_reverse]
    have first := parts i left
    have second := parts j right
    omega
  · split at merges
    · -- One item of the first half is between them.
      rename_i meet
      obtain ⟨odd, meet⟩ := meet
      cases merges
      have between := parts 1 (left.drop i)
      rw [List.drop_drop] at between
      have here : half - i' = i + 1 := by omega
      have there : half + items.length % 2 - j' = j := by omega
      rw [here, there] at takenBack
      simp only [List.count_append, List.count_reverse]
      have first := parts i left
      have second := parts j right
      omega
    · cases merges

/-! ### Runs -/

theorem start_perm {size : Nat} {items run : List α} (starts : start less size items = some run) :
    run ~ items.take size := by
  unfold start at starts
  split at starts
  · exact (mergeHalves_perm starts).trans ((sortFour_perm ..).append (sortFour_perm ..))
  · cases starts
    exact sortFour_perm ..
  · cases starts
    exact .refl _

theorem sortHalf_perm {size : Nat} {items run : List α}
    (sorts : sortHalf less size items = some run) : run ~ items := by
  obtain ⟨front, starts, rfl⟩ := Option.map_eq_some_iff.mp sorts
  calc insertAll less front (items.drop size)
      ~ front ++ items.drop size := insertAll_perm ..
    _ ~ items.take size ++ items.drop size := (start_perm starts).append_right _
    _ = items := List.take_append_drop ..

theorem small_perm {items others : List α} (sorts : small less items = some others) :
    others ~ items := by
  unfold small at sorts
  split at sorts
  · cases sorts
    exact .refl _
  · simp only [Option.bind_eq_bind, Option.bind_eq_some_iff] at sorts
    obtain ⟨left, first, right, second, merges⟩ := sorts
    calc others
        ~ left ++ right := mergeHalves_perm merges
      _ ~ items.take (items.length / 2) ++ items.drop (items.length / 2) :=
        (sortHalf_perm first).append (sortHalf_perm second)
      _ = items := List.take_append_drop ..

theorem mergeRuns_perm (less : α → α → Bool) (left right : List α) :
    mergeRuns less left right ~ left ++ right := by
  unfold mergeRuns
  split
  · exact List.merge_perm_append _
  · refine (List.reverse_perm _).trans ((List.merge_perm_append _).trans ?_)
    exact (List.reverse_perm left).append (List.reverse_perm right)

/-- Cutting a run off takes so many items at the front, and at least one if runs that stand there
have to have one. -/
theorem nextRun_spec {now : Bool} {good : Nat} {items rest : List α} {run : Run α}
    (cuts : nextRun less now good items = some (run, rest)) :
    ∃ n, (1 ≤ good → 1 ≤ n) ∧ run.items ~ items.take n ∧ rest = items.drop n := by
  unfold nextRun at cuts
  split at cuts
  · rename_i standing
    cases cuts
    simp only [standingRun?, Option.ite_none_right_eq_some, Option.some.injEq] at standing
    obtain ⟨long, same⟩ := standing
    cases same
    refine ⟨_, fun proper => Nat.le_trans proper long, ?_, rfl⟩
    dsimp only
    split
    · exact List.reverse_perm _
    · exact .refl _
  · split at cuts
    · obtain ⟨sorted, sorts, same⟩ := Option.map_eq_some_iff.mp cuts
      cases same
      exact ⟨32, fun _ => by decide, small_perm sorts, rfl⟩
    · cases cuts
      exact ⟨good, id, .refl _, rfl⟩

theorem nextRun_perm {now : Bool} {good : Nat} {items rest : List α} {run : Run α}
    (cuts : nextRun less now good items = some (run, rest)) : run.items ++ rest ~ items := by
  obtain ⟨n, _, front, rfl⟩ := nextRun_spec cuts
  calc run.items ++ items.drop n
      ~ items.take n ++ items.drop n := front.append_right _
    _ = items := List.take_append_drop ..

section Joining

variable {room : Nat} {sort : List α → Option (List α)}

theorem inOrder_perm (keeps : ∀ {items others}, sort items = some others → others ~ items)
    {run : Run α} {items : List α} (sorts : run.inOrder sort = some items) :
    items ~ run.items := by
  unfold Run.inOrder at sorts
  split at sorts
  · cases sorts
    exact .refl _
  · exact keeps sorts

theorem joinRuns_perm (keeps : ∀ {items others}, sort items = some others → others ~ items)
    {left right joined : Run α} (joins : joinRuns less room sort left right = some joined) :
    joined.items ~ left.items ++ right.items := by
  unfold joinRuns at joins
  split at joins
  · simp only [Option.bind_eq_bind, Option.bind_eq_some_iff] at joins
    obtain ⟨first, foundFirst, second, foundSecond, made⟩ := joins
    cases made
    calc mergeRuns less first second
        ~ first ++ second := mergeRuns_perm ..
      _ ~ left.items ++ right.items :=
        (inOrder_perm keeps foundFirst).append (inOrder_perm keeps foundSecond)
  · cases joins
    exact .refl _

/-- The items of a stack of runs. -/
def held (stack : List (Run α × Nat)) : List α := stack.flatMap (·.1.items)

theorem collapse_perm (keeps : ∀ {items others}, sort items = some others → others ~ items)
    {depth : Nat} {stack rest : List (Run α × Nat)} {run joined : Run α}
    (collapses : collapse less room sort depth stack run = some (rest, joined)) :
    held rest ++ joined.items ~ held stack ++ run.items := by
  induction stack generalizing run with
  | nil =>
      cases collapses
      exact .refl _
  | cons entry stack inductionHypothesis =>
      obtain ⟨left, d⟩ := entry
      unfold collapse at collapses
      split at collapses
      · simp only [Option.bind_eq_bind, Option.bind_eq_some_iff] at collapses
        obtain ⟨both, joins, later⟩ := collapses
        calc held rest ++ joined.items
            ~ held stack ++ both.items := inductionHypothesis later
          _ ~ held stack ++ (left.items ++ run.items) := (joinRuns_perm keeps joins).append_left _
          _ = held stack ++ left.items ++ run.items := (List.append_assoc ..).symm
          _ ~ left.items ++ held stack ++ run.items := List.perm_append_comm.append_right _
          _ = held ((left, d) :: stack) ++ run.items := by rw [held, held, List.flatMap_cons]
      · cases collapses
        exact .refl _

/-- Runs that lie at any depth are all joined. -/
theorem rest_of_collapse {stack rest : List (Run α × Nat)} {run joined : Run α}
    (collapses : collapse less room sort 0 stack run = some (rest, joined)) : rest = [] := by
  induction stack generalizing run with
  | nil =>
      cases collapses
      rfl
  | cons entry stack inductionHypothesis =>
      simp only [collapse, Nat.zero_le, if_true, Option.bind_eq_bind,
        Option.bind_eq_some_iff] at collapses
      obtain ⟨both, _, later⟩ := collapses
      exact inductionHypothesis later

/-- Joining all runs keeps the items. Each of them takes an item at least, so that they are cut off
within the bound. -/
theorem joinAll_perm (keeps : ∀ {items others}, sort items = some others → others ~ items)
    {now : Bool} {good scale fuel scanned : Nat} {stack : List (Run α × Nat)}
    {last joined : Run α} {items : List α} (proper : items ≠ [] → 1 ≤ good)
    (enough : items.length ≤ fuel)
    (joins : joinAll less now good room scale sort fuel scanned stack last items = some joined) :
    joined.items ~ held stack ++ last.items ++ items := by
  have ends : ∀ {stack : List (Run α × Nat)} {last : Run α},
      (collapse less room sort 0 stack last).map Prod.snd = some joined →
        joined.items ~ held stack ++ last.items := by
    intro stack last collapses
    obtain ⟨⟨rest, _⟩, found, rfl⟩ := Option.map_eq_some_iff.mp collapses
    have empty := rest_of_collapse found
    subst empty
    exact collapse_perm keeps found
  induction fuel generalizing scanned stack last items with
  | zero =>
      have none : items = [] := List.length_eq_zero_iff.mp (Nat.le_zero.mp enough)
      subst none
      rw [List.append_nil]
      exact ends joins
  | succ fuel inductionHypothesis =>
      cases items with
      | nil =>
          rw [List.append_nil]
          exact ends joins
      | cons x rest =>
          simp only [joinAll, Option.bind_eq_bind, Option.bind_eq_some_iff, Prod.exists] at joins
          obtain ⟨next, later, cuts, others, run, collapses, joins⟩ := joins
          obtain ⟨n, some, front, rfl⟩ := nextRun_spec cuts
          have fewer : ((x :: rest).drop n).length ≤ fuel := by
            have := some (proper (List.cons_ne_nil x rest))
            simp only [List.length_drop, List.length_cons] at enough ⊢
            omega
          calc joined.items
              ~ held (_ :: others) ++ next.items ++ (x :: rest).drop n :=
                inductionHypothesis (fun _ => proper (List.cons_ne_nil x rest)) fewer joins
            _ = run.items ++ held others ++ (next.items ++ (x :: rest).drop n) := by
                rw [held, List.flatMap_cons, List.append_assoc]
                rfl
            _ ~ held others ++ run.items ++ (x :: rest) :=
                List.perm_append_comm.append (nextRun_perm cuts)
            _ ~ held stack ++ last.items ++ (x :: rest) :=
                (collapse_perm keeps collapses).append_right _

theorem one_le_goodLength {length : Nat} (some : 1 ≤ length) : 1 ≤ goodLength length := by
  unfold goodLength
  split
  · omega
  · have large : 1 ≤ length.log2 := (Nat.le_log2 (by omega)).mpr (by omega)
    have shift : 1 ≤ (1 + length.log2) / 2 := by omega
    have power : 2 ^ 1 ≤ 2 ^ ((1 + length.log2) / 2) := Nat.pow_le_pow_right (by decide) shift
    dsimp only
    generalize length / 2 ^ ((1 + length.log2) / 2) = quotient
    omega

/-- Sorting by runs keeps the items. -/
theorem byRuns_perm (keeps : ∀ {items others}, sort items = some others → others ~ items)
    {now : Bool} {items others : List α} (sorts : byRuns less now room sort items = some others) :
    others ~ items := by
  simp only [byRuns, Option.bind_eq_bind, Option.bind_eq_some_iff, Prod.exists] at sorts
  obtain ⟨first, rest, cuts, run, joins, sorts⟩ := sorts
  have whole := nextRun_perm cuts
  have lengths := whole.length_eq
  rw [List.length_append] at lengths
  have proper : rest ≠ [] → 1 ≤ goodLength items.length := by
    intro more
    apply one_le_goodLength
    have := List.length_pos_iff.mpr more
    omega
  calc others
      ~ run.items := inOrder_perm keeps sorts
    _ ~ first.items ++ rest := joinAll_perm keeps proper (by omega) joins
    _ ~ items := whole

end Joining

/-! ### Parting by a pivot -/

/-- Both sides of a parted list have all items. -/
theorem partition_perm (test : α → Bool) (place : Nat) (passes : Bool) (items : List α) :
    (partition test place passes items).1 ++ (partition test place passes items).2 ~ items := by
  classical
  rw [List.perm_iff_count]
  intro x
  have parts : ∀ xs : List α,
      (xs.filter test).count x + (xs.filter (!test ·)).count x = xs.count x :=
    fun xs => by rw [← List.count_append, (List.filter_append_perm test xs).count_eq]
  have front := parts (items.take place)
  have behind := parts (items.drop (place + 1))
  have whole : items.count x = (items.take place).count x + ((items.drop place).take 1).count x
      + (items.drop (place + 1)).count x := by
    rw [← List.count_append, ← List.count_append, ← List.drop_drop, List.append_assoc,
      List.take_append_drop, List.take_append_drop]
  simp only [partition, List.count_append]
  cases passes <;> simp <;> omega

/-- Sorting by parting keeps the items. -/
theorem byPivots_perm {room limit : Nat} {above : Option α} {items others : List α}
    (sorts : byPivots less room limit above items = some others) : others ~ items := by
  induction limit generalizing above items others with
  | zero =>
      unfold byPivots at sorts
      split at sorts
      · exact small_perm sorts
      · exact byRuns_perm (by rintro _ _ ⟨⟩; exact .refl _) sorts
  | succ limit inductionHypothesis =>
      unfold byPivots at sorts
      split at sorts
      · exact small_perm sorts
      · split at sorts
        · rename_i same _
          cases same
          simp only at sorts
          split at sorts
          · simp only [Option.bind_eq_bind, Option.bind_eq_some_iff] at sorts
            obtain ⟨upper, sorted, made⟩ := sorts
            cases made
            exact ((inductionHypothesis sorted).append_left _).trans (partition_perm ..)
          · simp only [Option.bind_eq_bind, Option.bind_eq_some_iff] at sorts
            obtain ⟨upper, sortedUpper, lower, sortedLower, made⟩ := sorts
            cases made
            calc lower ++ upper
                ~ _ ++ _ := (inductionHypothesis sortedLower).append
                  (inductionHypothesis sortedUpper)
              _ ~ items := partition_perm ..
        · exact byRuns_perm (by rintro _ _ ⟨⟩; exact .refl _) sorts

/-! ### Any number of items -/

theorem many_perm {items others : List α} (sorts : many less items = some others) :
    others ~ items :=
  byRuns_perm byPivots_perm sorts

/-- Sorting keeps the items. -/
theorem sort_perm {items others : List α} (sorts : sort less items = some others) :
    others ~ items := by
  unfold sort at sorts
  split at sorts
  · cases sorts
    exact insertion_perm less items
  · exact many_perm sorts

/-- Up to twenty items are sorted by insertion. -/
theorem sort_of_few {items : List α} (few : items.length ≤ 20) :
    sort less items = some (insertion less items) := by
  simp [sort, few]

/-- So are items that the comparison orders. -/
theorem sort_of_coherent {items : List α} (ordered : Coherent less items) :
    sort less items = some (insertion less items) := by
  simp [sort, coherent_iff.mpr ordered]

end EventDispatch.Sorting
