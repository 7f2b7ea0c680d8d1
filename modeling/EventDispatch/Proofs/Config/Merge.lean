import EventDispatch.Config.Layers
import EventDispatch.Proofs.Json.Fields
import Mathlib.Data.List.Induction
/-!
Merging documents.

Purpose: what a merged document shows at a path. A document touches a path if it has an entry there,
or something other than a mapping on the way. The higher of two documents decides about the paths
that it touches, and the lower one about all others; so of several layers the last one that touches
a path decides. A document whose names ascend is known by what it shows.

Main exports: `Document.Orderly`, `Document.shown`, `Document.touches`, `Document.shown_merge`,
`Document.Orderly.merge`, `Document.Orderly.ext`, `Document.decisive`, `Document.shown_foldl`.
-/

namespace EventDispatch.Document

/-- The names of a document ascend in every mapping outside of sequences. -/
inductive Orderly : Document → Prop where
  | leaf {d : Document} (plain : d.isMapping = false) : Orderly d
  | mapping {fields : Fields Document} (sorted : fields.Sorted)
      (below : ∀ entry ∈ fields, Orderly entry.2) : Orderly (.mapping fields)

/-- What stands at a place, whatever a mapping there holds. -/
def face : Document → Document
  | .mapping _ => blank
  | d => d

/-- What a document shows at a path. -/
def shown (d : Document) (path : List String) : Option Document := (d.at? path).map face

/-- Whether a document says what stands at a path. -/
def touches (d : Document) (path : List String) : Bool :=
  (d.at? path).isSome || Sources.blocks d path

variable {d x y : Document} {name : String} {path : List String} {fields : Fields Document}

/-! ### Places in a document -/

theorem isMapping_iff : d.isMapping = true ↔ ∃ fields, d = .mapping fields := by
  cases d <;> simp [isMapping]

theorem face_of_plain (plain : d.isMapping = false) : d.face = d := by
  cases d <;> first | rfl | cases plain

theorem at?_cons_mapping :
    (mapping fields).at? (name :: path) = (fields.find? name).bind (·.at? path) := by
  simp only [at?, get?]
  cases fields.find? name <;> rfl

theorem at?_cons_plain (plain : d.isMapping = false) : d.at? (name :: path) = none := by
  cases d <;> first | rfl | cases plain

theorem touches_nil (d : Document) : d.touches [] = true := rfl

/-- Something other than a mapping stands on the way to every path. -/
theorem touches_plain (plain : d.isMapping = false) (path : List String) :
    d.touches path = true := by
  cases path with
  | nil => rfl
  | cons name path => simp [touches, Sources.blocks, plain]

theorem touches_cons_mapping :
    (mapping fields).touches (name :: path) = (fields.find? name).any (·.touches path) := by
  simp only [touches, at?_cons_mapping, Sources.blocks, isMapping, get?, Bool.not_true,
    Bool.false_or]
  cases fields.find? name <;> simp

/-- A document that shows something at a path touches it. -/
theorem touches_of_shown (present : (d.shown path).isSome = true) : d.touches path = true := by
  simp only [shown, Option.isSome_map] at present
  simp [touches, present]

theorem shown_of_not_touches (apart : d.touches path = false) : d.shown path = none := by
  rw [← Option.not_isSome_iff_eq_none]
  intro present
  rw [touches_of_shown present] at apart
  cases apart

theorem shown_cons_mapping :
    (mapping fields).shown (name :: path) = (fields.find? name).bind (·.shown path) := by
  simp only [shown, at?_cons_mapping]
  cases fields.find? name <;> rfl

theorem shown_cons_plain (plain : d.isMapping = false) : d.shown (name :: path) = none := by
  simp [shown, at?_cons_plain plain]

/-! ### Two documents -/

theorem merge_plain (x : Document) (plain : y.isMapping = false) : merge x y = y := by
  cases y <;> first | rfl | cases plain

theorem merge_over_plain (plain : x.isMapping = false) (y : Document) : merge x y = y := by
  cases y <;> cases x <;> first | rfl | cases plain

/-- Under a name that both mappings have stand the merged entries. -/
theorem find?_mergeFields {under : Fields Document} (sorted : fields.Sorted) (name : String) :
    (mergeFields under fields).find? name = match fields.find? name, under.find? name with
      | some higher, some lower => some (merge lower higher)
      | some higher, none => some higher
      | none, found => found := by
  induction fields generalizing under with
  | nil => rfl
  | cons first rest inductionHypothesis =>
      obtain ⟨own, higher⟩ := first
      obtain ⟨before, sortedRest⟩ := List.pairwise_cons.mp sorted
      rw [mergeFields, inductionHypothesis sortedRest, Fields.find?_cons, Fields.find?_insert]
      by_cases same : name = own
      · subst same
        have absent : Fields.find? name rest = none := by
          rw [Option.eq_none_iff_forall_ne_some]
          intro d found
          have member := List.mem_map_of_mem (f := Prod.fst) (Fields.mem_of_find? found)
          exact String.lt_irrefl name (before name member)
        simp only [absent, if_true]
        cases under.find? name <;> rfl
      · simp [same]

/-- The higher document decides about the paths that it touches. -/
theorem shown_merge (x : Document) (orderly : y.Orderly) (path : List String) :
    (merge x y).shown path = if y.touches path then y.shown path else x.shown path := by
  induction path generalizing x y with
  | nil =>
      rw [touches_nil, if_pos rfl]
      cases orderly with
      | leaf plain => rw [merge_plain x plain]
      | mapping => cases x <;> rfl
  | cons name path inductionHypothesis =>
      cases orderly with
      | leaf plain => rw [merge_plain x plain, touches_plain plain, if_pos rfl]
      | @mapping fields sorted below =>
          rw [touches_cons_mapping, shown_cons_mapping]
          cases plain : x.isMapping with
          | false =>
              rw [merge_over_plain plain, shown_cons_mapping, shown_cons_plain plain]
              cases found : fields.find? name with
              | none => rfl
              | some d =>
                  cases touched : d.touches path with
                  | true => simp [touched]
                  | false => simp [touched, shown_of_not_touches touched]
          | true =>
              obtain ⟨under, rfl⟩ := isMapping_iff.mp plain
              rw [merge, shown_cons_mapping, shown_cons_mapping, find?_mergeFields sorted]
              cases found : fields.find? name with
              | none => rfl
              | some higher =>
                  have orderlyBelow := below _ (Fields.mem_of_find? found)
                  cases there : Fields.find? name under with
                  | some lower => exact inductionHypothesis lower orderlyBelow
                  | none =>
                      cases touched : higher.touches path with
                      | true => simp [touched]
                      | false => simp [touched, shown_of_not_touches touched]

/-- A merged document touches no more than the two documents do. -/
theorem touches_of_touches_merge (orderly : y.Orderly)
    (touched : (merge x y).touches path = true) :
    x.touches path = true ∨ y.touches path = true := by
  induction path generalizing x y with
  | nil => exact Or.inl rfl
  | cons name path inductionHypothesis =>
      cases orderly with
      | leaf plain => exact Or.inr (touches_plain plain _)
      | @mapping fields sorted below =>
          cases plain : x.isMapping with
          | false => exact Or.inl (touches_plain plain _)
          | true =>
              obtain ⟨under, rfl⟩ := isMapping_iff.mp plain
              rw [merge, touches_cons_mapping, find?_mergeFields sorted] at touched
              rw [touches_cons_mapping, touches_cons_mapping]
              cases found : fields.find? name with
              | none =>
                  rw [found] at touched
                  exact Or.inl touched
              | some higher =>
                  cases there : Fields.find? name under with
                  | none =>
                      rw [found, there] at touched
                      exact Or.inr touched
                  | some lower =>
                      rw [found, there] at touched
                      exact inductionHypothesis (below _ (Fields.mem_of_find? found)) touched

/-- A merged document touches what the higher one touches. -/
theorem touches_merge (x : Document) (orderly : y.Orderly) (touched : y.touches path = true) :
    (merge x y).touches path = true := by
  induction path generalizing x y with
  | nil => rfl
  | cons name path inductionHypothesis =>
      cases orderly with
      | leaf plain => rw [merge_plain x plain, touches_plain plain]
      | @mapping fields sorted below =>
          cases plain : x.isMapping with
          | false => rwa [merge_over_plain plain]
          | true =>
              obtain ⟨under, rfl⟩ := isMapping_iff.mp plain
              rw [touches_cons_mapping] at touched
              rw [merge, touches_cons_mapping, find?_mergeFields sorted]
              cases found : fields.find? name with
              | none =>
                  rw [found] at touched
                  cases touched
              | some higher =>
                  rw [found] at touched
                  cases there : Fields.find? name under with
                  | none => exact touched
                  | some lower =>
                      exact inductionHypothesis lower (below _ (Fields.mem_of_find? found)) touched

theorem isMapping_merge (higher : y.isMapping = true) : (merge x y).isMapping = true := by
  obtain ⟨fields, rfl⟩ := isMapping_iff.mp higher
  cases x <;> rfl

/-! ### Orderly documents -/

namespace Orderly

theorem blank : Orderly blank := mapping .nil (by simp)

/-- The mapping of pairs is orderly if their values are. -/
theorem ofPairs {pairs : List (String × Document)} (each : ∀ entry ∈ pairs, Orderly entry.2) :
    Orderly (.ofPairs pairs) :=
  mapping (.ofList pairs) fun entry member => each entry (Fields.mem_ofList member)

theorem nested (orderly : d.Orderly) (path : List String) : (d.nested path).Orderly := by
  induction path with
  | nil => exact orderly
  | cons name path inductionHypothesis =>
      apply mapping
      · simp [Fields.Sorted, Fields.names]
      · simpa using inductionHypothesis

/-- The entries of merged mappings are in order, and so are their values. -/
private theorem mergeFields {under : Fields Document} (sorted : under.Sorted)
    (each : ∀ entry ∈ under, Orderly entry.2) (below : ∀ entry ∈ fields, Orderly entry.2)
    (merged : ∀ entry ∈ fields, ∀ x : Document, x.Orderly → (merge x entry.2).Orderly) :
    Orderly (.mapping (mergeFields under fields)) := by
  induction fields generalizing under with
  | nil => exact mapping sorted each
  | cons first rest inductionHypothesis =>
      obtain ⟨own, higher⟩ := first
      obtain ⟨here, later⟩ := List.forall_mem_cons.mp below
      obtain ⟨mergedHere, mergedLater⟩ := List.forall_mem_cons.mp merged
      rw [Document.mergeFields]
      refine inductionHypothesis (sorted.insert own _) ?_ later mergedLater
      intro entry member
      rcases Fields.mem_insert member with rfl | old
      · cases found : under.find? own with
        | none => exact here
        | some lower => exact mergedHere lower (each _ (Fields.mem_of_find? found))
      · exact each entry old

theorem merge (orderlyX : x.Orderly) (orderly : y.Orderly) : (merge x y).Orderly := by
  induction orderly generalizing x with
  | @leaf d plain =>
      rw [merge_plain x plain]
      exact leaf plain
  | @mapping fields sorted below inductionHypothesis =>
      cases orderlyX with
      | leaf plain =>
          rw [merge_over_plain plain]
          exact mapping sorted below
      | mapping sortedUnder each =>
          exact mergeFields sortedUnder each below fun entry member x orderly =>
            inductionHypothesis entry member orderly

theorem foldl {ds : List Document} (orderlyX : x.Orderly) (each : ∀ d ∈ ds, Orderly d) :
    (ds.foldl Document.merge x).Orderly := by
  induction ds generalizing x with
  | nil => exact orderlyX
  | cons d rest inductionHypothesis =>
      obtain ⟨here, later⟩ := List.forall_mem_cons.mp each
      exact inductionHypothesis (orderlyX.merge here) later

/-- Orderly documents that show the same everywhere are the same. -/
theorem ext (orderlyX : x.Orderly) (orderly : y.Orderly)
    (same : ∀ path, x.shown path = y.shown path) : x = y := by
  induction orderlyX generalizing y with
  | @leaf d plain =>
      have atRoot : d.face = y.face := Option.some.inj (same [])
      rw [face_of_plain plain] at atRoot
      cases plainY : y.isMapping with
      | false => rw [atRoot, face_of_plain plainY]
      | true =>
          obtain ⟨fields, rfl⟩ := isMapping_iff.mp plainY
          subst atRoot
          cases plain
  | @mapping fields sorted below inductionHypothesis =>
      cases orderly with
      | leaf plain =>
          have atRoot : Document.blank = y.face := Option.some.inj (same [])
          rw [face_of_plain plain] at atRoot
          subst atRoot
          cases plain
      | @mapping others sortedOthers belowOthers =>
          have equal : fields = others := by
            apply sorted.ext sortedOthers
            intro name
            have under : ∀ path, (fields.find? name).bind (·.shown path)
                = (Fields.find? name others).bind (·.shown path) := by
              intro path
              rw [← shown_cons_mapping, ← shown_cons_mapping]
              exact same (name :: path)
            cases found : fields.find? name with
            | none =>
                cases there : Fields.find? name others with
                | none => rfl
                | some e => simpa [found, there, shown, at?] using under []
            | some d =>
                cases there : Fields.find? name others with
                | none => simpa [found, there, shown, at?] using under []
                | some e =>
                    simp only [found, there, Option.bind_some] at under
                    have one : d = e := inductionHypothesis (name, d)
                      (Fields.mem_of_find? found) (belowOthers _ (Fields.mem_of_find? there)) under
                    rw [one]
          rw [equal]

end Orderly

/-! ### Layers -/

/-- The last of some documents that touches a path. -/
def decisive (ds : List Document) (path : List String) : Option Document :=
  ds.reverse.find? (·.touches path)

variable {ds : List Document}

theorem decisive_append (front back : List Document) (path : List String) :
    decisive (front ++ back) path = (decisive back path).or (decisive front path) := by
  rw [decisive, List.reverse_append, List.find?_append]
  rfl

/-- The decisive document touches the path, and none behind it does. -/
theorem decisive_eq_some_iff : decisive ds path = some d ↔ d.touches path = true ∧
    ∃ below above, ds = below ++ d :: above ∧ ∀ e ∈ above, e.touches path = false := by
  rw [decisive, List.find?_eq_some_iff_append]
  apply and_congr_right
  intro _
  constructor
  · rintro ⟨front, back, split, apart⟩
    refine ⟨back.reverse, front.reverse, ?_, by simpa using apart⟩
    rw [← List.reverse_reverse ds, split]
    simp
  · rintro ⟨below, above, rfl, apart⟩
    exact ⟨above.reverse, below.reverse, by simp, by simpa using apart⟩

theorem touches_of_decisive (last : decisive ds path = some d) : d.touches path = true :=
  (decisive_eq_some_iff.mp last).1

theorem mem_of_decisive (last : decisive ds path = some d) : d ∈ ds :=
  List.mem_reverse.mp (List.mem_of_find?_eq_some last)

theorem decisive_eq_none_iff :
    decisive ds path = none ↔ ∀ d ∈ ds, d.touches path = false := by
  simp [decisive]

/-- Of several layers the last one that touches a path decides about it. -/
theorem shown_foldl (x : Document) (each : ∀ d ∈ ds, Orderly d) (path : List String) :
    (ds.foldl merge x).shown path = ((decisive ds path).getD x).shown path := by
  induction ds using List.reverseRecOn with
  | nil => rfl
  | append_singleton ds d inductionHypothesis =>
      obtain ⟨earlier, last⟩ := List.forall_mem_append.mp each
      rw [List.foldl_append, List.foldl_cons, List.foldl_nil,
        shown_merge _ (last d (List.mem_singleton_self d)), decisive_append]
      cases touched : d.touches path with
      | true => simp [decisive, touched]
      | false => simpa [decisive, touched] using inductionHypothesis earlier

/-- Layers together touch no more than they do one by one. -/
theorem touches_of_touches_foldl (each : ∀ d ∈ ds, Orderly d)
    (touched : (ds.foldl merge x).touches path = true) :
    x.touches path = true ∨ ∃ d ∈ ds, d.touches path = true := by
  induction ds using List.reverseRecOn with
  | nil => exact Or.inl touched
  | append_singleton ds d inductionHypothesis =>
      obtain ⟨earlier, last⟩ := List.forall_mem_append.mp each
      rw [List.foldl_append, List.foldl_cons, List.foldl_nil] at touched
      rcases touches_of_touches_merge (last d (List.mem_singleton_self d)) touched with
        before | here
      · rcases inductionHypothesis earlier before with start | ⟨e, member, within⟩
        · exact Or.inl start
        · exact Or.inr ⟨e, List.mem_append_left [d] member, within⟩
      · exact Or.inr ⟨d, by simp, here⟩

theorem isMapping_foldl (start : x.isMapping = true) (each : ∀ d ∈ ds, d.isMapping = true) :
    (ds.foldl merge x).isMapping = true := by
  induction ds generalizing x with
  | nil => exact start
  | cons d rest inductionHypothesis =>
      obtain ⟨here, later⟩ := List.forall_mem_cons.mp each
      exact inductionHypothesis (isMapping_merge here) later

/-! ### Layers that are merged by themselves first -/

/-- An entry that some layers hide, one of them at least, and that shows again behind all of them
once these are merged by themselves: a later one of them forgets what the earlier one hides. -/
structure Revived (x : Document) (ds : List Document) (path : List String) : Prop where
  present : (x.at? path).isSome = true
  hidden : ∃ d ∈ ds, d.touches path = true
  forgotten : (mergeAll ds).touches path = false

/-- Layers that are merged by themselves and then over a mapping show the same as layers that are
merged over it one by one, but for the entries that are revived. -/
theorem shown_merge_mergeAll_iff (start : x.isMapping = true) (each : ∀ d ∈ ds, Orderly d)
    (path : List String) :
    (merge x (mergeAll ds)).shown path = (ds.foldl merge x).shown path ↔
      ¬ Revived x ds path := by
  have together : (mergeAll ds).Orderly := Orderly.blank.foldl each
  have alone : (mergeAll ds).shown path = ((decisive ds path).getD blank).shown path :=
    shown_foldl blank each path
  rw [shown_merge x together, shown_foldl x each]
  cases last : decisive ds path with
  | none =>
      have apart := decisive_eq_none_iff.mp last
      have notRevived : ¬ Revived x ds path := by
        rintro ⟨_, ⟨d, member, hides⟩, _⟩
        rw [apart d member] at hides
        cases hides
      simp only [notRevived, not_false_eq_true, iff_true, Option.getD_none]
      split
      · rename_i touched
        rcases touches_of_touches_foldl each touched with atRoot | ⟨d, member, within⟩
        · -- The blank document has its root only, and there stands a mapping in both.
          cases path with
          | nil =>
              rw [alone, last]
              obtain ⟨fields, rfl⟩ := isMapping_iff.mp start
              rfl
          | cons name path => simp [blank, touches_cons_mapping] at atRoot
        · rw [apart d member] at within
          cases within
      · rfl
  | some d =>
      rw [last] at alone
      simp only [Option.getD_some] at alone ⊢
      cases touched : (mergeAll ds).touches path with
      | true =>
          have notRevived : ¬ Revived x ds path := by
            intro revived
            rw [revived.forgotten] at touched
            cases touched
          simp [alone, notRevived]
      | false =>
          have nothing : d.shown path = none := by
            rw [← alone]
            exact shown_of_not_touches touched
          have hidden := (⟨d, mem_of_decisive last, touches_of_decisive last⟩ :
            ∃ d ∈ ds, d.touches path = true)
          rw [if_neg (by simp), nothing, shown, Option.map_eq_none_iff]
          constructor
          · intro absent revived
            simpa [absent] using revived.present
          · intro notRevived
            rw [← Option.not_isSome_iff_eq_none]
            intro present
            exact notRevived ⟨present, hidden, touched⟩

/-- What the last of the layers hides is not forgotten. -/
theorem not_revived_of_touches_last {last : Document} (orderly : last.Orderly)
    (touched : last.touches path = true) : ¬ Revived x (ds ++ [last]) path := by
  intro revived
  have forgotten := revived.forgotten
  rw [mergeAll, List.foldl_append, List.foldl_cons, List.foldl_nil,
    touches_merge _ orderly touched] at forgotten
  cases forgotten

/-- What the last layer to touch a path has there is never revived over. -/
theorem not_revived_of_shown {layer : Document} (each : ∀ d ∈ ds, Orderly d)
    (last : decisive ds path = some layer) (present : (layer.at? path).isSome = true) :
    ¬ Revived x ds path := by
  intro revived
  have alone : (mergeAll ds).shown path = ((decisive ds path).getD blank).shown path :=
    shown_foldl blank each path
  rw [last, Option.getD_some, shown_of_not_touches revived.forgotten] at alone
  have visible : (layer.shown path).isSome = true := by simpa [shown] using present
  rw [← alone] at visible
  cases visible

end EventDispatch.Document
