import RouteSurvey.Proofs.FirstOccurrences
import RouteSurvey.Proofs.Resolution.Paths

/-! # Required attributes

A declaration has paths and request methods exactly if some declaration on its chain has
them. What is resolved then is fit for a route: paths that are not empty, and request
methods without duplicates.
-/

namespace RouteSurvey

/-! ## Own values -/

theorem Marker.ne_empty_of_mem_list {marker : Marker} {key s : String}
    (hmem : s ∈ marker.list key) : s ≠ "" := by
  unfold Marker.list at hmem
  cases hvalue : marker.values.get? key with
  | none => simp [hvalue] at hmem
  | some value =>
      rw [hvalue, Option.elim_some] at hmem
      cases value <;> exact of_decide_eq_true (List.mem_filter.mp hmem).2

theorem Marker.ne_empty_of_mem_firstList {marker : Marker} {keys : List String} {s : String}
    (hmem : s ∈ marker.firstList keys) : s ≠ "" := by
  unfold Marker.firstList at hmem
  cases hfound : (keys.map marker.list).find? (! ·.isEmpty) with
  | none => simp [hfound] at hmem
  | some values =>
      rw [hfound, Option.getD_some] at hmem
      obtain ⟨key, _, rfl⟩ := List.mem_map.mp (List.mem_of_find?_eq_some hfound)
      exact ne_empty_of_mem_list hmem

namespace Resolution

open Declaration (Tree Ref)

variable {tree : Tree}

/-- The mapping of a declaration was read from one of its markers. -/
theorem exists_ofMarker {ref : Ref} {mapping : Mapping}
    (hmapping : mappingAt? tree ref = some mapping) :
    ∃ kind marker, mapping = Mapping.ofMarker kind marker := by
  obtain ⟨selected, _, rfl⟩ := Option.map_eq_some_iff.mp hmapping
  exact ⟨selected.1, selected.2, rfl⟩

theorem ne_empty_of_mem_ownAt_paths {ref : Ref} {path : String}
    (hmem : path ∈ ownAt tree Mapping.paths ref) : path ≠ "" := by
  obtain ⟨mapping, hmapping, hpath⟩ := mem_ownAt.mp hmem
  obtain ⟨kind, marker, rfl⟩ := exists_ofMarker hmapping
  cases kind <;> exact Marker.ne_empty_of_mem_firstList hpath

theorem nodup_ownAt_methods (ref : Ref) : (ownAt tree Mapping.methods ref).Nodup := by
  cases hmapping : mappingAt? tree ref with
  | none =>
      rw [ownAt_of_none hmapping]
      exact List.nodup_nil
  | some mapping =>
      rw [ownAt_of_some hmapping]
      obtain ⟨kind, marker, rfl⟩ := exists_ofMarker hmapping
      cases kind with
      | request => exact nodup_eraseDups _
      | shorthand verb => exact List.nodup_singleton _

/-! ## Values on the chain -/

variable (tree) in
/-- The declaration, or one around it, has a mapping with values for an attribute. -/
def Provided {α : Type} (values : Mapping → List α) (ref : Ref) : Prop :=
  ∃ outer mapping, tree.Surrounds ref outer ∧ mappingAt? tree outer = some mapping ∧
    values mapping ≠ []

theorem provided_iff {α : Type} {values : Mapping → List α} {ref : Ref} :
    Provided tree values ref ↔ ∃ outer ∈ outsideIn tree ref, ownAt tree values outer ≠ [] := by
  constructor
  · rintro ⟨outer, mapping, hsurrounds, hmapping, hne⟩
    exact ⟨outer, mem_outsideIn.mpr hsurrounds, by rwa [ownAt_of_some hmapping]⟩
  · rintro ⟨outer, hmem, hne⟩
    cases hmapping : mappingAt? tree outer with
    | none => exact absurd (ownAt_of_none hmapping) hne
    | some mapping =>
        rw [ownAt_of_some hmapping] at hne
        exact ⟨outer, mapping, mem_outsideIn.mp hmem, hmapping, hne⟩

theorem not_provided_iff {α : Type} {values : Mapping → List α} {ref : Ref} :
    ¬ Provided tree values ref ↔ ∀ outer ∈ outsideIn tree ref, ownAt tree values outer = [] := by
  simp only [provided_iff, not_exists, not_and, ne_eq, not_not]

/-! ## Paths -/

theorem foldPaths_eq_none_iff {ref : Ref} :
    foldPaths (mappingsAround tree ref) = none ↔ ¬ Provided tree Mapping.paths ref := by
  rw [foldPaths_mappingsAround, joinedChoices, ite_eq_left_iff, not_provided_iff, pathLists,
    nonempty, List.filter_eq_nil_iff]
  simp [outsideIn]

theorem joinPaths_ne_empty (parent fragment : String) : joinPaths parent fragment ≠ "" := by
  intro hempty
  have hchars := congrArg String.toList hempty
  simp [joinPaths, joinChars] at hchars

/-- A path that is put together of paths is empty only if it is a single empty one. -/
theorem joinedPath_ne_empty {choice : List String} (hchoice : choice ≠ [])
    (hne : ∀ fragment ∈ choice, fragment ≠ "") : joinedPath choice ≠ "" := by
  cases choice with
  | nil => contradiction
  | cons first rest =>
      induction rest using List.reverseRecOn with
      | nil => exact hne first List.mem_cons_self
      | append_singleton rest last _ =>
          simp only [joinedPath, List.foldl_concat]
          exact joinPaths_ne_empty _ _

theorem foldPaths_valid {ref : Ref} {paths : List String}
    (hpaths : foldPaths (mappingsAround tree ref) = some paths) : paths ≠ [] ∧ "" ∉ paths := by
  rw [foldPaths_mappingsAround] at hpaths
  constructor
  · obtain ⟨-, rfl⟩ := joinedChoices_eq_some_iff.mp hpaths
    rw [ne_eq, List.map_eq_nil_iff]
    exact choices_ne_nil fun offered hoffered => (mem_pathLists.mp hoffered).1
  · intro hempty
    obtain ⟨fragments, hne, hjoined, hoffered⟩ := exists_fragments_of_joinedChoices hpaths hempty
    refine joinedPath_ne_empty hne (fun fragment hfragment => ?_) hjoined
    obtain ⟨offered, hmem, hin⟩ := hoffered fragment hfragment
    obtain ⟨-, outer, -, rfl⟩ := mem_pathLists.mp hmem
    exact ne_empty_of_mem_ownAt_paths hin

/-! ## Request methods -/

/-- The innermost list of request methods that is not empty counts. -/
theorem foldl_inheritMethods (lists : List (List HttpMethod)) (parent : Option (List HttpMethod)) :
    lists.foldl (fun parent own => inheritMethods own parent) parent =
      (lists.reverse.find? (! ·.isEmpty)).or parent := by
  induction lists generalizing parent with
  | nil => rfl
  | cons own rest ih =>
      rw [List.foldl_cons, ih, List.reverse_cons, List.find?_append, Option.or_assoc]
      cases own <;> rfl

theorem foldMethods_mappingsAround (ref : Ref) :
    foldMethods (mappingsAround tree ref) =
      ((tree.chain ref).members.map (ownAt tree Mapping.methods)).find? (! ·.isEmpty) := by
  have hfold := foldl_inheritMethods ((outsideIn tree ref).map (ownAt tree Mapping.methods)) none
  rw [← List.map_reverse, outsideIn, List.reverse_reverse, Option.or_none] at hfold
  rw [← hfold, foldMethods, mappingsAround, outsideIn, List.foldl_map, List.foldl_map]
  rfl

theorem foldMethods_eq_none_iff {ref : Ref} :
    foldMethods (mappingsAround tree ref) = none ↔ ¬ Provided tree Mapping.methods ref := by
  rw [foldMethods_mappingsAround, List.find?_eq_none, not_provided_iff]
  simp [outsideIn]

theorem foldMethods_valid {ref : Ref} {methods : List HttpMethod}
    (hmethods : foldMethods (mappingsAround tree ref) = some methods) :
    methods ≠ [] ∧ methods.Nodup := by
  rw [foldMethods_mappingsAround] at hmethods
  obtain ⟨outer, _, rfl⟩ := List.mem_map.mp (List.mem_of_find?_eq_some hmethods)
  refine ⟨?_, nodup_ownAt_methods outer⟩
  simpa using List.find?_some hmethods

/-! ## Schemas -/

/-- The attributes that are resolved for a declaration suffice for a route. -/
structure Schema.IsComplete (schema : Schema) : Prop where
  paths_ne_nil : schema.paths ≠ []
  paths_ne_empty : "" ∉ schema.paths
  methods_ne_nil : schema.methods ≠ []
  methods_nodup : schema.methods.Nodup

theorem schemaAt_ok {ref : Ref} {schema : Schema} (hschema : schemaAt tree ref = .ok schema) :
    Provided tree Mapping.paths ref ∧ Provided tree Mapping.methods ref ∧ schema.IsComplete := by
  cases hpaths : foldPaths (mappingsAround tree ref) with
  | none =>
      simp only [schemaAt, hpaths] at hschema
      contradiction
  | some paths =>
      cases hmethods : foldMethods (mappingsAround tree ref) with
      | none =>
          simp only [schemaAt, hpaths, hmethods] at hschema
          contradiction
      | some methods =>
          simp only [schemaAt, hpaths, hmethods] at hschema
          cases hschema
          refine ⟨not_not.mp fun hnot => ?_, not_not.mp fun hnot => ?_, ?_⟩
          · rw [foldPaths_eq_none_iff.mpr hnot] at hpaths
            contradiction
          · rw [foldMethods_eq_none_iff.mpr hnot] at hmethods
            contradiction
          · obtain ⟨hne, hempty⟩ := foldPaths_valid hpaths
            obtain ⟨hmethods, hnodup⟩ := foldMethods_valid hmethods
            exact ⟨hne, hempty, hmethods, hnodup⟩

theorem schemaAt_error {ref : Ref} {failure : Failure}
    (hschema : schemaAt tree ref = .error failure) :
    failure.declaration = tree.qualifiedName ref ∧
      (failure.missing = .path ∧ ¬ Provided tree Mapping.paths ref ∨
        failure.missing = .methods ∧ Provided tree Mapping.paths ref ∧
          ¬ Provided tree Mapping.methods ref) := by
  cases hpaths : foldPaths (mappingsAround tree ref) with
  | none =>
      simp only [schemaAt, hpaths] at hschema
      cases hschema
      exact ⟨rfl, Or.inl ⟨rfl, foldPaths_eq_none_iff.mp hpaths⟩⟩
  | some paths =>
      cases hmethods : foldMethods (mappingsAround tree ref) with
      | none =>
          simp only [schemaAt, hpaths, hmethods] at hschema
          cases hschema
          refine ⟨rfl, Or.inr ⟨rfl, not_not.mp fun hnot => ?_, foldMethods_eq_none_iff.mp hmethods⟩⟩
          rw [foldPaths_eq_none_iff.mpr hnot] at hpaths
          contradiction
      | some methods =>
          simp only [schemaAt, hpaths, hmethods] at hschema
          contradiction

end Resolution

end RouteSurvey
