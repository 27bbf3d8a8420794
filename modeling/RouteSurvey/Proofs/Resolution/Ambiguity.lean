import RouteSurvey.Proofs.Mapping
import RouteSurvey.Resolution.Resolver

/-! # Ambiguous declarations

A declaration is ambiguous if it carries several mapping kinds. The warning it deserves
lists all of them in registration order and selects the first, which is the one that the
mapping of the declaration was read by.
-/

namespace RouteSurvey

namespace Resolution

open Declaration (Tree Ref)

variable (tree : Tree)

/-- A declaration carries a marker of a mapping kind. -/
def Carries (ref : Ref) (kind : MappingKind) : Prop :=
  ∃ marker ∈ tree.markers ref, marker.kind = kind.name

/-- A declaration carries several mapping kinds. -/
def IsAmbiguous (ref : Ref) : Prop :=
  ∃ kind other, kind ≠ other ∧ Carries tree ref kind ∧ Carries tree ref other

/-- What a warning about a declaration says: all mapping kinds on it in registration order,
of which the first counts. -/
structure IsWarningAbout (ref : Ref) (warning : AmbiguousMapping) : Prop where
  declaration_eq : warning.declaration = tree.qualifiedName ref
  mem_found : ∀ kind, kind ∈ warning.found ↔ Carries tree ref kind
  found_sublist : warning.found.Sublist MappingKind.all
  head_found : warning.found.head? = some warning.selected

variable {tree}

theorem isAmbiguous_iff {ref : Ref} :
    IsAmbiguous tree ref ↔ (normalized tree ref).isAmbiguous = true :=
  isAmbiguous_ofMarkers_iff.symm

theorem ambiguity?_eq_some {ref : Ref} (hambiguous : IsAmbiguous tree ref) :
    ∃ warning, ambiguity? tree ref = some warning ∧ IsWarningAbout tree ref warning := by
  have hnormal := isAmbiguous_iff.mp hambiguous
  obtain ⟨kind, _, _, hkind, _⟩ := hambiguous
  obtain ⟨first, hfirst⟩ : ∃ first, (mappingKinds (tree.markers ref)).head? = some first :=
    ⟨_, List.head?_eq_some_head (List.ne_nil_of_mem (mem_mappingKinds.mpr hkind))⟩
  obtain ⟨mapping, hmapping, hmappingKind⟩ := mapping?_of_head hfirst
  have hmapping : (normalized tree ref).mapping? = some mapping := hmapping
  refine ⟨⟨tree.qualifiedName ref, mappingKinds (tree.markers ref), mapping.kind⟩, ?_, ?_⟩
  · simp only [ambiguity?, hmapping, hnormal]
    rfl
  · exact ⟨rfl, fun _ => mem_mappingKinds, List.filter_sublist, hmappingKind ▸ hfirst⟩

theorem ambiguity?_eq_none {ref : Ref} (hnot : ¬ IsAmbiguous tree ref) :
    ambiguity? tree ref = none := by
  rw [isAmbiguous_iff, Bool.not_eq_true] at hnot
  simp [ambiguity?, hnot]

theorem isSome_ambiguity? {ref : Ref} : (ambiguity? tree ref).isSome ↔ IsAmbiguous tree ref := by
  by_cases hambiguous : IsAmbiguous tree ref
  · obtain ⟨warning, hwarning, _⟩ := ambiguity?_eq_some hambiguous
    simp [hwarning, hambiguous]
  · simp [ambiguity?_eq_none hambiguous, hambiguous]

theorem isWarningAbout_of_ambiguity? {ref : Ref} {warning : AmbiguousMapping}
    (hwarning : ambiguity? tree ref = some warning) : IsWarningAbout tree ref warning := by
  have hambiguous := isSome_ambiguity?.mp (Option.isSome_of_eq_some hwarning)
  obtain ⟨other, hother, habout⟩ := ambiguity?_eq_some hambiguous
  cases hwarning.symm.trans hother
  exact habout

end Resolution

end RouteSurvey
