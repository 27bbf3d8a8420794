import Mathlib.Data.List.Forall2
import RouteSurvey.Mapping
import RouteSurvey.Proofs.Dictionary

/-! # Reading markers

A value that is one string is read like a list of just this string. So how the values of a
marker are stored shows neither in its lists nor in the mapping that is read from it.
-/

namespace RouteSurvey

namespace Literal

/-- The strings of a value as they are stored, with those that are empty. -/
def items : Literal → List String
  | text s => [s]
  | list items => items

theorem strings_eq_filter (value : Literal) : value.strings = value.items.filter (· ≠ "") := by
  cases value <;> rfl

theorem items_ofStrings (strings : List String) : (ofStrings strings).items = strings := by
  unfold ofStrings
  split <;> rfl

theorem strings_ofStrings (strings : List String) :
    (ofStrings strings).strings = strings.filter (· ≠ "") := by
  rw [strings_eq_filter, items_ofStrings]

end Literal

namespace Marker

/-! ## Lists -/

/-- Two markers are of one kind, and under each key they have the same strings, be they stored
as one string or as a list. -/
structure Alike (first second : Marker) : Prop where
  kind_eq : first.kind = second.kind
  items_eq : ∀ key,
    (first.values.get? key).map Literal.items = (second.values.get? key).map Literal.items

/-- One string can be stored as it is or as a list. -/
theorem alike_insert (kind key string : String) (values : Dictionary Literal) :
    Alike ⟨kind, values.insert key (.text string)⟩ ⟨kind, values.insert key (.list [string])⟩ where
  kind_eq := rfl
  items_eq other := by
    by_cases hother : other = key
    · subst hother
      rw [Dictionary.get?_insert_self, Dictionary.get?_insert_self]
      rfl
    · rw [Dictionary.get?_insert_of_ne _ _ hother, Dictionary.get?_insert_of_ne _ _ hother]

theorem list_eq_elim (marker : Marker) (key : String) :
    marker.list key =
      ((marker.values.get? key).map Literal.items).elim [] (·.filter (· ≠ "")) := by
  rw [list]
  cases marker.values.get? key with
  | none => rfl
  | some value => exact value.strings_eq_filter

/-- The first of two keys counts if there is anything under it. -/
theorem firstList_pair (marker : Marker) (key other : String) :
    marker.firstList [key, other] =
      if marker.list key = [] then marker.list other else marker.list key := by
  by_cases hkey : marker.list key = []
  · by_cases hother : marker.list other = [] <;> simp [firstList, hkey, hother]
  · simp [firstList, hkey]

namespace Alike

variable {first second : Marker}

theorem list_eq (halike : Alike first second) : first.list = second.list := by
  funext key
  rw [list_eq_elim, list_eq_elim, halike.items_eq key]

theorem firstList_eq (halike : Alike first second) : first.firstList = second.firstList := by
  funext keys
  rw [firstList, firstList, halike.list_eq]

theorem string?_eq (halike : Alike first second) : first.string? = second.string? := by
  funext key
  rw [string?, string?, halike.list_eq]

/-! ## Mappings -/

theorem ofMarker_eq (halike : Alike first second) (kind : MappingKind) :
    Mapping.ofMarker kind first = Mapping.ofMarker kind second := by
  simp only [Mapping.ofMarker, Mapping.pathsOf, halike.firstList_eq, halike.list_eq]

theorem skippedTokens_eq (halike : Alike first second) (kind : MappingKind) :
    Mapping.skippedTokens kind first = Mapping.skippedTokens kind second := by
  simp only [Mapping.skippedTokens, halike.list_eq]

end Alike

section Forall

variable {markers others : List Marker}

theorem ofKind?_alike (halike : List.Forall₂ Alike markers others) (kind : String) :
    Option.Rel Alike (ofKind? markers kind) (ofKind? others kind) := by
  induction halike with
  | nil => exact .none
  | cons hfirst _ ih =>
      rw [ofKind?, ofKind?, List.find?_cons, List.find?_cons, hfirst.kind_eq]
      split
      · exact .some hfirst
      · exact ih

theorem mappingKinds_alike (halike : List.Forall₂ Alike markers others) :
    mappingKinds markers = mappingKinds others := by
  refine List.filter_congr fun kind _ => ?_
  induction halike with
  | nil => rfl
  | cons hfirst _ ih => rw [List.any_cons, List.any_cons, hfirst.kind_eq, ih]

end Forall

end Marker

/-- How the values of markers are stored does not show in what they amount to. -/
theorem Normalized.ofMarkers_alike {markers others : List Marker}
    (halike : List.Forall₂ Marker.Alike markers others) : ofMarkers markers = ofMarkers others := by
  simp only [ofMarkers, selectedMarker?, Marker.mappingKinds_alike halike]
  cases (mappingKinds others).head? with
  | none => rfl
  | some kind =>
      have hfirst := Marker.ofKind?_alike halike kind.name
      simp only [Option.bind_eq_bind, Option.bind_some]
      generalize Marker.ofKind? markers kind.name = first? at hfirst
      generalize Marker.ofKind? others kind.name = second? at hfirst
      cases hfirst with
      | none => rfl
      | some hmarker =>
          simp only [Option.bind_some, Option.pure_def, Option.map_some, Option.elim_some,
            hmarker.ofMarker_eq, hmarker.skippedTokens_eq]

end RouteSurvey
