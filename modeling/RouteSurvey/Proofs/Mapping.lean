import Mathlib.Data.Finset.Card
import RouteSurvey.Mapping

/-! # Selecting a mapping

Of the markers on a declaration only the first one of each mapping kind counts. Markers of
other kinds, later markers of a kind that was there before, and the order in which different
kinds are written leave no trace. The mapping is that of the first kind in registration order.
-/

namespace RouteSurvey

namespace MappingKind

theorem mem_all (kind : MappingKind) : kind ∈ all := by
  cases kind with
  | request => decide
  | shorthand verb => cases verb <;> decide

theorem nodup_all : all.Nodup := by
  decide

theorem isSome_ofName?_name (kind : MappingKind) : (ofName? kind.name).isSome :=
  List.find?_isSome.mpr ⟨kind, kind.mem_all, beq_self_eq_true _⟩

/-- Some marker is of the mapping kind. -/
def OccursIn (kind : MappingKind) (markers : List Marker) : Prop :=
  ∃ marker ∈ markers, marker.kind = kind.name

end MappingKind

theorem Mapping.kind_ofMarker (kind : MappingKind) (marker : Marker) :
    (Mapping.ofMarker kind marker).kind = kind := by
  cases kind <;> rfl

/-! ## Kinds that occur -/

section Kinds

variable {markers : List Marker} {kind : MappingKind}

theorem mem_mappingKinds : kind ∈ mappingKinds markers ↔ kind.OccursIn markers := by
  simp only [mappingKinds, List.mem_filter, kind.mem_all, true_and, List.any_eq_true, beq_iff_eq,
    MappingKind.OccursIn]

theorem isSome_ofKind?_name :
    (Marker.ofKind? markers kind.name).isSome ↔ kind.OccursIn markers := by
  simp only [Marker.ofKind?, List.find?_isSome, beq_iff_eq, MappingKind.OccursIn]

theorem mappingKinds_sublist (markers : List Marker) :
    (mappingKinds markers).Sublist MappingKind.all :=
  List.filter_sublist

theorem nodup_mappingKinds (markers : List Marker) : (mappingKinds markers).Nodup :=
  MappingKind.nodup_all.filter _

/-- A marker of the first kind that occurs is selected. -/
theorem selectedMarker?_of_head (hhead : (mappingKinds markers).head? = some kind) :
    ∃ marker, Marker.ofKind? markers kind.name = some marker ∧
      selectedMarker? markers = some (kind, marker) := by
  have hsome := isSome_ofKind?_name.mpr (mem_mappingKinds.mp (List.mem_of_head? hhead))
  obtain ⟨marker, hmarker⟩ := Option.isSome_iff_exists.mp hsome
  exact ⟨marker, hmarker, by simp [selectedMarker?, hhead, hmarker]⟩

theorem mapping?_of_head (hhead : (mappingKinds markers).head? = some kind) :
    ∃ mapping, (Normalized.ofMarkers markers).mapping? = some mapping ∧ mapping.kind = kind := by
  obtain ⟨marker, -, hselected⟩ := selectedMarker?_of_head hhead
  refine ⟨Mapping.ofMarker kind marker, ?_, Mapping.kind_ofMarker kind marker⟩
  simp only [Normalized.ofMarkers, hselected, Option.map_some]

theorem mappingKinds_singleton {marker : Marker} (hkind : marker.kind = kind.name) :
    mappingKinds [marker] = [kind] := by
  simp only [mappingKinds, List.any_cons, List.any_nil, Bool.or_false, hkind]
  cases kind with
  | request => decide
  | shorthand verb => cases verb <;> decide

theorem mapping?_singleton {marker : Marker} (hkind : marker.kind = kind.name) :
    (Normalized.ofMarkers [marker]).mapping? = some (Mapping.ofMarker kind marker) := by
  have hfirst : Marker.ofKind? [marker] kind.name = some marker := by
    simp [Marker.ofKind?, hkind]
  simp [Normalized.ofMarkers, selectedMarker?, mappingKinds_singleton hkind, hfirst]

theorem map_kind_mapping? (markers : List Marker) :
    (Normalized.ofMarkers markers).mapping?.map Mapping.kind = (mappingKinds markers).head? := by
  cases hhead : (mappingKinds markers).head? with
  | none => simp [Normalized.ofMarkers, selectedMarker?, hhead]
  | some kind =>
      obtain ⟨mapping, hmapping, rfl⟩ := mapping?_of_head hhead
      rw [hmapping, Option.map_some]

theorem isAmbiguous_ofMarkers_iff :
    (Normalized.ofMarkers markers).isAmbiguous ↔
      ∃ kind other : MappingKind, kind ≠ other ∧ kind.OccursIn markers ∧
        other.OccursIn markers := by
  have hcard := List.toFinset_card_of_nodup (nodup_mappingKinds markers)
  rw [Normalized.isAmbiguous, decide_eq_true_iff, Normalized.ofMarkers, ← hcard, Finset.one_lt_card]
  simp only [List.mem_toFinset, mem_mappingKinds]
  constructor
  · rintro ⟨kind, hkind, other, hother, hne⟩
    exact ⟨kind, other, hne, hkind, hother⟩
  · rintro ⟨kind, other, hne, hkind, hother⟩
    exact ⟨kind, hkind, other, hother, hne⟩

end Kinds

/-! ## First markers -/

/-- Two lists of markers have the same first marker of each mapping kind, or both have none
of it. -/
def SameFirsts (first second : List Marker) : Prop :=
  ∀ kind : MappingKind, Marker.ofKind? first kind.name = Marker.ofKind? second kind.name

section Firsts

variable {first second : List Marker}

theorem SameFirsts.mappingKinds_eq (hsame : SameFirsts first second) :
    mappingKinds first = mappingKinds second := by
  refine List.filter_congr fun kind _ => ?_
  rw [Bool.eq_iff_iff]
  have hoccurs : kind.OccursIn first ↔ kind.OccursIn second := by
    rw [← isSome_ofKind?_name, hsame kind, isSome_ofKind?_name]
  simpa only [List.any_eq_true, beq_iff_eq, MappingKind.OccursIn] using hoccurs

theorem SameFirsts.selectedMarker?_eq (hsame : SameFirsts first second) :
    selectedMarker? first = selectedMarker? second := by
  simp only [selectedMarker?, hsame.mappingKinds_eq, hsame _]

theorem SameFirsts.ofMarkers_eq (hsame : SameFirsts first second) :
    Normalized.ofMarkers first = Normalized.ofMarkers second := by
  rw [Normalized.ofMarkers, Normalized.ofMarkers, hsame.mappingKinds_eq, hsame.selectedMarker?_eq]

/-- Markers of other kinds have no part in what comes first. -/
theorem sameFirsts_of_filter_eq
    (hfilter : (first.filter fun marker => (MappingKind.ofName? marker.kind).isSome) =
      second.filter fun marker => (MappingKind.ofName? marker.kind).isSome) :
    SameFirsts first second := by
  intro kind
  have hfind (markers : List Marker) : Marker.ofKind? markers kind.name =
      Marker.ofKind? (markers.filter fun marker => (MappingKind.ofName? marker.kind).isSome)
        kind.name := by
    rw [Marker.ofKind?, Marker.ofKind?, List.find?_filter]
    refine congrFun (congrArg _ (funext fun marker => ?_)) _
    by_cases hkind : marker.kind = kind.name
    · simp [hkind, kind.isSome_ofName?_name]
    · simp [hkind]
  rw [hfind, hfilter, ← hfind]

/-- A marker does not come first if one of its kind stands in front. -/
theorem sameFirsts_repeated {front back : List Marker} {marker : Marker}
    (hearlier : ∃ earlier ∈ front, earlier.kind = marker.kind) :
    SameFirsts (front ++ marker :: back) (front ++ back) := by
  intro kind
  rw [Marker.ofKind?, Marker.ofKind?, List.find?_append, List.find?_append, List.find?_cons]
  by_cases hkind : marker.kind = kind.name
  · -- The kind is in front, so neither list is searched any further.
    obtain ⟨earlier, hmem, hsame⟩ := hearlier
    have hfront : (front.find? (·.kind == kind.name)).isSome :=
      List.find?_isSome.mpr ⟨earlier, hmem, beq_iff_eq.mpr (hsame.trans hkind)⟩
    obtain ⟨found, hfound⟩ := Option.isSome_iff_exists.mp hfront
    rw [hfound, Option.some_or, Option.some_or]
  · rw [beq_false_of_ne hkind]

/-- If no kind occurs twice, what comes first does not depend on the order. -/
theorem sameFirsts_of_perm (hperm : first.Perm second)
    (honce : ∀ kind : MappingKind, first.countP (·.kind == kind.name) ≤ 1) :
    SameFirsts first second := by
  intro kind
  have hofKind := hperm.filter (·.kind == kind.name)
  have hlength := honce kind
  rw [List.countP_eq_length_filter] at hlength
  rw [Marker.ofKind?, Marker.ofKind?, ← List.head?_filter, ← List.head?_filter]
  match hfirst : first.filter (·.kind == kind.name) with
  | [] =>
      rw [hfirst] at hofKind
      rw [hfirst, List.nil_perm.mp hofKind]
  | [marker] =>
      rw [hfirst] at hofKind
      rw [hfirst, List.singleton_perm.mp hofKind]
  | _ :: _ :: _ =>
      simp [hfirst] at hlength

end Firsts

/-! ## What is selected -/

namespace Normalized

/-- The candidates are the mapping kinds that occur, each once and in registration order. The
first of them is the kind of the mapping, and several make the declaration ambiguous. -/
structure IsSelectionFrom (markers : List Marker) (normalized : Normalized) : Prop where
  mem_candidates : ∀ kind, kind ∈ normalized.candidates ↔ kind.OccursIn markers
  candidates_sublist : normalized.candidates.Sublist MappingKind.all
  candidates_nodup : normalized.candidates.Nodup
  kind_mapping? : normalized.mapping?.map Mapping.kind = normalized.candidates.head?
  isSome_mapping? : normalized.mapping?.isSome ↔ normalized.candidates ≠ []
  isAmbiguous_iff : normalized.isAmbiguous ↔
    ∃ kind other : MappingKind, kind ≠ other ∧ kind.OccursIn markers ∧ other.OccursIn markers

theorem ofMarkers_isSelectionFrom (markers : List Marker) :
    IsSelectionFrom markers (ofMarkers markers) where
  mem_candidates _ := mem_mappingKinds
  candidates_sublist := mappingKinds_sublist markers
  candidates_nodup := nodup_mappingKinds markers
  kind_mapping? := map_kind_mapping? markers
  isSome_mapping? := by
    rw [← Option.isSome_map (f := Mapping.kind), map_kind_mapping?, List.isSome_head?]
    rfl
  isAmbiguous_iff := isAmbiguous_ofMarkers_iff

/-- What markers amount to follows from the first marker of each mapping kind. So it does not
change with markers of other kinds, with later markers of the same kind, or with the order of
markers of which no two are of one mapping kind. -/
theorem determined_by_first_of_kind :
    (∀ first second, SameFirsts first second → ofMarkers first = ofMarkers second) ∧
    (∀ first second : List Marker,
      (first.filter fun marker => (MappingKind.ofName? marker.kind).isSome) =
        (second.filter fun marker => (MappingKind.ofName? marker.kind).isSome) →
      ofMarkers first = ofMarkers second) ∧
    (∀ front marker back, (∃ earlier ∈ front, earlier.kind = marker.kind) →
      ofMarkers (front ++ marker :: back) = ofMarkers (front ++ back)) ∧
    (∀ first second : List Marker, first.Perm second →
      (∀ kind : MappingKind, first.countP (·.kind == kind.name) ≤ 1) →
      ofMarkers first = ofMarkers second) ∧
    ∀ markers, IsSelectionFrom markers (ofMarkers markers) :=
  ⟨fun _ _ => SameFirsts.ofMarkers_eq,
    fun _ _ hfilter => (sameFirsts_of_filter_eq hfilter).ofMarkers_eq,
    fun _ _ _ hearlier => (sameFirsts_repeated hearlier).ofMarkers_eq,
    fun _ _ hperm honce => (sameFirsts_of_perm hperm honce).ofMarkers_eq,
    ofMarkers_isSelectionFrom⟩

/-- A marker with a path. -/
def pathMarker (kind path : String) : Marker :=
  ⟨kind, .ofList [("path", .text path)]⟩

/-- A second marker for `GET` leaves no trace, nor does a mark of deprecation, nor the order in
which the markers for `GET` and `POST` are written. -/
theorem determined_by_first_of_kind_get :
    SameFirsts [⟨"deprecated", .empty⟩, pathMarker "get_mapping" "/a",
        pathMarker "get_mapping" "/b"]
      [pathMarker "get_mapping" "/a"] ∧
    ofMarkers [⟨"deprecated", .empty⟩, pathMarker "get_mapping" "/a",
        pathMarker "get_mapping" "/b"] = ofMarkers [pathMarker "get_mapping" "/a"] ∧
    ofMarkers [pathMarker "get_mapping" "/a", ⟨"deprecated", .empty⟩] =
      ofMarkers [pathMarker "get_mapping" "/a"] ∧
    ofMarkers ([pathMarker "get_mapping" "/a"] ++ pathMarker "get_mapping" "/b" :: []) =
      ofMarkers ([pathMarker "get_mapping" "/a"] ++ []) ∧
    ofMarkers [pathMarker "post_mapping" "/c", pathMarker "get_mapping" "/a"] =
      ofMarkers [pathMarker "get_mapping" "/a", pathMarker "post_mapping" "/c"] := by
  obtain ⟨hfirsts, hothers, hrepeated, hperm, -⟩ := determined_by_first_of_kind
  have hsame : SameFirsts
      [⟨"deprecated", .empty⟩, pathMarker "get_mapping" "/a", pathMarker "get_mapping" "/b"]
      [pathMarker "get_mapping" "/a"] := by
    intro kind
    cases kind with
    | request => rfl
    | shorthand verb => cases verb <;> rfl
  refine ⟨hsame, hfirsts _ _ hsame, hothers _ _ rfl,
    hrepeated _ _ _ ⟨_, List.mem_singleton_self _, rfl⟩, hperm _ _ (List.Perm.swap _ _ _) ?_⟩
  intro kind
  cases kind with
  | request => decide
  | shorthand verb => cases verb <;> decide

end Normalized

end RouteSurvey
