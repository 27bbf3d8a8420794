import RouteSurvey.Proofs.Declaration.MappedMethods
import RouteSurvey.Proofs.Source.Assembly
import RouteSurvey.Proofs.Source.Sites

/-! # Collection loses nothing

The tree of a project has every function and every recognized attribute that the walk
through the source files meets, each as often as it is written, and nothing else.
-/

namespace RouteSurvey.Source

/-- The function carries an attribute of a mapping kind. -/
def MethodDecl.isMapped (method : MethodDecl) : Bool :=
  method.attributes.any fun attr => MappingKind.all.any fun kind =>
    attr.path.getLast?.map Ident.text == some kind.name

/-! ## Attributes and markers -/

theorem isKnownKind_name (kind : MappingKind) : isKnownKind kind.name = true := by
  cases kind with
  | request => decide
  | shorthand verb => cases verb <;> decide

/-- An attribute is a marker of a mapping kind if and only if its path ends in that kind. -/
theorem kind?_eq_some_name {attr : Attribute} {kind : MappingKind} :
    attr.kind? = some kind.name ↔ attr.path.getLast?.map Ident.text = some kind.name := by
  rw [Attribute.kind?, Option.filter_eq_some_iff]
  exact and_iff_left (isKnownKind_name kind)

theorem map_kind_marker? (attr : Attribute) : attr.marker?.map (·.kind) = attr.kind? := by
  rw [Attribute.marker?, Option.map_map]
  exact Option.map_id'

theorem any_markersOf_kind (attributes : List Attribute) (kind : MappingKind) :
    ((markersOf attributes).any (·.kind == kind.name)) =
      attributes.any fun attr => attr.path.getLast?.map Ident.text == some kind.name := by
  rw [Bool.eq_iff_iff]
  simp only [List.any_eq_true, beq_iff_eq]
  constructor
  · rintro ⟨marker, hmarker, hkind⟩
    obtain ⟨attr, hattr, hmarker⟩ := List.mem_filterMap.mp hmarker
    refine ⟨attr, hattr, kind?_eq_some_name.mp ?_⟩
    rw [← map_kind_marker?, hmarker]
    exact congrArg some hkind
  · rintro ⟨attr, hattr, hends⟩
    have hkind := (map_kind_marker? attr).trans (kind?_eq_some_name.mpr hends)
    obtain ⟨marker, hmarker, hname⟩ := Option.map_eq_some_iff.mp hkind
    exact ⟨marker, List.mem_filterMap.mpr ⟨attr, hattr, hmarker⟩, hname⟩

theorem isMapped_declaration (method : MethodDecl) :
    (MappingKind.all.any fun kind => method.declaration.markers.any (·.kind == kind.name)) =
      method.isMapped := by
  simp only [MethodDecl.declaration, any_markersOf_kind, MethodDecl.isMapped]
  rw [Bool.eq_iff_iff]
  simp only [List.any_eq_true]
  constructor
  · rintro ⟨kind, hkind, attr, hattr, hends⟩
    exact ⟨attr, hattr, kind, hkind, hends⟩
  · rintro ⟨attr, hattr, kind, hkind, hends⟩
    exact ⟨kind, hkind, attr, hattr, hends⟩

/-! ## The tree of a project -/

section Project

variable (root : Path) (sources : List SourceFile)

theorem partsOf_methods : (partsOf root sources).flatMap (·.methods) =
    ((sitesOf root sources).flatMap Site.functions).map MethodDecl.declaration := by
  rw [partsOf_eq_flatMap_sites, List.flatMap_assoc, List.map_flatMap]
  exact List.flatMap_congr fun site _ => site.methods_parts

theorem partsOf_markers : (partsOf root sources).flatMap (·.markers) =
    (sitesOf root sources).flatMap fun site => markersOf site.attributes := by
  rw [partsOf_eq_flatMap_sites, List.flatMap_assoc]
  exact List.flatMap_congr fun site _ => site.markers_parts

theorem ofStruct_mem_partsOf {modules : List String} {attributes : List Attribute}
    {name : Ident} {fields : List FieldDecl}
    (hreached : IsReached root sources ⟨modules, .struct attributes name fields⟩) :
    Part.ofStruct modules attributes name fields ∈ partsOf root sources := by
  rw [partsOf_eq_flatMap_sites]
  exact List.mem_flatMap.mpr ⟨_, mem_sitesOf.mpr hreached, List.mem_singleton_self _⟩

theorem collect_methods_perm : ((collect root sources).classes.flatMap (·.methods)).Perm
    (((sitesOf root sources).flatMap Site.functions).map MethodDecl.declaration) := by
  rw [← partsOf_methods]
  exact treeOfParts_methods_perm (partsOf root sources)

theorem collect_markers_perm : ((collect root sources).classes.flatMap (·.markers)).Perm
    ((sitesOf root sources).flatMap fun site => markersOf site.attributes) := by
  rw [← partsOf_markers]
  exact treeOfParts_markers_perm (partsOf root sources)

theorem length_mappedMethods_collect : (collect root sources).mappedMethods.length =
    ((sitesOf root sources).flatMap Site.functions).countP MethodDecl.isMapped := by
  rw [Declaration.Tree.mappedMethods, Declaration.Tree.length_methodsWhere,
    (collect_methods_perm root sources).countP_eq, List.countP_map]
  exact List.countP_congr fun method _ => by simp [isMapped_declaration]

/-- Collection loses and doubles nothing. No two classes have one name. The methods of all
classes are the functions of the implementing blocks that the walk reaches, the markers of
all classes are the recognized attributes of those blocks and of the structs, and each struct
has its class, with its own markers and fields. So there are as many mapped methods as there
are functions with an attribute of a mapping kind. -/
theorem collect_conserves :
    ((collect root sources).classes.map (·.name)).Nodup ∧
    ((collect root sources).classes.flatMap (·.methods)).Perm
      (((sitesOf root sources).flatMap Site.functions).map MethodDecl.declaration) ∧
    ((collect root sources).classes.flatMap (·.markers)).Perm
      (((sitesOf root sources).flatMap Site.attributes).filterMap Attribute.marker?) ∧
    (∀ modules attributes name fields,
      IsReached root sources ⟨modules, .struct attributes name fields⟩ →
        ∃ owner ∈ (collect root sources).classes, owner.name = qualify modules name.text ∧
          (markersOf attributes).Sublist owner.markers ∧
          (dataFields fields).Sublist owner.fields) ∧
    (collect root sources).mappedMethods.length =
      ((sitesOf root sources).flatMap Site.functions).countP MethodDecl.isMapped := by
  refine ⟨treeOfParts_nodup _, collect_methods_perm root sources, ?_, ?_,
    length_mappedMethods_collect root sources⟩
  · rw [List.filterMap_flatMap]
    exact collect_markers_perm root sources
  · intro modules attributes name fields hreached
    exact treeOfParts_struct _ (ofStruct_mem_partsOf root sources hreached) rfl

end Project

end RouteSurvey.Source
