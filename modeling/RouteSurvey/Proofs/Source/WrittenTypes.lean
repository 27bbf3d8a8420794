import RouteSurvey.Proofs.Source.FileOrder
import RouteSurvey.Proofs.TypeRef.Written

/-! # Types of a project

Every type in the tree of a project was read from a type in a source text. The names in such
a type are made of identifiers, so it is told apart from any other by its written form.
-/

namespace RouteSurvey.Source

open TypeRef (IsDelimiter HasPlainNames)

/-! ## Types of source texts -/

theorem isIdentPart_of_isDelimiter {c : Char} (hc : IsDelimiter c) : isIdentPart c = false := by
  obtain rfl | rfl | rfl := hc <;> decide

theorem Ident.not_isDelimiter (name : Ident) : ∀ c ∈ name.text.toList, ¬ IsDelimiter c := by
  intro c hc hdelimiter
  have hpart := List.all_eq_true.mp name.valid c hc
  rw [isIdentPart_of_isDelimiter hdelimiter] at hpart
  contradiction

theorem not_isDelimiter_of_mem_pathText (segments : List Ident) :
    ∀ c ∈ (pathText (segments.map Ident.text)).toList, ¬ IsDelimiter c := by
  intro c hc
  rw [pathText, String.toList_intercalate, List.map_map] at hc
  obtain hseparator | ⟨word, hword, hc⟩ := Text.mem_intercalate hc
  · have hcolon : ∀ c ∈ "::".toList, ¬ IsDelimiter c := by simp [IsDelimiter]
    exact hcolon c hseparator
  · obtain ⟨segment, -, rfl⟩ := List.mem_map.mp hword
    exact segment.not_isDelimiter c hc

mutual

theorem TypeExpr.typeRef_hasPlainNames (type : TypeExpr) : type.typeRef.HasPlainNames := by
  cases type with
  | path segments args =>
      exact .mk (not_isDelimiter_of_mem_pathText segments) (TypeExpr.typeRefs_hasPlainNames args)
  | reference target => exact target.typeRef_hasPlainNames
  | paren inner => exact inner.typeRef_hasPlainNames
  | tuple types => cases types <;> exact .plain (by simp [IsDelimiter])
  | hole => exact .plain (by simp [IsDelimiter])
  | other => exact .plain (by simp [IsDelimiter])

theorem TypeExpr.typeRefs_hasPlainNames (types : List TypeExpr) :
    ∀ type ∈ TypeExpr.typeRefs types, type.HasPlainNames := by
  cases types with
  | nil => exact List.forall_mem_nil _
  | cons type rest =>
      exact List.forall_mem_cons.mpr
        ⟨type.typeRef_hasPlainNames, TypeExpr.typeRefs_hasPlainNames rest⟩

end

/-! ## Types of parts and classes -/

/-- The types of the parameters and the result of a method. -/
def signatureTypes (method : Declaration.Method) : List TypeRef :=
  method.parameters.map (·.type) ++ method.returnType?.toList

/-- All types that a part mentions. -/
def Part.types (part : Part) : List TypeRef :=
  part.superclass?.toList ++ part.fields.map (·.type) ++ part.methods.flatMap signatureTypes

/-- All types that a class mentions. -/
def classTypes (owner : Declaration.Class) : List TypeRef :=
  owner.superclass?.toList ++ owner.fields.map (·.type) ++ owner.methods.flatMap signatureTypes

/-- The type was read from a source text. -/
def IsRead (type : TypeRef) : Prop :=
  ∃ written : TypeExpr, written.typeRef = type

theorem isRead_of_mem_signatureTypes (method : MethodDecl) {type : TypeRef}
    (htype : type ∈ signatureTypes method.declaration) : IsRead type := by
  rw [signatureTypes, List.mem_append] at htype
  obtain hparameter | hresult := htype
  · obtain ⟨parameter, hmem, rfl⟩ := List.mem_map.mp hparameter
    obtain ⟨⟨argument, position⟩, -, hargument⟩ := List.mem_filterMap.mp hmem
    cases argument with
    | receiver => contradiction
    | typed attributes name? written =>
        cases hargument
        exact ⟨written, rfl⟩
  · rw [Option.mem_toList, MethodDecl.declaration, MethodDecl.result?] at hresult
    split at hresult
    · contradiction
    · contradiction
    · cases hresult
      exact ⟨_, rfl⟩

theorem isRead_of_mem_dataFields {fields : List FieldDecl} {field : Declaration.Field}
    (hfield : field ∈ dataFields fields) : IsRead field.type := by
  obtain ⟨written, -, rfl⟩ := List.mem_map.mp hfield
  exact ⟨written.type, rfl⟩

theorem Site.isRead_of_mem_types (site : Site) {part : Part} (hpart : part ∈ site.parts)
    {type : TypeRef} (htype : type ∈ part.types) : IsRead type := by
  obtain ⟨modules, item⟩ := site
  simp only [Part.types, List.mem_append, Option.mem_toList, List.mem_map, List.mem_flatMap]
    at htype
  cases item with
  | module name items => contradiction
  | struct attributes name fields =>
      rw [Site.parts, List.mem_singleton] at hpart
      rw [hpart] at htype
      obtain (hsuperclass | ⟨field, hfield, rfl⟩) | ⟨method, hmethod, -⟩ := htype
      · obtain ⟨field, -, rfl⟩ := Option.map_eq_some_iff.mp hsuperclass
        exact ⟨field.type, rfl⟩
      · exact isRead_of_mem_dataFields hfield
      · contradiction
  | methods attributes self block =>
      rw [Site.parts, Option.mem_toList, Part.ofMethods?] at hpart
      obtain ⟨className, -, rfl⟩ := Option.map_eq_some_iff.mp hpart
      obtain (hsuperclass | ⟨field, hfield, -⟩) | ⟨method, hmethod, htype⟩ := htype
      · contradiction
      · contradiction
      · obtain ⟨written, -, rfl⟩ := List.mem_map.mp hmethod
        exact isRead_of_mem_signatureTypes written htype
  | other items => contradiction

/-- A class of the tree mentions no types but those of the parts. -/
theorem exists_part_of_mem_classTypes {parts : List Part} {owner : Declaration.Class}
    (howner : owner ∈ (treeOfParts parts).classes) {type : TypeRef}
    (htype : type ∈ classTypes owner) : ∃ part ∈ parts, type ∈ part.types := by
  obtain ⟨hfields, hsuperclass⟩ := treeOfParts_own howner
  have hmethods := treeOfParts_class_perm (·.methods) (·.methods) (fun _ _ => rfl)
    (fun _ _ => rfl) howner
  simp only [classTypes, Part.types, List.mem_append, Option.mem_toList, List.mem_map,
    List.mem_flatMap] at htype ⊢
  obtain (hsuper | ⟨field, hfield, rfl⟩) | ⟨method, hmethod, hsignature⟩ := htype
  · rw [hsuperclass] at hsuper
    obtain ⟨part, hpart, hsuper⟩ := List.exists_of_findSome?_eq_some hsuper
    exact ⟨part, List.mem_of_mem_filter hpart, Or.inl (Or.inl hsuper)⟩
  · rw [hfields] at hfield
    obtain ⟨part, hpart, hfield⟩ := List.mem_flatMap.mp hfield
    exact ⟨part, List.mem_of_mem_filter hpart, Or.inl (Or.inr ⟨field, hfield, rfl⟩)⟩
  · obtain ⟨part, hpart, hmethod⟩ := List.mem_flatMap.mp (hmethods.mem_iff.mp hmethod)
    exact ⟨part, List.mem_of_mem_filter hpart, Or.inr ⟨method, hmethod, hsignature⟩⟩

theorem isRead_of_mem_classTypes {root : Path} {sources : List SourceFile}
    {owner : Declaration.Class} (howner : owner ∈ (collect root sources).classes)
    {type : TypeRef} (htype : type ∈ classTypes owner) : IsRead type := by
  obtain ⟨part, hpart, htype⟩ := exists_part_of_mem_classTypes howner htype
  rw [partsOf_eq_flatMap_sites] at hpart
  obtain ⟨site, -, hpart⟩ := List.mem_flatMap.mp hpart
  exact site.isRead_of_mem_types hpart htype

/-- Types without delimiters in their names have different written forms. Such are all types
read from source texts. So in the tree of a project two fields, parameters, results or
superclasses have the same written type only if their types are equal. -/
theorem written_types_distinct :
    (∀ first second : TypeRef, first.HasPlainNames → second.HasPlainNames →
      first.display = second.display → first = second) ∧
    (∀ type : TypeExpr, type.typeRef.HasPlainNames) ∧
    ∀ (root : Path) (sources : List SourceFile), ∀ owner ∈ (collect root sources).classes,
      ∀ owner' ∈ (collect root sources).classes, ∀ type ∈ classTypes owner,
        ∀ type' ∈ classTypes owner', type.display = type'.display → type = type' := by
  refine ⟨fun first second => TypeRef.display_inj, TypeExpr.typeRef_hasPlainNames, ?_⟩
  intro root sources owner howner owner' howner' type htype type' htype' heq
  obtain ⟨written, rfl⟩ := isRead_of_mem_classTypes howner htype
  obtain ⟨written', rfl⟩ := isRead_of_mem_classTypes howner' htype'
  exact TypeRef.display_inj written.typeRef_hasPlainNames written'.typeRef_hasPlainNames heq

/-- `Map<A<B>, C>`, with a name that has a delimiter in place of the inner arguments. -/
example : (TypeRef.mk "Map" [.plain "A<B>", .plain "C"]).display =
    (TypeRef.mk "Map" [.mk "A" [.plain "B"], .plain "C"]).display := by
  decide

/-- The same type behind a reference and in parentheses. -/
theorem written_types_distinct_of_reference :
    let name : TypeExpr := .path [⟨"User", by decide⟩] []
    let users : TypeExpr := .path [⟨"Vec", by decide⟩] [name]
    (TypeExpr.reference users).typeRef.display = "Vec<User>" ∧
      (TypeExpr.paren users).typeRef.display = "Vec<User>" ∧
        (TypeExpr.reference users).typeRef = (TypeExpr.paren users).typeRef := by
  intro name users
  have hreference : (TypeExpr.reference users).typeRef.display = "Vec<User>" := by decide
  have hparen : (TypeExpr.paren users).typeRef.display = "Vec<User>" := by decide
  obtain ⟨hdistinct, hplain, -⟩ := written_types_distinct
  exact ⟨hreference, hparen,
    hdistinct _ _ (hplain _) (hplain _) (hreference.trans hparen.symm)⟩

end RouteSurvey.Source
