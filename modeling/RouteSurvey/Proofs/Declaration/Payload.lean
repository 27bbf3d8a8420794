import RouteSurvey.Proofs.Declaration.Lineage

/-! # Payloads

The payload of a class has the data fields of the class and of everything above it, most
derived first, as far as the superclasses lead on without coming back. An envelope takes
its fields from the type inside it and keeps its own name.
-/

namespace RouteSurvey.Declaration.Tree

section Specification

variable (tree : Tree) (config : Config)

/-! ## Going up -/

/-- `near` names a superclass, which is no universal type and leads to `far`. -/
def Extends (near far : Ref) : Prop :=
  ∃ superclass, tree.superclass? near = some superclass ∧ ¬ config.isTopType superclass.name ∧
    tree.findType? superclass = some far

/-- A class that names no superclass, or a universal type, or one that is not declared. -/
def IsUppermost (ref : Ref) : Prop :=
  ∀ superclass, tree.superclass? ref = some superclass →
    config.isTopType superclass.name ∨ tree.findType? superclass = none

/-- Classes that are met on the way up from `ref`, none of them twice. -/
structure IsClimb (ref : Ref) (members : List Ref) : Prop where
  starts : members.head? = some ref
  linked : members.IsChain (tree.Extends config)
  nodup : members.Nodup

/-- The longest of all climbs from `ref`. -/
structure IsLineage (ref : Ref) (members : List Ref) : Prop extends
    tree.IsClimb config ref members where
  /-- Every climb is the beginning of it -/
  longest : ∀ others, tree.IsClimb config ref others → others <+: members
  /-- It ends at an uppermost class, or where the way leads back to a member -/
  ends : ∀ last ∈ members.getLast?, tree.IsUppermost config last ∨
    ∃ far ∈ members, tree.Extends config last far

/-! ## Fields -/

/-- The fields of a class itself that belong to its data, in the order of declaration. -/
def dataFields (ref : Ref) : List Field :=
  (tree.fields ref).filter fun field => !field.isStatic && !field.isSynthetic

/-- How a field is shown: by its type and its name, and without a default. -/
structure IsShownAs (field : Field) (param : Param) : Prop where
  type : param.type = field.type.display
  name : param.name = field.name
  default? : param.default? = none

/-- The data fields of the lineage of a class, level by level and all of them. -/
def HasFields (ref : Ref) (params : List Param) : Prop :=
  ∃ members, tree.IsLineage config ref members ∧
    List.Forall₂ IsShownAs (members.flatMap tree.dataFields) params

/-! ## Payloads of references -/

/-- The first type argument that is not a universal type. -/
def IsContent (config : Config) (type content : TypeRef) : Prop :=
  ∃ before after, type.args = before ++ content :: after ∧
    (∀ argument ∈ before, config.isTopType argument.name) ∧ ¬ config.isTopType content.name

/-- What a type reference is described by, if by anything. -/
inductive Describes (type : TypeRef) : Option Payload → Prop
  | envelope {content : TypeRef} {ref : Ref} {fields : List Param}
      (henvelope : config.isEnvelope type.name) (hcontent : IsContent config type content)
      (hfound : tree.findType? content = some ref) (hfields : tree.HasFields config ref fields) :
      Describes type (some ⟨type.name, fields⟩)
  | emptyEnvelope (henvelope : config.isEnvelope type.name)
      (hnone : ∀ content, IsContent config type content → tree.findType? content = none) :
      Describes type (some ⟨type.name, []⟩)
  | undeclared (hplain : ¬ config.isEnvelope type.name) (hnone : tree.findType? type = none) :
      Describes type none
  | declared {index : Nat} {owner : Class} {fields : List Param}
      (hplain : ¬ config.isEnvelope type.name)
      (hfound : tree.findType? type = some (.ofClass index))
      (howner : tree.classes[index]? = some owner)
      (hfields : tree.HasFields config (.ofClass index) fields) :
      Describes type (some ⟨owner.name, fields⟩)

end Specification

variable {tree : Tree} {config : Config}

theorem parent?_eq_some_iff {near far : Ref} :
    tree.parent? config near = some far ↔ tree.Extends config near far := by
  unfold parent? Extends
  cases tree.superclass? near with
  | none => simp
  | some superclass => by_cases htop : config.isTopType superclass.name <;> simp [htop]

theorem isUppermost_of_parent? {ref : Ref} (hnone : tree.parent? config ref = none) :
    tree.IsUppermost config ref := by
  intro superclass hsuperclass
  by_cases htop : config.isTopType superclass.name
  · exact Or.inl htop
  · refine Or.inr (Option.eq_none_iff_forall_ne_some.mpr fun far hfar => ?_)
    have hparent := parent?_eq_some_iff.mpr ⟨superclass, hsuperclass, htop, hfar⟩
    rw [hnone] at hparent
    contradiction

/-- Climbs are linked by the same steps as walks. -/
theorem isChain_extends_iff {members : List Ref} :
    members.IsChain (tree.Extends config) ↔
      members.IsChain fun near far => tree.parent? config near = some far := by
  simp only [parent?_eq_some_iff]

variable (tree config) in
theorem lineage_isLineage (ref : Ref) : tree.IsLineage config ref (tree.lineage config ref) := by
  have hwalk := tree.lineage_isWalk config ref
  refine ⟨⟨hwalk.starts, isChain_extends_iff.mpr hwalk.linked, hwalk.nodup⟩, ?_, ?_⟩
  · intro others hothers
    -- A climb goes the way of the walk, and without coming back it cannot go beyond its end.
    exact hwalk.isPrefix_of_linked hothers.starts (isChain_extends_iff.mp hothers.linked)
      hothers.nodup
  · intro last hlast
    cases hparent : tree.parent? config last with
    | none => exact Or.inl (isUppermost_of_parent? hparent)
    | some far =>
        exact Or.inr ⟨far, hwalk.closed last hlast far hparent, parent?_eq_some_iff.mp hparent⟩

theorem IsLineage.eq_lineage {ref : Ref} {members : List Ref}
    (hmembers : tree.IsLineage config ref members) : members = tree.lineage config ref := by
  have hlineage := tree.lineage_isLineage config ref
  exact (hlineage.longest _ hmembers.toIsClimb).eq_of_length_le
    (hmembers.longest _ hlineage.toIsClimb).length_le

/-- Fields are shown in one way. -/
theorem forall₂_isShownAs_iff {fields : List Field} {params : List Param} :
    List.Forall₂ IsShownAs fields params ↔
      params = fields.map fun field => { type := field.type.display, name := field.name } := by
  constructor
  · intro hshown
    induction hshown with
    | nil => rfl
    | @cons field param fields params hfirst hrest ih =>
        obtain ⟨type, name, default?⟩ := param
        obtain ⟨rfl, rfl, rfl⟩ := hfirst
        rw [ih]
        rfl
  · rintro rfl
    induction fields with
    | nil => exact .nil
    | cons field fields ih => exact .cons ⟨rfl, rfl, rfl⟩ ih

theorem hasFields_iff {ref : Ref} {params : List Param} :
    tree.HasFields config ref params ↔ params = tree.inheritedFields config ref := by
  have hmap : tree.inheritedFields config ref =
      ((tree.lineage config ref).flatMap tree.dataFields).map fun field =>
        { type := field.type.display, name := field.name } := by
    rw [List.map_flatMap]
    rfl
  rw [hmap, ← forall₂_isShownAs_iff]
  constructor
  · rintro ⟨members, hmembers, hshown⟩
    rw [hmembers.eq_lineage] at hshown
    exact hshown
  · intro hshown
    exact ⟨_, tree.lineage_isLineage config ref, hshown⟩

theorem envelopeContent?_eq_some_iff {type content : TypeRef} :
    envelopeContent? config type = some content ↔ IsContent config type content := by
  unfold envelopeContent? IsContent
  rw [List.find?_eq_some_iff_append]
  constructor
  · rintro ⟨hcontent, before, after, hargs, hbefore⟩
    exact ⟨before, after, hargs, by simpa using hbefore, by simpa using hcontent⟩
  · rintro ⟨before, after, hargs, hbefore, hcontent⟩
    exact ⟨by simpa using hcontent, before, after, hargs, by simpa using hbefore⟩

theorem qualifiedName_of_getElem? {index : Nat} {owner : Class}
    (howner : tree.classes[index]? = some owner) :
    tree.qualifiedName (.ofClass index) = owner.name := by
  simp [qualifiedName, classAt?, methodAt?, Ref.classIndex, howner]

theorem payload?_of_envelope {type : TypeRef} (henvelope : config.isEnvelope type.name) :
    tree.payload? config type = some ⟨type.name,
      ((envelopeContent? config type).bind tree.findType?).elim []
        (tree.inheritedFields config)⟩ := by
  rw [payload?, if_pos henvelope]

theorem payload?_of_plain {type : TypeRef} (hplain : ¬ config.isEnvelope type.name) :
    tree.payload? config type = (tree.findType? type).map fun ref =>
      ⟨tree.qualifiedName ref, tree.inheritedFields config ref⟩ := by
  rw [payload?, if_neg hplain]

/-- Every reference is described by the payload that is found for it. -/
theorem describes_payload? (type : TypeRef) :
    tree.Describes config type (tree.payload? config type) := by
  by_cases henvelope : config.isEnvelope type.name
  · rw [payload?_of_envelope henvelope]
    cases hfound : (envelopeContent? config type).bind tree.findType? with
    | none =>
        refine .emptyEnvelope henvelope fun content hcontent => ?_
        rw [envelopeContent?_eq_some_iff.mpr hcontent] at hfound
        exact hfound
    | some ref =>
        obtain ⟨content, hcontent, hfound⟩ := Option.bind_eq_some_iff.mp hfound
        exact .envelope henvelope (envelopeContent?_eq_some_iff.mp hcontent) hfound
          (hasFields_iff.mpr rfl)
  · rw [payload?_of_plain henvelope]
    cases hfound : tree.findType? type with
    | none => exact .undeclared henvelope hfound
    | some ref =>
        obtain ⟨index, hindex, rfl⟩ := findType?_eq_some hfound
        have howner := List.getElem?_eq_getElem hindex
        rw [Option.map_some, qualifiedName_of_getElem? howner]
        exact .declared henvelope hfound howner (hasFields_iff.mpr rfl)

/-- Nothing else describes a reference than the payload that is found for it, which is none
exactly if the reference is neither an envelope nor declared. -/
theorem payload?_eq_iff_describes (tree : Tree) (config : Config) (type : TypeRef)
    (payload : Option Payload) :
    tree.payload? config type = payload ↔ tree.Describes config type payload := by
  constructor
  · rintro rfl
    exact describes_payload? type
  · rintro (⟨henvelope, hcontent, hfound, hfields⟩ | ⟨henvelope, hnone⟩ | ⟨hplain, hnone⟩ |
      ⟨hplain, hfound, howner, hfields⟩)
    · rw [payload?_of_envelope henvelope, envelopeContent?_eq_some_iff.mpr hcontent,
        Option.bind_some, hfound, hasFields_iff.mp hfields]
      rfl
    · rw [payload?_of_envelope henvelope]
      cases hcontent : envelopeContent? config type with
      | none => rfl
      | some content =>
          rw [Option.bind_some, hnone content (envelopeContent?_eq_some_iff.mp hcontent)]
          rfl
    · rw [payload?_of_plain hplain, hnone]
      rfl
    · rw [payload?_of_plain hplain, hfound, Option.map_some, qualifiedName_of_getElem? howner,
        hasFields_iff.mp hfields]

end RouteSurvey.Declaration.Tree
