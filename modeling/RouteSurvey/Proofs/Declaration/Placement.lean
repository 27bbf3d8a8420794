import RouteSurvey.Proofs.Declaration.Lineage
import RouteSurvey.Proofs.Declaration.MappedMethods

/-! # Places of classes

The classes of a tree may stand at other positions in another tree. What a declaration says
about itself is the same there, whatever stands around it. If also every name and every type
reference leads to the same class, walks outwards and upwards come by the same declarations,
and every type reference has the same payload.
-/

namespace RouteSurvey.Declaration

/-- The handle after its class has got another position. -/
def Ref.placed (position : Nat → Nat) : Ref → Ref
  | ofClass index => ofClass (position index)
  | ofMethod index place => ofMethod (position index) place

@[simp]
theorem Ref.placed_id : Ref.placed id = id := by
  funext ref
  cases ref <;> rfl

/-- The type references of a class: its superclass, and the types of parameters and results. -/
def Class.references (owner : Class) : List TypeRef :=
  owner.superclass?.toList ++ owner.methods.flatMap fun method =>
    method.parameters.map (·.type) ++ method.returnType?.toList

namespace Tree

/-- The class that a handle belongs to is one of the tree. -/
def InRange (tree : Tree) (ref : Ref) : Prop :=
  ref.classIndex < tree.classes.length

instance (tree : Tree) (ref : Ref) : Decidable (tree.InRange ref) :=
  inferInstanceAs (Decidable (ref.classIndex < tree.classes.length))

/-- The type references of a tree, and their arguments. An argument of an argument is never
looked up. -/
def references (tree : Tree) : List TypeRef :=
  (tree.classes.flatMap Class.references).flatMap fun type => type :: type.args

/-- Each class of the tree stands at its new position in the other tree, maybe nested in
another class. -/
def IsPlacement (position : Nat → Nat) (tree other : Tree) : Prop :=
  ∀ index owner, tree.classes[index]? = some owner →
    ∃ outer?, other.classes[position index]? = some { owner with enclosing? := outer? }

/-- What leads from one class to another in the tree leads to the same class in the other. -/
structure IsEmbedding (position : Nat → Nat) (tree other : Tree) : Prop where
  placement : IsPlacement position tree other
  injective : ∀ first second, first < tree.classes.length → second < tree.classes.length →
    position first = position second → first = second
  enclosing : ∀ ref, tree.InRange ref →
    other.enclosing? (ref.placed position) = (tree.enclosing? ref).map (Ref.placed position)
  findType : ∀ type ∈ tree.references,
    other.findType? type = (tree.findType? type).map (Ref.placed position)

variable {tree other : Tree} {position : Nat → Nat} {ref : Ref}

/-! ## Range -/

theorem InRange.of_enclosing {outer : Ref} (houter : tree.enclosing? ref = some outer)
    (hrange : tree.InRange ref) : tree.InRange outer := by
  cases ref with
  | ofMethod index place =>
      cases houter
      exact hrange
  | ofClass index =>
      obtain ⟨found, hfound, rfl⟩ := enclosing?_ofClass houter
      exact hfound

theorem InRange.of_findType? {type : TypeRef} (hfound : tree.findType? type = some ref) :
    tree.InRange ref := by
  obtain ⟨index, hindex, rfl⟩ := findType?_eq_some hfound
  exact hindex

theorem InRange.of_parent? {config : Config} {near : Ref}
    (hparent : tree.parent? config near = some ref) : tree.InRange ref := by
  obtain ⟨-, index, hindex, rfl⟩ := parent?_eq_some hparent
  exact hindex

theorem InRange.of_mem_chain {outer : Ref} (hrange : tree.InRange ref)
    (houter : outer ∈ (tree.chain ref).members) : tree.InRange outer :=
  (tree.chain_isEnclosingChain ref).isWalk.forall_mem hrange
    (fun _ _ => InRange.of_enclosing) outer houter

theorem InRange.of_mem_lineage {config : Config} {ancestor : Ref} (hrange : tree.InRange ref)
    (hancestor : ancestor ∈ tree.lineage config ref) : tree.InRange ancestor :=
  (tree.lineage_isWalk config ref).forall_mem hrange
    (fun _ _ hparent _ => InRange.of_parent? hparent) ancestor hancestor

theorem InRange.of_mem_mappedMethods (hmem : ref ∈ tree.mappedMethods) : tree.InRange ref := by
  obtain ⟨method, hmethod, -⟩ := mem_mappedMethods.mp hmem
  cases ref with
  | ofClass index => contradiction
  | ofMethod index place =>
      obtain ⟨owner, howner, -⟩ := methodAt?_ofMethod.mp hmethod
      exact (List.getElem?_eq_some_iff.mp howner).1

/-! ## What a declaration says about itself -/

namespace IsPlacement

variable (hplacement : IsPlacement position tree other) (hrange : tree.InRange ref)

include hplacement hrange

theorem exists_classAt? : ∃ owner outer?, tree.classAt? ref = some owner ∧
    other.classAt? (ref.placed position) = some { owner with enclosing? := outer? } := by
  have howner := List.getElem?_eq_getElem hrange
  obtain ⟨outer?, hplaced⟩ := hplacement _ _ howner
  refine ⟨_, outer?, howner, ?_⟩
  cases ref <;> exact hplaced

theorem methodAt? : other.methodAt? (ref.placed position) = tree.methodAt? ref := by
  obtain ⟨owner, outer?, howner, hplaced⟩ := hplacement.exists_classAt? hrange
  cases ref with
  | ofClass index => rfl
  | ofMethod index place =>
      simp only [classAt?, Ref.placed, Ref.classIndex] at howner hplaced
      simp only [Tree.methodAt?, Ref.placed, howner, hplaced]
      rfl

theorem qualifiedName : other.qualifiedName (ref.placed position) = tree.qualifiedName ref := by
  obtain ⟨owner, outer?, howner, hplaced⟩ := hplacement.exists_classAt? hrange
  simp only [Tree.qualifiedName, hplacement.methodAt? hrange, howner, hplaced, Option.elim_some]

theorem simpleName : other.simpleName (ref.placed position) = tree.simpleName ref := by
  obtain ⟨owner, outer?, howner, hplaced⟩ := hplacement.exists_classAt? hrange
  simp only [Tree.simpleName, hplacement.methodAt? hrange, howner, hplaced, Option.elim_some]

theorem markers : other.markers (ref.placed position) = tree.markers ref := by
  obtain ⟨owner, outer?, howner, hplaced⟩ := hplacement.exists_classAt? hrange
  simp only [Tree.markers, hplacement.methodAt? hrange, howner, hplaced, Option.elim_some]

theorem isDeprecated : other.isDeprecated (ref.placed position) = tree.isDeprecated ref := by
  rw [Tree.isDeprecated, marker?, hplacement.markers hrange]
  rfl

theorem parameters : other.parameters (ref.placed position) = tree.parameters ref := by
  rw [Tree.parameters, hplacement.methodAt? hrange]
  rfl

theorem returnType? : other.returnType? (ref.placed position) = tree.returnType? ref := by
  rw [Tree.returnType?, hplacement.methodAt? hrange]
  rfl

theorem ownFields : other.ownFields (ref.placed position) = tree.ownFields ref := by
  obtain ⟨owner, outer?, howner, hplaced⟩ := hplacement.exists_classAt? hrange
  cases ref with
  | ofMethod index place => rfl
  | ofClass index =>
      simp only [classAt?, Ref.placed, Ref.classIndex] at howner hplaced
      simp only [Tree.ownFields, fields, Ref.placed, howner, hplaced]
      rfl

theorem superclass? : other.superclass? (ref.placed position) = tree.superclass? ref := by
  obtain ⟨owner, outer?, howner, hplaced⟩ := hplacement.exists_classAt? hrange
  cases ref with
  | ofMethod index place => rfl
  | ofClass index =>
      simp only [classAt?, Ref.placed, Ref.classIndex] at howner hplaced
      simp only [Tree.superclass?, Ref.placed, howner, hplaced]
      rfl

end IsPlacement

/-! ## References of a tree -/

theorem mem_references {type : TypeRef} (htype : type ∈ tree.classes.flatMap Class.references) :
    type ∈ tree.references :=
  List.mem_flatMap.mpr ⟨type, htype, List.mem_cons_self⟩

theorem mem_references_of_mem_args {type argument : TypeRef}
    (htype : type ∈ tree.classes.flatMap Class.references) (hargument : argument ∈ type.args) :
    argument ∈ tree.references :=
  List.mem_flatMap.mpr ⟨type, htype, List.mem_cons_of_mem _ hargument⟩

theorem mem_references_of_superclass? {type : TypeRef} (htype : tree.superclass? ref = some type) :
    type ∈ tree.classes.flatMap Class.references := by
  cases ref with
  | ofMethod index place => contradiction
  | ofClass index =>
      obtain ⟨owner, howner, hsuperclass⟩ := Option.bind_eq_some_iff.mp htype
      refine List.mem_flatMap.mpr ⟨owner, List.mem_of_getElem? howner, ?_⟩
      exact List.mem_append_left _ (Option.mem_toList.mpr hsuperclass)

theorem mem_references_of_methodAt? {method : Method} {type : TypeRef}
    (hmethod : tree.methodAt? ref = some method)
    (htype : type ∈ method.parameters.map (·.type) ++ method.returnType?.toList) :
    type ∈ tree.classes.flatMap Class.references := by
  cases ref with
  | ofClass index => contradiction
  | ofMethod index place =>
      obtain ⟨owner, howner, hmethod⟩ := Option.bind_eq_some_iff.mp hmethod
      refine List.mem_flatMap.mpr ⟨owner, List.mem_of_getElem? howner, ?_⟩
      refine List.mem_append_right _ (List.mem_flatMap.mpr ⟨method, ?_, htype⟩)
      exact List.mem_of_getElem? hmethod

theorem mem_references_of_mem_parameters {parameter : Parameter}
    (hparameter : parameter ∈ tree.parameters ref) :
    parameter.type ∈ tree.classes.flatMap Class.references := by
  rw [parameters] at hparameter
  cases hmethod : tree.methodAt? ref with
  | none => simp [hmethod] at hparameter
  | some method =>
      rw [hmethod, Option.elim_some] at hparameter
      exact mem_references_of_methodAt? hmethod
        (List.mem_append_left _ (List.mem_map_of_mem hparameter))

theorem mem_references_of_returnType? {type : TypeRef} (htype : tree.returnType? ref = some type) :
    type ∈ tree.classes.flatMap Class.references := by
  obtain ⟨method, hmethod, htype⟩ := Option.bind_eq_some_iff.mp htype
  exact mem_references_of_methodAt? hmethod
    (List.mem_append_right _ (Option.mem_toList.mpr htype))

/-! ## Walks and payloads -/

namespace IsEmbedding

/-- Classes that stand as they are at other positions are linked as before, if every search
leads to the new position of what was found. -/
theorem of_searches
    (hget : ∀ index owner, tree.classes[index]? = some owner →
      other.classes[position index]? = some owner)
    (hinj : ∀ first second, first < tree.classes.length → second < tree.classes.length →
      position first = position second → first = second)
    (hname : ∀ owner ∈ tree.classes, ∀ name, owner.enclosing? = some name →
      other.classes.findIdx? (·.name == name) =
        (tree.classes.findIdx? (·.name == name)).map position)
    (htype : ∀ type ∈ tree.references,
      other.findType? type = (tree.findType? type).map (Ref.placed position)) :
    IsEmbedding position tree other where
  placement index owner howner := ⟨owner.enclosing?, hget index owner howner⟩
  injective := hinj
  findType := htype
  enclosing ref hrange := by
    cases ref with
    | ofMethod index place => rfl
    | ofClass index =>
        obtain ⟨owner, howner⟩ : ∃ owner, tree.classes[index]? = some owner :=
          ⟨_, List.getElem?_eq_getElem hrange⟩
        simp only [Ref.placed, enclosing?, hget index owner howner, howner, Option.bind_eq_bind,
          Option.bind_some]
        cases houter : owner.enclosing? with
        | none => rfl
        | some name =>
            rw [Option.bind_some, Option.bind_some,
              hname owner (List.mem_of_getElem? howner) name houter]
            cases hfound : tree.classes.findIdx? (·.name == name) with
            | none => rfl
            | some found =>
                -- A class is around itself here if and only if it is there.
                obtain ⟨hrangeFound, -⟩ := List.findIdx?_eq_some_iff_getElem.mp hfound
                have hself : position found = position index ↔ found = index :=
                  ⟨hinj found index hrangeFound hrange, congrArg position⟩
                simp only [Option.map_some, Option.bind_some, hself]
                split <;> rfl

variable (hembedding : IsEmbedding position tree other) {config : Config}

include hembedding

theorem placed_inj {first second : Ref} (hfirst : tree.InRange first)
    (hsecond : tree.InRange second) (hsame : first.placed position = second.placed position) :
    first = second := by
  have hinj := hembedding.injective _ _ hfirst hsecond
  cases first <;> cases second <;> simp_all [Ref.placed, Ref.classIndex]

/-- A walk that stays in the tree is the same walk in the other tree. -/
theorem isWalk_placed {next next' : Ref → Option Ref} {members : List Ref}
    (hwalk : IsWalk next ref members) (hrange : tree.InRange ref)
    (hstays : ∀ near far, next near = some far → tree.InRange near → tree.InRange far)
    (hnext : ∀ near, tree.InRange near →
      next' (near.placed position) = (next near).map (Ref.placed position)) :
    IsWalk next' (ref.placed position) (members.map (Ref.placed position)) := by
  have hmembers : ∀ member ∈ members, tree.InRange member := hwalk.forall_mem hrange hstays
  refine hwalk.map ?_ fun member hmember => hnext member (hmembers member hmember)
  intro first hfirst second hsecond
  exact hembedding.placed_inj (hmembers first hfirst) (hmembers second hsecond)

theorem members_chain (hrange : tree.InRange ref) :
    (other.chain (ref.placed position)).members =
      (tree.chain ref).members.map (Ref.placed position) := by
  have hwalk := hembedding.isWalk_placed (tree.chain_isEnclosingChain ref).isWalk hrange
    (fun near far => InRange.of_enclosing) hembedding.enclosing
  exact (other.chain_isEnclosingChain _).isWalk.unique hwalk

theorem parent?_placed (hrange : tree.InRange ref) :
    other.parent? config (ref.placed position) =
      (tree.parent? config ref).map (Ref.placed position) := by
  rw [parent?, parent?, hembedding.placement.superclass? hrange]
  cases hsuperclass : tree.superclass? ref with
  | none => rfl
  | some superclass =>
      have htype := mem_references (mem_references_of_superclass? hsuperclass)
      simp only [Option.bind_eq_bind, Option.bind_some, hembedding.findType superclass htype]
      split <;> rfl

theorem lineage_placed (hrange : tree.InRange ref) :
    other.lineage config (ref.placed position) =
      (tree.lineage config ref).map (Ref.placed position) := by
  have hwalk := hembedding.isWalk_placed (tree.lineage_isWalk config ref) hrange
    (fun near far hparent _ => InRange.of_parent? hparent)
    (fun near hnear => hembedding.parent?_placed hnear)
  exact (other.lineage_isWalk config _).unique hwalk

theorem inheritedFields_placed (hrange : tree.InRange ref) :
    other.inheritedFields config (ref.placed position) = tree.inheritedFields config ref := by
  rw [inheritedFields, inheritedFields, hembedding.lineage_placed hrange, List.flatMap_map]
  refine List.flatMap_congr fun member hmember => ?_
  exact hembedding.placement.ownFields (hrange.of_mem_lineage hmember)

/-- A type reference of a declaration has the same payload in the other tree. -/
theorem payload?_eq {type : TypeRef} (htype : type ∈ tree.classes.flatMap Class.references) :
    other.payload? config type = tree.payload? config type := by
  have hfields : ∀ found, tree.InRange found →
      other.inheritedFields config (found.placed position) = tree.inheritedFields config found :=
    fun found hfound => hembedding.inheritedFields_placed hfound
  unfold payload?
  split
  · -- An envelope looks up one of its arguments.
    cases hcontent : envelopeContent? config type with
    | none => rfl
    | some content =>
        have hargument := mem_references_of_mem_args htype (List.mem_of_find?_eq_some hcontent)
        simp only [Option.bind_some, hembedding.findType content hargument]
        cases hfound : tree.findType? content with
        | none => rfl
        | some found => simp [hfields found (InRange.of_findType? hfound)]
  · rw [hembedding.findType type (mem_references htype)]
    cases hfound : tree.findType? type with
    | none => rfl
    | some found =>
        have hrange := InRange.of_findType? hfound
        simp [hfields found hrange, hembedding.placement.qualifiedName hrange]

end IsEmbedding

end Tree

end RouteSurvey.Declaration
