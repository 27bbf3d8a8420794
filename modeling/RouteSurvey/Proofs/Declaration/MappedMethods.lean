import Mathlib.Data.List.Basic
import RouteSurvey.Declaration.Tree
import RouteSurvey.Proofs.FirstOccurrences

/-! # The mapped methods of a tree

The mapped methods of a tree are the methods that carry a mapping of some kind. However
many kinds a method carries, it is listed once, and the list follows the declarations. It is
what the selections of all kinds make up if they are put into one ordered set.
-/

namespace RouteSurvey.Declaration

/-- One method is declared before another: in an earlier class, or earlier in its class. -/
inductive Ref.Before : Ref → Ref → Prop where
  | earlierClass {index index' position position' : Nat} (hlt : index < index') :
      Before (.ofMethod index position) (.ofMethod index' position')
  | earlierMethod {index position position' : Nat} (hlt : position < position') :
      Before (.ofMethod index position) (.ofMethod index position')

namespace Ref

/-- The order of handles: those of classes come first, by position, and then those of methods,
by class and by position in the class. -/
def le : Ref → Ref → Bool
  | ofClass index, ofClass index' => index ≤ index'
  | ofClass _, ofMethod _ _ => true
  | ofMethod _ _, ofClass _ => false
  | ofMethod index position, ofMethod index' position' =>
    index < index' || index == index' && position ≤ position'

theorem le_trans (first second third : Ref) (hfirst : first.le second)
    (hsecond : second.le third) : first.le third := by
  cases first <;> cases second <;> cases third <;> grind [le]

theorem le_total (first second : Ref) : first.le second || second.le first := by
  cases first <;> cases second <;> grind [le]

theorem le_antisymm {first second : Ref} (hle : first.le second) (hge : second.le first) :
    first = second := by
  cases first <;> cases second <;> grind [le]

theorem Before.le {first second : Ref} (hbefore : Before first second) : first.le second := by
  cases hbefore with
  | earlierClass hlt => simp [Ref.le, hlt]
  | earlierMethod hlt => simp [Ref.le, Nat.le_of_lt hlt]

theorem Before.ne {first second : Ref} (hbefore : Before first second) : first ≠ second := by
  cases hbefore with
  | earlierClass hlt => simp [Nat.ne_of_lt hlt]
  | earlierMethod hlt => simp [Nat.ne_of_lt hlt]

end Ref

namespace Tree

variable (tree : Tree)

/-- The methods that carry a marker of a mapping kind, kind by kind. -/
def selections : List Ref :=
  MappingKind.all.flatMap fun kind => tree.methodsMarkedWith kind.name

/-- The handle means a method that carries a marker of one of the mapping kinds. -/
def IsMapped (ref : Ref) : Prop :=
  ∃ method, tree.methodAt? ref = some method ∧
    ∃ kind ∈ MappingKind.all, ∃ marker ∈ method.markers, marker.kind = kind.name

variable {tree}

/-! ## Selections of methods -/

section Selection

variable {p : List Marker → Bool}

theorem methodAt?_ofMethod {index position : Nat} {method : Method} :
    tree.methodAt? (.ofMethod index position) = some method ↔
      ∃ owner, tree.classes[index]? = some owner ∧ owner.methods[position]? = some method := by
  simp only [methodAt?, Option.bind_eq_bind, Option.bind_eq_some_iff]

theorem mem_methodsWhere {ref : Ref} :
    ref ∈ tree.methodsWhere p ↔ ∃ method, tree.methodAt? ref = some method ∧ p method.markers := by
  simp only [methodsWhere, List.mem_flatMap, List.mem_map, List.mem_filter, Prod.exists,
    List.mk_mem_zipIdx_iff_getElem?]
  constructor
  · rintro ⟨owner, index, howner, method, position, ⟨hmethod, hp⟩, rfl⟩
    exact ⟨method, methodAt?_ofMethod.mpr ⟨owner, howner, hmethod⟩, hp⟩
  · rintro ⟨method, hmethod, hp⟩
    cases ref with
    | ofClass index => contradiction
    | ofMethod index position =>
        obtain ⟨owner, howner, hmethod⟩ := methodAt?_ofMethod.mp hmethod
        exact ⟨owner, index, howner, method, position, ⟨hmethod, hp⟩, rfl⟩

/-- The positions that go with the items of a list ascend. -/
theorem pairwise_zipIdx {α : Type} (items : List α) :
    items.zipIdx.Pairwise fun first second => first.2 < second.2 := by
  have hpositions : (items.zipIdx.map Prod.snd).Pairwise (· < ·) := by
    rw [List.zipIdx_map_snd]
    exact List.pairwise_lt_range'
  exact List.pairwise_map.mp hpositions

theorem length_filter_zipIdx {α : Type} (items : List α) (q : α → Bool) :
    (items.zipIdx.filter fun entry => q entry.1).length = items.countP q := by
  conv_rhs => rw [← List.zipIdx_map_fst 0 items, List.countP_map]
  exact List.countP_eq_length_filter.symm

/-- Selected methods stand in declaration order, and none stands twice. -/
theorem methodsWhere_pairwise : (tree.methodsWhere p).Pairwise Ref.Before := by
  rw [methodsWhere, List.pairwise_flatMap]
  constructor
  · rintro ⟨owner, index⟩ _
    rw [List.pairwise_map]
    exact ((pairwise_zipIdx owner.methods).filter _).imp Ref.Before.earlierMethod
  · refine (pairwise_zipIdx tree.classes).imp fun hlt => ?_
    intro ref href other hother
    obtain ⟨_, _, rfl⟩ := List.mem_map.mp href
    obtain ⟨_, _, rfl⟩ := List.mem_map.mp hother
    exact Ref.Before.earlierClass hlt

/-- There are as many selected handles as selected methods in all classes. -/
theorem length_methodsWhere :
    (tree.methodsWhere p).length =
      (tree.classes.flatMap (·.methods)).countP fun method => p method.markers := by
  rw [methodsWhere, List.length_flatMap, List.countP_flatMap]
  simp only [List.length_map]
  conv_rhs => rw [← List.zipIdx_map_fst 0 tree.classes, List.map_map]
  refine congrArg List.sum (List.map_congr_left ?_)
  rintro ⟨owner, index⟩ _
  exact length_filter_zipIdx owner.methods fun method => p method.markers

end Selection

/-! ## Mapped methods -/

theorem mem_mappedMethods {ref : Ref} : ref ∈ tree.mappedMethods ↔ tree.IsMapped ref := by
  rw [mappedMethods, mem_methodsWhere, IsMapped]
  simp only [List.any_eq_true, beq_iff_eq]

theorem mappedMethods_pairwise : tree.mappedMethods.Pairwise Ref.Before :=
  methodsWhere_pairwise

theorem mem_selections {ref : Ref} : ref ∈ tree.selections ↔ tree.IsMapped ref := by
  simp only [selections, methodsMarkedWith, List.mem_flatMap, mem_methodsWhere, List.any_eq_true,
    beq_iff_eq, IsMapped]
  constructor
  · rintro ⟨kind, hkind, method, hmethod, hmarker⟩
    exact ⟨method, hmethod, kind, hkind, hmarker⟩
  · rintro ⟨method, hmethod, kind, hkind, hmarker⟩
    exact ⟨kind, hkind, method, hmethod, hmarker⟩

/-- An ordered set of what is selected for all kinds has the mapped methods. -/
theorem mappedMethods_eq_mergeSort (tree : Tree) :
    tree.mappedMethods = tree.selections.eraseDups.mergeSort Ref.le := by
  have hnodup : tree.mappedMethods.Nodup := mappedMethods_pairwise.imp Ref.Before.ne
  have hperm : tree.mappedMethods.Perm tree.selections.eraseDups := by
    apply (List.perm_ext_iff_of_nodup hnodup (nodup_eraseDups _)).mpr
    intro ref
    rw [List.mem_eraseDups, mem_selections, mem_mappedMethods]
  have hsorted := List.pairwise_mergeSort Ref.le_trans Ref.le_total tree.selections.eraseDups
  apply (hperm.trans (List.mergeSort_perm _ _).symm).eq_of_pairwise _ _ hsorted
  · intro first second _ _ hle hge
    exact Ref.le_antisymm hle hge
  · exact mappedMethods_pairwise.imp Ref.Before.le

end Tree

/-- The mapped methods of a class that stands at a position. -/
def Class.mappedMethods (owner : Class) (index : Nat) : List Ref :=
  (owner.methods.zipIdx.filter fun (method, _) => MappingKind.all.any fun kind =>
    method.markers.any (·.kind == kind.name)).map fun (_, position) => .ofMethod index position

theorem Class.classIndex_of_mem_mappedMethods {owner : Class} {index : Nat} {ref : Ref}
    (hmem : ref ∈ owner.mappedMethods index) : ref.classIndex = index := by
  obtain ⟨entry, -, rfl⟩ := List.mem_map.mp hmem
  rfl

namespace Tree

variable (tree : Tree)

/-- The mapped methods of a tree are those of its classes, in order. -/
theorem mappedMethods_eq_flatMap : tree.mappedMethods =
    tree.classes.zipIdx.flatMap fun (owner, index) => owner.mappedMethods index :=
  rfl

variable {tree}

theorem mem_mappedMethods_of_class {owner : Class} {index : Nat} {ref : Ref}
    (howner : tree.classes[index]? = some owner) (hmem : ref ∈ owner.mappedMethods index) :
    ref ∈ tree.mappedMethods := by
  rw [mappedMethods_eq_flatMap]
  exact List.mem_flatMap.mpr ⟨(owner, index), List.mk_mem_zipIdx_iff_getElem?.mpr howner, hmem⟩

end Tree

end RouteSurvey.Declaration
