import RouteSurvey.Proofs.Source.Assembly

/-! # Placing detached classes

Merging leaves out the detached classes and changes none but those with a struct, which get
what the detached classes of their simple names hold. All classes with a struct are kept under
their names, so nothing is detached after that which was not before.
-/

namespace RouteSurvey.Source

variable {structs : List String} {classes : List Declaration.Class}
  {block owner target : Declaration.Class}

/-- The target has a struct, and the simple name of the block. -/
def Fits (structs : List String) (block target : Declaration.Class) : Prop :=
  target.name ∈ structs ∧ simpleName target.name = simpleName block.name

instance : Decidable (Fits structs block target) :=
  inferInstanceAs (Decidable (_ ∧ _))

/-- A class has no struct itself, and exactly one class with a struct has its simple name. -/
def IsDetached (structs : List String) (classes : List Declaration.Class)
    (block : Declaration.Class) : Prop :=
  block.name ∉ structs ∧ classes.countP (fun target => Fits structs block target) = 1

instance : Decidable (IsDetached structs classes block) :=
  inferInstanceAs (Decidable (_ ∧ _))

/-! ## What a class is merged into -/

theorem candidates_eq_filter (structs : List String) (classes : List Declaration.Class)
    (block : Declaration.Class) : candidates structs classes (simpleName block.name) =
      classes.filter fun target => Fits structs block target := by
  refine List.filter_congr fun target _ => ?_
  rw [Bool.eq_iff_iff, Bool.and_eq_true, List.contains_iff_mem, beq_iff_eq, decide_eq_true_iff,
    Fits]

theorem mem_candidates : target ∈ candidates structs classes (simpleName block.name) ↔
    target ∈ classes ∧ Fits structs block target := by
  rw [candidates_eq_filter, List.mem_filter, decide_eq_true_iff]

theorem isDetached_iff : IsDetached structs classes block ↔
    block.name ∉ structs ∧
      ∃ target, candidates structs classes (simpleName block.name) = [target] := by
  rw [IsDetached, List.countP_eq_length_filter, ← candidates_eq_filter, List.length_eq_one_iff]

theorem attachment?_of_candidates (hblock : block.name ∉ structs)
    (hcandidates : candidates structs classes (simpleName block.name) = [target]) :
    attachment? structs classes block = some target.name := by
  rw [attachment?, if_neg (by rwa [List.contains_iff_mem]), hcandidates]

theorem attachment?_eq_some_iff (howner : owner ∈ classes) :
    attachment? structs classes block = some owner.name ↔
      IsDetached structs classes block ∧ Fits structs block owner := by
  rw [isDetached_iff]
  constructor
  · intro hattached
    have hblock : block.name ∉ structs := by
      intro hstruct
      rw [attachment?_of_mem hstruct] at hattached
      contradiction
    rw [attachment?, if_neg (by rwa [List.contains_iff_mem])] at hattached
    split at hattached
    next target htarget =>
      have hname : target.name = owner.name := Option.some.inj hattached
      obtain ⟨-, hfits⟩ := mem_candidates.mp (htarget ▸ List.mem_singleton_self target)
      rw [Fits, hname] at hfits
      exact ⟨⟨hblock, target, htarget⟩, hfits⟩
    next => contradiction
  · rintro ⟨⟨hblock, target, htarget⟩, hfits⟩
    have hmem := mem_candidates.mpr ⟨howner, hfits⟩
    rw [htarget, List.mem_singleton] at hmem
    rw [attachment?_of_candidates hblock htarget, hmem]

theorem attachment?_eq_none_iff :
    attachment? structs classes block = none ↔ ¬ IsDetached structs classes block := by
  constructor
  · intro hnone hdetached
    obtain ⟨hblock, target, htarget⟩ := isDetached_iff.mp hdetached
    rw [attachment?_of_candidates hblock htarget] at hnone
    contradiction
  · intro hnot
    cases hattached : attachment? structs classes block with
    | none => rfl
    | some name =>
        obtain ⟨-, target, htarget, rfl⟩ := attachment?_eq_some hattached
        exact absurd ((attachment?_eq_some_iff htarget).mp hattached).1 hnot

theorem keptClasses_eq_filter (structs : List String) (classes : List Declaration.Class) :
    keptClasses structs classes =
      classes.filter fun owner => ¬ IsDetached structs classes owner := by
  refine List.filter_congr fun owner _ => ?_
  rw [Bool.eq_iff_iff, Option.isNone_iff_eq_none, attachment?_eq_none_iff, decide_eq_true_iff]

theorem attachedTo_eq_filter (howner : owner ∈ classes) :
    attachedTo structs classes owner.name = classes.filter fun block =>
      IsDetached structs classes block ∧ Fits structs block owner := by
  refine List.filter_congr fun block _ => ?_
  rw [Bool.eq_iff_iff, beq_iff_eq, attachment?_eq_some_iff howner, decide_eq_true_iff]

/-- Nothing is merged into a class without a struct. -/
theorem attachedTo_of_notMem (hstruct : owner.name ∉ structs) :
    attachedTo structs classes owner.name = [] := by
  refine List.filter_eq_nil_iff.mpr fun block _ hattached => hstruct ?_
  exact (attachment?_eq_some (beq_iff_eq.mp hattached)).1

/-! ## Classes after merging -/

@[simp] theorem absorb_nil (target : Declaration.Class) : absorb target [] = target := by
  simp [absorb]

/-- What becomes of a class that is kept. It has what it had, and behind its own methods and
markers those of the detached classes that it fits, in order. Without a struct, it stays as it
was. -/
structure IsPlaced (structs : List String) (classes : List Declaration.Class)
    (kept placed : Declaration.Class) : Prop where
  name_eq : placed.name = kept.name
  enclosing?_eq : placed.enclosing? = kept.enclosing?
  superclass?_eq : placed.superclass? = kept.superclass?
  fields_eq : placed.fields = kept.fields
  methods_eq : placed.methods = kept.methods ++
    (classes.filter fun block => IsDetached structs classes block ∧
      Fits structs block kept).flatMap (·.methods)
  markers_eq : placed.markers = kept.markers ++
    (classes.filter fun block => IsDetached structs classes block ∧
      Fits structs block kept).flatMap (·.markers)
  unchanged : kept.name ∉ structs → placed = kept

theorem isPlaced_absorb (howner : owner ∈ classes) :
    IsPlaced structs classes owner (absorb owner (attachedTo structs classes owner.name)) where
  name_eq := rfl
  enclosing?_eq := rfl
  superclass?_eq := rfl
  fields_eq := rfl
  methods_eq := by rw [← attachedTo_eq_filter howner, absorb]
  markers_eq := by rw [← attachedTo_eq_filter howner, absorb]
  unchanged hstruct := by rw [attachedTo_of_notMem hstruct, absorb_nil]

theorem attachDetached_forall₂_isPlaced (structs : List String)
    (classes : List Declaration.Class) :
    List.Forall₂ (IsPlaced structs classes)
      (classes.filter fun owner => ¬ IsDetached structs classes owner)
      (attachDetached structs classes) := by
  rw [attachDetached_eq_map, keptClasses_eq_filter, List.forall₂_map_right_iff, List.forall₂_same]
  exact fun owner howner => isPlaced_absorb (List.mem_filter.mp howner).1

/-- Where no class is detached, merging does nothing. -/
theorem attachDetached_of_none (hnone : ∀ owner ∈ classes, ¬ IsDetached structs classes owner) :
    attachDetached structs classes = classes := by
  have hkept : keptClasses structs classes = classes := by
    rw [keptClasses_eq_filter, List.filter_eq_self]
    exact fun owner howner => decide_eq_true (hnone owner howner)
  rw [attachDetached_eq_map, hkept]
  refine (List.map_congr_left fun owner howner => ?_).trans (List.map_id classes)
  have hempty : attachedTo structs classes owner.name = [] := by
    rw [attachedTo_eq_filter howner, List.filter_eq_nil_iff]
    exact fun block hblock hboth => hnone block hblock (of_decide_eq_true hboth).1
  rw [hempty, absorb_nil, id]

theorem countP_fits_attachDetached (structs : List String) (classes : List Declaration.Class)
    (block : Declaration.Class) :
    (attachDetached structs classes).countP (fun target => Fits structs block target) =
      classes.countP fun target => Fits structs block target := by
  rw [attachDetached_eq_map, List.countP_map, keptClasses, List.countP_filter]
  refine List.countP_congr fun target _ => ?_
  -- A class with a struct is kept, and its name is the same after merging.
  have hkept (hfits : Fits structs block target) : attachment? structs classes target = none :=
    attachment?_of_mem hfits.1
  rw [Bool.and_eq_true, Function.comp_apply, decide_eq_true_iff, decide_eq_true_iff,
    Option.isNone_iff_eq_none]
  exact and_iff_left_of_imp hkept

/-- Merging keeps every class with a struct, so it changes nothing about being detached. -/
theorem isDetached_attachDetached_iff :
    IsDetached structs (attachDetached structs classes) block ↔
      IsDetached structs classes block := by
  rw [IsDetached, IsDetached, countP_fits_attachDetached]

theorem not_isDetached_of_mem_attachDetached (howner : owner ∈ attachDetached structs classes) :
    ¬ IsDetached structs (attachDetached structs classes) owner := by
  rw [isDetached_attachDetached_iff]
  rw [attachDetached_eq_map, keptClasses_eq_filter] at howner
  obtain ⟨kept, hkept, rfl⟩ := List.mem_map.mp howner
  exact of_decide_eq_true (List.mem_filter.mp hkept).2

theorem attachDetached_attachDetached (structs : List String)
    (classes : List Declaration.Class) :
    attachDetached structs (attachDetached structs classes) = attachDetached structs classes :=
  attachDetached_of_none fun _ => not_isDetached_of_mem_attachDetached

end RouteSurvey.Source
