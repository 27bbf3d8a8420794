import Mathlib.Data.Option.Basic
import RouteSurvey.Proofs.Gathering
import RouteSurvey.Proofs.Grouping
import RouteSurvey.Source.Assembly

/-! # Assembly loses nothing

Parts are grouped by the names of their classes, and detached classes by the class they are
merged into. Either way every item falls into exactly one group, so the groups together hold
the items they were made of, each as often as before. Classes can as well be put together part
by part, with a dictionary of the positions at which they stand.
-/

namespace RouteSurvey.Source

/-- What one item contributes is part of what all items contribute. -/
theorem sublist_flatMap_of_mem {α β : Type} (f : α → List β) {item : α} {items : List α}
    (hmem : item ∈ items) : (f item).Sublist (items.flatMap f) := by
  rw [List.flatMap_def]
  exact List.sublist_flatten_of_mem (List.mem_map_of_mem hmem)

/-! ## Classes of parts -/

section Classes

/-- Parts are gathered by the names of their classes. The first superclass stays. -/
def byClass : Gathering Part Declaration.Class where
  key := Part.className
  name := Declaration.Class.name
  empty name := { name := name }
  add owner part :=
    { owner with
      markers := owner.markers ++ part.markers
      superclass? := owner.superclass?.or part.superclass?
      fields := owner.fields ++ part.fields
      methods := owner.methods ++ part.methods }
  name_empty _ := rfl
  name_add _ _ := rfl

variable {parts : List Part}

theorem mem_classNames {name : String} :
    name ∈ classNames parts ↔ ∃ part ∈ parts, part.className = name :=
  byClass.mem_names

theorem nodup_classNames (parts : List Part) : (classNames parts).Nodup :=
  byClass.nodup_names parts

theorem classesOf_names (parts : List Part) :
    (classesOf parts).map (·.name) = classNames parts := by
  rw [classesOf, List.map_map]
  exact List.map_id' _

/-- Whatever parts and classes both consist of, the classes have as much of it as the parts. -/
theorem classesOf_flatMap_perm {β : Type} (ofPart : Part → List β)
    (ofClass : Declaration.Class → List β)
    (hassemble : ∀ name parts, ofClass (assemble name parts) = parts.flatMap ofPart)
    (parts : List Part) : ((classesOf parts).flatMap ofClass).Perm (parts.flatMap ofPart) := by
  have hgroups := flatMap_filter_key_perm (·.className) (nodup_classNames parts)
    fun part hpart => mem_classNames.mpr ⟨part, hpart, rfl⟩
  rw [classesOf, List.flatMap_map]
  simp only [hassemble]
  rw [← List.flatMap_assoc]
  exact hgroups.flatMap_right ofPart

/-- A part is in the class of its name. -/
theorem exists_class_of_part {part : Part} (hpart : part ∈ parts) :
    ∃ owner ∈ classesOf parts, owner.name = part.className ∧
      part.markers.Sublist owner.markers ∧ part.fields.Sublist owner.fields := by
  have hmem : part ∈ parts.filter (·.className == part.className) :=
    List.mem_filter.mpr ⟨hpart, beq_self_eq_true _⟩
  refine ⟨_, List.mem_map_of_mem (mem_classNames.mpr ⟨part, hpart, rfl⟩), rfl, ?_, ?_⟩
  · exact sublist_flatMap_of_mem (·.markers) hmem
  · exact sublist_flatMap_of_mem (·.fields) hmem

end Classes

/-! ## Adding part by part -/

/-- The classes of some parts, which are added to the class at the position that a dictionary
tells for their name. -/
def classesByPosition (parts : List Part) : List Declaration.Class :=
  (parts.foldl byClass.enter {}).items

theorem assemble_concat (name : String) (parts : List Part) (part : Part) :
    assemble name (parts ++ [part]) = byClass.add (assemble name parts) part := by
  simp only [assemble, byClass, List.flatMap_append, List.flatMap_singleton,
    List.findSome?_append, List.findSome?_singleton]

theorem foldl_byClass_add (name : String) (parts : List Part) :
    parts.foldl byClass.add (byClass.empty name) = assemble name parts := by
  induction parts using List.reverseRecOn with
  | nil => rfl
  | append_singleton parts part ih => rw [List.foldl_concat, ih, assemble_concat]

theorem byClass_gather (parts : List Part) : byClass.gather parts = classesOf parts :=
  List.map_congr_left fun name _ => foldl_byClass_add name (parts.filter (·.className == name))

theorem classesByPosition_eq (parts : List Part) : classesByPosition parts = classesOf parts :=
  (byClass.items_foldl_enter parts).trans (byClass_gather parts)

/-! ## Detached classes -/

section Attachment

variable {structs : List String} {classes : List Declaration.Class}

/-- A class with a struct is merged into no other. -/
theorem attachment?_of_mem {kept : Declaration.Class} (hstruct : kept.name ∈ structs) :
    attachment? structs classes kept = none := by
  rw [attachment?, if_pos (List.contains_iff_mem.mpr hstruct)]

/-- A class is only ever merged into a class with a struct. -/
theorem attachment?_eq_some {block : Declaration.Class} {name : String}
    (hattached : attachment? structs classes block = some name) :
    name ∈ structs ∧ ∃ target ∈ classes, target.name = name := by
  rw [attachment?] at hattached
  split at hattached
  · contradiction
  · split at hattached
    next target htarget =>
      cases hattached
      have hmem : target ∈ candidates structs classes (simpleName block.name) := by
        rw [htarget]
        exact List.mem_singleton_self target
      obtain ⟨hclass, hcandidate⟩ := List.mem_filter.mp hmem
      obtain ⟨hstruct, -⟩ := Bool.and_eq_true_iff.mp hcandidate
      exact ⟨List.contains_iff_mem.mp hstruct, target, hclass, rfl⟩
    next => contradiction

/-- The classes that are merged into no other. -/
def keptClasses (structs : List String) (classes : List Declaration.Class) :
    List Declaration.Class :=
  classes.filter fun kept => (attachment? structs classes kept).isNone

/-- The classes that are merged into the class of the given name. -/
def attachedTo (structs : List String) (classes : List Declaration.Class) (name : String) :
    List Declaration.Class :=
  classes.filter fun block => attachment? structs classes block == some name

theorem mem_keptClasses_of_struct {kept : Declaration.Class} (hclass : kept ∈ classes)
    (hstruct : kept.name ∈ structs) : kept ∈ keptClasses structs classes :=
  List.mem_filter.mpr ⟨hclass, by rw [attachment?_of_mem hstruct]; rfl⟩

theorem attachDetached_eq_map (structs : List String) (classes : List Declaration.Class) :
    attachDetached structs classes = (keptClasses structs classes).map fun kept =>
      absorb kept (attachedTo structs classes kept.name) :=
  rfl

theorem attachDetached_names (structs : List String) (classes : List Declaration.Class) :
    (attachDetached structs classes).map (·.name) =
      (keptClasses structs classes).map (·.name) := by
  rw [attachDetached_eq_map, List.map_map]
  rfl

theorem nodup_keptClasses (hnames : (classes.map (·.name)).Nodup) :
    ((keptClasses structs classes).map (·.name)).Nodup :=
  hnames.sublist (List.filter_sublist.map _)

/-- The merged classes are those merged into some class that is kept. -/
theorem attachedTo_flatMap_perm (hnames : (classes.map (·.name)).Nodup) :
    ((keptClasses structs classes).flatMap fun kept =>
      attachedTo structs classes kept.name).Perm
        (classes.filter fun block => !(attachment? structs classes block).isNone) := by
  have hkeys : ((keptClasses structs classes).map fun kept => some kept.name).Nodup := by
    have hkept : ((keptClasses structs classes).map (·.name)).Nodup := nodup_keptClasses hnames
    have hsome := List.Nodup.map (Option.some_injective String) hkept
    rw [List.map_map] at hsome
    exact hsome
  have hcovered : ∀ block ∈ classes.filter fun block =>
      !(attachment? structs classes block).isNone,
      attachment? structs classes block ∈
        (keptClasses structs classes).map fun kept => some kept.name := by
    intro block hblock
    cases hattached : attachment? structs classes block with
    | none => simp [hattached] at hblock
    | some name =>
        -- The class merged into has a struct, so it is not merged into another itself.
        obtain ⟨hstruct, target, htarget, rfl⟩ := attachment?_eq_some hattached
        exact List.mem_map_of_mem (mem_keptClasses_of_struct htarget hstruct)
  have hgroups := flatMap_filter_key_perm (attachment? structs classes) hkeys hcovered
  rw [List.flatMap_map] at hgroups
  refine (List.Perm.of_eq (List.flatMap_congr fun kept _ => ?_)).trans hgroups
  rw [attachedTo, List.filter_filter]
  apply List.filter_congr
  intro block _
  cases attachment? structs classes block <;> simp

/-- Each class is kept, or merged into exactly one class that is kept. -/
theorem keptClasses_flatMap_perm (hnames : (classes.map (·.name)).Nodup) :
    ((keptClasses structs classes).flatMap fun kept =>
      kept :: attachedTo structs classes kept.name).Perm classes := by
  have hsplit := List.map_append_flatMap_perm (keptClasses structs classes) id fun kept =>
    attachedTo structs classes kept.name
  rw [List.map_id] at hsplit
  refine hsplit.symm.trans (((attachedTo_flatMap_perm hnames).append_left _).trans ?_)
  exact List.filter_append_perm _ classes

/-- Whatever absorbing adds up, the classes have as much of it after merging as before. -/
theorem attachDetached_flatMap_perm {β : Type} (ofClass : Declaration.Class → List β)
    (habsorb : ∀ target blocks,
      ofClass (absorb target blocks) = (target :: blocks).flatMap ofClass)
    (hnames : (classes.map (·.name)).Nodup) :
    ((attachDetached structs classes).flatMap ofClass).Perm (classes.flatMap ofClass) := by
  rw [attachDetached_eq_map, List.flatMap_map]
  simp only [habsorb]
  rw [← List.flatMap_assoc]
  exact (keptClasses_flatMap_perm hnames).flatMap_right ofClass

example : (attachDetached ["crate::model::User"] [{ name := "crate::model::User" },
    { name := "crate::routes::User", methods := [{ name := "list" }] }]).map
      (fun owner => (owner.name, owner.methods.map (·.name))) =
        [("crate::model::User", ["list"])] := by
  decide

/-- A class with a struct is still there after merging, with all that it had. -/
theorem exists_attached_of_struct {kept : Declaration.Class} (hclass : kept ∈ classes)
    (hstruct : kept.name ∈ structs) :
    ∃ owner ∈ attachDetached structs classes, owner.name = kept.name ∧
      kept.markers.Sublist owner.markers ∧ kept.fields.Sublist owner.fields := by
  refine ⟨_, List.mem_map_of_mem (mem_keptClasses_of_struct hclass hstruct), rfl, ?_, ?_⟩
  · exact List.sublist_append_left _ _
  · exact List.Sublist.refl _

end Attachment

/-! ## The tree of some parts -/

section Tree

variable (parts : List Part)

theorem nodup_classesOf_names : ((classesOf parts).map (·.name)).Nodup := by
  rw [classesOf_names]
  exact nodup_classNames parts

theorem treeOfParts_nodup : ((treeOfParts parts).classes.map (·.name)).Nodup := by
  rw [treeOfParts, attachDetached_names]
  exact nodup_keptClasses (nodup_classesOf_names parts)

/-- What assembling and absorbing both add up is the same in the parts and in their tree. -/
theorem treeOfParts_flatMap_perm {β : Type} (ofPart : Part → List β)
    (ofClass : Declaration.Class → List β)
    (hassemble : ∀ name parts, ofClass (assemble name parts) = parts.flatMap ofPart)
    (habsorb : ∀ target blocks,
      ofClass (absorb target blocks) = (target :: blocks).flatMap ofClass) :
    ((treeOfParts parts).classes.flatMap ofClass).Perm (parts.flatMap ofPart) :=
  (attachDetached_flatMap_perm ofClass habsorb (nodup_classesOf_names parts)).trans
    (classesOf_flatMap_perm ofPart ofClass hassemble parts)

theorem treeOfParts_methods_perm :
    ((treeOfParts parts).classes.flatMap (·.methods)).Perm (parts.flatMap (·.methods)) :=
  treeOfParts_flatMap_perm parts _ _ (fun _ _ => rfl) fun _ _ => rfl

theorem treeOfParts_markers_perm :
    ((treeOfParts parts).classes.flatMap (·.markers)).Perm (parts.flatMap (·.markers)) :=
  treeOfParts_flatMap_perm parts _ _ (fun _ _ => rfl) fun _ _ => rfl

/-- Every struct is in the tree, with its markers and fields. -/
theorem treeOfParts_struct {part : Part} (hpart : part ∈ parts) (hstruct : part.isStruct) :
    ∃ owner ∈ (treeOfParts parts).classes, owner.name = part.className ∧
      part.markers.Sublist owner.markers ∧ part.fields.Sublist owner.fields := by
  obtain ⟨first, hfirst, hname, hmarkers, hfields⟩ := exists_class_of_part hpart
  have hbacked : first.name ∈ structNames parts := by
    rw [hname]
    exact List.mem_map_of_mem (List.mem_filter.mpr ⟨hpart, hstruct⟩)
  obtain ⟨owner, howner, hkept, hmoreMarkers, hmoreFields⟩ :=
    exists_attached_of_struct hfirst hbacked
  exact ⟨owner, howner, hkept.trans hname, hmarkers.trans hmoreMarkers,
    hfields.trans hmoreFields⟩

end Tree

end RouteSurvey.Source
