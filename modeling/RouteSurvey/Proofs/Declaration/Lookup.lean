import RouteSurvey.Declaration.Tree
import RouteSurvey.Proofs.Name.Segmented

/-! # Looking up classes

A type reference leads to the first class of exactly its name. If there is none, it leads to
the first class whose name ends in the segments and separators of the reference, and to
nothing if there is no such class either.
-/

namespace RouteSurvey.Declaration

open Name (Segmented Separator)

/-! ## Where a reference leads -/

/-- The reference has one segment, which is the last one of the name, or it is a trailing run
of the segments and separators of the name. -/
def StandsFor (reference name : Segmented) : Prop :=
  reference = .last name.lastSegment ∨ reference.IsTrailing name

/-- The name of the class is a well-formed one for which the reference stands. -/
def Class.IsMeantBy (owner : Class) (reference : Segmented) : Prop :=
  ∃ name : Segmented, name.text = owner.name ∧ StandsFor reference name

/-- The first class with a property has the position `index`. -/
def IsFirst (classes : List Class) (p : Class → Prop) (index : Nat) : Prop :=
  ∃ before owner after, classes = before ++ owner :: after ∧ before.length = index ∧ p owner ∧
    ∀ earlier ∈ before, ¬ p earlier

/-- What a reference leads to in a tree, if to anything. -/
inductive Tree.LeadsTo (tree : Tree) (reference : Segmented) : Option Ref → Prop
  | exact {index : Nat}
      (hfirst : IsFirst tree.classes (fun owner => owner.name = reference.text) index) :
      LeadsTo tree reference (some (.ofClass index))
  | trailing {index : Nat} (hother : ∀ owner ∈ tree.classes, owner.name ≠ reference.text)
      (hfirst : IsFirst tree.classes (fun owner => owner.IsMeantBy reference) index) :
      LeadsTo tree reference (some (.ofClass index))
  | nothing (hnone : ∀ owner ∈ tree.classes, ¬ owner.IsMeantBy reference) :
      LeadsTo tree reference none

/-! ## Searching -/

theorem standsFor_iff {reference name : Segmented} :
    StandsFor reference name ↔ reference.IsTrailing name := by
  constructor
  · rintro (rfl | htrailing)
    · exact name.isTrailing_lastSegment
    · exact htrailing
  · exact Or.inr

theorem findIdx?_eq_some_iff_isFirst {classes : List Class} {p : Class → Bool} {index : Nat} :
    classes.findIdx? p = some index ↔ IsFirst classes (fun owner => p owner) index := by
  constructor
  · intro hfound
    obtain ⟨hlt, hp, hearlier⟩ := List.findIdx?_eq_some_iff_getElem.mp hfound
    refine ⟨classes.take index, classes[index], classes.drop (index + 1), ?_, ?_, hp, ?_⟩
    · rw [List.getElem_cons_drop, List.take_append_drop]
    · exact List.length_take_of_le (Nat.le_of_lt hlt)
    · intro earlier hmem
      obtain ⟨position, hposition, rfl⟩ := List.mem_take_iff_getElem.mp hmem
      exact hearlier position (by omega)
  · rintro ⟨before, owner, after, rfl, rfl, hp, hearlier⟩
    have hnone : before.findIdx? p = none :=
      List.findIdx?_eq_none_iff.mpr (by simpa using hearlier)
    simp [List.findIdx?_append, hnone, List.findIdx?_cons, hp]

theorem IsFirst.congr {classes : List Class} {p q : Class → Prop} {index : Nat}
    (hfirst : IsFirst classes p index) (hsame : ∀ owner ∈ classes, p owner ↔ q owner) :
    IsFirst classes q index := by
  obtain ⟨before, owner, after, rfl, hindex, hp, hearlier⟩ := hfirst
  refine ⟨before, owner, after, rfl, hindex, (hsame owner (by simp)).mp hp, ?_⟩
  intro earlier hmem hq
  exact hearlier earlier hmem ((hsame earlier (List.mem_append_left _ hmem)).mpr hq)

section Lookup

variable {tree : Tree} {type : TypeRef} {reference : Segmented}
  (htype : type.name = reference.text)

include htype

theorem Class.isMeantBy_iff {owner : Class} (howner : Name.IsWellFormed owner.name) :
    owner.IsMeantBy reference ↔ type.names owner.name := by
  obtain ⟨name, hname⟩ := howner
  rw [← hname, Name.names_text_iff htype]
  constructor
  · rintro ⟨other, hother, hstands⟩
    have hsame : other = name := Segmented.text_inj (hother.trans hname.symm)
    exact hsame ▸ standsFor_iff.mp hstands
  · exact fun htrailing => ⟨name, hname, standsFor_iff.mpr htrailing⟩

theorem findIdx?_name_eq_some_iff {index : Nat} :
    tree.classes.findIdx? (·.name == type.name) = some index ↔
      IsFirst tree.classes (fun owner => owner.name = reference.text) index := by
  rw [findIdx?_eq_some_iff_isFirst]
  simp only [htype, beq_iff_eq]

theorem findIdx?_name_eq_none_iff :
    tree.classes.findIdx? (·.name == type.name) = none ↔
      ∀ owner ∈ tree.classes, owner.name ≠ reference.text := by
  simp [List.findIdx?_eq_none_iff, htype]

variable (hnames : ∀ owner ∈ tree.classes, Name.IsWellFormed owner.name)

include hnames

theorem findIdx?_names_eq_some_iff {index : Nat} :
    tree.classes.findIdx? (type.names ·.name) = some index ↔
      IsFirst tree.classes (fun owner => owner.IsMeantBy reference) index := by
  have hsame : ∀ owner ∈ tree.classes, owner.IsMeantBy reference ↔ type.names owner.name :=
    fun owner howner => Class.isMeantBy_iff htype (hnames owner howner)
  rw [findIdx?_eq_some_iff_isFirst]
  constructor
  · exact fun hfirst => hfirst.congr fun owner howner => (hsame owner howner).symm
  · exact fun hfirst => hfirst.congr hsame

theorem findIdx?_names_eq_none_iff :
    tree.classes.findIdx? (type.names ·.name) = none ↔
      ∀ owner ∈ tree.classes, ¬ owner.IsMeantBy reference := by
  rw [List.findIdx?_eq_none_iff]
  refine forall₂_congr fun owner howner => ?_
  rw [Class.isMeantBy_iff htype (hnames owner howner), Bool.not_eq_true]

theorem leadsTo_findType? : tree.LeadsTo reference (tree.findType? type) := by
  unfold Tree.findType?
  cases hexact : tree.classes.findIdx? (·.name == type.name) with
  | some index => exact .exact ((findIdx?_name_eq_some_iff htype).mp hexact)
  | none =>
      have hother := (findIdx?_name_eq_none_iff htype).mp hexact
      cases hloose : tree.classes.findIdx? (type.names ·.name) with
      | some index =>
          exact .trailing hother ((findIdx?_names_eq_some_iff htype hnames).mp hloose)
      | none => exact .nothing ((findIdx?_names_eq_none_iff htype hnames).mp hloose)

theorem findType?_eq_iff_leadsTo {found : Option Ref} :
    tree.findType? type = found ↔ tree.LeadsTo reference found := by
  constructor
  · rintro rfl
    exact leadsTo_findType? htype hnames
  · intro hleads
    unfold Tree.findType?
    cases hleads with
    | exact hfirst =>
        rw [(findIdx?_name_eq_some_iff htype).mpr hfirst]
        rfl
    | trailing hother hfirst =>
        rw [(findIdx?_name_eq_none_iff htype).mpr hother,
          (findIdx?_names_eq_some_iff htype hnames).mpr hfirst]
        rfl
    | nothing hnone =>
        -- A class of just that name would be meant as well.
        have hother : ∀ owner ∈ tree.classes, owner.name ≠ reference.text :=
          fun owner howner hname => hnone owner howner ⟨reference, hname.symm, Or.inr .whole⟩
        rw [(findIdx?_name_eq_none_iff htype).mpr hother,
          (findIdx?_names_eq_none_iff htype hnames).mpr hnone]
        rfl

end Lookup

/-- Among well-formed names, a reference names those that end in its segments and separators,
and it leads to the first class of its own name, or else to the first class that it names. It
leads to nothing if it is no trailing run of the name of any class. -/
theorem lookup_by_trailing_segments :
    (∀ (type : TypeRef) (reference name : Segmented), type.name = reference.text →
      (type.names name.text ↔ StandsFor reference name)) ∧
    ∀ (tree : Tree) (type : TypeRef) (reference : Segmented), type.name = reference.text →
      (∀ owner ∈ tree.classes, Name.IsWellFormed owner.name) →
        (∀ found, tree.findType? type = found ↔ tree.LeadsTo reference found) ∧
        ((∀ owner ∈ tree.classes, ∀ name : Segmented, name.text = owner.name →
          ¬ reference.IsTrailing name) → tree.findType? type = none) := by
  constructor
  · intro type reference name htype
    rw [Name.names_text_iff htype, standsFor_iff]
  · intro tree type reference htype hnames
    refine ⟨fun found => findType?_eq_iff_leadsTo htype hnames, fun hnone => ?_⟩
    refine (findType?_eq_iff_leadsTo htype hnames).mpr (.nothing ?_)
    rintro owner howner ⟨name, hname, hstands⟩
    exact hnone owner howner name hname (standsFor_iff.mp hstands)

/-- Two segments with a separator between them. -/
def userIn (separator : Separator) : Segmented :=
  .cons ⟨"models".toList, by decide, by decide⟩ separator
    (.last ⟨"User".toList, by decide, by decide⟩)

/-- The name with one segment more in front of it. -/
def inCrate (separator : Separator) (name : Segmented) : Segmented :=
  .cons ⟨"crate".toList, by decide, by decide⟩ separator name

/-- A class with the segments `models` and `User` and a dot between them, and one that has
them with colons and behind a further segment. -/
def twoUsers : Tree :=
  ⟨[{ name := (userIn .dot).text }, { name := (inCrate .colons (userIn .colons)).text }]⟩

theorem lookup_by_trailing_segments_user :
    StandsFor (userIn .colons) (inCrate .colons (userIn .colons)) ∧
    (∀ owner ∈ twoUsers.classes, Name.IsWellFormed owner.name) ∧
    twoUsers.LeadsTo (userIn .colons) (some (.ofClass 1)) ∧
    twoUsers.findType? (.plain "crate.models::User") = none := by
  have hnames : ∀ owner ∈ twoUsers.classes, Name.IsWellFormed owner.name := by
    simp only [twoUsers, List.forall_mem_cons, List.not_mem_nil, false_implies, implies_true,
      and_true]
    exact ⟨⟨_, rfl⟩, ⟨_, rfl⟩⟩
  have hreference : (TypeRef.plain "models::User").name = (userIn .colons).text := by decide
  have hlonger : (TypeRef.plain "crate.models::User").name =
      (inCrate .dot (userIn .colons)).text := by decide
  obtain ⟨hleads, -⟩ := lookup_by_trailing_segments.2 twoUsers _ _ hreference hnames
  obtain ⟨-, hnothing⟩ := lookup_by_trailing_segments.2 twoUsers _ _ hlonger hnames
  refine ⟨?_, hnames, (hleads _).mp (by decide), hnothing ?_⟩
  · exact (lookup_by_trailing_segments.1 _ _ _ hreference).mp (by decide)
  · have hnone : ∀ owner ∈ twoUsers.classes,
        ¬ (TypeRef.plain "crate.models::User").names owner.name := by decide
    intro owner howner name hname htrailing
    exact hnone owner howner (hname ▸ (Name.names_text_iff hlonger).mpr htrailing)

end RouteSurvey.Declaration
