import Mathlib.Data.List.Nodup
import RouteSurvey.Proofs.Declaration.MappedMethods
import RouteSurvey.Proofs.Declaration.Placement

/-! # The order of classes

Where no two classes share a name and no type reference can be taken for two classes, a tree
with its classes in another order has the same links between them: every search for a class
finds the one class there is.
-/

namespace RouteSurvey.Declaration.Tree

/-- The position of the class of a name. -/
def indexOf (tree : Tree) (name : String) : Nat :=
  tree.classes.findIdx (·.name == name)

/-- The position that the class at a position of one tree has in another tree. -/
def moved (tree other : Tree) (index : Nat) : Nat :=
  (tree.classes[index]?).elim 0 fun owner => other.indexOf owner.name

/-- The reference is the name of a class, or there is at most one class it can stand for. -/
def IsUnambiguous (tree : Tree) (type : TypeRef) : Prop :=
  (∃ owner ∈ tree.classes, owner.name = type.name) ∨
    ∀ first ∈ tree.classes, ∀ second ∈ tree.classes,
      type.names first.name → type.names second.name → first.name = second.name

instance (tree : Tree) (type : TypeRef) : Decidable (tree.IsUnambiguous type) :=
  inferInstanceAs (Decidable (_ ∨ _))

variable {tree other : Tree}

/-! ## Searches with at most one result -/

section Searches

variable {classes : List Class} {owner : Class} {p : Class → Bool}

/-- The only item that satisfies a condition is found, wherever it stands. -/
theorem findIdx?_eq_some_of_unique {index : Nat} (hnodup : classes.Nodup)
    (howner : classes[index]? = some owner) (hp : p owner)
    (honly : ∀ found ∈ classes, p found → found = owner) : classes.findIdx? p = some index := by
  obtain ⟨hindex, hget⟩ := List.getElem?_eq_some_iff.mp howner
  refine List.findIdx?_eq_some_iff_getElem.mpr ⟨hindex, hget ▸ hp, ?_⟩
  intro earlier hearlier hfound
  have hsame := honly _ (List.getElem_mem (hearlier.trans hindex)) hfound
  rw [← hget, hnodup.getElem_inj_iff] at hsame
  omega

theorem eq_of_name_eq (hnames : (classes.map (·.name)).Nodup) {first second : Class}
    (hfirst : first ∈ classes) (hsecond : second ∈ classes) (hname : first.name = second.name) :
    first = second :=
  List.inj_on_of_nodup_map hnames hfirst hsecond hname

end Searches

section Names

variable (hnames : (tree.classes.map (·.name)).Nodup) {owner : Class}

include hnames

theorem getElem?_indexOf (howner : owner ∈ tree.classes) :
    tree.classes[tree.indexOf owner.name]? = some owner := by
  have hindex : tree.indexOf owner.name < tree.classes.length :=
    List.findIdx_lt_length_of_exists ⟨owner, howner, beq_self_eq_true _⟩
  have hname : tree.classes[tree.indexOf owner.name].name = owner.name :=
    eq_of_beq (List.findIdx_getElem (w := hindex))
  rw [List.getElem?_eq_getElem hindex]
  exact congrArg some (eq_of_name_eq hnames (List.getElem_mem hindex) howner hname)

theorem indexOf_of_getElem? {index : Nat} (howner : tree.classes[index]? = some owner) :
    tree.indexOf owner.name = index := by
  have hfound := getElem?_indexOf hnames (List.mem_of_getElem? howner)
  have hindex := (List.getElem?_eq_some_iff.mp hfound).1
  exact (List.getElem?_inj hindex (hnames.of_map _)).mp (hfound.trans howner.symm)

/-- The mapped methods of a tree, class by class. -/
theorem mappedMethods_eq_flatMap_indexOf : tree.mappedMethods =
    tree.classes.flatMap fun owner => owner.mappedMethods (tree.indexOf owner.name) := by
  conv_rhs => rw [← List.zipIdx_map_fst 0 tree.classes, List.flatMap_map]
  rw [mappedMethods_eq_flatMap]
  refine List.flatMap_congr ?_
  rintro ⟨owner, index⟩ hentry
  rw [indexOf_of_getElem? hnames (List.mk_mem_zipIdx_iff_getElem?.mp hentry)]

/-- The mapped methods of a class go with it. -/
theorem mappedMethods_moved {owner : Class} (howner : owner ∈ tree.classes) :
    owner.mappedMethods (other.indexOf owner.name) =
      (owner.mappedMethods (tree.indexOf owner.name)).map (Ref.placed (moved tree other)) := by
  have hmoved : moved tree other (tree.indexOf owner.name) = other.indexOf owner.name := by
    rw [moved, getElem?_indexOf hnames howner, Option.elim_some]
  rw [← hmoved, Class.mappedMethods, Class.mappedMethods, List.map_map]
  rfl

end Names

/-! ## Another order -/

section Order

variable (hperm : other.classes.Perm tree.classes) (hnames : (tree.classes.map (·.name)).Nodup)

include hperm hnames

theorem nodup_names_of_perm : (other.classes.map (·.name)).Nodup :=
  (hperm.map _).nodup_iff.mpr hnames

theorem getElem?_moved {index : Nat} {owner : Class} (howner : tree.classes[index]? = some owner) :
    other.classes[moved tree other index]? = some owner := by
  rw [moved, howner]
  exact getElem?_indexOf (nodup_names_of_perm hperm hnames)
    (hperm.mem_iff.mpr (List.mem_of_getElem? howner))

theorem moved_inj {first second : Nat} (hfirst : first < tree.classes.length)
    (hsecond : second < tree.classes.length)
    (hsame : moved tree other first = moved tree other second) : first = second := by
  have hmoved := getElem?_moved hperm hnames (List.getElem?_eq_getElem hfirst)
  rw [hsame, getElem?_moved hperm hnames (List.getElem?_eq_getElem hsecond)] at hmoved
  exact ((hnames.of_map _).getElem_inj_iff.mp (Option.some.inj hmoved)).symm

/-- What at most one class satisfies is found at its new position. -/
theorem findIdx?_moved {p : Class → Bool}
    (honly : ∀ first ∈ tree.classes, ∀ second ∈ tree.classes,
      p first → p second → first.name = second.name) :
    other.classes.findIdx? p = (tree.classes.findIdx? p).map (moved tree other) := by
  by_cases hexists : ∃ owner ∈ tree.classes, p owner
  · obtain ⟨owner, howner, hp⟩ := hexists
    have hunique : ∀ found ∈ tree.classes, p found → found = owner := by
      intro found hfound hpfound
      exact eq_of_name_eq hnames hfound howner (honly found hfound owner howner hpfound hp)
    have hindex := getElem?_indexOf hnames howner
    have hnodup : tree.classes.Nodup := hnames.of_map _
    rw [findIdx?_eq_some_of_unique hnodup hindex hp hunique, Option.map_some]
    refine findIdx?_eq_some_of_unique (hperm.nodup_iff.mpr hnodup)
      (getElem?_moved hperm hnames hindex) hp ?_
    exact fun found hfound => hunique found (hperm.mem_iff.mp hfound)
  · have hnone : ∀ owner ∈ tree.classes, p owner = false := by simpa using hexists
    rw [List.findIdx?_eq_none_iff.mpr hnone, List.findIdx?_eq_none_iff.mpr]
    · rfl
    · exact fun owner howner => hnone owner (hperm.mem_iff.mp howner)

theorem findIdx?_name_moved (name : String) :
    other.classes.findIdx? (·.name == name) =
      (tree.classes.findIdx? (·.name == name)).map (moved tree other) := by
  apply findIdx?_moved hperm hnames
  intro first _ second _ hfirst hsecond
  exact (eq_of_beq hfirst).trans (eq_of_beq hsecond).symm

theorem findType?_moved {type : TypeRef} (htype : tree.IsUnambiguous type) :
    other.findType? type = (tree.findType? type).map (Ref.placed (moved tree other)) := by
  have hname := findIdx?_name_moved hperm hnames type.name
  cases hexact : tree.classes.findIdx? (·.name == type.name) with
  | some index => simp [findType?, hname, hexact, Ref.placed]
  | none =>
      have hloose : other.classes.findIdx? (type.names ·.name) =
          (tree.classes.findIdx? (type.names ·.name)).map (moved tree other) := by
        apply findIdx?_moved hperm hnames
        rcases htype with ⟨owner, howner, hsame⟩ | honly
        · -- A class of that very name would have been found.
          have hmissed := List.findIdx?_eq_none_iff.mp hexact owner howner
          simp [hsame] at hmissed
        · exact honly
      rw [findType?, findType?, hname, hexact, hloose]
      cases tree.classes.findIdx? (type.names ·.name) <;> rfl

theorem mappedMethods_perm :
    other.mappedMethods.Perm (tree.mappedMethods.map (Ref.placed (moved tree other))) := by
  rw [mappedMethods_eq_flatMap_indexOf hnames, List.map_flatMap,
    mappedMethods_eq_flatMap_indexOf (nodup_names_of_perm hperm hnames)]
  refine (hperm.flatMap_right _).trans (List.Perm.of_eq (List.flatMap_congr ?_))
  exact fun owner howner => mappedMethods_moved hnames howner

/-- In another order the classes are linked as before. -/
theorem moved_isEmbedding (hreferences : ∀ type ∈ tree.references, tree.IsUnambiguous type) :
    IsEmbedding (moved tree other) tree other := by
  apply IsEmbedding.of_searches
  · exact fun _ _ => getElem?_moved hperm hnames
  · exact fun _ _ => moved_inj hperm hnames
  · exact fun _ _ name _ => findIdx?_name_moved hperm hnames name
  · exact fun type htype => findType?_moved hperm hnames (hreferences type htype)

end Order

end RouteSurvey.Declaration.Tree
