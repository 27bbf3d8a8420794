import RouteSurvey.Proofs.Name
import RouteSurvey.Proofs.Source.Assembly
import RouteSurvey.Proofs.Source.Sites

/-! # Where blocks end up

Every class name of some parts has a home: the class of the tree in which what is written
under that name ends up. A name with a struct is its own home. Any other name has its home
at the only struct with the same simple name, or at itself if there is none or several. Each
class of the tree consists of the parts that have their home there.
-/

namespace RouteSurvey.Source

/-! ## Homes of names -/

section Parts

variable {parts : List Part}

/-- The class of the tree in which the parts of a name end up. -/
def homeOf (parts : List Part) (name : String) : String :=
  (attachment? (structNames parts) (classesOf parts) { name := name }).getD name

/-- The struct is the only one with its simple name. -/
def IsOnlyStruct (parts : List Part) (target : String) : Prop :=
  target ∈ structNames parts ∧
    ∀ other ∈ structNames parts, simpleName other = simpleName target → other = target

theorem mem_structNames {name : String} :
    name ∈ structNames parts ↔ ∃ part ∈ parts, part.isStruct ∧ part.className = name := by
  simp only [structNames, List.mem_map, List.mem_filter, and_assoc]

theorem exists_classOf_struct {name : String} (hstruct : name ∈ structNames parts) :
    ∃ owner ∈ classesOf parts, owner.name = name := by
  obtain ⟨part, hpart, -, rfl⟩ := mem_structNames.mp hstruct
  obtain ⟨owner, howner, hname, -⟩ := exists_class_of_part hpart
  exact ⟨owner, howner, hname⟩

theorem mem_candidates_classesOf {simple : String} {candidate : Declaration.Class} :
    candidate ∈ candidates (structNames parts) (classesOf parts) simple ↔
      candidate ∈ classesOf parts ∧ candidate.name ∈ structNames parts ∧
        simpleName candidate.name = simple := by
  simp only [candidates, List.mem_filter, Bool.and_eq_true, List.contains_iff_mem, beq_iff_eq]

theorem nodup_candidates_names (simple : String) :
    ((candidates (structNames parts) (classesOf parts) simple).map (·.name)).Nodup :=
  (nodup_classesOf_names parts).sublist (List.filter_sublist.map _)

theorem homeOf_of_struct {name : String} (hstruct : name ∈ structNames parts) :
    homeOf parts name = name := by
  rw [homeOf, attachment?_of_mem hstruct]
  rfl

/-- The class of the only struct with a simple name is the only candidate for that name. -/
theorem candidates_of_isOnlyStruct {owner : Declaration.Class} (howner : owner ∈ classesOf parts)
    (honly : IsOnlyStruct parts owner.name) :
    candidates (structNames parts) (classesOf parts) (simpleName owner.name) = [owner] := by
  obtain ⟨hstruct, hunique⟩ := honly
  have hnames : (candidates (structNames parts) (classesOf parts) (simpleName owner.name)).map
      (·.name) = [owner.name] := by
    refine List.perm_singleton.mp ((List.perm_ext_iff_of_nodup
      (nodup_candidates_names _) (List.nodup_singleton _)).mpr fun name => ?_)
    rw [List.mem_singleton]
    constructor
    · intro hname
      obtain ⟨candidate, hcandidate, rfl⟩ := List.mem_map.mp hname
      obtain ⟨-, hback, hsimple⟩ := mem_candidates_classesOf.mp hcandidate
      exact hunique _ hback hsimple
    · rintro rfl
      exact List.mem_map_of_mem (mem_candidates_classesOf.mpr ⟨howner, hstruct, rfl⟩)
  obtain ⟨candidate, hcandidate, -⟩ := List.map_eq_singleton_iff.mp hnames
  have hmem : owner ∈ candidates (structNames parts) (classesOf parts) (simpleName owner.name) :=
    mem_candidates_classesOf.mpr ⟨howner, hstruct, rfl⟩
  rw [hcandidate, List.mem_singleton] at hmem
  rw [hcandidate, hmem]

theorem homeOf_of_isOnlyStruct {name target : String} (honly : IsOnlyStruct parts target)
    (hsimple : simpleName name = simpleName target) : homeOf parts name = target := by
  by_cases hname : name ∈ structNames parts
  · rw [homeOf_of_struct hname]
    exact honly.2 name hname hsimple
  · obtain ⟨owner, howner, rfl⟩ := exists_classOf_struct honly.1
    have hblock : attachment? (structNames parts) (classesOf parts) { name := name } =
        some owner.name := by
      rw [attachment?, if_neg (by rwa [List.contains_iff_mem]), hsimple,
        candidates_of_isOnlyStruct howner honly]
    rw [homeOf, hblock]
    rfl

theorem homeOf_of_several {name first second : String} (hname : name ∉ structNames parts)
    (hfirst : first ∈ structNames parts) (hsecond : second ∈ structNames parts)
    (hne : first ≠ second) (hsimpleFirst : simpleName first = simpleName name)
    (hsimpleSecond : simpleName second = simpleName name) : homeOf parts name = name := by
  have hnone : attachment? (structNames parts) (classesOf parts) { name := name } = none := by
    rw [attachment?, if_neg (by rwa [List.contains_iff_mem])]
    split
    next target htarget =>
      -- A single candidate would have both names.
      have hnamed : ∀ other ∈ structNames parts, simpleName other = simpleName name →
          other = target.name := by
        intro other hother hsimple
        obtain ⟨owner, howner, rfl⟩ := exists_classOf_struct hother
        have hmem : owner ∈ candidates (structNames parts) (classesOf parts) (simpleName name) :=
          mem_candidates_classesOf.mpr ⟨howner, hother, hsimple⟩
        rw [htarget, List.mem_singleton] at hmem
        rw [hmem]
      exact absurd ((hnamed first hfirst hsimpleFirst).trans
        (hnamed second hsecond hsimpleSecond).symm) hne
    next => rfl
  rw [homeOf, hnone]
  rfl

/-! ## The parts of a class -/

theorem homeOf_of_kept {kept : Declaration.Class}
    (hkept : kept ∈ keptClasses (structNames parts) (classesOf parts)) :
    homeOf parts kept.name = kept.name := by
  have hnone := (List.mem_filter.mp hkept).2
  rw [Option.isNone_iff_eq_none] at hnone
  have hhome : homeOf parts kept.name =
      (attachment? (structNames parts) (classesOf parts) kept).getD kept.name := rfl
  rw [hhome, hnone]
  rfl

theorem homeOf_eq_iff {kept : Declaration.Class}
    (hkept : kept ∈ keptClasses (structNames parts) (classesOf parts)) {name : String} :
    homeOf parts name = kept.name ↔ name = kept.name ∨
      attachment? (structNames parts) (classesOf parts) { name := name } = some kept.name := by
  constructor
  · intro hhome
    rw [homeOf] at hhome
    cases hattached : attachment? (structNames parts) (classesOf parts) { name := name } with
    | none => exact .inl (by rwa [hattached] at hhome)
    | some target => exact .inr (by rwa [hattached, Option.getD_some, ← Option.some_inj] at hhome)
  · rintro (rfl | hattached)
    · exact homeOf_of_kept hkept
    · rw [homeOf, hattached]
      rfl

/-- A class that is kept and those merged into it are the classes of its home. -/
theorem kept_cons_attachedTo_perm {kept : Declaration.Class}
    (hkept : kept ∈ keptClasses (structNames parts) (classesOf parts)) :
    (kept :: attachedTo (structNames parts) (classesOf parts) kept.name).Perm
      ((classesOf parts).filter fun owner => homeOf parts owner.name == kept.name) := by
  obtain ⟨hclass, hnone⟩ := List.mem_filter.mp hkept
  have hclasses : (classesOf parts).Nodup := (nodup_classesOf_names parts).of_map
  have hnew : kept ∉ attachedTo (structNames parts) (classesOf parts) kept.name := by
    intro hmem
    have hsome := (List.mem_filter.mp hmem).2
    rw [beq_iff_eq] at hsome
    simp [hsome] at hnone
  refine (List.perm_ext_iff_of_nodup (List.nodup_cons.mpr ⟨hnew, hclasses.filter _⟩)
    (hclasses.filter _)).mpr fun owner => ?_
  have hname : ∀ other ∈ classesOf parts, other.name = kept.name → other = kept :=
    fun other hother => List.inj_on_of_nodup_map (nodup_classesOf_names parts) hother hclass
  simp only [List.mem_cons, attachedTo, List.mem_filter, beq_iff_eq, homeOf_eq_iff hkept]
  constructor
  · rintro (rfl | ⟨howner, hattached⟩)
    · exact ⟨hclass, .inl rfl⟩
    · exact ⟨howner, .inr hattached⟩
  · rintro ⟨howner, hsame | hattached⟩
    · exact .inl (hname owner howner hsame)
    · exact .inr ⟨howner, hattached⟩

/-- Whatever assembling and absorbing both add up, a class of the tree has as much of it as
the parts that have their home there. -/
theorem treeOfParts_class_perm {β : Type} (ofPart : Part → List β)
    (ofClass : Declaration.Class → List β)
    (hassemble : ∀ name parts, ofClass (assemble name parts) = parts.flatMap ofPart)
    (habsorb : ∀ target blocks,
      ofClass (absorb target blocks) = (target :: blocks).flatMap ofClass)
    {owner : Declaration.Class} (howner : owner ∈ (treeOfParts parts).classes) :
    (ofClass owner).Perm
      ((parts.filter fun part => homeOf parts part.className == owner.name).flatMap ofPart) := by
  rw [treeOfParts, attachDetached_eq_map] at howner
  obtain ⟨kept, hkept, rfl⟩ := List.mem_map.mp howner
  -- The parts at home, grouped by their names: one group for each class that is merged.
  let atHome : List Part := parts.filter fun part => homeOf parts part.className == kept.name
  let names : List String := (classNames parts).filter fun name => homeOf parts name == kept.name
  have hparts : ∀ name ∈ names, parts.filter (·.className == name) =
      atHome.filter (·.className == name) := by
    intro name hname
    rw [List.filter_filter]
    refine List.filter_congr fun part _ => ?_
    by_cases hpart : part.className = name
    · simp [hpart, (List.mem_filter.mp hname).2]
    · simp [hpart]
  have hgroups : (names.flatMap fun name => atHome.filter (·.className == name)).Perm atHome := by
    refine flatMap_filter_key_perm Part.className ((nodup_classNames parts).filter _) ?_
    intro part hpart
    obtain ⟨hmem, hhome⟩ := List.mem_filter.mp hpart
    exact List.mem_filter.mpr ⟨mem_classNames.mpr ⟨part, hmem, rfl⟩, hhome⟩
  have hclasses : (classesOf parts).filter (fun owner => homeOf parts owner.name == kept.name) =
      names.map fun name => assemble name (parts.filter (·.className == name)) := by
    rw [classesOf, List.filter_map]
    rfl
  rw [habsorb]
  refine ((kept_cons_attachedTo_perm hkept).flatMap_right ofClass).trans ?_
  rw [hclasses, List.flatMap_map]
  simp only [hassemble]
  rw [← List.flatMap_assoc, List.flatMap_congr hparts]
  exact hgroups.flatMap_right ofPart

theorem exists_class_at_home {part : Part} (hpart : part ∈ parts) :
    ∃ owner ∈ (treeOfParts parts).classes, owner.name = homeOf parts part.className := by
  obtain ⟨owner, howner, hname, -⟩ := exists_class_of_part hpart
  have hkept : ∃ kept ∈ keptClasses (structNames parts) (classesOf parts),
      kept.name = homeOf parts part.className := by
    cases hattached : attachment? (structNames parts) (classesOf parts) owner with
    | none =>
        have hkept : owner ∈ keptClasses (structNames parts) (classesOf parts) :=
          List.mem_filter.mpr ⟨howner, by rw [hattached]; rfl⟩
        exact ⟨owner, hkept, by rw [← hname, homeOf_of_kept hkept]⟩
    | some name =>
        obtain ⟨hstruct, target, htarget, rfl⟩ := attachment?_eq_some hattached
        have hkept := mem_keptClasses_of_struct htarget hstruct
        refine ⟨target, hkept, ((homeOf_eq_iff hkept).mpr (.inr ?_)).symm⟩
        rw [← hname]
        exact hattached
  obtain ⟨kept, hkept, hhome⟩ := hkept
  exact ⟨_, List.mem_map_of_mem hkept, hhome⟩

end Parts

end RouteSurvey.Source
