import RouteSurvey.Proofs.Source.Relative

/-! # The order of files

The parts of a project come in the order of its files, and which class a block ends up in is
found out only from the names of all structs. So with the files in another order there are the
same classes, and each has the same methods, markers and fields. Only the superclass is that of
the first struct that has one, so it stays if no struct is declared twice.
-/

namespace RouteSurvey.Source

/-- What is found first in a list is found in any order, if nothing else can be found. -/
theorem findSome?_perm {α β : Type} {f : α → Option β} {items others : List α}
    (hperm : others.Perm items)
    (honly : ∀ first ∈ items, ∀ second ∈ items, (f first).isSome → (f second).isSome →
      first = second) : others.findSome? f = items.findSome? f := by
  cases hfound : items.findSome? f with
  | none =>
      rw [List.findSome?_eq_none_iff] at hfound ⊢
      exact fun item hitem => hfound item (hperm.mem_iff.mp hitem)
  | some value =>
      obtain ⟨item, hitem, hvalue⟩ := List.exists_of_findSome?_eq_some hfound
      cases hother : others.findSome? f with
      | none =>
          have hnone := List.findSome?_eq_none_iff.mp hother item (hperm.mem_iff.mpr hitem)
          rw [hnone] at hvalue
          contradiction
      | some value' =>
          obtain ⟨item', hitem', hvalue'⟩ := List.exists_of_findSome?_eq_some hother
          obtain rfl := honly item hitem item' (hperm.mem_iff.mp hitem')
            (Option.isSome_of_eq_some hvalue) (Option.isSome_of_eq_some hvalue')
          rw [← hvalue, hvalue']

/-! ## What a class of the tree is -/

section Parts

variable {parts parts' : List Part}

/-- A name has its home elsewhere only at the one struct with its simple name. -/
theorem isOnlyStruct_homeOf {name : String} (hmoved : homeOf parts name ≠ name) :
    IsOnlyStruct parts (homeOf parts name) ∧
      simpleName name = simpleName (homeOf parts name) := by
  cases hattached : attachment? (structNames parts) (classesOf parts) { name := name } with
  | none =>
      rw [homeOf, hattached] at hmoved
      exact absurd rfl hmoved
  | some target =>
      have hhome : homeOf parts name = target := by
        rw [homeOf, hattached]
        rfl
      rw [hhome]
      rw [attachment?] at hattached
      split at hattached
      · contradiction
      · split at hattached
        next owner hcandidates =>
          cases hattached
          have hmem := List.mem_singleton_self owner
          rw [← hcandidates, mem_candidates_classesOf] at hmem
          obtain ⟨-, hstruct, hsimple⟩ := hmem
          refine ⟨⟨hstruct, fun other hother hsame => ?_⟩, hsimple.symm⟩
          -- The class of another struct with that simple name would be a candidate, too.
          obtain ⟨rival, hrival, rfl⟩ := exists_classOf_struct hother
          have hcandidate := mem_candidates_classesOf.mpr ⟨hrival, hother, hsame.trans hsimple⟩
          rw [hcandidates, List.mem_singleton] at hcandidate
          rw [hcandidate]
        next => contradiction

/-- The classes of the tree are the homes of its parts. -/
theorem mem_treeOfParts_names {name : String} :
    name ∈ (treeOfParts parts).classes.map (·.name) ↔
      ∃ part ∈ parts, homeOf parts part.className = name := by
  constructor
  · intro hname
    rw [treeOfParts, attachDetached_names] at hname
    obtain ⟨kept, hkept, rfl⟩ := List.mem_map.mp hname
    have hclass : kept.name ∈ classNames parts := by
      rw [← classesOf_names]
      exact List.mem_map_of_mem (List.mem_of_mem_filter hkept)
    obtain ⟨part, hpart, hsame⟩ := mem_classNames.mp hclass
    exact ⟨part, hpart, by rw [hsame, homeOf_of_kept hkept]⟩
  · rintro ⟨part, hpart, rfl⟩
    obtain ⟨owner, howner, hname⟩ := exists_class_at_home hpart
    exact List.mem_map.mpr ⟨owner, howner, hname⟩

/-- Blocks of other names bring neither fields nor a superclass along. -/
theorem treeOfParts_own {owner : Declaration.Class} (howner : owner ∈ (treeOfParts parts).classes) :
    owner.fields = (parts.filter (·.className == owner.name)).flatMap (·.fields) ∧
      owner.superclass? =
        (parts.filter (·.className == owner.name)).findSome? (·.superclass?) := by
  rw [treeOfParts, attachDetached_eq_map] at howner
  obtain ⟨kept, hkept, rfl⟩ := List.mem_map.mp howner
  obtain ⟨name, -, rfl⟩ := List.mem_map.mp (List.mem_of_mem_filter hkept)
  exact ⟨rfl, rfl⟩

/-! ## Parts in another order -/

variable (hperm : parts'.Perm parts)

include hperm

theorem structNames_perm : (structNames parts').Perm (structNames parts) :=
  (hperm.filter _).map _

theorem isOnlyStruct_perm {target : String} :
    IsOnlyStruct parts' target ↔ IsOnlyStruct parts target := by
  simp only [IsOnlyStruct, (structNames_perm hperm).mem_iff]

theorem homeOf_perm (name : String) : homeOf parts' name = homeOf parts name := by
  by_cases hmoved : homeOf parts name = name
  · by_cases hmoved' : homeOf parts' name = name
    · rw [hmoved, hmoved']
    · obtain ⟨honly, hsimple⟩ := isOnlyStruct_homeOf hmoved'
      exact (homeOf_of_isOnlyStruct ((isOnlyStruct_perm hperm).mp honly) hsimple).symm
  · obtain ⟨honly, hsimple⟩ := isOnlyStruct_homeOf hmoved
    exact homeOf_of_isOnlyStruct ((isOnlyStruct_perm hperm).mpr honly) hsimple

theorem treeOfParts_names_perm :
    ((treeOfParts parts').classes.map (·.name)).Perm
      ((treeOfParts parts).classes.map (·.name)) := by
  refine (List.perm_ext_iff_of_nodup (treeOfParts_nodup _) (treeOfParts_nodup _)).mpr ?_
  intro name
  simp only [mem_treeOfParts_names, homeOf_perm hperm, hperm.mem_iff]

variable {owner owner' : Declaration.Class} (howner : owner ∈ (treeOfParts parts).classes)
  (howner' : owner' ∈ (treeOfParts parts').classes) (hname : owner'.name = owner.name)

include howner howner' hname

/-- Whatever assembling and absorbing both add up, a class has as much of it in any order. -/
theorem class_perm {β : Type} (ofPart : Part → List β) (ofClass : Declaration.Class → List β)
    (hassemble : ∀ name parts, ofClass (assemble name parts) = parts.flatMap ofPart)
    (habsorb : ∀ target blocks,
      ofClass (absorb target blocks) = (target :: blocks).flatMap ofClass) :
    (ofClass owner').Perm (ofClass owner) := by
  have hclass := treeOfParts_class_perm ofPart ofClass hassemble habsorb howner
  have hclass' := treeOfParts_class_perm ofPart ofClass hassemble habsorb howner'
  simp only [homeOf_perm hperm, hname] at hclass'
  exact hclass'.trans (((hperm.filter _).flatMap_right ofPart).trans hclass.symm)

theorem class_fields_perm : owner'.fields.Perm owner.fields := by
  rw [(treeOfParts_own howner).1, (treeOfParts_own howner').1, hname]
  exact (hperm.filter _).flatMap_right _

theorem class_superclass_eq (hstructs : (structNames parts).Nodup)
    (hblocks : ∀ part ∈ parts, part.superclass?.isSome → part.isStruct) :
    owner'.superclass? = owner.superclass? := by
  rw [(treeOfParts_own howner).2, (treeOfParts_own howner').2, hname]
  refine findSome?_perm (hperm.filter _) fun first hfirst second hsecond hsome hsome' => ?_
  obtain ⟨hfirst, hfirstName⟩ := List.mem_filter.mp hfirst
  obtain ⟨hsecond, hsecondName⟩ := List.mem_filter.mp hsecond
  have hsame : first.className = second.className :=
    (eq_of_beq hfirstName).trans (eq_of_beq hsecondName).symm
  exact List.inj_on_of_nodup_map hstructs
    (List.mem_filter.mpr ⟨hfirst, hblocks first hfirst hsome⟩)
    (List.mem_filter.mpr ⟨hsecond, hblocks second hsecond hsome'⟩) hsame

end Parts

/-! ## Files in another order -/

section Project

variable {root : Path} {sources sources' : List SourceFile}

/-- A block of methods has no superclass to tell. -/
theorem isStruct_of_superclass? {part : Part} (hpart : part ∈ partsOf root sources)
    (hsome : part.superclass?.isSome) : part.isStruct := by
  rw [partsOf_eq_flatMap_sites] at hpart
  obtain ⟨⟨modules, item⟩, -, hpart⟩ := List.mem_flatMap.mp hpart
  cases item with
  | module name items => contradiction
  | struct attributes name fields =>
      rw [Site.parts, List.mem_singleton] at hpart
      rw [hpart]
      rfl
  | methods attributes self block =>
      rw [Site.parts, Option.mem_toList, Part.ofMethods?] at hpart
      obtain ⟨className, -, rfl⟩ := Option.map_eq_some_iff.mp hpart
      contradiction
  | other items => contradiction

theorem partsOf_perm (hperm : sources'.Perm sources) :
    (partsOf root sources').Perm (partsOf root sources) :=
  hperm.flatMap_right _

theorem homeOfSite_perm (hperm : sources'.Perm sources) (site : Site) :
    homeOfSite root sources' site = homeOfSite root sources site := by
  simp only [homeOfSite, homeOf_perm (partsOf_perm hperm)]

/-- With the files in another order there are the same classes, and each has the same methods,
markers and fields. Every block ends up in the same class, which is there in either order, and a
class has the functions of the blocks that end up there in the first order. If no struct is
declared twice, a class has the same superclass, too. -/
theorem collect_perm_files (root : Path) {sources sources' : List SourceFile}
    (hperm : sources'.Perm sources) :
    ((collect root sources').classes.map (·.name)).Perm
      ((collect root sources).classes.map (·.name)) ∧
    (∀ owner ∈ (collect root sources).classes, ∀ owner' ∈ (collect root sources').classes,
      owner'.name = owner.name →
        owner'.methods.Perm owner.methods ∧ owner'.markers.Perm owner.markers ∧
        owner'.fields.Perm owner.fields ∧
        ((structNames (partsOf root sources)).Nodup →
          owner'.superclass? = owner.superclass?)) ∧
    (∀ site, homeOfSite root sources' site = homeOfSite root sources site) ∧
    (∀ site, IsReached root sources site → ∀ name, homeOfSite root sources site = some name →
      ∃ owner' ∈ (collect root sources').classes, owner'.name = name) ∧
    ∀ owner' ∈ (collect root sources').classes,
      owner'.methods.Perm ((((sitesOf root sources).filter fun site =>
        homeOfSite root sources site == some owner'.name).flatMap Site.functions).map
          MethodDecl.declaration) := by
  have hparts : (partsOf root sources').Perm (partsOf root sources) := partsOf_perm hperm
  have hnames := treeOfParts_names_perm hparts
  refine ⟨hnames, ?_, homeOfSite_perm hperm, ?_, ?_⟩
  · intro owner howner owner' howner' hname
    refine ⟨?_, ?_, class_fields_perm hparts howner howner' hname, fun hstructs => ?_⟩
    · exact class_perm hparts howner howner' hname _ (·.methods) (fun _ _ => rfl) fun _ _ => rfl
    · exact class_perm hparts howner howner' hname _ (·.markers) (fun _ _ => rfl) fun _ _ => rfl
    · exact class_superclass_eq hparts howner howner' hname hstructs
        fun part hpart => isStruct_of_superclass? hpart
  · intro site hreached name hhome
    obtain ⟨owner, howner, rfl⟩ := exists_class_of_homeOfSite hreached hhome
    exact List.mem_map.mp (hnames.mem_iff.mpr (List.mem_map_of_mem howner))
  · intro owner' howner'
    have hmethods := collect_class_methods_perm howner'
    simp only [homeOfSite_perm hperm] at hmethods
    refine hmethods.trans (List.Perm.map _ (List.Perm.flatMap_right _ (List.Perm.filter _ ?_)))
    exact hperm.flatMap_right _

end Project

/-! ## A struct and a block in two files -/

namespace TwoFiles

def typeName : Ident := ⟨"User", by decide⟩

/-- The struct. -/
def model : SourceFile where
  path := ⟨"src/model.rs"⟩
  file := ⟨[], [.struct [] typeName
    [{ attributes := [], name := ⟨"id", by decide⟩, type := .path [⟨"u64", by decide⟩] [] }]]⟩

/-- A block of methods for the struct. -/
def block : Item :=
  .methods [] (.path [typeName] [])
    [{ attributes := [], name := ⟨"list", by decide⟩, arguments := [.receiver], output? := none }]

def routes : SourceFile where
  path := ⟨"src/routes.rs"⟩
  file := ⟨[], [block]⟩

end TwoFiles

open TwoFiles in
/-- The block ends up with the struct, whichever of the two files comes first. -/
theorem collect_perm_files_swapped :
    (structNames (partsOf ⟨""⟩ [model, routes])).Nodup ∧
    homeOfSite ⟨""⟩ [routes, model] ⟨["routes"], block⟩ = some "crate::model::User" ∧
    ∃ owner ∈ (collect ⟨""⟩ [model, routes]).classes, owner.name = "crate::model::User" ∧
      owner.methods.map (·.name) = ["list"] ∧
      ∃ owner' ∈ (collect ⟨""⟩ [routes, model]).classes, owner'.name = owner.name ∧
        owner'.methods.Perm owner.methods ∧ owner'.fields.Perm owner.fields ∧
        owner'.superclass? = owner.superclass? := by
  have hperm : [routes, model].Perm [model, routes] := List.Perm.swap _ _ _
  have hstructs : (structNames (partsOf ⟨""⟩ [model, routes])).Nodup := by decide +kernel
  have hhome : homeOfSite ⟨""⟩ [model, routes] ⟨["routes"], block⟩ =
      some "crate::model::User" := by decide +kernel
  have hclasses : (collect ⟨""⟩ [model, routes]).classes.map
      (fun owner => (owner.name, owner.methods.map (·.name))) =
        [("crate::model::User", ["list"])] := by decide +kernel
  obtain ⟨hnames, hsame, hsites, -⟩ := collect_perm_files ⟨""⟩ hperm
  obtain ⟨owner, howner, hentry⟩ := List.map_eq_singleton_iff.mp hclasses
  obtain ⟨hname, hmethods⟩ := Prod.mk.inj hentry
  have hmem : owner ∈ (collect ⟨""⟩ [model, routes]).classes := by simp [howner]
  obtain ⟨owner', hmem', hname'⟩ :=
    List.mem_map.mp (hnames.mem_iff.mpr (List.mem_map_of_mem hmem))
  obtain ⟨hmethodsSame, -, hfieldsSame, hsuperclass⟩ := hsame owner hmem owner' hmem' hname'
  exact ⟨hstructs, (hsites _).trans hhome, owner, hmem, hname, hmethods, owner', hmem', hname',
    hmethodsSame, hfieldsSame, hsuperclass hstructs⟩

end RouteSurvey.Source
