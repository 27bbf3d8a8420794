import RouteSurvey.Proofs.Resolution.Placement

/-! # Circular nesting and inheritance

Classes may be nested in each other, or inherit from each other, in a circle. The walks
outwards and upwards end all the same, and every handle that comes up belongs to a class of
the tree. Where nesting is circular, it does not matter that the last class of a chain is
nested in anything.
-/

namespace RouteSurvey

open Declaration (Tree Ref)

namespace Declaration.Tree

/-- The tree in which one class no longer says what it is nested in. -/
def opened (tree : Tree) (index : Nat) : Tree :=
  ⟨tree.classes.modify index fun owner => { owner with enclosing? := none }⟩

/-- The members are a walk along `next` that stays in the tree, and stops at the first member
that leads to nothing new. -/
structure EndsWithin (tree : Tree) (next : Ref → Option Ref) (ref : Ref) (bound : Nat)
    (members : List Ref) : Prop where
  isWalk : IsWalk next ref members
  inRange : ∀ member ∈ members, tree.InRange member
  length_le : members.length ≤ bound
  stops : ∀ before member after, members = before ++ member :: after →
    (after = [] ↔ ∀ far, next member = some far → far ∈ before ++ [member])

variable {tree : Tree} {config : Config} {ref : Ref} {index : Nat}

/-! ## Bounds -/

theorem length_le_of_classes {refs : List Ref} (hnodup : refs.Nodup)
    (hclasses : ∀ ref ∈ refs, ∃ index, index < tree.classes.length ∧ ref = .ofClass index) :
    refs.length ≤ tree.classes.length := by
  have hsubset : refs ⊆ (List.range tree.classes.length).map Ref.ofClass := by
    intro ref href
    obtain ⟨index, hindex, rfl⟩ := hclasses ref href
    exact List.mem_map_of_mem (List.mem_range.mpr hindex)
  have hlength := (List.subperm_of_subset hnodup hsubset).length_le
  rwa [List.length_map, List.length_range] at hlength

theorem exists_class_of_enclosing {near far : Ref} (hfar : tree.enclosing? near = some far) :
    ∃ index, far = .ofClass index := by
  cases near with
  | ofMethod index place =>
      cases hfar
      exact ⟨index, rfl⟩
  | ofClass index =>
      obtain ⟨found, -, rfl⟩ := enclosing?_ofClass hfar
      exact ⟨found, rfl⟩

/-- All members of a chain but the first are different classes of the tree. -/
theorem length_chain_le (hrange : tree.InRange ref) :
    (tree.chain ref).members.length ≤ tree.classes.length + 1 := by
  have hwalk := (tree.chain_isEnclosingChain ref).isWalk
  have htail : (tree.chain ref).members.tail.length ≤ tree.classes.length := by
    refine length_le_of_classes (hwalk.nodup.sublist (List.tail_sublist _)) fun far hfar => ?_
    obtain ⟨near, hstep⟩ := hwalk.exists_step_of_mem_tail hfar
    obtain ⟨index, rfl⟩ := exists_class_of_enclosing hstep
    exact ⟨index, hrange.of_mem_chain (List.mem_of_mem_tail hfar), rfl⟩
  rw [List.length_tail] at htail
  omega

/-- All members of a lineage are different classes of the tree. A method has no parent. -/
theorem length_lineage_le (hrange : tree.InRange ref) :
    (tree.lineage config ref).length ≤ tree.classes.length := by
  have hwalk := tree.lineage_isWalk config ref
  cases ref with
  | ofMethod index place =>
      have halone : IsWalk (tree.parent? config) (.ofMethod index place) [.ofMethod index place] :=
        ⟨rfl, List.isChain_singleton _, List.nodup_singleton _, fun _ hlast _ hfar => by
          cases hlast
          contradiction⟩
      rw [hwalk.unique halone]
      have hindex : index < tree.classes.length := hrange
      simp only [List.length_singleton]
      omega
  | ofClass index =>
      refine length_le_of_classes hwalk.nodup (hwalk.forall_mem ⟨index, hrange, rfl⟩ ?_)
      exact fun near far hparent _ => (parent?_eq_some hparent).2

theorem endsWithin_chain (hrange : tree.InRange ref) :
    tree.EndsWithin tree.enclosing? ref (tree.classes.length + 1) (tree.chain ref).members where
  isWalk := (tree.chain_isEnclosingChain ref).isWalk
  inRange _ := hrange.of_mem_chain
  length_le := length_chain_le hrange
  stops _ _ _ hsplit := (hsplit ▸ (tree.chain_isEnclosingChain ref).isWalk).eq_nil_iff

theorem endsWithin_lineage (hrange : tree.InRange ref) :
    tree.EndsWithin (tree.parent? config) ref tree.classes.length (tree.lineage config ref) where
  isWalk := tree.lineage_isWalk config ref
  inRange _ := hrange.of_mem_lineage
  length_le := length_lineage_le hrange
  stops _ _ _ hsplit := (hsplit ▸ tree.lineage_isWalk config ref).eq_nil_iff

/-! ## Opening a circle -/

theorem isPlacement_opened : IsPlacement id tree (tree.opened index) := by
  intro position owner howner
  rw [opened, id, List.getElem?_modify, howner]
  by_cases hposition : index = position
  · exact ⟨none, by simp [hposition]⟩
  · exact ⟨owner.enclosing?, by simp [hposition]⟩

theorem findIdx?_opened (name : String) :
    (tree.opened index).classes.findIdx? (·.name == name) =
      tree.classes.findIdx? (·.name == name) := by
  have hnames : (tree.opened index).classes.map (·.name) = tree.classes.map (·.name) := by
    refine List.ext_getElem? fun position => ?_
    rw [opened, List.getElem?_map, List.getElem?_modify, List.getElem?_map]
    cases tree.classes[position]? with
    | none => rfl
    | some owner => by_cases hposition : index = position <;> simp [hposition]
  have hfound : ∀ classes : List Class, classes.findIdx? (·.name == name) =
      (classes.map (·.name)).findIdx? (· == name) := fun classes => by
    rw [List.findIdx?_map]
    rfl
  rw [hfound, hnames, ← hfound]

theorem enclosing?_opened_of_ne (hne : ref ≠ .ofClass index) :
    (tree.opened index).enclosing? ref = tree.enclosing? ref := by
  cases ref with
  | ofMethod position place => rfl
  | ofClass position =>
      have hposition : index ≠ position := fun heq => hne (heq ▸ rfl)
      have howner : (tree.opened index).classes[position]? = tree.classes[position]? := by
        simp [opened, hposition]
      simp only [enclosing?, howner, findIdx?_opened]

theorem enclosing?_opened_self : (tree.opened index).enclosing? (.ofClass index) = none := by
  simp only [enclosing?, opened, List.getElem?_modify_eq]
  cases tree.classes[index]? <;> rfl

theorem members_chain_opened (hlast : (tree.chain ref).members.getLast? = some (.ofClass index)) :
    ((tree.opened index).chain ref).members = (tree.chain ref).members := by
  have hwalk := (tree.chain_isEnclosingChain ref).isWalk.of_eq_until_last hlast
    (fun near => enclosing?_opened_of_ne) fun far hfar => by
      rw [enclosing?_opened_self] at hfar
      contradiction
  exact ((tree.opened index).chain_isEnclosingChain ref).isWalk.unique hwalk

/-- Around a method stands its class, so every chain ends with a class. -/
theorem exists_getLast?_chain (ref : Ref) :
    ∃ index, (tree.chain ref).members.getLast? = some (.ofClass index) := by
  have hwalk := (tree.chain_isEnclosingChain ref).isWalk
  obtain ⟨last, hlast⟩ : ∃ last, (tree.chain ref).members.getLast? = some last :=
    ⟨_, List.getLast?_eq_some_getLast hwalk.ne_nil⟩
  cases last with
  | ofClass index => exact ⟨index, hlast⟩
  | ofMethod index place =>
      exfalso
      have howner := hwalk.closed _ hlast (.ofClass index) rfl
      obtain ⟨front, hsplit⟩ := List.getLast?_eq_some_iff.mp hlast
      rw [hsplit] at hwalk howner
      cases front with
      | nil => simp at howner
      | cons first front =>
          obtain ⟨near, hnear⟩ := hwalk.exists_step_of_mem_tail
            (List.mem_append_right front (List.mem_singleton_self (Ref.ofMethod index place)))
          obtain ⟨_, hclass⟩ := exists_class_of_enclosing hnear
          contradiction

end Declaration.Tree

namespace Resolution

variable {tree other : Tree} {position : Nat → Nat}

/-! ## Questions in another tree -/

/-- The declaration that a question is about. -/
def Query.subject : Query → Ref
  | mapping ref | paths ref | methods ref | consumes ref | produces ref | deprecated ref
  | schema ref => ref

/-- The question about the declaration at its new place. -/
def Query.placed (position : Nat → Nat) : Query → Query
  | mapping ref => mapping (ref.placed position)
  | paths ref => paths (ref.placed position)
  | methods ref => methods (ref.placed position)
  | consumes ref => consumes (ref.placed position)
  | produces ref => produces (ref.placed position)
  | deprecated ref => deprecated (ref.placed position)
  | schema ref => schema (ref.placed position)

theorem Query.placed_id (query : Query) : query.placed id = query := by
  cases query <;> simp [placed]

section Placed

variable (query : Query)
  (hmembers : (other.chain (query.subject.placed position)).members =
    (tree.chain query.subject).members.map (Ref.placed position))

include hmembers

theorem answer_placed (hplacement : Tree.IsPlacement position tree other)
    (hrange : tree.InRange query.subject) :
    (query.placed position).answer other = query.answer tree := by
  cases query <;> simp only [Query.subject] at hrange hmembers
  case mapping ref => exact congrArg Answer.mapping (mappingAt?_placed hplacement hrange)
  case deprecated ref =>
    exact congrArg Answer.deprecated (isDeprecated_placed hplacement hrange hmembers)
  case schema ref => exact congrArg Answer.schema (schemaAt_placed hplacement hrange hmembers)
  case paths ref | methods ref =>
    simp only [Query.placed, Query.answer, mappingsAround_placed hplacement hrange hmembers,
      required_placed hplacement hrange]
  case consumes ref | produces ref =>
    simp only [Query.placed, Query.answer, mappingsAround_placed hplacement hrange hmembers]

theorem lookedAt_placed :
    (query.placed position).lookedAt other = (query.lookedAt tree).map (Ref.placed position) := by
  cases query with
  | mapping ref | deprecated ref => rfl
  | paths ref | methods ref | consumes ref | produces ref | schema ref =>
      exact outsideIn_placed hmembers

end Placed

theorem lookedAt_subset (query : Query) :
    query.lookedAt tree ⊆ (tree.chain query.subject).members := by
  cases query with
  | mapping ref =>
      intro outer houter
      rw [List.mem_singleton.mp houter]
      exact (tree.chain_isEnclosingChain ref).ref_mem
  | deprecated ref => exact List.nil_subset _
  | paths ref | methods ref | consumes ref | produces ref | schema ref =>
      exact fun outer houter => List.mem_reverse.mp houter

/-- A question has the same answer, and raises the same warnings, in a tree in which the chain
of the declaration is the same. -/
theorem ask_eq_of_members_eq (hplacement : Tree.IsPlacement id tree other) (query : Query)
    (hrange : tree.InRange query.subject)
    (hmembers : (other.chain query.subject).members = (tree.chain query.subject).members) :
    ((query.ask other).run {}).1 = ((query.ask tree).run {}).1 ∧
      ((query.ask other).run {}).2.warnings = ((query.ask tree).run {}).2.warnings := by
  have hplaced : (other.chain (query.subject.placed id)).members =
      (tree.chain query.subject).members.map (Ref.placed id) := by
    simpa using hmembers
  have hanswer := answer_placed query hplaced hplacement hrange
  have hlooked := lookedAt_placed query hplaced
  rw [Query.placed_id] at hanswer hlooked
  constructor
  · rw [ask_run_fst, ask_run_fst, hanswer]
  · rw [(Journal.Reports.empty.ask query).warnings_eq,
      (Journal.Reports.empty.ask query).warnings_eq, List.nil_append, List.nil_append, hlooked,
      Ref.placed_id, List.map_id]
    refine deservedWarnings_eq hplacement fun ref href => ?_
    exact (Tree.endsWithin_chain hrange).inRange ref (lookedAt_subset query href)

/-- Whatever classes are nested in or inherit from, the walks outwards and upwards end, within
bounds that the number of classes sets, at the first declaration that leads to nothing new.
They stay in the tree, as does every handle on a mapped method, on what stands around a
declaration, or on the class of a type. What is asked about a declaration has the same answer
if the class at the end of its chain is nested in nothing, so a circle may be opened there. -/
theorem walks_end_in_tree (tree : Tree) (config : Config) {ref : Ref} (hrange : tree.InRange ref) :
    tree.EndsWithin tree.enclosing? ref (tree.classes.length + 1) (tree.chain ref).members ∧
    (∃ index, (tree.chain ref).members.getLast? = some (.ofClass index) ∧
      ∀ query : Query, query.subject = ref →
        ((query.ask (tree.opened index)).run {}).1 = ((query.ask tree).run {}).1 ∧
        ((query.ask (tree.opened index)).run {}).2.warnings =
          ((query.ask tree).run {}).2.warnings) ∧
    tree.EndsWithin (tree.parent? config) ref tree.classes.length (tree.lineage config ref) ∧
    (∀ method ∈ tree.mappedMethods, tree.InRange method ∧ (tree.methodAt? method).isSome) ∧
    (∀ inner outer, tree.InRange inner → tree.enclosing? inner = some outer →
      tree.InRange outer) ∧
    ∀ type found, tree.findType? type = some found → tree.InRange found := by
  refine ⟨Tree.endsWithin_chain hrange, ?_, Tree.endsWithin_lineage hrange, ?_, ?_, ?_⟩
  · obtain ⟨index, hlast⟩ : ∃ index, (tree.chain ref).members.getLast? = some (.ofClass index) :=
      Tree.exists_getLast?_chain ref
    refine ⟨index, hlast, ?_⟩
    rintro query rfl
    exact ask_eq_of_members_eq Tree.isPlacement_opened query hrange
      (Tree.members_chain_opened hlast)
  · intro method hmethod
    have hmapped := Tree.mem_mappedMethods.mp hmethod
    obtain ⟨declared, hdeclared, -⟩ := id hmapped
    exact ⟨Tree.InRange.of_mem_mappedMethods hmethod, Option.isSome_of_eq_some hdeclared⟩
  · exact fun inner outer hinner houter => Tree.InRange.of_enclosing houter hinner
  · exact fun type found => Tree.InRange.of_findType?

/-- Two classes nested in each other, and in front of them a class nested in the first. -/
def circling : Tree :=
  ⟨[{ name := "Tail", enclosing? := some "A", methods := [{ name := "list" }] },
    { name := "A", enclosing? := some "B" }, { name := "B", enclosing? := some "A" }]⟩

/-- The chain of the method ends at `B`, which leads back to `A` and may as well lead nowhere. -/
theorem walks_end_in_tree_circling :
    circling.InRange (.ofMethod 0 0) ∧
    (circling.chain (.ofMethod 0 0)).members =
      [.ofMethod 0 0, .ofClass 0, .ofClass 1, .ofClass 2] ∧
    circling.enclosing? (.ofClass 2) = some (.ofClass 1) ∧
    ∀ query : Query, query.subject = .ofMethod 0 0 →
      ((query.ask (circling.opened 2)).run {}).1 = ((query.ask circling).run {}).1 := by
  have hrange : circling.InRange (.ofMethod 0 0) := by decide
  have hmembers : (circling.chain (.ofMethod 0 0)).members =
      [.ofMethod 0 0, .ofClass 0, .ofClass 1, .ofClass 2] := by decide
  obtain ⟨-, ⟨index, hlast, hopened⟩, -⟩ := walks_end_in_tree circling {} hrange
  rw [hmembers] at hlast
  cases hlast
  exact ⟨hrange, hmembers, by decide, fun query hsubject => (hopened query hsubject).1⟩

end Resolution

end RouteSurvey
