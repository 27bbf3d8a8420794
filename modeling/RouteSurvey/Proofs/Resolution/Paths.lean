import Mathlib.Algebra.BigOperators.Group.List.Basic
import Mathlib.Data.List.FinRange
import RouteSurvey.Proofs.Resolution.Levels

/-! # The paths of nested declarations

The paths of a declaration are all ways to take one path from each level of its chain that
has any, joined from the outside in. They stand in the lexicographic order of the positions
taken, the outermost level weighing most.
-/

namespace RouteSurvey.Resolution

open Declaration (Tree Ref)

/-! ## Choices -/

section Choices

variable {α : Type}

/-- Every way to take one item from each list. The item of an earlier list changes later. -/
def choices : List (List α) → List (List α)
  | [] => [[]]
  | items :: rest => items.flatMap fun item => (choices rest).map (item :: ·)

/-- The items that stand at some positions, one of each list. -/
def picked (lists : List (List α)) (positions : List Nat) : List α :=
  (lists.zip positions).filterMap fun (items, position) => items[position]?

/-- An enumeration of all ways to take a position in each list. The positions in earlier
lists weigh more. -/
structure IsLexicographic (lists : List (List α)) (order : List (List Nat)) : Prop where
  ascending : order.Pairwise (· < ·)
  mem_iff : ∀ positions, positions ∈ order ↔
    List.Forall₂ (fun position items => position < items.length) positions lists

/-- The positions that the choices are made by, in the order of the choices. -/
def choicePositions (lists : List (List α)) : List (List Nat) :=
  choices (lists.map fun items => List.range items.length)

theorem mem_choices {lists : List (List α)} {choice : List α} :
    choice ∈ choices lists ↔ List.Forall₂ (· ∈ ·) choice lists := by
  induction lists generalizing choice with
  | nil => simp [choices]
  | cons items rest ih =>
      simp only [choices, List.mem_flatMap, List.mem_map, ih, List.forall₂_cons_right_iff]
      constructor
      · rintro ⟨item, hitem, tail, htail, rfl⟩
        exact ⟨item, tail, hitem, htail, rfl⟩
      · rintro ⟨item, tail, hitem, htail, rfl⟩
        exact ⟨item, hitem, tail, htail, rfl⟩

theorem exists_list_of_mem_choices {lists : List (List α)} {choice : List α} {item : α}
    (hchoice : choice ∈ choices lists) (hitem : item ∈ choice) : ∃ items ∈ lists, item ∈ items := by
  induction mem_choices.mp hchoice with
  | nil => contradiction
  | cons hfirst hrest ih =>
      rcases List.mem_cons.mp hitem with rfl | hitem
      · exact ⟨_, List.mem_cons_self, hfirst⟩
      · obtain ⟨items, hitems, hmem⟩ := ih (mem_choices.mpr hrest) hitem
        exact ⟨items, List.mem_cons_of_mem _ hitems, hmem⟩

theorem choices_ne_nil {lists : List (List α)} (hne : ∀ items ∈ lists, items ≠ []) :
    choices lists ≠ [] := by
  induction lists with
  | nil => exact List.cons_ne_nil _ _
  | cons items rest ih =>
      obtain ⟨hitems, hrest⟩ := List.forall_mem_cons.mp hne
      obtain ⟨item, hitem⟩ := List.exists_mem_of_ne_nil items hitems
      obtain ⟨choice, hchoice⟩ := List.exists_mem_of_ne_nil _ (ih hrest)
      have hmem : item :: choice ∈ choices (items :: rest) :=
        List.mem_flatMap.mpr ⟨item, hitem, List.mem_map_of_mem hchoice⟩
      exact List.ne_nil_of_mem hmem

theorem length_choices (lists : List (List α)) :
    (choices lists).length = (lists.map List.length).prod := by
  induction lists with
  | nil => rfl
  | cons items rest ih => simp [choices, ih]

theorem choicePositions_isLexicographic (lists : List (List α)) :
    IsLexicographic lists (choicePositions lists) where
  ascending := by
    induction lists with
    | nil => exact List.pairwise_singleton _ _
    | cons items rest ih =>
        rw [choicePositions, List.map_cons, choices, List.pairwise_flatMap]
        constructor
        · intro position _
          rw [List.pairwise_map]
          refine ih.imp fun hlt => ?_
          exact List.cons_lt_cons_iff.mpr (Or.inr ⟨rfl, hlt⟩)
        · refine List.pairwise_lt_range.imp fun hlt => ?_
          intro positions hpositions others hothers
          obtain ⟨_, _, rfl⟩ := List.mem_map.mp hpositions
          obtain ⟨_, _, rfl⟩ := List.mem_map.mp hothers
          exact List.cons_lt_cons_iff.mpr (Or.inl hlt)
  mem_iff := by
    intro positions
    rw [choicePositions, mem_choices, List.forall₂_map_right_iff]
    simp only [List.mem_range]

example : choicePositions [['a', 'b'], ['x', 'y', 'z']] =
    [[0, 0], [0, 1], [0, 2], [1, 0], [1, 1], [1, 2]] := by
  decide

/-- The items of a list, reached by their positions. -/
theorem flatMap_eq_flatMap_range {β : Type} (items : List α) (f : α → List β)
    (g : Nat → List β) (hfg : ∀ position item, items[position]? = some item →
      f item = g position) :
    items.flatMap f = (List.range items.length).flatMap g := by
  calc items.flatMap f = ((List.finRange items.length).map items.get).flatMap f := by
        rw [List.map_get_finRange]
    _ = (List.finRange items.length).flatMap fun position => g position.val := by
        rw [List.flatMap_map]
        apply List.flatMap_congr
        intro position _
        exact hfg position.val _ (List.getElem?_eq_getElem position.isLt)
    _ = (List.range items.length).flatMap g := by
        rw [← List.map_coe_finRange_eq_range, List.flatMap_map]

theorem choices_eq_picked (lists : List (List α)) :
    choices lists = (choicePositions lists).map (picked lists) := by
  induction lists with
  | nil => rfl
  | cons items rest ih =>
      rw [choicePositions, List.map_cons, choices, choices, List.map_flatMap]
      apply flatMap_eq_flatMap_range items _ _
      intro position item hitem
      rw [ih, List.map_map, List.map_map]
      apply List.map_congr_left
      intro positions _
      simp [picked, hitem]

end Choices

/-! ## Joining -/

/-- Fragments joined one after the other; a single one stays as it is. -/
def joinedPath : List String → String
  | [] => ""
  | first :: rest => rest.foldl joinPaths first

/-- The joins of all choices; without a list there is nothing to choose from. -/
def joinedChoices (lists : List (List String)) : Option (List String) :=
  if lists = [] then none else some ((choices lists).map joinedPath)

theorem joinedChoices_eq_some_iff {lists : List (List String)} {paths : List String} :
    joinedChoices lists = some paths ↔ lists ≠ [] ∧ (choices lists).map joinedPath = paths := by
  rw [joinedChoices]
  split
  next hnone => simp [hnone]
  next hlists => simp [hlists]

/-- Every joined path is put together of fragments that the lists offer. -/
theorem exists_fragments_of_joinedChoices {lists : List (List String)} {paths : List String}
    {path : String} (hpaths : joinedChoices lists = some paths) (hpath : path ∈ paths) :
    ∃ fragments, fragments ≠ [] ∧ joinedPath fragments = path ∧
      ∀ fragment ∈ fragments, ∃ offered ∈ lists, fragment ∈ offered := by
  obtain ⟨hlists, rfl⟩ := joinedChoices_eq_some_iff.mp hpaths
  obtain ⟨fragments, hfragments, rfl⟩ := List.mem_map.mp hpath
  refine ⟨fragments, ?_, rfl, fun fragment => exists_list_of_mem_choices hfragments⟩
  rintro rfl
  exact hlists (List.forall₂_nil_left_iff.mp (mem_choices.mp hfragments))

/-- The lists that offer a choice. -/
def nonempty (lists : List (List String)) : List (List String) :=
  lists.filter (· ≠ [])

theorem inheritPaths_nil (parent : Option (List String)) : inheritPaths [] parent = parent := by
  cases parent <;> rfl

theorem inheritPaths_none {own : List String} (hown : own ≠ []) :
    inheritPaths own none = some own := by
  cases own with
  | nil => contradiction
  | cons first rest => rfl

theorem inheritPaths_some {own : List String} (hown : own ≠ []) (parents : List String) :
    inheritPaths own (some parents) =
      some (parents.flatMap fun path => own.map (joinPaths path)) := by
  cases own with
  | nil => contradiction
  | cons first rest => rfl

theorem nonempty_cons_nil (rest : List (List String)) : nonempty ([] :: rest) = nonempty rest :=
  rfl

theorem nonempty_cons {own : List String} (hown : own ≠ []) (rest : List (List String)) :
    nonempty (own :: rest) = own :: nonempty rest :=
  List.filter_cons_of_pos (by simpa using hown)

/-- Below known paths, every choice from the further levels is joined onto each of them. -/
theorem foldl_inheritPaths_some (lists : List (List String)) (parents : List String) :
    lists.foldl (fun parent own => inheritPaths own parent) (some parents) =
      some (parents.flatMap fun path =>
        (choices (nonempty lists)).map fun choice => choice.foldl joinPaths path) := by
  induction lists generalizing parents with
  | nil => simp [nonempty, choices, List.flatMap_singleton']
  | cons own rest ih =>
      rw [List.foldl_cons]
      -- A level without paths is passed over; any other one multiplies the parents.
      by_cases hown : own = []
      · subst hown
        rw [inheritPaths_nil, nonempty_cons_nil, ih]
      · rw [inheritPaths_some hown, nonempty_cons hown, ih, choices, List.flatMap_assoc]
        refine congrArg some (List.flatMap_congr fun path _ => ?_)
        rw [List.map_flatMap, List.flatMap_map]
        apply List.flatMap_congr
        intro fragment _
        rw [List.map_map]
        rfl

theorem foldl_inheritPaths (lists : List (List String)) :
    lists.foldl (fun parent own => inheritPaths own parent) none =
      joinedChoices (nonempty lists) := by
  induction lists with
  | nil => rfl
  | cons own rest ih =>
      rw [List.foldl_cons]
      -- The first level that has paths turns them into parents for all further ones.
      by_cases hown : own = []
      · subst hown
        rw [inheritPaths_nil, nonempty_cons_nil, ih]
      · rw [inheritPaths_none hown, nonempty_cons hown, joinedChoices,
          if_neg (List.cons_ne_nil _ _), choices, foldl_inheritPaths_some, List.map_flatMap]
        refine congrArg some (List.flatMap_congr fun fragment _ => ?_)
        rw [List.map_map]
        rfl

example : joinedChoices [["/api/"], ["users", "/items"]] = some ["/api/users", "/api/items"] := by
  decide

/-! ## Paths of a declaration -/

/-- The path lists of some declarations from the inside out, in the order of joining: the
outermost comes first, and declarations without paths are left out. -/
def pathLists (tree : Tree) (members : List Ref) : List (List String) :=
  nonempty (members.reverse.map (ownAt tree Mapping.paths))

variable {tree : Tree}

variable (tree) in
theorem foldPaths_mappingsAround (ref : Ref) :
    foldPaths (mappingsAround tree ref) =
      joinedChoices (pathLists tree (tree.chain ref).members) := by
  rw [pathLists, ← foldl_inheritPaths, List.foldl_map, foldPaths, mappingsAround, List.foldl_map]
  rfl

theorem resolvePaths_eq_ok_iff {ref : Ref} {journal : Journal} {paths : List String} :
    ((resolvePaths tree ref).run journal).1 = .ok paths ↔
      joinedChoices (pathLists tree (tree.chain ref).members) = some paths := by
  rw [resolvePaths_run, foldPaths_mappingsAround, required_eq_ok_iff]

theorem mem_pathLists {ref : Ref} {paths : List String} :
    paths ∈ pathLists tree (tree.chain ref).members ↔
      paths ≠ [] ∧ ∃ outer, tree.Surrounds ref outer ∧ ownAt tree Mapping.paths outer = paths := by
  simp only [pathLists, nonempty, List.mem_filter, List.mem_map, decide_eq_true_eq, ← mem_outsideIn]
  exact and_comm

theorem pathLists_cons {ref : Ref} (rest : List Ref) (hnone : ownAt tree Mapping.paths ref = []) :
    pathLists tree (ref :: rest) = pathLists tree rest := by
  simp [pathLists, nonempty, hnone]

theorem pathLists_concat {ref : Ref} (rest : List Ref)
    (hnone : ownAt tree Mapping.paths ref = []) :
    pathLists tree (rest ++ [ref]) = pathLists tree rest := by
  simp [pathLists, nonempty, hnone]

/-- A declaration without paths of its own takes over those of the declaration around it,
also where the nesting is circular. -/
theorem pathLists_chain_of_enclosing {ref outer : Ref} (houter : tree.enclosing? ref = some outer)
    (hnone : ownAt tree Mapping.paths ref = []) :
    pathLists tree (tree.chain ref).members = pathLists tree (tree.chain outer).members := by
  obtain ⟨rest, hmembers, hrest | hrest⟩ := (tree.chain_isEnclosingChain ref).of_enclosing houter
  · rw [hmembers, pathLists_cons rest hnone, hrest.unique (tree.chain_isEnclosingChain outer)]
  · rw [hmembers, pathLists_cons rest hnone, ← pathLists_concat rest hnone,
      hrest.unique (tree.chain_isEnclosingChain outer)]

variable (tree) in
/-- The paths of a declaration are the choices from the path lists along its chain, in
lexicographic order and joined from the outside in. It lacks paths if there is no list. -/
theorem resolvePaths_joins_choices (ref : Ref) (journal : Journal) :
    ∃ members order, tree.IsEnclosingChain ref members ∧
      IsLexicographic (pathLists tree members) order ∧
      order.length = ((pathLists tree members).map List.length).prod ∧
      ((resolvePaths tree ref).run journal).1 =
        (if pathLists tree members = [] then .error ⟨tree.qualifiedName ref, .path⟩
        else .ok (order.map fun positions =>
          joinedPath (picked (pathLists tree members) positions))) ∧
      ∀ outer, tree.enclosing? ref = some outer → ownAt tree Mapping.paths ref = [] →
        ((resolvePaths tree ref).run journal).1.toOption =
          ((resolvePaths tree outer).run journal).1.toOption := by
  have hlists := foldPaths_mappingsAround tree ref
  refine ⟨(tree.chain ref).members, choicePositions (pathLists tree (tree.chain ref).members),
    tree.chain_isEnclosingChain ref, choicePositions_isLexicographic _, ?_, ?_, ?_⟩
  · rw [← length_choices, choices_eq_picked, List.length_map]
  · rw [resolvePaths_run, hlists, joinedChoices, choices_eq_picked, List.map_map]
    split
    next => rfl
    next => rfl
  · intro outer houter hnone
    rw [resolvePaths_run, resolvePaths_run, hlists, foldPaths_mappingsAround,
      pathLists_chain_of_enclosing houter hnone]
    cases joinedChoices (pathLists tree (tree.chain outer).members) <;> rfl

end RouteSurvey.Resolution
