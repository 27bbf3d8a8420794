import Mathlib.Data.List.Lex
import RouteSurvey.Source.Marking

/-! # Leaves of expressions

Lists and parentheses make an expression a tree, in which each part has an address: the
positions that lead to it, from the outermost to the innermost. The strings that an expression
holds are those of its leaves, in the order of their addresses.
-/

namespace RouteSurvey.Source.Expr

/-! ## Addresses -/

/-- The expressions that a list or parentheses hold. -/
def parts : Expr → List Expr
  | .array items => items
  | .paren inner => [inner]
  | _ => []

/-- The string of an expression that is a leaf: a text, a whole number, a truth value, or the
last name of a path. -/
def leaf? : Expr → Option String
  | .literal (.text value) => some value
  | .literal (.integer digits _) => some digits
  | .literal (.flag value) => some (if value then "true" else "false")
  | .path segments => segments.getLast?.map Ident.text
  | _ => none

/-- The expression at an address. -/
def at? (expr : Expr) : List Nat → Option Expr
  | [] => some expr
  | position :: rest => expr.parts[position]?.bind fun part => part.at? rest

/-- A leaf with the string stands at the address. -/
def HasLeafAt (expr : Expr) (address : List Nat) (leaf : String) : Prop :=
  ∃ found, expr.at? address = some found ∧ found.leaf? = some leaf

/-- The strings are those of all leaves, in the order of their addresses. -/
def HasLeaves (expr : Expr) (strings : List String) : Prop :=
  ∃ placed : List (List Nat × String), placed.Pairwise (·.1 < ·.1) ∧
    (∀ address leaf, (address, leaf) ∈ placed ↔ expr.HasLeafAt address leaf) ∧
    strings = placed.map Prod.snd

/-! ## Listing the leaves -/

/-- A leaf of the part at a position, placed in the whole. -/
def inPart (position : Nat) (placed : List Nat × String) : List Nat × String :=
  (position :: placed.1, placed.2)

mutual

/-- The leaves of an expression with their addresses, in order. -/
def placedLeaves : Expr → List (List Nat × String)
  | .array items => placedLeavesFrom 0 items
  | .paren inner => inner.placedLeaves.map (inPart 0)
  | expr => expr.leaf?.toList.map fun leaf => ([], leaf)

/-- The leaves of neighbouring expressions, the first of which has the given position. -/
def placedLeavesFrom (position : Nat) : List Expr → List (List Nat × String)
  | [] => []
  | expr :: rest =>
    expr.placedLeaves.map (inPart position) ++ placedLeavesFrom (position + 1) rest

end

mutual

theorem map_placedLeaves (expr : Expr) : expr.placedLeaves.map Prod.snd = expr.leaves := by
  cases expr with
  | literal value => cases value <;> rfl
  | path segments =>
      rw [leaves, placedLeaves, leaf?]
      · cases segments.getLast? <;> rfl
      all_goals nofun
  | array items => exact map_placedLeavesFrom 0 items
  | paren inner =>
      rw [placedLeaves, List.map_map]
      exact map_placedLeaves inner
  | other => rfl

theorem map_placedLeavesFrom (position : Nat) (items : List Expr) :
    (placedLeavesFrom position items).map Prod.snd = leavesOfAll items := by
  cases items with
  | nil => rfl
  | cons item rest =>
      rw [placedLeavesFrom, List.map_append, List.map_map, map_placedLeavesFrom]
      exact congrArg (· ++ _) (map_placedLeaves item)

end

variable {position : Nat}

theorem hasLeafAt_nil {expr : Expr} {leaf : String} :
    expr.HasLeafAt [] leaf ↔ expr.leaf? = some leaf := by
  simp [HasLeafAt, at?]

theorem hasLeafAt_cons {expr : Expr} {address : List Nat} {leaf : String} :
    expr.HasLeafAt (position :: address) leaf ↔
      ∃ part, expr.parts[position]? = some part ∧ part.HasLeafAt address leaf := by
  simp only [HasLeafAt, at?, Option.bind_eq_some_iff]
  grind

theorem mem_placedLeaves_of_parts {expr : Expr} {address : List Nat} {leaf : String}
    (hparts : expr.parts = [])
    (hplaced : expr.placedLeaves = expr.leaf?.toList.map fun leaf => ([], leaf)) :
    (address, leaf) ∈ expr.placedLeaves ↔ expr.HasLeafAt address leaf := by
  rw [hplaced]
  cases address with
  | nil => simp [hasLeafAt_nil]
  | cons position rest => simp [hasLeafAt_cons, hparts]

theorem mem_map_inPart {address : List Nat} {leaf : String} {placed : List (List Nat × String)} :
    (address, leaf) ∈ placed.map (inPart position) ↔
      ∃ rest, address = position :: rest ∧ (rest, leaf) ∈ placed := by
  simp only [List.mem_map, inPart, Prod.mk.injEq, Prod.exists]
  grind

mutual

theorem mem_placedLeaves (expr : Expr) (address : List Nat) (leaf : String) :
    (address, leaf) ∈ expr.placedLeaves ↔ expr.HasLeafAt address leaf := by
  cases expr with
  | literal value => exact mem_placedLeaves_of_parts rfl rfl
  | path segments => exact mem_placedLeaves_of_parts rfl rfl
  | array items =>
      rw [placedLeaves, mem_placedLeavesFrom]
      cases address with
      | nil => simp [hasLeafAt_nil, leaf?]
      | cons position rest =>
          simp only [hasLeafAt_cons, parts, Nat.zero_add, List.cons_eq_cons]
          grind
  | paren inner =>
      rw [placedLeaves, mem_map_inPart]
      simp only [mem_placedLeaves inner]
      cases address with
      | nil => simp [hasLeafAt_nil, leaf?]
      | cons position rest =>
          simp only [hasLeafAt_cons, parts, List.getElem?_singleton, List.cons_eq_cons]
          grind
  | other => exact mem_placedLeaves_of_parts rfl rfl

theorem mem_placedLeavesFrom (start : Nat) (items : List Expr) (address : List Nat)
    (leaf : String) : (address, leaf) ∈ placedLeavesFrom start items ↔
      ∃ position rest item, address = (start + position) :: rest ∧ items[position]? = some item ∧
        item.HasLeafAt rest leaf := by
  cases items with
  | nil => simp [placedLeavesFrom]
  | cons item items =>
      rw [placedLeavesFrom, List.mem_append, mem_map_inPart, mem_placedLeavesFrom]
      simp only [mem_placedLeaves item]
      constructor
      · rintro (⟨rest, rfl, hleaf⟩ | ⟨position, rest, found, rfl, hfound, hleaf⟩)
        · exact ⟨0, rest, item, rfl, rfl, hleaf⟩
        · exact ⟨position + 1, rest, found, by rw [Nat.add_assoc, Nat.add_comm 1], hfound, hleaf⟩
      · rintro ⟨position, rest, found, rfl, hfound, hleaf⟩
        cases position with
        | zero =>
            cases hfound
            exact Or.inl ⟨rest, rfl, hleaf⟩
        | succ position =>
            refine Or.inr ⟨position, rest, found, ?_, hfound, hleaf⟩
            rw [Nat.add_assoc, Nat.add_comm 1]

end

theorem pairwise_map_inPart {placed : List (List Nat × String)}
    (hplaced : placed.Pairwise (·.1 < ·.1)) :
    (placed.map (inPart position)).Pairwise (·.1 < ·.1) := by
  refine List.pairwise_map.mpr (hplaced.imp fun hlt => ?_)
  exact List.cons_lt_cons_iff.mpr (Or.inr ⟨rfl, hlt⟩)

mutual

theorem pairwise_placedLeaves (expr : Expr) : expr.placedLeaves.Pairwise (·.1 < ·.1) := by
  have hsingle (leaf? : Option String) :
      (leaf?.toList.map fun leaf => (([] : List Nat), leaf)).Pairwise (·.1 < ·.1) := by
    cases leaf? <;> simp
  cases expr with
  | literal value => exact hsingle _
  | path segments => exact hsingle _
  | array items => exact pairwise_placedLeavesFrom 0 items
  | paren inner =>
      rw [placedLeaves]
      exact pairwise_map_inPart (pairwise_placedLeaves inner)
  | other => exact hsingle _

theorem pairwise_placedLeavesFrom (start : Nat) (items : List Expr) :
    (placedLeavesFrom start items).Pairwise (·.1 < ·.1) := by
  cases items with
  | nil => exact List.Pairwise.nil
  | cons item items =>
      rw [placedLeavesFrom, List.pairwise_append]
      refine ⟨pairwise_map_inPart (pairwise_placedLeaves item),
        pairwise_placedLeavesFrom (start + 1) items, ?_⟩
      -- The addresses in later items begin with greater positions.
      rintro ⟨address, leaf⟩ hfirst ⟨other, leaf'⟩ hlater
      obtain ⟨rest, rfl, -⟩ := mem_map_inPart.mp hfirst
      obtain ⟨position, rest', -, rfl, -⟩ := (mem_placedLeavesFrom _ _ _ _).mp hlater
      exact List.cons_lt_cons_iff.mpr (Or.inl (by omega))

end

/-! ## What the leaves determine -/

/-- There is only one way to list all leaves in order. -/
theorem HasLeaves.unique {expr : Expr} {strings others : List String}
    (hstrings : expr.HasLeaves strings) (hothers : expr.HasLeaves others) : strings = others := by
  obtain ⟨placed, hplaced, hmem, rfl⟩ := hstrings
  obtain ⟨placed', hplaced', hmem', rfl⟩ := hothers
  have hnodup {list : List (List Nat × String)} (hlist : list.Pairwise (·.1 < ·.1)) :
      list.Nodup := by
    rw [List.Nodup]
    refine hlist.imp fun {first second} hlt heq => ?_
    rw [heq] at hlt
    exact List.lt_irrefl _ hlt
  have hperm : placed.Perm placed' := by
    refine (List.perm_ext_iff_of_nodup (hnodup hplaced) (hnodup hplaced')).mpr ?_
    rintro ⟨address, leaf⟩
    rw [hmem, hmem']
  refine congrArg _ (hperm.eq_of_pairwise ?_ hplaced hplaced')
  intro first second _ _ hlt hgt
  exact absurd hgt (List.lt_asymm hlt)

/-- Flattening an expression gives the strings of all its leaves in order. -/
theorem leaves_eq_iff {expr : Expr} {strings : List String} :
    expr.leaves = strings ↔ expr.HasLeaves strings := by
  have hleaves : expr.HasLeaves expr.leaves :=
    ⟨expr.placedLeaves, pairwise_placedLeaves expr, mem_placedLeaves expr,
      (map_placedLeaves expr).symm⟩
  constructor
  · rintro rfl
    exact hleaves
  · exact hleaves.unique

end RouteSurvey.Source.Expr
