import RouteSurvey.Proofs.Resolution.Paths
import RouteSurvey.Proofs.Text.Trimming

/-! # The order of joining

Joining paths is associative, whatever slashes there are at the seams and also where a path
consists of nothing else. So the path of nested declarations can be put together in any
order that keeps the declarations where they are.
-/

namespace RouteSurvey.Resolution

open Declaration (Tree Ref)
open Text (dropTrailing)

/-! ## Two seams -/

/-- A join without its last slashes. Of a fragment of slashes only, nothing remains. -/
theorem dropTrailing_joinChars (parent fragment : List Char) :
    dropTrailing (· == '/') (joinChars parent fragment) =
      if dropTrailing (· == '/') (fragment.dropWhile (· == '/')) = [] then
        dropTrailing (· == '/') parent
      else dropTrailing (· == '/') parent ++
        '/' :: dropTrailing (· == '/') (fragment.dropWhile (· == '/')) := by
  rw [joinChars, Text.dropTrailing_append, Text.dropTrailing_cons, Text.dropTrailing_dropTrailing]
  by_cases hslashes : dropTrailing (· == '/') (fragment.dropWhile (· == '/')) = [] <;>
    simp [hslashes]

/-- A join without its first slashes. Of a parent of slashes only, nothing remains. -/
theorem dropWhile_joinChars (parent fragment : List Char) :
    (joinChars parent fragment).dropWhile (· == '/') =
      if dropTrailing (· == '/') (parent.dropWhile (· == '/')) = [] then
        fragment.dropWhile (· == '/')
      else dropTrailing (· == '/') (parent.dropWhile (· == '/')) ++
        '/' :: fragment.dropWhile (· == '/') := by
  rw [joinChars, List.dropWhile_append, Text.dropWhile_dropTrailing]
  by_cases hslashes : dropTrailing (· == '/') (parent.dropWhile (· == '/')) = [] <;>
    simp [hslashes, List.dropWhile_idempotent]

theorem joinChars_assoc (first second third : List Char) :
    joinChars (joinChars first second) third = joinChars first (joinChars second third) := by
  change dropTrailing (· == '/') (joinChars first second) ++ '/' :: third.dropWhile (· == '/') =
    dropTrailing (· == '/') first ++ '/' :: (joinChars second third).dropWhile (· == '/')
  rw [dropTrailing_joinChars, dropWhile_joinChars]
  -- A middle path of slashes only leaves one seam between the other two.
  split
  · rfl
  · rw [List.append_assoc, List.cons_append]

theorem joinPaths_assoc (first second third : String) :
    joinPaths (joinPaths first second) third = joinPaths first (joinPaths second third) := by
  simp only [joinPaths, String.toList_ofList, joinChars_assoc]

instance : Std.Associative joinPaths :=
  ⟨joinPaths_assoc⟩

example : joinPaths (joinPaths "/api/" "//") "/users" = "/api/users" := by decide

example : joinPaths "/api/" (joinPaths "//" "/users") = "/api/users" := by decide

/-! ## Any number of seams -/

theorem joinedPath_append {outer inner : List String} (houter : outer ≠ []) (hinner : inner ≠ []) :
    joinedPath (outer ++ inner) = joinPaths (joinedPath outer) (joinedPath inner) := by
  obtain ⟨first, more, rfl⟩ := List.exists_cons_of_ne_nil houter
  obtain ⟨next, rest, rfl⟩ := List.exists_cons_of_ne_nil hinner
  simp only [List.cons_append, joinedPath, List.foldl_append, List.foldl_cons]
  exact List.foldl_assoc

/-- An order in which fragments are joined: each join is of what two groups of neighbouring
fragments amount to. -/
inductive Grouping where
  | single (fragment : String)
  | join (outer inner : Grouping)

namespace Grouping

/-- The grouped fragments, from the outside in. -/
def fragments : Grouping → List String
  | single fragment => [fragment]
  | join outer inner => outer.fragments ++ inner.fragments

/-- What the joins in this order amount to. -/
def path : Grouping → String
  | single fragment => fragment
  | join outer inner => joinPaths outer.path inner.path

theorem fragments_ne_nil (grouping : Grouping) : grouping.fragments ≠ [] := by
  induction grouping with
  | single fragment => exact List.cons_ne_nil fragment []
  | join outer inner houter hinner => exact List.append_ne_nil_of_left_ne_nil houter _

theorem path_eq_joinedPath (grouping : Grouping) :
    grouping.path = joinedPath grouping.fragments := by
  induction grouping with
  | single fragment => rfl
  | join outer inner houter hinner =>
      rw [path, fragments, joinedPath_append outer.fragments_ne_nil inner.fragments_ne_nil, houter,
        hinner]

end Grouping

/-- Joining is associative. Every path of a declaration is what its fragments amount to in
whatever order they are joined. -/
theorem joinPaths_associative :
    (∀ first second third : String,
      joinPaths (joinPaths first second) third = joinPaths first (joinPaths second third)) ∧
    ∀ (tree : Tree) (ref : Ref) (journal : Journal) (members : List Ref),
      tree.IsEnclosingChain ref members → pathLists tree members ≠ [] →
        ∃ paths, ((resolvePaths tree ref).run journal).1 = .ok paths ∧
          List.Forall₂ (fun fragments path =>
            ∀ grouping : Grouping, grouping.fragments = fragments → grouping.path = path)
            (choices (pathLists tree members)) paths := by
  refine ⟨joinPaths_assoc, ?_⟩
  intro tree ref journal members hmembers hlists
  refine ⟨(choices (pathLists tree members)).map joinedPath, ?_, ?_⟩
  · rw [resolvePaths_eq_ok_iff, (tree.chain_isEnclosingChain ref).unique hmembers]
    exact joinedChoices_eq_some_iff.mpr ⟨hlists, rfl⟩
  · rw [List.forall₂_map_right_iff, List.forall₂_same]
    rintro fragments - grouping rfl
    exact grouping.path_eq_joinedPath

/-- A marker that declares a path. -/
def pathMarker (kind path : String) : Marker :=
  ⟨kind, .ofList [("path", .text path)]⟩

/-- Two classes around a method, the inner of which has a path of slashes only. -/
def nestedUsers : Tree :=
  ⟨[{ name := "Api", markers := [pathMarker "request_mapping" "/api/"] },
    { name := "Users", enclosing? := some "Api", markers := [pathMarker "request_mapping" "/"],
      methods := [{ name := "all", markers := [pathMarker "get_mapping" "/users"] }] }]⟩

theorem joinPaths_associative_users :
    pathLists nestedUsers [.ofMethod 1 0, .ofClass 1, .ofClass 0] = [["/api/"], ["/"], ["/users"]] ∧
    ∃ path, ((resolvePaths nestedUsers (.ofMethod 1 0)).run default).1 = .ok [path] ∧
      (Grouping.join (.join (.single "/api/") (.single "/")) (.single "/users")).path = path ∧
      (Grouping.join (.single "/api/") (.join (.single "/") (.single "/users"))).path = path := by
  have hlists : pathLists nestedUsers [.ofMethod 1 0, .ofClass 1, .ofClass 0] =
      [["/api/"], ["/"], ["/users"]] := by decide
  refine ⟨hlists, ?_⟩
  have hchain : nestedUsers.IsEnclosingChain (.ofMethod 1 0)
      [.ofMethod 1 0, .ofClass 1, .ofClass 0] :=
    nestedUsers.chain_isEnclosingChain (.ofMethod 1 0)
  have hne : pathLists nestedUsers [.ofMethod 1 0, .ofClass 1, .ofClass 0] ≠ [] := by
    rw [hlists]
    exact List.cons_ne_nil _ _
  obtain ⟨paths, hpaths, hgroupings⟩ :=
    joinPaths_associative.2 nestedUsers (.ofMethod 1 0) default _ hchain hne
  rw [hlists] at hgroupings
  obtain ⟨path, rest, hpath, hrest, rfl⟩ := List.forall₂_cons_left_iff.mp hgroupings
  cases hrest
  exact ⟨path, hpaths, hpath _ rfl, hpath _ rfl⟩

end RouteSurvey.Resolution
