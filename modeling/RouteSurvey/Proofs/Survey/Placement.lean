import Mathlib.Data.Set.List
import RouteSurvey.Proofs.Resolution.Placement
import RouteSurvey.Proofs.Survey.Outcome

/-! # Routes in another tree

A method has the same route in every tree that its own tree is embedded in, and fails for the
same reason. The routes of several methods are those of the methods one by one, unless one of
them fails.
-/

namespace RouteSurvey

open Declaration (Tree Ref)
open Resolution

variable {tree other : Tree} {config : Config} {position : Nat → Nat}

variable (tree config) in
/-- The route of one method, or why it has none. -/
def routeAt (method : Ref) : Except Failure Route :=
  (schemaAt tree method).map (routeOf tree config method)

/-! ## Methods one by one -/

theorem routeAt_isRouteOf {method : Ref} {route : Route} (hmapped : tree.IsMapped method)
    (hroute : routeAt tree config method = .ok route) : IsRouteOf tree config method route := by
  rw [routeAt] at hroute
  cases hschema : schemaAt tree method with
  | error failure =>
      rw [hschema] at hroute
      contradiction
  | ok schema =>
      rw [hschema] at hroute
      cases hroute
      exact routeOf_isRouteOf hmapped hschema

/-- The routes of the mapped methods of a class carry its name. -/
theorem className_of_routeAt {owner : Declaration.Class} {index : Nat} {method : Ref}
    {route : Route} (howner : tree.classes[index]? = some owner)
    (hmethod : method ∈ owner.mappedMethods index)
    (hroute : routeAt tree config method = .ok route) : route.className = owner.name := by
  have hmapped := Tree.mem_mappedMethods.mp (Tree.mem_mappedMethods_of_class howner hmethod)
  obtain ⟨declaring, hdeclaring, hname⟩ := (routeAt_isRouteOf hmapped hroute).declaring
  rw [Tree.classAt?, Declaration.Class.classIndex_of_mem_mappedMethods hmethod, howner]
    at hdeclaring
  cases hdeclaring
  exact hname

theorem routesAt_cons (method : Ref) (rest : List Ref) :
    routesAt tree config (method :: rest) = (do
      let route ← routeAt tree config method
      let others ← routesAt tree config rest
      return route :: others) := by
  rw [routesAt, routeAt]
  cases schemaAt tree method with
  | error failure => rfl
  | ok schema => cases routesAt tree config rest <;> rfl

theorem routesAt_eq_ok_iff {methods : List Ref} {routes : List Route} :
    routesAt tree config methods = .ok routes ↔
      methods.map (routeAt tree config) = routes.map .ok := by
  induction methods generalizing routes with
  | nil => cases routes <;> simp [routesAt]
  | cons method rest ih =>
      rw [routesAt_cons, List.map_cons]
      cases hroute : routeAt tree config method with
      | error failure => cases routes <;> simp [bind, Except.bind]
      | ok route =>
          cases routes with
          | nil => cases routesAt tree config rest <;> simp [bind, Except.bind, pure, Except.pure]
          | cons first others =>
              rw [List.map_cons, List.cons.injEq, Except.ok.injEq, ← ih]
              cases routesAt tree config rest <;> simp [bind, Except.bind, pure, Except.pure]

theorem exists_method_of_mem_routes {methods : List Ref} {routes : List Route} {route : Route}
    (hroutes : routesAt tree config methods = .ok routes) (hroute : route ∈ routes) :
    ∃ method ∈ methods, routeAt tree config method = .ok route := by
  have hmem : .ok route ∈ routes.map (Except.ok (ε := Failure)) := List.mem_map_of_mem hroute
  rw [← routesAt_eq_ok_iff.mp hroutes] at hmem
  exact List.mem_map.mp hmem

/-- All methods have their routes if each of them has one. -/
theorem exists_routesAt_iff {methods : List Ref} :
    (∃ routes, routesAt tree config methods = .ok routes) ↔
      ∀ outcome ∈ methods.map (routeAt tree config), ∃ route, outcome = .ok route := by
  simp only [routesAt_eq_ok_iff]
  constructor
  · rintro ⟨routes, hroutes⟩ outcome houtcome
    rw [hroutes] at houtcome
    obtain ⟨route, -, rfl⟩ := List.mem_map.mp houtcome
    exact ⟨route, rfl⟩
  · intro hall
    have hlist : methods.map (routeAt tree config) ∈ Set.range (List.map Except.ok) := by
      rw [Set.range_list_map]
      exact fun outcome houtcome => (hall outcome houtcome).imp fun _ => Eq.symm
    exact hlist.imp fun _ => Eq.symm

/-- Methods that fail for the same reasons and have the same routes give the same result. -/
theorem routesAt_placed {methods : List Ref}
    (hsame : ∀ method ∈ methods,
      routeAt other config (method.placed position) = routeAt tree config method) :
    routesAt other config (methods.map (Ref.placed position)) = routesAt tree config methods := by
  induction methods with
  | nil => rfl
  | cons method rest ih =>
      obtain ⟨hmethod, hrest⟩ := List.forall_mem_cons.mp hsame
      rw [List.map_cons, routesAt_cons, routesAt_cons, hmethod, ih hrest]

theorem routesAt_append (first second : List Ref) :
    routesAt tree config (first ++ second) = (do
      let routes ← routesAt tree config first
      let others ← routesAt tree config second
      return routes ++ others) := by
  induction first with
  | nil => cases hsecond : routesAt tree config second <;> simp [routesAt, hsecond] <;> rfl
  | cons method rest ih =>
      rw [List.cons_append, routesAt_cons, routesAt_cons, ih]
      cases routeAt tree config method with
      | error failure => rfl
      | ok route =>
          cases routesAt tree config rest with
          | error failure => rfl
          | ok routes => cases routesAt tree config second <;> rfl

/-! ## One method in two trees -/

section Embedding

variable (hembedding : Tree.IsEmbedding position tree other) {method : Ref}
  (hrange : tree.InRange method)

include hembedding hrange

theorem routeOf_placed (schema : Schema) :
    routeOf other config (method.placed position) schema = routeOf tree config method schema := by
  have hplacement := hembedding.placement
  have hclass : (other.enclosing? (method.placed position)).elim "" other.qualifiedName =
      (tree.enclosing? method).elim "" tree.qualifiedName := by
    rw [hembedding.enclosing method hrange]
    cases houter : tree.enclosing? method with
    | none => rfl
    | some outer => exact hplacement.qualifiedName (Tree.InRange.of_enclosing houter hrange)
  have hinput : ((bodyParameter? (tree.parameters method)).bind fun body =>
      other.payload? config body.type) = (bodyParameter? (tree.parameters method)).bind fun body =>
        tree.payload? config body.type := by
    cases hbody : bodyParameter? (tree.parameters method) with
    | none => rfl
    | some body =>
        have hparameter := List.mem_of_find?_eq_some hbody
        exact hembedding.payload?_eq (Tree.mem_references_of_mem_parameters hparameter)
  have houtput : (tree.returnType? method).bind (other.payload? config) =
      (tree.returnType? method).bind (tree.payload? config) := by
    cases htype : tree.returnType? method with
    | none => rfl
    | some type => exact hembedding.payload?_eq (Tree.mem_references_of_returnType? htype)
  simp only [routeOf, hclass, hplacement.simpleName hrange, hplacement.parameters hrange,
    hplacement.returnType? hrange, hinput, houtput]

theorem routeAt_placed :
    routeAt other config (method.placed position) = routeAt tree config method := by
  rw [routeAt, routeAt, schemaAt_placed hembedding.placement hrange
    (hembedding.members_chain hrange)]
  exact congrArg (fun f => (schemaAt tree method).map f) (funext (routeOf_placed hembedding hrange))

end Embedding

/-- A survey looks at the same declarations, if its methods are the same. -/
theorem flatMap_outsideIn_placed (hembedding : Tree.IsEmbedding position tree other) :
    (tree.mappedMethods.map (Ref.placed position)).flatMap (outsideIn other) =
      (tree.mappedMethods.flatMap (outsideIn tree)).map (Ref.placed position) := by
  rw [List.flatMap_map, List.map_flatMap]
  refine List.flatMap_congr fun method hmethod => ?_
  exact outsideIn_placed (hembedding.members_chain (Tree.InRange.of_mem_mappedMethods hmethod))

theorem inRange_of_mem_flatMap_outsideIn {ref : Ref}
    (hmem : ref ∈ tree.mappedMethods.flatMap (outsideIn tree)) : tree.InRange ref := by
  obtain ⟨method, hmethod, houter⟩ := List.mem_flatMap.mp hmem
  exact (Tree.InRange.of_mem_mappedMethods hmethod).of_mem_chain (List.mem_reverse.mp houter)

end RouteSurvey
