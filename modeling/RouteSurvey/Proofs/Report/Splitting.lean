import RouteSurvey.Proofs.Registry
import RouteSurvey.Report

/-! # Reports of several passes

Routes may be surveyed in one pass or in two, the later report put behind the earlier one.
Where the two passes have no class in common, the text is the same: then the groups of one
pass stand behind those of the other, and the text of the groups follows their order.
-/

namespace RouteSurvey.Report

theorem lines_append (first second : List RouteGroup) :
    lines ⟨first ++ second⟩ = lines ⟨first⟩ ++ lines ⟨second⟩ :=
  List.flatMap_append

/-- The text of groups one behind the other is that of their texts. -/
theorem render_append (first second : List RouteGroup) :
    render ⟨first ++ second⟩ = render ⟨first⟩ ++ render ⟨second⟩ := by
  rw [render, lines_append, List.map_append, String.join_append]
  rfl

theorem render_ofRoutes_append {first second : List Route}
    (hdisjoint : ∀ route ∈ first, ∀ other ∈ second, route.className ≠ other.className) :
    render (Registry.ofRoutes (first ++ second)) =
      render (Registry.ofRoutes first) ++ render (Registry.ofRoutes second) := by
  rw [← render_append, ← Registry.groups_ofRoutes_append hdisjoint]

/-- Two reports put behind the previous one are put behind it together. -/
theorem merge_append (previous : Option String) (first second : String) :
    merge previous (first ++ second) = merge (some (merge previous first)) second := by
  cases previous with
  | none => rfl
  | some earlier => exact String.append_assoc.symm

/-- A pass over routes of one set of classes and then one over routes of others leave the
same report as one pass over all of them. -/
theorem merge_passes_without_common_class {first second : List Route}
    (hdisjoint : ∀ route ∈ first, ∀ other ∈ second, route.className ≠ other.className)
    (previous : Option String) :
    merge previous (render (Registry.ofRoutes (first ++ second))) =
      merge (some (merge previous (render (Registry.ofRoutes first))))
        (render (Registry.ofRoutes second)) := by
  rw [render_ofRoutes_append hdisjoint, merge_append]

/-- A route of a class with nothing but a path. -/
def plainRoute (className path : String) : Route where
  className := className
  handler := "handler"
  paths := [path]
  methods := [.get]
  consumes := []
  produces := []
  deprecated := false
  params := []
  input? := none
  output? := none

/-- Routes of two classes in turn. -/
def shopRoutes : List Route :=
  [plainRoute "shop::Orders" "/orders", plainRoute "shop::Users" "/users",
    plainRoute "shop::Orders" "/orders/all"]

/-- One route twice. -/
def healthRoutes : List Route :=
  [plainRoute "shop::Health" "/health", plainRoute "shop::Health" "/health"]

theorem merge_passes_without_common_class_shop :
    (∀ route ∈ shopRoutes, ∀ other ∈ healthRoutes, route.className ≠ other.className) ∧
    merge (some "Earlier:\n") (render (Registry.ofRoutes (shopRoutes ++ healthRoutes))) =
      merge (some (merge (some "Earlier:\n") (render (Registry.ofRoutes shopRoutes))))
        (render (Registry.ofRoutes healthRoutes)) :=
  ⟨by decide, merge_passes_without_common_class (by decide) _⟩

/-- With a class in common, the second pass repeats the line of the class. -/
example : merge none (render (Registry.ofRoutes [plainRoute "A" "/a", plainRoute "A" "/b"])) ≠
    merge (some (merge none (render (Registry.ofRoutes [plainRoute "A" "/a"]))))
      (render (Registry.ofRoutes [plainRoute "A" "/b"])) := by
  decide +kernel

end RouteSurvey.Report
