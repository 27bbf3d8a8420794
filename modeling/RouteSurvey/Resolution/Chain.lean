import RouteSurvey.Declaration.Tree

/-! # Enclosing chains

The declarations around a declaration, from the inside outwards. Nesting that comes back
to a declaration met before ends the chain there.
-/

namespace RouteSurvey.Declaration

/-- A declaration followed by those around it, innermost first. -/
structure Chain where
  members : List Ref
  /-- The declaration at which the nesting closed a circle -/
  repeated? : Option Ref := none
deriving DecidableEq, Repr

namespace Tree

/-- Walks outwards from the last declaration of a chain given in reverse. At most `fuel`
steps are made. -/
def chainFrom (tree : Tree) : (fuel : Nat) → (current : Ref) → (earlier : List Ref) → Chain
  | 0, current, earlier => ⟨(current :: earlier).reverse, none⟩
  | fuel + 1, current, earlier =>
    match tree.enclosing? current with
    | none => ⟨(current :: earlier).reverse, none⟩
    | some outer =>
      if outer ∈ current :: earlier then ⟨(current :: earlier).reverse, some outer⟩
      else tree.chainFrom fuel outer (current :: earlier)

/-- The chain of a declaration. Every step after the first arrives at another class, so
the number of classes bounds the walk. -/
def chain (tree : Tree) (ref : Ref) : Chain :=
  tree.chainFrom (tree.classes.length + 1) ref []

end Tree

end RouteSurvey.Declaration
