import RouteSurvey.Declaration.Inheritance
import RouteSurvey.Proofs.Declaration.Enclosing
import RouteSurvey.Proofs.Walk

/-! # Superclasses

The lineage of a class goes from superclass to superclass, repeats nothing, and ends where no
further superclass is known. Its bound on the number of steps is never felt, since each step
reaches another class of the tree.
-/

namespace RouteSurvey.Declaration.Tree

variable {tree : Tree} {config : Config}

theorem findType?_eq_some {type : TypeRef} {found : Ref}
    (hfound : tree.findType? type = some found) :
    ∃ index, index < tree.classes.length ∧ found = .ofClass index := by
  obtain ⟨index, hindex, rfl⟩ := Option.map_eq_some_iff.mp hfound
  refine ⟨index, ?_, rfl⟩
  rw [Option.orElse_eq_orElse, Option.orElse_eq_or, Option.or_eq_some_iff] at hindex
  rcases hindex with hexact | ⟨-, hloose⟩
  · exact (List.findIdx?_eq_some_iff_getElem.mp hexact).1
  · exact (List.findIdx?_eq_some_iff_getElem.mp hloose).1

/-- A class with a parent is one of the tree, and so is the parent. -/
theorem parent?_eq_some {near far : Ref} (hparent : tree.parent? config near = some far) :
    (∃ index, index < tree.classes.length ∧ near = .ofClass index) ∧
      ∃ index, index < tree.classes.length ∧ far = .ofClass index := by
  obtain ⟨superclass, hsuperclass, hfound⟩ := Option.bind_eq_some_iff.mp hparent
  constructor
  · cases near with
    | ofMethod index position => contradiction
    | ofClass index =>
        obtain ⟨owner, howner, -⟩ := Option.bind_eq_some_iff.mp hsuperclass
        exact ⟨index, (List.getElem?_eq_some_iff.mp howner).1, rfl⟩
  · split at hfound
    · contradiction
    · exact findType?_eq_some hfound

variable (tree config) in
/-- What holds at every step of the walk up from `ref`, which has come to `current` and has
`seen` behind it, the declaration met first being the last. -/
structure Ascent (ref : Ref) (fuel : Nat) (current : Ref) (seen : List Ref) : Prop where
  starts : (current :: seen).getLast? = some ref
  linked : (current :: seen).IsChain fun far near => tree.parent? config near = some far
  nodup : seen.Nodup
  room : tree.classes.length < fuel + (tree.classPositions seen).card

namespace Ascent

variable {ref current : Ref} {fuel : Nat} {seen : List Ref}

theorem start (tree : Tree) (config : Config) (ref : Ref) :
    Ascent tree config ref (tree.classes.length + 1) ref [] where
  starts := rfl
  linked := List.isChain_singleton ref
  nodup := List.nodup_nil
  room := by omega

/-- The walk ends before a declaration that it has met. -/
theorem stop_before (hascent : Ascent tree config ref fuel current seen) (hmet : current ∈ seen) :
    IsWalk (tree.parent? config) ref seen.reverse := by
  cases seen with
  | nil => contradiction
  | cons last seen =>
      obtain ⟨hparent, hlinked⟩ := List.isChain_cons_cons.mp hascent.linked
      refine ⟨?_, List.isChain_reverse.mpr hlinked, List.nodup_reverse.mpr hascent.nodup, ?_⟩
      · rw [List.head?_reverse, ← hascent.starts, List.getLast?_cons_cons]
      · intro last' hlast far hfar
        rw [List.getLast?_reverse, List.head?_cons] at hlast
        cases hlast
        cases hparent.symm.trans hfar
        exact List.mem_reverse.mpr hmet

/-- The walk ends at a declaration without a parent. -/
theorem stop_at (hascent : Ascent tree config ref fuel current seen) (hnew : current ∉ seen)
    (hnone : tree.parent? config current = none) :
    IsWalk (tree.parent? config) ref (seen.reverse ++ [current]) := by
  rw [← List.reverse_cons]
  refine ⟨?_, List.isChain_reverse.mpr hascent.linked,
    List.nodup_reverse.mpr (List.nodup_cons.mpr ⟨hnew, hascent.nodup⟩), ?_⟩
  · rw [List.head?_reverse, hascent.starts]
  · intro last hlast far hfar
    rw [List.getLast?_reverse, List.head?_cons] at hlast
    cases hlast
    rw [hnone] at hfar
    contradiction

/-- A step to the parent keeps the invariant. -/
theorem step {parent : Ref} (hascent : Ascent tree config ref (fuel + 1) current seen)
    (hnew : current ∉ seen) (hparent : tree.parent? config current = some parent) :
    Ascent tree config ref fuel parent (current :: seen) where
  starts := by rw [List.getLast?_cons_cons, hascent.starts]
  linked := List.isChain_cons_cons.mpr ⟨hparent, hascent.linked⟩
  nodup := List.nodup_cons.mpr ⟨hnew, hascent.nodup⟩
  room := by
    have hroom := hascent.room
    obtain ⟨⟨index, hrange, rfl⟩, -⟩ := parent?_eq_some hparent
    rw [card_classPositions_cons hrange hnew]
    omega

theorem fuel_ne_zero (hascent : Ascent tree config ref fuel current seen) : fuel ≠ 0 := by
  have hroom := hascent.room
  have hcard := card_classPositions_le tree seen
  omega

/-- What has been walked and what is still to come make up the whole walk. -/
theorem isWalk (hascent : Ascent tree config ref fuel current seen) :
    IsWalk (tree.parent? config) ref
      (seen.reverse ++ tree.lineageFrom config seen fuel current) := by
  induction fuel generalizing current seen with
  | zero => exact absurd rfl hascent.fuel_ne_zero
  | succ fuel ih =>
      unfold lineageFrom
      by_cases hmet : current ∈ seen
      · rw [if_pos hmet, List.append_nil]
        exact hascent.stop_before hmet
      · rw [if_neg hmet]
        cases hparent : tree.parent? config current with
        | none => exact hascent.stop_at hmet hparent
        | some parent =>
            have hrest := ih (hascent.step hmet hparent)
            rw [List.reverse_cons, List.append_assoc] at hrest
            exact hrest

end Ascent

variable (tree config) in
/-- The lineage of a class is the walk from superclass to superclass. -/
theorem lineage_isWalk (ref : Ref) :
    IsWalk (tree.parent? config) ref (tree.lineage config ref) :=
  (Ascent.start tree config ref).isWalk

end RouteSurvey.Declaration.Tree
