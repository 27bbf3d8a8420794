import RouteSurvey.Proofs.Declaration.Placement
import RouteSurvey.Proofs.Resolution.Warnings

/-! # Resolution in another tree

What is resolved for a declaration depends on the declarations of its chain and on nothing
else in the tree. Where the chain consists of the same declarations in another tree, the
attributes and the warnings are the same there.
-/

namespace RouteSurvey.Resolution

open Declaration (Tree Ref)

variable {tree other : Tree} {position : Nat → Nat} {ref : Ref}

/-! ## Single declarations -/

section Declarations

variable (hplacement : Tree.IsPlacement position tree other) (hrange : tree.InRange ref)

include hplacement hrange

theorem normalized_placed :
    normalized other (ref.placed position) = normalized tree ref := by
  rw [normalized, hplacement.markers hrange]
  rfl

theorem mappingAt?_placed :
    mappingAt? other (ref.placed position) = mappingAt? tree ref := by
  rw [mappingAt?, normalized_placed hplacement hrange]
  rfl

theorem ambiguity?_placed :
    ambiguity? other (ref.placed position) = ambiguity? tree ref := by
  rw [ambiguity?, ambiguity?, normalized_placed hplacement hrange,
    hplacement.qualifiedName hrange]

theorem required_placed {α : Type} (missing : Attribute) (value : Option α) :
    required other (ref.placed position) missing value = required tree ref missing value := by
  rw [required, hplacement.qualifiedName hrange]
  rfl

end Declarations

/-! ## Chains -/

section Chains

variable (hplacement : Tree.IsPlacement position tree other) (hrange : tree.InRange ref)
  (hmembers : (other.chain (ref.placed position)).members =
    (tree.chain ref).members.map (Ref.placed position))

include hmembers

theorem outsideIn_placed :
    outsideIn other (ref.placed position) = (outsideIn tree ref).map (Ref.placed position) := by
  rw [outsideIn, hmembers, ← List.map_reverse]
  rfl

theorem enclosing?_placed :
    other.enclosing? (ref.placed position) = (tree.enclosing? ref).map (Ref.placed position) := by
  rw [← (other.chain_isEnclosingChain _).head?_tail, hmembers, ← List.map_tail, List.head?_map,
    (tree.chain_isEnclosingChain ref).head?_tail]

include hplacement hrange

theorem mappingsAround_placed :
    mappingsAround other (ref.placed position) = mappingsAround tree ref := by
  rw [mappingsAround, outsideIn_placed hmembers, List.map_map]
  refine List.map_congr_left fun outer houter => mappingAt?_placed hplacement ?_
  exact hrange.of_mem_chain (List.mem_reverse.mp houter)

theorem isDeprecated_placed :
    isDeprecated other (ref.placed position) = isDeprecated tree ref := by
  rw [isDeprecated, isDeprecated, enclosing?_placed hmembers, hplacement.isDeprecated hrange]
  cases houter : tree.enclosing? ref with
  | none => rfl
  | some outer => simp [hplacement.isDeprecated (Tree.InRange.of_enclosing houter hrange)]

theorem schemaAt_placed : schemaAt other (ref.placed position) = schemaAt tree ref := by
  simp only [schemaAt, mappingsAround_placed hplacement hrange hmembers,
    isDeprecated_placed hplacement hrange hmembers, required_placed hplacement hrange]

end Chains

/-! ## Warnings -/

/-- The same declarations deserve the same warnings, in whatever order they are looked at. -/
theorem deservedWarnings_perm {lookedAt lookedAt' : List Ref}
    (hplacement : Tree.IsPlacement position tree other)
    (hrange : ∀ ref ∈ lookedAt, tree.InRange ref)
    (hinj : ∀ first second, tree.InRange first → tree.InRange second →
      first.placed position = second.placed position → first = second)
    (hmem : ∀ ref, ref ∈ lookedAt' ↔ ref ∈ lookedAt.map (Ref.placed position)) :
    (deservedWarnings other lookedAt').Perm (deservedWarnings tree lookedAt) := by
  have hsame : ∀ ref ∈ lookedAt,
      ambiguity? other (ref.placed position) = ambiguity? tree ref :=
    fun ref href => ambiguity?_placed hplacement (hrange ref href)
  have hlooked : ∀ ref ∈ ambiguousAmong tree lookedAt, ref ∈ lookedAt := fun ref href =>
    List.mem_of_mem_filter (List.mem_eraseDups.mp href)
  have hamong : (ambiguousAmong other lookedAt').Perm
      ((ambiguousAmong tree lookedAt).map (Ref.placed position)) := by
    refine (List.perm_ext_iff_of_nodup (nodup_eraseDups _) ?_).mpr fun ref => ?_
    · refine (nodup_eraseDups _).map_on fun first hfirst second hsecond => ?_
      exact hinj _ _ (hrange _ (hlooked first hfirst)) (hrange _ (hlooked second hsecond))
    · simp only [ambiguousAmong, List.mem_eraseDups, List.mem_filter, hmem, List.mem_map]
      constructor
      · rintro ⟨⟨ref, href, rfl⟩, hambiguous⟩
        exact ⟨ref, ⟨href, hsame ref href ▸ hambiguous⟩, rfl⟩
      · rintro ⟨ref, ⟨href, hambiguous⟩, rfl⟩
        exact ⟨⟨ref, href, rfl⟩, (hsame ref href).symm ▸ hambiguous⟩
  rw [deservedWarnings, deservedWarnings]
  refine (hamong.filterMap _).trans (List.Perm.of_eq ?_)
  rw [List.filterMap_map]
  exact List.filterMap_congr fun ref href => hsame ref (hlooked ref href)

/-- Declarations that keep their positions deserve the same warnings. -/
theorem deservedWarnings_eq {lookedAt : List Ref} (hplacement : Tree.IsPlacement id tree other)
    (hrange : ∀ ref ∈ lookedAt, tree.InRange ref) :
    deservedWarnings other lookedAt = deservedWarnings tree lookedAt := by
  have hsame : ∀ ref ∈ lookedAt, ambiguity? other ref = ambiguity? tree ref := by
    intro ref href
    have hplaced := ambiguity?_placed hplacement (hrange ref href)
    rwa [Ref.placed_id] at hplaced
  have hamong : ambiguousAmong other lookedAt = ambiguousAmong tree lookedAt := by
    refine congrArg List.eraseDups (List.filter_congr fun ref href => ?_)
    rw [hsame ref href]
  rw [deservedWarnings, hamong]
  refine List.filterMap_congr fun ref href => hsame ref ?_
  exact List.mem_of_mem_filter (List.mem_eraseDups.mp href)

end RouteSurvey.Resolution
