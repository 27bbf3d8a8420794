import Mathlib.Logic.Function.Iterate
import RouteSurvey.Proofs.Declaration.Enclosing
import RouteSurvey.Resolution.Resolver

/-! # Answers and traces of a resolver

An operation of a resolver gives an answer and leaves a trace in the journal. The answer
is a function of the tree and the declaration alone; the trace is that of the declarations
on the chain, looked at from the outside in. Both are split off here, so that what is said
about answers need not mention journals.
-/

namespace RouteSurvey.Resolution

open Declaration (Tree Ref)

section Answers

variable (tree : Tree)

/-- The declarations of a chain, outermost first. -/
def outsideIn (ref : Ref) : List Ref :=
  (tree.chain ref).members.reverse

/-- The mapping of a declaration, without a trace. -/
def mappingAt? (ref : Ref) : Option Mapping :=
  (normalized tree ref).mapping?

/-- The mappings along the chain of a declaration, outermost first. -/
def mappingsAround (ref : Ref) : List (Option Mapping) :=
  (outsideIn tree ref).map (mappingAt? tree)

/-- The values that the mapping of a declaration itself has; none if it has no mapping. -/
def ownAt {α : Type} (values : Mapping → List α) (ref : Ref) : List α :=
  ownValues values (mappingAt? tree ref)

/-- The attributes of a declaration, or the first required one that is missing. -/
def schemaAt (ref : Ref) : Except Failure Schema := do
  let levels := mappingsAround tree ref
  let paths ← required tree ref .path (foldPaths levels)
  let methods ← required tree ref .methods (foldMethods levels)
  return ⟨paths, methods, foldMediaTypes Mapping.consumes levels,
    foldMediaTypes Mapping.produces levels, isDeprecated tree ref⟩

/-- The journal after looking at every declaration of a chain. -/
def chainConsulted (ref : Ref) (journal : Journal) : Journal :=
  (outsideIn tree ref).foldl (consulted tree) <| journal.note <|
    (tree.chain ref).repeated?.toList.map fun outer => .cyclicNesting (tree.qualifiedName outer)

end Answers

variable {tree : Tree}

theorem mem_outsideIn {ref outer : Ref} : outer ∈ outsideIn tree ref ↔ tree.Surrounds ref outer :=
  List.mem_reverse.trans Tree.mem_chain

theorem ownAt_of_some {α : Type} {values : Mapping → List α} {ref : Ref} {mapping : Mapping}
    (hmapping : mappingAt? tree ref = some mapping) : ownAt tree values ref = values mapping := by
  rw [ownAt, hmapping]
  rfl

theorem ownAt_of_none {α : Type} {values : Mapping → List α} {ref : Ref}
    (hmapping : mappingAt? tree ref = none) : ownAt tree values ref = [] := by
  rw [ownAt, hmapping]
  rfl

theorem mem_ownAt {α : Type} {values : Mapping → List α} {ref : Ref} {value : α} :
    value ∈ ownAt tree values ref ↔
      ∃ mapping, mappingAt? tree ref = some mapping ∧ value ∈ values mapping := by
  cases hmapping : mappingAt? tree ref with
  | none => simp [ownAt_of_none hmapping]
  | some mapping => simp [ownAt_of_some hmapping]

theorem required_eq_ok_iff {α : Type} {ref : Ref} {missing : Attribute} {value : Option α}
    {result : α} : required tree ref missing value = .ok result ↔ value = some result := by
  cases value <;> simp [required]

/-- What follows an operation goes on from its answer and its journal. -/
theorem run_bind {α β : Type} (first : Resolver α) (next : α → Resolver β) (journal : Journal) :
    (first >>= next).run journal = (next (first.run journal).1).run (first.run journal).2 :=
  rfl

variable (tree)

theorem mapM_mapping?_run (refs : List Ref) (journal : Journal) :
    (refs.mapM (mapping? tree)).run journal =
      (refs.map (mappingAt? tree), refs.foldl (consulted tree) journal) := by
  induction refs generalizing journal with
  | nil => rfl
  | cons ref rest ih =>
      rw [List.mapM_cons, run_bind, run_bind, ih]
      rfl

theorem levels_run (ref : Ref) (journal : Journal) :
    (levels tree ref).run journal =
      (mappingsAround tree ref, chainConsulted tree ref journal) :=
  mapM_mapping?_run tree _ _

theorem resolvePaths_run (ref : Ref) (journal : Journal) :
    (resolvePaths tree ref).run journal =
      (required tree ref .path (foldPaths (mappingsAround tree ref)),
        chainConsulted tree ref journal) := by
  rw [resolvePaths, run_bind, levels_run]
  rfl

theorem resolveMethods_run (ref : Ref) (journal : Journal) :
    (resolveMethods tree ref).run journal =
      (required tree ref .methods (foldMethods (mappingsAround tree ref)),
        chainConsulted tree ref journal) := by
  rw [resolveMethods, run_bind, levels_run]
  rfl

theorem resolveConsumes_run (ref : Ref) (journal : Journal) :
    (resolveConsumes tree ref).run journal =
      (foldMediaTypes Mapping.consumes (mappingsAround tree ref),
        chainConsulted tree ref journal) := by
  rw [resolveConsumes, run_bind, levels_run]
  rfl

theorem resolveProduces_run (ref : Ref) (journal : Journal) :
    (resolveProduces tree ref).run journal =
      (foldMediaTypes Mapping.produces (mappingsAround tree ref),
        chainConsulted tree ref journal) := by
  rw [resolveProduces, run_bind, levels_run]
  rfl

/-- Resolving everything looks along the chain once or more, however it ends. -/
theorem resolve_run (ref : Ref) (journal : Journal) :
    ∃ rounds, (resolve tree ref).run journal =
      (schemaAt tree ref, (chainConsulted tree ref)^[rounds + 1] journal) := by
  -- There is one round for each attribute, up to the first required one that is missing.
  rw [resolve, run_bind, resolvePaths_run]
  cases hpaths : foldPaths (mappingsAround tree ref) with
  | none =>
      refine ⟨0, ?_⟩
      simp only [schemaAt, hpaths]
      rfl
  | some paths =>
      simp only [required, Option.elim_some]
      rw [run_bind, resolveMethods_run]
      cases hmethods : foldMethods (mappingsAround tree ref) with
      | none =>
          refine ⟨1, ?_⟩
          simp only [schemaAt, hpaths, hmethods]
          rfl
      | some methods =>
          refine ⟨3, ?_⟩
          simp only [required, Option.elim_some]
          rw [run_bind, resolveConsumes_run, run_bind, resolveProduces_run]
          simp only [schemaAt, hpaths, hmethods]
          rfl

theorem resolve_run_fst (ref : Ref) (journal : Journal) :
    ((resolve tree ref).run journal).1 = schemaAt tree ref := by
  obtain ⟨rounds, hrun⟩ := resolve_run tree ref journal
  rw [hrun]

end RouteSurvey.Resolution
