import RouteSurvey.Proofs.FirstOccurrences
import RouteSurvey.Proofs.Resolution.Ambiguity
import RouteSurvey.Proofs.Resolution.Levels

/-! # The warnings of a resolver

A resolver may be asked about any declarations in any order. What it answers does not
depend on what it was asked before. What it warns about are the ambiguous declarations it
has looked at, each once, in the order in which it first came to them.
-/

namespace RouteSurvey.Resolution

open Declaration (Tree Ref)

section Queries

variable (tree : Tree)

/-- The warnings are about the ambiguous ones of the declarations looked at, each once, in
the order in which they were looked at first. -/
def WarnsAbout (lookedAt : List Ref) (warnings : List AmbiguousMapping) : Prop :=
  ∃ declared : List Ref, (∀ ref, ref ∈ declared ↔ ref ∈ lookedAt ∧ IsAmbiguous tree ref) ∧
    declared.Pairwise (fun first second => lookedAt.idxOf first < lookedAt.idxOf second) ∧
    List.Forall₂ (IsWarningAbout tree) declared warnings

/-- A question to a resolver. -/
inductive Query where
  | mapping (ref : Ref)
  | paths (ref : Ref)
  | methods (ref : Ref)
  | consumes (ref : Ref)
  | produces (ref : Ref)
  | deprecated (ref : Ref)
  /-- All attributes at once -/
  | schema (ref : Ref)

/-- What a resolver answers. -/
inductive Answer where
  | mapping (found : Option Mapping)
  | paths (result : Except Failure (List String))
  | methods (result : Except Failure (List HttpMethod))
  | mediaTypes (types : List String)
  | deprecated (flag : Bool)
  | schema (result : Except Failure Schema)
deriving Repr

/-- Puts a question to a resolver. -/
def Query.ask : Query → Resolver Answer
  | mapping ref => return .mapping (← mapping? tree ref)
  | paths ref => return .paths (← resolvePaths tree ref)
  | methods ref => return .methods (← resolveMethods tree ref)
  | consumes ref => return .mediaTypes (← resolveConsumes tree ref)
  | produces ref => return .mediaTypes (← resolveProduces tree ref)
  | deprecated ref => return .deprecated (isDeprecated tree ref)
  | schema ref => return .schema (← resolve tree ref)

/-- The declarations that a resolver looks at to answer a question. -/
def Query.lookedAt : Query → List Ref
  | mapping ref => [ref]
  | deprecated _ => []
  | paths ref | methods ref | consumes ref | produces ref | schema ref => outsideIn tree ref

/-- The ambiguous ones of some declarations, as they come first. -/
def ambiguousAmong (lookedAt : List Ref) : List Ref :=
  (lookedAt.filter fun ref => (ambiguity? tree ref).isSome).eraseDups

/-- The warnings that some declarations deserve, in the order in which they come first. -/
def deservedWarnings (lookedAt : List Ref) : List AmbiguousMapping :=
  (ambiguousAmong tree lookedAt).filterMap (ambiguity? tree)

/-- The journal of a resolver that has looked at some declarations: there is a warning for
each ambiguous one, and these are the declarations known to be warned about. -/
structure Journal.Reports (tree : Tree) (journal : Journal) (lookedAt : List Ref) : Prop where
  warned : List.Forall₂ (fun ref warning => ambiguity? tree ref = some warning)
    (ambiguousAmong tree lookedAt) journal.warnings
  mem_reported : ∀ ref, ref ∈ journal.reported ↔ ref ∈ ambiguousAmong tree lookedAt

end Queries

variable {tree : Tree}

/-! ## Journals -/

theorem ambiguousAmong_concat_of_none {lookedAt : List Ref} {ref : Ref}
    (hnone : ambiguity? tree ref = none) :
    ambiguousAmong tree (lookedAt ++ [ref]) = ambiguousAmong tree lookedAt := by
  simp [ambiguousAmong, hnone]

theorem ambiguousAmong_concat_of_mem {lookedAt : List Ref} {ref : Ref}
    (hmem : ref ∈ ambiguousAmong tree lookedAt) :
    ambiguousAmong tree (lookedAt ++ [ref]) = ambiguousAmong tree lookedAt := by
  have hkept := List.mem_eraseDups.mp hmem
  rw [ambiguousAmong, List.filter_append,
    List.filter_cons_of_pos (by exact (List.mem_filter.mp hkept).2),
    List.filter_nil, eraseDups_concat_of_mem hkept]
  rfl

theorem ambiguousAmong_concat_of_new {lookedAt : List Ref} {ref : Ref} {warning : AmbiguousMapping}
    (hwarning : ambiguity? tree ref = some warning) (hnew : ref ∉ ambiguousAmong tree lookedAt) :
    ambiguousAmong tree (lookedAt ++ [ref]) = ambiguousAmong tree lookedAt ++ [ref] := by
  rw [ambiguousAmong, List.filter_append, List.filter_cons_of_pos (by simp [hwarning]),
    List.filter_nil, eraseDups_concat_of_notMem fun hmem => hnew (List.mem_eraseDups.mpr hmem)]
  rfl

/-- Looking again at what has been looked at already changes nothing. -/
theorem ambiguousAmong_append_of_subset {lookedAt again : List Ref} (hsubset : again ⊆ lookedAt) :
    ambiguousAmong tree (lookedAt ++ again) = ambiguousAmong tree lookedAt := by
  rw [ambiguousAmong, List.filter_append, eraseDups_append_of_subset]
  · rfl
  · intro ref href
    obtain ⟨hmem, hsome⟩ := List.mem_filter.mp href
    exact List.mem_filter.mpr ⟨hsubset hmem, hsome⟩

namespace Journal.Reports

variable {journal : Journal} {lookedAt : List Ref}

theorem empty : Reports tree {} [] where
  warned := List.Forall₂.nil
  mem_reported _ := Iff.rfl

theorem note (hreports : Reports tree journal lookedAt) (notices : List Notice) :
    Reports tree (journal.note notices) lookedAt :=
  ⟨hreports.warned, hreports.mem_reported⟩

/-- Only the ambiguous ones of the declarations looked at matter. -/
theorem congr (hreports : Reports tree journal lookedAt) {others : List Ref}
    (hsame : ambiguousAmong tree others = ambiguousAmong tree lookedAt) :
    Reports tree journal others := by
  obtain ⟨hwarned, hmem⟩ := hreports
  rw [← hsame] at hwarned hmem
  exact ⟨hwarned, hmem⟩

theorem warn (hreports : Reports tree journal lookedAt) {ref : Ref} {warning : AmbiguousMapping}
    (hwarning : ambiguity? tree ref = some warning) :
    Reports tree (journal.warn ref warning) (lookedAt ++ [ref]) := by
  unfold Journal.warn
  -- The declaration is known exactly if it is among the ambiguous ones looked at before.
  split
  next hmem =>
    rw [hreports.mem_reported] at hmem
    exact hreports.congr (ambiguousAmong_concat_of_mem hmem)
  next hnew =>
    rw [hreports.mem_reported] at hnew
    constructor
    · rw [ambiguousAmong_concat_of_new hwarning hnew]
      exact List.rel_append hreports.warned (List.Forall₂.cons hwarning List.Forall₂.nil)
    · intro other
      rw [ambiguousAmong_concat_of_new hwarning hnew, List.mem_append, List.mem_cons,
        hreports.mem_reported, List.mem_singleton, or_comm]

/-- Looking at one more declaration keeps the journal in step. -/
theorem consulted (hreports : Reports tree journal lookedAt) (ref : Ref) :
    Reports tree (consulted tree journal ref) (lookedAt ++ [ref]) := by
  unfold Resolution.consulted
  have hnoted := hreports.note ((normalized tree ref).skipped.map .unknownMethod)
  cases hwarning : ambiguity? tree ref with
  | none => exact hnoted.congr (ambiguousAmong_concat_of_none hwarning)
  | some warning => exact hnoted.warn hwarning

theorem foldl_consulted (hreports : Reports tree journal lookedAt) (refs : List Ref) :
    Reports tree (refs.foldl (Resolution.consulted tree) journal) (lookedAt ++ refs) := by
  induction refs generalizing journal lookedAt with
  | nil => simpa using hreports
  | cons ref rest ih => simpa using ih (hreports.consulted ref)

theorem chainConsulted (hreports : Reports tree journal lookedAt) (ref : Ref) :
    Reports tree (chainConsulted tree ref journal) (lookedAt ++ outsideIn tree ref) :=
  (hreports.note _).foldl_consulted _

/-- Further looks along a chain that has been looked at leave no trace. -/
theorem chainConsulted_iterate (hreports : Reports tree journal lookedAt) (ref : Ref)
    (rounds : Nat) :
    Reports tree ((Resolution.chainConsulted tree ref)^[rounds + 1] journal)
      (lookedAt ++ outsideIn tree ref) := by
  induction rounds with
  | zero => exact hreports.chainConsulted ref
  | succ rounds ih =>
      rw [Function.iterate_succ_apply']
      have hagain := ih.chainConsulted ref
      have hsame : ambiguousAmong tree (lookedAt ++ outsideIn tree ref ++ outsideIn tree ref) =
          ambiguousAmong tree (lookedAt ++ outsideIn tree ref) :=
        ambiguousAmong_append_of_subset (List.subset_append_right _ _)
      exact hagain.congr hsame.symm

/-- Resolving everything leaves the trace of its chain, whether it succeeds or fails. -/
theorem resolve (hreports : Reports tree journal lookedAt) (ref : Ref) :
    Reports tree ((Resolution.resolve tree ref).run journal).2
      (lookedAt ++ outsideIn tree ref) := by
  obtain ⟨rounds, hrun⟩ := resolve_run tree ref journal
  rw [hrun]
  exact hreports.chainConsulted_iterate ref rounds

theorem warnings_eq (hreports : Reports tree journal lookedAt) :
    journal.warnings = deservedWarnings tree lookedAt := by
  obtain ⟨hwarned, -⟩ := hreports
  unfold deservedWarnings
  generalize journal.warnings = warnings, ambiguousAmong tree lookedAt = declared at hwarned ⊢
  induction hwarned with
  | nil => rfl
  | cons hwarning _ ih => rw [List.filterMap_cons_some hwarning, ← ih]

/-- The warnings in the journal are those that the declarations looked at deserve. -/
theorem warnsAbout (hreports : Reports tree journal lookedAt) :
    WarnsAbout tree lookedAt journal.warnings := by
  refine ⟨ambiguousAmong tree lookedAt, fun ref => ?_,
    pairwise_idxOf_eraseDups_filter _ lookedAt, hreports.warned.imp fun ref warning hwarning => ?_⟩
  · rw [ambiguousAmong, List.mem_eraseDups, List.mem_filter, isSome_ambiguity?]
  · exact isWarningAbout_of_ambiguity? hwarning

end Journal.Reports

/-! ## Questions -/

variable (tree) in
/-- The answer to a question, without a trace. -/
def Query.answer : Query → Answer
  | mapping ref => .mapping (mappingAt? tree ref)
  | paths ref => .paths (required tree ref .path (foldPaths (mappingsAround tree ref)))
  | methods ref => .methods (required tree ref .methods (foldMethods (mappingsAround tree ref)))
  | consumes ref => .mediaTypes (foldMediaTypes Mapping.consumes (mappingsAround tree ref))
  | produces ref => .mediaTypes (foldMediaTypes Mapping.produces (mappingsAround tree ref))
  | deprecated ref => .deprecated (isDeprecated tree ref)
  | schema ref => .schema (schemaAt tree ref)

/-- The answer to a question does not depend on the journal. -/
theorem ask_run_fst (query : Query) (journal : Journal) :
    ((query.ask tree).run journal).1 = query.answer tree := by
  cases query with
  | mapping ref => rfl
  | paths ref => simp only [Query.ask, run_bind, resolvePaths_run]; rfl
  | methods ref => simp only [Query.ask, run_bind, resolveMethods_run]; rfl
  | consumes ref => simp only [Query.ask, run_bind, resolveConsumes_run]; rfl
  | produces ref => simp only [Query.ask, run_bind, resolveProduces_run]; rfl
  | deprecated ref => rfl
  | schema ref => simp only [Query.ask, run_bind, resolve_run_fst]; rfl

/-- A question keeps the journal in step with what has been looked at. -/
theorem Journal.Reports.ask {journal : Journal} {lookedAt : List Ref}
    (hreports : Journal.Reports tree journal lookedAt) (query : Query) :
    Journal.Reports tree ((query.ask tree).run journal).2 (lookedAt ++ query.lookedAt tree) := by
  cases query with
  | mapping ref => exact hreports.consulted ref
  | paths ref =>
      simp only [Query.ask, run_bind, resolvePaths_run]
      exact hreports.chainConsulted ref
  | methods ref =>
      simp only [Query.ask, run_bind, resolveMethods_run]
      exact hreports.chainConsulted ref
  | consumes ref =>
      simp only [Query.ask, run_bind, resolveConsumes_run]
      exact hreports.chainConsulted ref
  | produces ref =>
      simp only [Query.ask, run_bind, resolveProduces_run]
      exact hreports.chainConsulted ref
  | deprecated ref =>
      rw [Query.lookedAt, List.append_nil]
      exact hreports
  | schema ref =>
      simp only [Query.ask, run_bind]
      exact hreports.resolve ref

/-- The answers to several questions, put one after the other. -/
theorem mapM_ask_run_fst (queries : List Query) (journal : Journal) :
    ((queries.mapM (Query.ask tree)).run journal).1 =
      queries.map fun query => ((query.ask tree).run {}).1 := by
  induction queries generalizing journal with
  | nil => rfl
  | cons query rest ih =>
      rw [List.mapM_cons, run_bind, run_bind, ih, ask_run_fst, List.map_cons, ask_run_fst]
      rfl

theorem Journal.Reports.mapM_ask {journal : Journal} {lookedAt : List Ref}
    (hreports : Journal.Reports tree journal lookedAt) (queries : List Query) :
    Journal.Reports tree ((queries.mapM (Query.ask tree)).run journal).2
      (lookedAt ++ queries.flatMap (Query.lookedAt tree)) := by
  induction queries generalizing journal lookedAt with
  | nil =>
      rw [List.flatMap_nil, List.append_nil]
      exact hreports
  | cons query rest ih =>
      rw [List.mapM_cons, run_bind, run_bind, List.flatMap_cons, ← List.append_assoc]
      exact ih (hreports.ask query)

end RouteSurvey.Resolution
