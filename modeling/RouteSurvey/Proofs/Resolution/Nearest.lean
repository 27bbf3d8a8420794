import RouteSurvey.Proofs.Resolution.Required

/-! # The nearest declaration

The request methods of a declaration are those of the innermost level of its chain that
offers any, and the media types are found in the same way, each of the two kinds for itself.
Whatever stands further out has no influence.
-/

namespace RouteSurvey.Resolution

open Declaration (Tree Ref)

/-! ## What a level offers -/

/-- A shorthand offers its own request method, and a generic mapping those it lists. -/
inductive OffersMethods : Option Mapping → List HttpMethod → Prop
  | shorthand (verb : Shorthand) (paths : List String) :
      OffersMethods (some (.shorthand verb paths)) [verb.method]
  | generic {methods : List HttpMethod} (paths consumes produces : List String)
      (hmethods : methods ≠ []) :
      OffersMethods (some (.generic paths methods consumes produces)) methods

/-- Only a generic mapping offers media types, those it accepts or those it produces. -/
inductive OffersTypes (own : Mapping → List String) : Option Mapping → List String → Prop
  | generic (paths : List String) (methods : List HttpMethod) (consumes produces : List String)
      (htypes : own (.generic paths methods consumes produces) ≠ []) :
      OffersTypes own (some (.generic paths methods consumes produces))
        (own (.generic paths methods consumes produces))

/-- What the first level that offers anything has; nothing if no level does. -/
inductive Nearest {α : Type} (offers : Option Mapping → List α → Prop)
    (levels : List (Option Mapping)) : Option (List α) → Prop
  | found {values : List α} (inner : List (Option Mapping)) (level : Option Mapping)
      (outer : List (Option Mapping)) (hlevels : levels = inner ++ level :: outer)
      (hinner : ∀ nearer ∈ inner, ∀ others, ¬ offers nearer others)
      (hvalues : offers level values) : Nearest offers levels (some values)
  | missing (hnone : ∀ level ∈ levels, ∀ values, ¬ offers level values) :
      Nearest offers levels none

/-- The levels are the same up to one that offers something. -/
def AgreeUpToOffer {α : Type} (offers : Option Mapping → List α → Prop)
    (levels others : List (Option Mapping)) : Prop :=
  ∃ shared, shared <+: levels ∧ shared <+: others ∧ ∃ level ∈ shared, ∃ values, offers level values

/-- What is offered is what the level has for the attribute, as long as that is not empty. -/
def OffersOwn {α : Type} (own : Mapping → List α) (offers : Option Mapping → List α → Prop) :
    Prop :=
  ∀ level values, offers level values ↔ ownValues own level = values ∧ values ≠ []

theorem offersOwn_methods : OffersOwn Mapping.methods OffersMethods := by
  intro level values
  constructor
  · rintro (⟨verb, paths⟩ | ⟨paths, consumes, produces, hne⟩)
    · exact ⟨rfl, List.cons_ne_nil _ _⟩
    · exact ⟨rfl, hne⟩
  · rintro ⟨rfl, hne⟩
    rcases level with _ | (⟨paths, methods, consumes, produces⟩ | ⟨verb, paths⟩)
    · contradiction
    · exact .generic paths consumes produces hne
    · exact .shorthand verb paths

theorem offersOwn_types {own : Mapping → List String}
    (hshorthand : ∀ verb paths, own (.shorthand verb paths) = []) :
    OffersOwn own (OffersTypes own) := by
  intro level values
  constructor
  · rintro ⟨paths, methods, consumes, produces, hne⟩
    exact ⟨rfl, hne⟩
  · rintro ⟨rfl, hne⟩
    rcases level with _ | (⟨paths, methods, consumes, produces⟩ | ⟨verb, paths⟩)
    · contradiction
    · exact .generic paths methods consumes produces hne
    · exact absurd (hshorthand verb paths) hne

theorem offersOwn_consumes : OffersOwn Mapping.consumes (OffersTypes Mapping.consumes) :=
  offersOwn_types fun _ _ => rfl

theorem offersOwn_produces : OffersOwn Mapping.produces (OffersTypes Mapping.produces) :=
  offersOwn_types fun _ _ => rfl

/-! ## The level that counts -/

section Levels

variable {α : Type} {own : Mapping → List α} {offers : Option Mapping → List α → Prop}

/-- The values of the first level that has any, from the inside out. -/
def nearestValues (own : Mapping → List α) (levels : List (Option Mapping)) : Option (List α) :=
  (levels.map (ownValues own)).find? (! ·.isEmpty)

theorem nearestValues_cons_of_nil {level : Option Mapping} (rest : List (Option Mapping))
    (hown : ownValues own level = []) :
    nearestValues own (level :: rest) = nearestValues own rest := by
  simp [nearestValues, hown]

theorem nearestValues_cons {level : Option Mapping} (rest : List (Option Mapping))
    (hown : ownValues own level ≠ []) :
    nearestValues own (level :: rest) = some (ownValues own level) := by
  simp [nearestValues, hown]

theorem nearest_nearestValues (hoffers : OffersOwn own offers) (levels : List (Option Mapping)) :
    Nearest offers levels (nearestValues own levels) := by
  induction levels with
  | nil =>
      apply Nearest.missing
      intro level hlevel
      contradiction
  | cons level rest ih =>
      by_cases hown : ownValues own level = []
      · have hpassed : ∀ values, ¬ offers level values := by
          intro values hvalues
          obtain ⟨rfl, hne⟩ := (hoffers level values).mp hvalues
          exact hne hown
        rw [nearestValues_cons_of_nil rest hown]
        -- What counts further out counts here too, with one more level passed over.
        generalize nearestValues own rest = found at ih ⊢
        cases ih with
        | found inner near outer hlevels hinner hvalues =>
            refine .found (level :: inner) near outer ?_ ?_ hvalues
            · rw [hlevels, List.cons_append]
            · exact List.forall_mem_cons.mpr ⟨hpassed, hinner⟩
        | missing hnone => exact .missing (List.forall_mem_cons.mpr ⟨hpassed, hnone⟩)
      · rw [nearestValues_cons rest hown]
        refine .found [] level rest rfl ?_ ((hoffers level _).mpr ⟨rfl, hown⟩)
        intro nearer hnearer
        contradiction

/-- Levels that agree up to an offer have the same values, and they have some. -/
theorem nearestValues_eq_of_agree (hoffers : OffersOwn own offers)
    {levels others : List (Option Mapping)} (hagree : AgreeUpToOffer offers levels others) :
    ∃ values, nearestValues own levels = some values ∧ nearestValues own others = some values := by
  obtain ⟨shared, hlevels, hothers, level, hlevel, values, hvalues⟩ := hagree
  obtain ⟨rfl, hne⟩ := (hoffers level values).mp hvalues
  have hsome : (nearestValues own shared).isSome := by
    apply List.find?_isSome.mpr
    exact ⟨_, List.mem_map_of_mem hlevel, by simpa using hne⟩
  obtain ⟨found, hfound⟩ := Option.isSome_iff_exists.mp hsome
  exact ⟨found, (hlevels.map _).find?_eq_some hfound, (hothers.map _).find?_eq_some hfound⟩

end Levels

/-! ## Attributes of a declaration -/

/-- The innermost list of media types that is not empty counts. -/
theorem foldl_inheritMediaTypes (lists : List (List String)) (parent : List String) :
    lists.foldl (fun parent own => inheritMediaTypes own parent) parent =
      (lists.reverse.find? (! ·.isEmpty)).getD parent := by
  induction lists generalizing parent with
  | nil => rfl
  | cons own rest ih =>
      rw [List.foldl_cons, ih, List.reverse_cons, List.find?_append]
      cases rest.reverse.find? (! ·.isEmpty) with
      | some values => rfl
      | none => cases own <;> rfl

variable (tree : Tree)

/-- The mappings along the chain of a declaration, innermost first. -/
def mappingsOutwards (ref : Ref) : List (Option Mapping) :=
  (tree.chain ref).members.map (mappingAt? tree)

theorem mappingsAround_eq_reverse (ref : Ref) :
    mappingsAround tree ref = (mappingsOutwards tree ref).reverse := by
  rw [mappingsAround, outsideIn, mappingsOutwards, List.map_reverse]

theorem mappingsOutwards_eq {ref : Ref} {members : List Ref}
    (hmembers : tree.IsEnclosingChain ref members) :
    mappingsOutwards tree ref = members.map (mappingAt? tree) := by
  rw [mappingsOutwards, (tree.chain_isEnclosingChain ref).unique hmembers]

theorem resolveMethods_eq_nearest (ref : Ref) (journal : Journal) :
    ((resolveMethods tree ref).run journal).1 =
      required tree ref .methods (nearestValues Mapping.methods (mappingsOutwards tree ref)) := by
  rw [resolveMethods_run, foldMethods_mappingsAround, nearestValues, mappingsOutwards, List.map_map]
  rfl

theorem foldMediaTypes_mappingsAround (own : Mapping → List String) (ref : Ref) :
    foldMediaTypes own (mappingsAround tree ref) =
      (nearestValues own (mappingsOutwards tree ref)).getD [] := by
  have hfold := foldl_inheritMediaTypes ((mappingsAround tree ref).map (ownValues own)) []
  rw [List.foldl_map, ← List.map_reverse, mappingsAround_eq_reverse, List.reverse_reverse] at hfold
  rw [foldMediaTypes, mappingsAround_eq_reverse, hfold]
  rfl

theorem resolveConsumes_eq_nearest (ref : Ref) (journal : Journal) :
    ((resolveConsumes tree ref).run journal).1 =
      (nearestValues Mapping.consumes (mappingsOutwards tree ref)).getD [] := by
  rw [resolveConsumes_run, foldMediaTypes_mappingsAround]

theorem resolveProduces_eq_nearest (ref : Ref) (journal : Journal) :
    ((resolveProduces tree ref).run journal).1 =
      (nearestValues Mapping.produces (mappingsOutwards tree ref)).getD [] := by
  rw [resolveProduces_run, foldMediaTypes_mappingsAround]

/-- The nearest declaration that offers an attribute decides it, separately for each of the
three attributes. Only request methods have to be offered somewhere. Two declarations that
are alike up to the level that decides have the same value, whatever is around that level. -/
theorem nearest_level_wins (ref : Ref) (journal : Journal) :
    ∃ members, tree.IsEnclosingChain ref members ∧
      (∃ found, Nearest OffersMethods (members.map (mappingAt? tree)) found ∧
        ((resolveMethods tree ref).run journal).1 =
          found.elim (.error ⟨tree.qualifiedName ref, .methods⟩) .ok) ∧
      (∃ found, Nearest (OffersTypes Mapping.consumes) (members.map (mappingAt? tree)) found ∧
        ((resolveConsumes tree ref).run journal).1 = found.getD []) ∧
      (∃ found, Nearest (OffersTypes Mapping.produces) (members.map (mappingAt? tree)) found ∧
        ((resolveProduces tree ref).run journal).1 = found.getD []) ∧
      ∀ (other : Tree) (otherRef : Ref) (others : List Ref) (otherJournal : Journal),
        other.IsEnclosingChain otherRef others →
          (AgreeUpToOffer OffersMethods (members.map (mappingAt? tree))
              (others.map (mappingAt? other)) →
            ((resolveMethods other otherRef).run otherJournal).1 =
              ((resolveMethods tree ref).run journal).1) ∧
          (AgreeUpToOffer (OffersTypes Mapping.consumes) (members.map (mappingAt? tree))
              (others.map (mappingAt? other)) →
            ((resolveConsumes other otherRef).run otherJournal).1 =
              ((resolveConsumes tree ref).run journal).1) ∧
          (AgreeUpToOffer (OffersTypes Mapping.produces) (members.map (mappingAt? tree))
              (others.map (mappingAt? other)) →
            ((resolveProduces other otherRef).run otherJournal).1 =
              ((resolveProduces tree ref).run journal).1) := by
  refine ⟨(tree.chain ref).members, tree.chain_isEnclosingChain ref, ?_, ?_, ?_, ?_⟩
  · exact ⟨_, nearest_nearestValues offersOwn_methods _, resolveMethods_eq_nearest tree ref journal⟩
  · exact ⟨_, nearest_nearestValues offersOwn_consumes _,
      resolveConsumes_eq_nearest tree ref journal⟩
  · exact ⟨_, nearest_nearestValues offersOwn_produces _,
      resolveProduces_eq_nearest tree ref journal⟩
  intro other otherRef others otherJournal hothers
  rw [← mappingsOutwards_eq other hothers]
  refine ⟨fun hagree => ?_, fun hagree => ?_, fun hagree => ?_⟩
  · obtain ⟨values, hvalues, hsame⟩ := nearestValues_eq_of_agree offersOwn_methods hagree
    rw [resolveMethods_eq_nearest, resolveMethods_eq_nearest, hsame, mappingsOutwards, hvalues]
    rfl
  · obtain ⟨values, hvalues, hsame⟩ := nearestValues_eq_of_agree offersOwn_consumes hagree
    rw [resolveConsumes_eq_nearest, resolveConsumes_eq_nearest, hsame, mappingsOutwards, hvalues]
  · obtain ⟨values, hvalues, hsame⟩ := nearestValues_eq_of_agree offersOwn_produces hagree
    rw [resolveProduces_eq_nearest, resolveProduces_eq_nearest, hsame, mappingsOutwards, hvalues]

/-- Both classes around the method accept something, and the outer one is as given. -/
def nestedOrders (accepted : String) : Tree :=
  ⟨[{ name := "Api", markers := [⟨"request_mapping", .ofList [("consumes", .text accepted)]⟩] },
    { name := "Orders", enclosing? := some "Api",
      markers := [⟨"request_mapping", .ofList [("consumes", .text "text/csv")]⟩],
      methods := [{ name := "add", markers := [⟨"post_mapping", .empty⟩] }] }]⟩

theorem nearest_level_wins_orders :
    mappingAt? (nestedOrders "text/html") (.ofClass 0) ≠
      mappingAt? (nestedOrders "text/xml") (.ofClass 0) ∧
    AgreeUpToOffer (OffersTypes Mapping.consumes)
      ([.ofMethod 1 0, .ofClass 1, .ofClass 0].map (mappingAt? (nestedOrders "text/html")))
      ([.ofMethod 1 0, .ofClass 1, .ofClass 0].map (mappingAt? (nestedOrders "text/xml"))) ∧
    ((resolveConsumes (nestedOrders "text/xml") (.ofMethod 1 0)).run default).1 =
      ((resolveConsumes (nestedOrders "text/html") (.ofMethod 1 0)).run default).1 := by
  have hchain : ∀ accepted, (nestedOrders accepted).IsEnclosingChain (.ofMethod 1 0)
      [.ofMethod 1 0, .ofClass 1, .ofClass 0] :=
    fun accepted => (nestedOrders accepted).chain_isEnclosingChain (.ofMethod 1 0)
  obtain ⟨members, hmembers, -, -, -, hlevels⟩ :=
    nearest_level_wins (nestedOrders "text/html") (.ofMethod 1 0) default
  have hagree : AgreeUpToOffer (OffersTypes Mapping.consumes)
      ([.ofMethod 1 0, .ofClass 1, .ofClass 0].map (mappingAt? (nestedOrders "text/html")))
      ([.ofMethod 1 0, .ofClass 1, .ofClass 0].map (mappingAt? (nestedOrders "text/xml"))) := by
    refine ⟨[some (.shorthand .post []), some (.generic [] [] ["text/csv"] [])], by decide,
      by decide, _, List.mem_cons_of_mem _ List.mem_cons_self, ["text/csv"], ?_⟩
    exact .generic [] [] ["text/csv"] [] (List.cons_ne_nil _ _)
  refine ⟨by decide, hagree, (hlevels _ _ _ default (hchain "text/xml")).2.1 ?_⟩
  rw [hmembers.unique (hchain "text/html")]
  exact hagree

end RouteSurvey.Resolution
