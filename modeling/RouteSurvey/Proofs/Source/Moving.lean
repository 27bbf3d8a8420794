import RouteSurvey.Proofs.Declaration.MappedMethods
import RouteSurvey.Proofs.Source.Attachment
import RouteSurvey.Proofs.Source.Naming

/-! # Merging by moves

Detached classes can be merged within the list: what each of them holds is moved to the
position of its struct, one class after the other, and the emptied classes are dropped at the
end. The positions are those in the list before the first move. No class is both emptied and
added to, so no move gets in the way of another, and the outcome is that of merging all at once.
With a walk that finds the parts and adds each to its class, this is how a tree is collected.
-/

namespace RouteSurvey.Source

variable {structs : List String} {classes : List Declaration.Class}
  {block owner : Declaration.Class} {index : Nat}

/-- The position of the only class with a struct that has the simple name of a detached
class. -/
def targetIndex? (structs : List String) (classes : List Declaration.Class)
    (block : Declaration.Class) : Option Nat :=
  if block.name ∈ structs then none
  else
    match classes.zipIdx.filter fun entry => Fits structs block entry.1 with
    | [(_, index)] => some index
    | _ => none

/-- What the class at one position holds goes to the class at another. -/
structure Move where
  source : Nat
  target : Nat
deriving DecidableEq, Repr

/-- A class without its markers and methods. -/
def emptied (block : Declaration.Class) : Declaration.Class :=
  { block with markers := [], methods := [] }

/-- The classes after a move. -/
def Move.run (held : List Declaration.Class) (move : Move) : List Declaration.Class :=
  (held.modify move.source emptied).modify move.target
    (absorb · held[move.source]?.toList)

/-- The moves of all detached classes, in order. -/
def movesOf (structs : List String) (classes : List Declaration.Class) : List Move :=
  classes.zipIdx.filterMap fun (block, source) =>
    (targetIndex? structs classes block).map (Move.mk source)

/-- Moves what the detached classes hold, and then drops them. -/
def attachByMoves (structs : List String) (classes : List Declaration.Class) :
    List Declaration.Class :=
  ((((movesOf structs classes).foldl Move.run classes).zip classes).filter fun entry =>
    (targetIndex? structs classes entry.2).isNone).map Prod.fst

/-! ## Targets -/

theorem isDetached_iff_zipIdx : IsDetached structs classes block ↔
    block.name ∉ structs ∧
      ∃ entry, (classes.zipIdx.filter fun entry => Fits structs block entry.1) = [entry] := by
  rw [IsDetached, ← Declaration.Tree.length_filter_zipIdx, List.length_eq_one_iff]

theorem exists_of_targetIndex? (htarget : targetIndex? structs classes block = some index) :
    ∃ owner, classes[index]? = some owner ∧ IsDetached structs classes block ∧
      Fits structs block owner := by
  rw [targetIndex?] at htarget
  split at htarget
  next => contradiction
  next hblock =>
    split at htarget
    next owner position hentries =>
      cases htarget
      have hmem : (owner, index) ∈ classes.zipIdx.filter fun entry => Fits structs block entry.1 :=
        hentries ▸ List.mem_singleton_self _
      obtain ⟨hentry, hfits⟩ := List.mem_filter.mp hmem
      exact ⟨owner, List.mk_mem_zipIdx_iff_getElem?.mp hentry,
        isDetached_iff_zipIdx.mpr ⟨hblock, _, hentries⟩, of_decide_eq_true hfits⟩
    next => contradiction

theorem targetIndex?_of_fits (howner : classes[index]? = some owner)
    (hdetached : IsDetached structs classes block) (hfits : Fits structs block owner) :
    targetIndex? structs classes block = some index := by
  obtain ⟨hblock, entry, hentries⟩ := isDetached_iff_zipIdx.mp hdetached
  have hmem : (owner, index) ∈ classes.zipIdx.filter fun entry => Fits structs block entry.1 :=
    List.mem_filter.mpr ⟨List.mk_mem_zipIdx_iff_getElem?.mpr howner, decide_eq_true hfits⟩
  rw [hentries, List.mem_singleton] at hmem
  rw [targetIndex?, if_neg hblock, hentries, ← hmem]

theorem targetIndex?_eq_some_iff (howner : classes[index]? = some owner) :
    targetIndex? structs classes block = some index ↔
      attachment? structs classes block = some owner.name := by
  rw [attachment?_eq_some_iff (List.mem_of_getElem? howner)]
  constructor
  · intro htarget
    obtain ⟨other, hother, hdetached, hfits⟩ := exists_of_targetIndex? htarget
    rw [howner, Option.some_inj] at hother
    exact ⟨hdetached, hother ▸ hfits⟩
  · rintro ⟨hdetached, hfits⟩
    exact targetIndex?_of_fits howner hdetached hfits

theorem isNone_targetIndex? (structs : List String) (classes : List Declaration.Class)
    (block : Declaration.Class) :
    (targetIndex? structs classes block).isNone = (attachment? structs classes block).isNone := by
  rw [Bool.eq_iff_iff, Option.isNone_iff_eq_none, Option.isNone_iff_eq_none]
  constructor
  · intro hnone
    cases hattached : attachment? structs classes block with
    | none => rfl
    | some name =>
        obtain ⟨-, target, htarget, rfl⟩ := attachment?_eq_some hattached
        obtain ⟨index, hindex⟩ := List.mem_iff_getElem?.mp htarget
        rw [(targetIndex?_eq_some_iff hindex).mpr hattached] at hnone
        contradiction
  · intro hnone
    cases htarget : targetIndex? structs classes block with
    | none => rfl
    | some index =>
        obtain ⟨owner, howner, -⟩ := exists_of_targetIndex? htarget
        rw [(targetIndex?_eq_some_iff howner).mp htarget] at hnone
        contradiction

/-! ## One move -/

theorem absorb_absorb (target : Declaration.Class) (blocks more : List Declaration.Class) :
    absorb (absorb target blocks) more = absorb target (blocks ++ more) := by
  simp [absorb]

namespace Move

variable {held : List Declaration.Class} {move : Move}

@[simp] theorem length_run (held : List Declaration.Class) (move : Move) :
    (run held move).length = held.length := by
  rw [run, List.length_modify, List.length_modify]

/-- A move changes nothing but where it starts and where it ends. -/
theorem getElem?_run_of_ne (hsource : move.source ≠ index) (htarget : move.target ≠ index) :
    (run held move)[index]? = held[index]? := by
  rw [run, List.getElem?_modify, List.getElem?_modify]
  simp [hsource, htarget]

/-- Where a move ends, the class has in addition what the other one held. -/
theorem getElem?_run_target (hne : move.source ≠ move.target) :
    (run held move)[move.target]? =
      held[move.target]?.map (absorb · held[move.source]?.toList) := by
  rw [run, List.getElem?_modify, List.getElem?_modify]
  simp [hne]

/-! ## Several moves -/

/-- No move starts where another one starts or where any ends. -/
structure AreApart (moves : List Move) : Prop where
  sources : moves.Pairwise fun first later => first.source ≠ later.source
  targets : ∀ move ∈ moves, ∀ other ∈ moves, move.source ≠ other.target

theorem AreApart.tail {moves : List Move} (hapart : AreApart (move :: moves)) :
    AreApart moves where
  sources := (List.pairwise_cons.mp hapart.sources).2
  targets first hfirst other hother :=
    hapart.targets first (List.mem_cons_of_mem _ hfirst) other (List.mem_cons_of_mem _ hother)

theorem length_foldl_run (moves : List Move) (held : List Declaration.Class) :
    (moves.foldl run held).length = held.length := by
  induction moves generalizing held with
  | nil => rfl
  | cons move rest ih => rw [List.foldl_cons, ih, length_run]

/-- A class that is never emptied gets what the classes held before the first move, in the
order of the moves that end at it. -/
theorem getElem?_foldl_run {moves : List Move} (hapart : AreApart moves)
    (hstays : ∀ move ∈ moves, move.source ≠ index) (held : List Declaration.Class) :
    (moves.foldl run held)[index]? = held[index]?.map fun owner =>
      absorb owner ((moves.filter (·.target == index)).filterMap fun move =>
        held[move.source]?) := by
  induction moves generalizing held with
  | nil => simp
  | cons move rest ih =>
      obtain ⟨hstay, hstays⟩ := List.forall_mem_cons.mp hstays
      -- The first move leaves alone what the later ones take.
      have hheld : ∀ later ∈ rest.filter (·.target == index),
          (run held move)[later.source]? = held[later.source]? := by
        intro later hlater
        have hmem := (List.mem_filter.mp hlater).1
        exact getElem?_run_of_ne ((List.pairwise_cons.mp hapart.sources).1 later hmem)
          (hapart.targets later (List.mem_cons_of_mem _ hmem) move List.mem_cons_self).symm
      rw [List.foldl_cons, ih hapart.tail hstays, List.filterMap_congr hheld]
      by_cases htarget : move.target = index
      · subst htarget
        rw [getElem?_run_target hstay, Option.map_map, List.filter_cons, beq_self_eq_true,
          if_pos rfl]
        refine congrFun (congrArg _ (funext fun owner => ?_)) _
        rw [Function.comp_apply, absorb_absorb]
        cases hsource : held[move.source]? <;> simp [hsource]
      · rw [getElem?_run_of_ne hstay htarget,
          List.filter_cons_of_neg (by simpa using htarget)]

end Move

/-! ## The moves of the detached classes -/

theorem mem_movesOf {move : Move} : move ∈ movesOf structs classes ↔
    ∃ block, classes[move.source]? = some block ∧
      targetIndex? structs classes block = some move.target := by
  simp only [movesOf, List.mem_filterMap, Prod.exists, List.mk_mem_zipIdx_iff_getElem?,
    Option.map_eq_some_iff]
  constructor
  · rintro ⟨block, source, hblock, target, htarget, rfl⟩
    exact ⟨block, hblock, htarget⟩
  · rintro ⟨block, hblock, htarget⟩
    exact ⟨block, move.source, hblock, move.target, htarget, rfl⟩

theorem areApart_movesOf (structs : List String) (classes : List Declaration.Class) :
    Move.AreApart (movesOf structs classes) where
  sources := by
    refine (Declaration.Tree.pairwise_zipIdx classes).filterMap _ ?_
    rintro ⟨block, source⟩ ⟨other, source'⟩ hlt move hmove later hlater
    obtain ⟨target, -, rfl⟩ := Option.map_eq_some_iff.mp hmove
    obtain ⟨target', -, rfl⟩ := Option.map_eq_some_iff.mp hlater
    exact Nat.ne_of_lt hlt
  targets move hmove other hother heq := by
    obtain ⟨block, hblock, hmoved⟩ := mem_movesOf.mp hmove
    obtain ⟨_, -, htarget⟩ := mem_movesOf.mp hother
    obtain ⟨owner, howner, -, hstruct, -⟩ := exists_of_targetIndex? htarget
    obtain ⟨_, -, ⟨hnostruct, -⟩, -⟩ := exists_of_targetIndex? hmoved
    -- What a move ends at has a struct, and what a move starts at has none.
    rw [← heq, hblock, Option.some_inj] at howner
    exact hnostruct (howner ▸ hstruct)

/-- A selection of items made along with their positions. -/
theorem filter_eq_filterMap_zipIdx {α : Type} (p : α → Bool) (items : List α) :
    items.filter p = items.zipIdx.filterMap fun entry => Option.guard p entry.1 := by
  rw [← List.filterMap_eq_filter]
  conv_lhs => rw [← List.zipIdx_map_fst 0 items, List.filterMap_map]
  rfl

/-- What is moved to a class are the classes that are merged into it, in order. -/
theorem filterMap_movesOf (howner : classes[index]? = some owner) :
    ((movesOf structs classes).filter (·.target == index)).filterMap
      (fun move => classes[move.source]?) = attachedTo structs classes owner.name := by
  rw [movesOf, List.filter_filterMap, List.filterMap_filterMap, attachedTo,
    filter_eq_filterMap_zipIdx]
  refine List.filterMap_congr ?_
  rintro ⟨block, source⟩ hentry
  have hblock := List.mk_mem_zipIdx_iff_getElem?.mp hentry
  have hsame : targetIndex? structs classes block = some index ↔
      attachment? structs classes block = some owner.name := targetIndex?_eq_some_iff howner
  dsimp only
  cases htarget : targetIndex? structs classes block with
  | none =>
      rw [htarget] at hsame
      simp [Option.guard, ← hsame]
  | some target =>
      rw [htarget, Option.some_inj] at hsame
      by_cases hends : target = index <;> simp [Option.guard, Option.filter, ← hsame, hends, hblock]

/-! ## Dropping the emptied classes -/

/-- Only what goes with a kept item counts. -/
theorem filter_zip_congr {α β : Type} {p : β → Bool} {first second : List α} {items : List β}
    (hlength : first.length = items.length) (hlength' : second.length = items.length)
    (hagree : ∀ (index : Nat) (item : β), items[index]? = some item → p item →
      first[index]? = second[index]?) :
    (first.zip items).filter (p ·.2) = (second.zip items).filter (p ·.2) := by
  induction items generalizing first second with
  | nil => simp
  | cons item items ih =>
      obtain ⟨a, first, rfl⟩ := List.exists_cons_of_length_eq_add_one hlength
      obtain ⟨b, second, rfl⟩ := List.exists_cons_of_length_eq_add_one hlength'
      have hrest := ih (Nat.succ.inj hlength) (Nat.succ.inj hlength')
        fun index item hitem hp => hagree (index + 1) item hitem hp
      rw [List.zip_cons_cons, List.zip_cons_cons, List.filter_cons, List.filter_cons, hrest]
      by_cases hp : p item
      · have hhead : a = b := Option.some.inj (hagree 0 item rfl hp)
        rw [hhead]
      · rw [if_neg hp, if_neg hp]

theorem attachByMoves_eq (structs : List String) (classes : List Declaration.Class) :
    attachByMoves structs classes = attachDetached structs classes := by
  have hmoved : ∀ (index : Nat) (owner : Declaration.Class), classes[index]? = some owner →
      (targetIndex? structs classes owner).isNone →
      ((movesOf structs classes).foldl Move.run classes)[index]? =
        (classes.map fun owner =>
          absorb owner (attachedTo structs classes owner.name))[index]? := by
    intro index owner howner hkept
    have hstays : ∀ move ∈ movesOf structs classes, move.source ≠ index := by
      rintro move hmove rfl
      obtain ⟨block, hblock, htarget⟩ := mem_movesOf.mp hmove
      rw [howner, Option.some_inj] at hblock
      rw [hblock, htarget] at hkept
      contradiction
    rw [Move.getElem?_foldl_run (areApart_movesOf structs classes) hstays, List.getElem?_map,
      howner, Option.map_some, Option.map_some, filterMap_movesOf howner]
  have hzip : ((classes.map fun owner =>
      absorb owner (attachedTo structs classes owner.name)).zip classes) =
        classes.map fun owner => (absorb owner (attachedTo structs classes owner.name), owner) :=
    List.map_prod_right_eq_zip.symm
  rw [attachByMoves, filter_zip_congr (Move.length_foldl_run _ _) (List.length_map _) hmoved, hzip,
    List.filter_map, List.map_map]
  simp only [Function.comp_def, isNone_targetIndex?]
  rfl

/-- Merging leaves out the detached classes and keeps the order of the others. Each of them
stays as it was, but for those with a struct, which get the methods and markers of the detached
classes that they fit. Merging once more does nothing, and moving the contents from class to
class within the list leads to the same. The names of the classes need not be distinct. -/
theorem attachDetached_places_classes (structs : List String)
    (classes : List Declaration.Class) :
    List.Forall₂ (IsPlaced structs classes)
      (classes.filter fun owner => ¬ IsDetached structs classes owner)
      (attachDetached structs classes) ∧
    attachDetached structs (attachDetached structs classes) = attachDetached structs classes ∧
    attachByMoves structs classes = attachDetached structs classes :=
  ⟨attachDetached_forall₂_isPlaced structs classes, attachDetached_attachDetached structs classes,
    attachByMoves_eq structs classes⟩

/-! ## Collecting by steps -/

/-- Collects source files step by step: the parts that a walk comes across are added, one after
the other, to the classes at the positions of their names, and what detached classes hold is
moved to the classes of their structs. -/
def collectBySteps (root : Path) (sources : List SourceFile) : Declaration.Tree :=
  let found := (sources.foldl (SourceFile.walk root) ⟨[], []⟩).found
  ⟨attachByMoves (structNames found) (classesByPosition found)⟩

theorem collectBySteps_eq (root : Path) (sources : List SourceFile) :
    collectBySteps root sources = collect root sources := by
  rw [collectBySteps, foldl_walk_found, List.nil_append, classesByPosition_eq, attachByMoves_eq]
  rfl

end RouteSurvey.Source
