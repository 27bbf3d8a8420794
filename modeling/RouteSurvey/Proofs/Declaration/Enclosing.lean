import Mathlib.Data.Finset.Card
import Mathlib.Data.List.Chain
import Mathlib.Logic.Relation
import RouteSurvey.Proofs.Walk
import RouteSurvey.Resolution.Chain

/-! # The declarations around a declaration

The chain of a declaration begins with it, goes outwards one declaration at a time,
repeats nothing, and ends only where no new declaration stands outside. Its bound on the
number of steps is never felt: the members of the chain are all declarations that any
number of steps outwards leads to.
-/

namespace RouteSurvey.Declaration.Tree

variable (tree : Tree)

/-- Some number of steps outwards, possibly none, leads from `inner` to `outer`. -/
def Surrounds (inner outer : Ref) : Prop :=
  Relation.ReflTransGen (fun near far => tree.enclosing? near = some far) inner outer

/-- What the chain of a declaration is, without saying how it is found. -/
structure IsEnclosingChain (ref : Ref) (members : List Ref) : Prop where
  starts : members.head? = some ref
  linked : members.IsChain fun near far => tree.enclosing? near = some far
  nodup : members.Nodup
  /-- What stands around the last member is a member already -/
  closed : ∀ last ∈ members.getLast?, ∀ outer, tree.enclosing? last = some outer → outer ∈ members

variable {tree}

theorem enclosing?_ofClass {index : Nat} {outer : Ref}
    (houter : tree.enclosing? (.ofClass index) = some outer) :
    ∃ found, found < tree.classes.length ∧ outer = .ofClass found := by
  simp only [enclosing?, Option.bind_eq_bind, Option.bind_eq_some_iff] at houter
  obtain ⟨owner, _, name, _, found, hfound, houter⟩ := houter
  obtain ⟨hlt, _⟩ := List.findIdx?_eq_some_iff_getElem.mp hfound
  split at houter
  · contradiction
  · exact ⟨found, hlt, (Option.some.inj houter).symm⟩

theorem enclosing?_ne_self (ref : Ref) : tree.enclosing? ref ≠ some ref := by
  intro hself
  cases ref with
  | ofMethod index position => cases hself
  | ofClass index =>
      simp only [enclosing?, Option.bind_eq_bind, Option.bind_eq_some_iff] at hself
      obtain ⟨owner, _, name, _, found, _, hself⟩ := hself
      split at hself
      next => contradiction
      next hne => exact hne (Ref.ofClass.inj (Option.some.inj hself))

/-! ## The walk outwards -/

variable (tree)

/-- The positions of the classes among some declarations. -/
def classPositions (walked : List Ref) : Finset Nat :=
  (Finset.range tree.classes.length).filter fun index => .ofClass index ∈ walked

theorem card_classPositions_le (walked : List Ref) :
    (tree.classPositions walked).card ≤ tree.classes.length := by
  have hcard := Finset.card_filter_le (Finset.range tree.classes.length)
    fun index => Ref.ofClass index ∈ walked
  rw [Finset.card_range] at hcard
  exact hcard

variable {tree}

theorem card_classPositions_cons {walked : List Ref} {index : Nat}
    (hrange : index < tree.classes.length) (hnew : .ofClass index ∉ walked) :
    (tree.classPositions (.ofClass index :: walked)).card =
      (tree.classPositions walked).card + 1 := by
  have hinsert : tree.classPositions (.ofClass index :: walked) =
      insert index (tree.classPositions walked) := by
    ext position
    simp only [classPositions, Finset.mem_filter, Finset.mem_range, List.mem_cons,
      Ref.ofClass.injEq, Finset.mem_insert]
    constructor
    · rintro ⟨hlt, rfl | hmem⟩
      · exact Or.inl rfl
      · exact Or.inr ⟨hlt, hmem⟩
    · rintro (rfl | ⟨hlt, hmem⟩)
      · exact ⟨hrange, Or.inl rfl⟩
      · exact ⟨hlt, Or.inr hmem⟩
  rw [hinsert, Finset.card_insert_of_notMem]
  simp [classPositions, hnew]

theorem mem_of_card_classPositions {walked : List Ref} {index : Nat}
    (hrange : index < tree.classes.length)
    (hfull : tree.classes.length ≤ (tree.classPositions walked).card) :
    .ofClass index ∈ walked := by
  by_contra hnew
  have hcard := card_classPositions_cons hrange hnew
  have hle := card_classPositions_le tree (.ofClass index :: walked)
  omega

/-- What holds at every step of the walk from `ref`, which has `walked` behind it, the
declaration it has come to first. Each step but the one out of a method reaches a new class
of the tree, so there is fuel for every class not yet reached. -/
structure Walk (tree : Tree) (ref : Ref) (fuel : Nat) (current : Ref) (earlier : List Ref) :
    Prop where
  starts : (current :: earlier).getLast? = some ref
  linked : (current :: earlier).IsChain fun far near => tree.enclosing? near = some far
  nodup : (current :: earlier).Nodup
  room : tree.classes.length < fuel + (tree.classPositions (current :: earlier)).card ∨
    tree.classes.length ≤ fuel + (tree.classPositions (current :: earlier)).card ∧
      ∃ index, current = .ofClass index

namespace Walk

variable {ref current outer : Ref} {fuel : Nat} {earlier : List Ref}

theorem start (tree : Tree) (ref : Ref) :
    Walk tree ref (tree.classes.length + 1) ref [] where
  starts := rfl
  linked := List.isChain_singleton ref
  nodup := List.nodup_singleton ref
  room := Or.inl (by omega)

/-- The walk can stop where nothing new stands around it. -/
theorem stop (hwalk : Walk tree ref fuel current earlier)
    (hclosed : ∀ outer, tree.enclosing? current = some outer → outer ∈ current :: earlier) :
    tree.IsEnclosingChain ref (current :: earlier).reverse where
  starts := by rw [List.head?_reverse, hwalk.starts]
  linked := List.isChain_reverse.mpr hwalk.linked
  nodup := List.nodup_reverse.mpr hwalk.nodup
  closed := by
    intro last hlast outer houter
    rw [List.getLast?_reverse, List.head?_cons] at hlast
    cases hlast
    exact List.mem_reverse.mpr (hclosed outer houter)

/-- A step to a new declaration keeps the invariant. -/
theorem step (hwalk : Walk tree ref (fuel + 1) current earlier)
    (houter : tree.enclosing? current = some outer) (hnew : outer ∉ current :: earlier) :
    Walk tree ref fuel outer (current :: earlier) where
  starts := by rw [List.getLast?_cons_cons, hwalk.starts]
  linked := List.isChain_cons_cons.mpr ⟨houter, hwalk.linked⟩
  nodup := List.nodup_cons.mpr ⟨hnew, hwalk.nodup⟩
  room := by
    have hroom := hwalk.room
    cases current with
    | ofMethod index position =>
        cases houter
        -- The class of a method may have been counted before, so this step uses up the surplus.
        refine Or.inr ⟨?_, index, rfl⟩
        have hmore : (tree.classPositions (.ofMethod index position :: earlier)).card ≤
            (tree.classPositions (.ofClass index :: .ofMethod index position :: earlier)).card :=
          Finset.card_le_card (Finset.monotone_filter_right _ fun _ _ hmem =>
            List.mem_cons_of_mem _ hmem)
        rcases hroom with hroom | ⟨_, other, hother⟩
        · omega
        · cases hother
    | ofClass index =>
        obtain ⟨found, hrange, rfl⟩ := enclosing?_ofClass houter
        rw [card_classPositions_cons hrange hnew]
        exact Or.inr ⟨by omega, found, rfl⟩

/-- Without fuel, all classes have been reached. -/
theorem closed_of_no_fuel (hwalk : Walk tree ref 0 current earlier)
    (houter : tree.enclosing? current = some outer) : outer ∈ current :: earlier := by
  have hle := card_classPositions_le tree (current :: earlier)
  rcases hwalk.room with hroom | ⟨hroom, index, rfl⟩
  · omega
  · obtain ⟨found, hrange, rfl⟩ := enclosing?_ofClass houter
    exact mem_of_card_classPositions hrange (by omega)

end Walk

theorem chainFrom_isEnclosingChain {ref current : Ref} {fuel : Nat} {earlier : List Ref}
    (hwalk : Walk tree ref fuel current earlier) :
    tree.IsEnclosingChain ref (tree.chainFrom fuel current earlier).members := by
  induction fuel generalizing current earlier with
  | zero => exact hwalk.stop fun outer houter => hwalk.closed_of_no_fuel houter
  | succ fuel ih =>
      unfold chainFrom
      cases houter : tree.enclosing? current with
      | none =>
          apply hwalk.stop
          intro outer hsome
          rw [houter] at hsome
          contradiction
      | some outer =>
          by_cases hmem : outer ∈ current :: earlier
          · simp only [hmem, if_true]
            apply hwalk.stop
            intro other hother
            rw [houter] at hother
            exact Option.some.inj hother ▸ hmem
          · simp only [hmem, if_false]
            exact ih (hwalk.step houter hmem)

variable (tree) in
/-- The chain of a declaration is its enclosing chain, however the classes are nested. -/
theorem chain_isEnclosingChain (ref : Ref) :
    tree.IsEnclosingChain ref (tree.chain ref).members :=
  chainFrom_isEnclosingChain (Walk.start tree ref)

/-! ## Members -/

namespace IsEnclosingChain

variable {ref outer : Ref} {members : List Ref}

/-- An enclosing chain is the walk outwards. -/
theorem isWalk (hchain : tree.IsEnclosingChain ref members) : IsWalk tree.enclosing? ref members :=
  ⟨hchain.starts, hchain.linked, hchain.nodup, hchain.closed⟩

theorem ref_mem (hchain : tree.IsEnclosingChain ref members) : ref ∈ members :=
  hchain.isWalk.start_mem

/-- Everything a member is enclosed by is a member. -/
theorem enclosing_mem (hchain : tree.IsEnclosingChain ref members) {member : Ref}
    (hmember : member ∈ members) (houter : tree.enclosing? member = some outer) :
    outer ∈ members := by
  obtain ⟨before, after, rfl⟩ := List.append_of_mem hmember
  cases after with
  | nil => exact hchain.closed member (by simp) outer houter
  | cons next rest =>
      have hlinked := (List.isChain_append.mp hchain.linked).2.1
      have hnext := (List.isChain_cons_cons.mp hlinked).1
      rw [houter] at hnext
      cases hnext
      simp

theorem surrounds_of_mem (hchain : tree.IsEnclosingChain ref members) (hmem : outer ∈ members) :
    tree.Surrounds ref outer := by
  cases members with
  | nil => contradiction
  | cons first rest =>
      cases hchain.starts
      have hlinked := hchain.linked
      clear hchain
      induction rest generalizing ref with
      | nil =>
          rw [List.mem_singleton.mp hmem]
          exact Relation.ReflTransGen.refl
      | cons next rest ih =>
          obtain ⟨hnext, hrest⟩ := List.isChain_cons_cons.mp hlinked
          rcases List.mem_cons.mp hmem with rfl | hmem
          · exact Relation.ReflTransGen.refl
          · exact Relation.ReflTransGen.head hnext (ih hmem hrest)

/-- The members are what stands around the declaration at any distance. -/
theorem mem_iff (hchain : tree.IsEnclosingChain ref members) :
    outer ∈ members ↔ tree.Surrounds ref outer := by
  constructor
  · exact hchain.surrounds_of_mem
  · intro hsurrounds
    induction hsurrounds with
    | refl => exact hchain.ref_mem
    | tail _ hstep ih => exact hchain.enclosing_mem ih hstep

/-- A declaration has one enclosing chain. -/
theorem unique {others : List Ref} (hchain : tree.IsEnclosingChain ref members)
    (hother : tree.IsEnclosingChain ref others) : members = others :=
  hchain.isWalk.unique hother.isWalk

/-- The second member of a chain is what stands right around the first. -/
theorem head?_tail (hchain : tree.IsEnclosingChain ref members) :
    members.tail.head? = tree.enclosing? ref := by
  obtain ⟨starts, linked, -, closed⟩ := hchain
  match members, starts with
  | [_], rfl =>
      cases houter : tree.enclosing? ref with
      | none => rfl
      | some outer =>
          have hmem := closed ref rfl outer houter
          rw [List.mem_singleton.mp hmem] at houter
          exact absurd houter (enclosing?_ne_self ref)
  | _ :: next :: rest, rfl => exact (List.isChain_cons_cons.mp linked).1.symm

/-- The chain of the next declaration outwards is the rest of the chain. Only if the
nesting is circular through the declaration itself does that chain come back to it. -/
theorem of_enclosing (hchain : tree.IsEnclosingChain ref members)
    (houter : tree.enclosing? ref = some outer) :
    ∃ rest, members = ref :: rest ∧
      (tree.IsEnclosingChain outer rest ∨ tree.IsEnclosingChain outer (rest ++ [ref])) := by
  obtain ⟨starts, linked, nodup, closed⟩ := hchain
  match members, starts with
  | [_], rfl =>
      have hmem := closed ref rfl outer houter
      rw [List.mem_singleton.mp hmem] at houter
      exact absurd houter (enclosing?_ne_self ref)
  | _ :: next :: rest, rfl =>
      obtain ⟨hnext, hrest⟩ := List.isChain_cons_cons.mp linked
      obtain ⟨hnew, hnodup⟩ := List.nodup_cons.mp nodup
      cases houter.symm.trans hnext
      refine ⟨outer :: rest, rfl, ?_⟩
      -- Where the last member leads back to `ref`, the chain of `outer` ends with `ref`.
      by_cases hcircle : ∃ last ∈ (outer :: rest).getLast?, tree.enclosing? last = some ref
      · refine Or.inr ⟨rfl, ?_, ?_, ?_⟩
        · refine List.isChain_append.mpr ⟨hrest, List.isChain_singleton ref, ?_⟩
          rintro last hlast _ ⟨⟩
          obtain ⟨last', hlast', hcircle⟩ := hcircle
          cases Option.mem_unique hlast hlast'
          exact hcircle
        · rw [List.nodup_append_comm]
          exact nodup
        · intro last hlast around haround
          rw [List.getLast?_concat] at hlast
          cases hlast
          cases houter.symm.trans haround
          exact List.mem_cons_self
      · refine Or.inl ⟨rfl, hrest, hnodup, ?_⟩
        intro last hlast around haround
        have hmem := closed last (by rw [List.getLast?_cons_cons]; exact hlast) around haround
        rcases List.mem_cons.mp hmem with rfl | hmem
        · exact absurd ⟨last, hlast, haround⟩ hcircle
        · exact hmem

end IsEnclosingChain

theorem mem_chain {ref outer : Ref} :
    outer ∈ (tree.chain ref).members ↔ tree.Surrounds ref outer :=
  (tree.chain_isEnclosingChain ref).mem_iff

end RouteSurvey.Declaration.Tree
