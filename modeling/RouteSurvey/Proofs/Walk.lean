import Mathlib.Data.List.Chain
import Mathlib.Data.List.Nodup

/-! # Walks

A walk goes on from one item to the next as long as there is a next one that it has not met
before. It is determined by where it begins. Where a renaming of the items goes along with
every step, the renamed walk is the walk from the renamed beginning.
-/

namespace RouteSurvey

variable {α β : Type}

/-- The items met from `start` on, up to the first that leads nowhere or back to one of them. -/
structure IsWalk (next : α → Option α) (start : α) (members : List α) : Prop where
  starts : members.head? = some start
  linked : members.IsChain fun near far => next near = some far
  nodup : members.Nodup
  /-- What the last member leads to is a member already -/
  closed : ∀ last ∈ members.getLast?, ∀ far, next last = some far → far ∈ members

/-- Two sequences of steps from one item differ in nothing but where they stop. -/
theorem isPrefix_or_isPrefix_of_head?_eq {next : α → Option α} {near far : List α}
    (hhead : near.head? = far.head?) (hnear : near.IsChain fun item other => next item = some other)
    (hfar : far.IsChain fun item other => next item = some other) :
    near <+: far ∨ far <+: near := by
  -- From the same item both sequences can only go to the same next one.
  induction near generalizing far with
  | nil => exact Or.inl List.nil_prefix
  | cons first rest ih =>
      cases far with
      | nil => exact Or.inr List.nil_prefix
      | cons first' rest' =>
          cases hhead
          simp only [List.prefix_cons_inj]
          cases rest with
          | nil => exact Or.inl List.nil_prefix
          | cons second rest =>
              cases rest' with
              | nil => exact Or.inr List.nil_prefix
              | cons second' rest' =>
                  obtain ⟨hstep, hnear⟩ := List.isChain_cons_cons.mp hnear
                  obtain ⟨hstep', hfar⟩ := List.isChain_cons_cons.mp hfar
                  exact ih (hstep.symm.trans hstep') hnear hfar

namespace IsWalk

variable {next : α → Option α} {start : α} {members : List α}

theorem start_mem (hwalk : IsWalk next start members) : start ∈ members :=
  List.mem_of_head? hwalk.starts

theorem ne_nil (hwalk : IsWalk next start members) : members ≠ [] :=
  List.ne_nil_of_mem hwalk.start_mem

/-- Where a walk ends there is no way on without repetition. -/
theorem eq_of_isPrefix {others : List α} (hwalk : IsWalk next start members)
    (hlinked : others.IsChain fun near far => next near = some far) (hnodup : others.Nodup)
    (hbegins : members <+: others) : members = others := by
  obtain ⟨more, rfl⟩ := hbegins
  cases more with
  | nil => exact (List.append_nil members).symm
  | cons item more =>
      exfalso
      obtain ⟨last, hlast⟩ : ∃ last, members.getLast? = some last :=
        ⟨_, List.getLast?_eq_some_getLast hwalk.ne_nil⟩
      have hnext := (List.isChain_append.mp hlinked).2.2 last hlast item rfl
      have hmem := hwalk.closed last hlast item hnext
      exact (List.nodup_append.mp hnodup).2.2 item hmem item List.mem_cons_self rfl

/-- Whoever goes the same way without repetition gets no further than the walk. -/
theorem isPrefix_of_linked {others : List α} (hwalk : IsWalk next start members)
    (hstarts : others.head? = some start)
    (hlinked : others.IsChain fun near far => next near = some far) (hnodup : others.Nodup) :
    others <+: members := by
  rcases isPrefix_or_isPrefix_of_head?_eq (hstarts.trans hwalk.starts.symm) hlinked hwalk.linked
    with hbegins | hbegins
  · exact hbegins
  · cases hwalk.eq_of_isPrefix hlinked hnodup hbegins
    exact hbegins

/-- There is one walk from each item. -/
theorem unique {others : List α} (hwalk : IsWalk next start members)
    (hother : IsWalk next start others) : members = others := by
  have hbegins := hother.isPrefix_of_linked hwalk.starts hwalk.linked hwalk.nodup
  exact hwalk.eq_of_isPrefix hother.linked hother.nodup hbegins

/-- A member is the last one exactly if it leads to nothing but what was met up to it. -/
theorem eq_nil_iff {before after : List α} {member : α}
    (hwalk : IsWalk next start (before ++ member :: after)) :
    after = [] ↔ ∀ far, next member = some far → far ∈ before ++ [member] := by
  constructor
  · rintro rfl
    exact hwalk.closed member (by simp)
  · intro hmet
    cases after with
    | nil => rfl
    | cons item after =>
        have hstep := (List.isChain_append_cons_cons.mp hwalk.linked).2.1
        have hnodup := hwalk.nodup
        rw [List.append_cons, List.nodup_append] at hnodup
        exact absurd rfl (hnodup.2.2 item (hmet item hstep) item List.mem_cons_self)

/-- What holds of the first item and is passed on by every step holds of every member. -/
theorem forall_mem (hwalk : IsWalk next start members) {p : α → Prop} (hstart : p start)
    (hstep : ∀ near far, next near = some far → p near → p far) : ∀ member ∈ members, p member := by
  refine List.IsChain.induction p members hwalk.linked (fun near far => hstep near far) ?_
  intro hne
  have hhead := List.head?_eq_some_head hne
  rw [hwalk.starts] at hhead
  cases hhead
  exact hstart

/-- All members but the first are reached by a step. -/
theorem exists_step_of_mem_tail (hwalk : IsWalk next start members) {member : α}
    (hmember : member ∈ members.tail) : ∃ near, next near = some member := by
  cases members with
  | nil => contradiction
  | cons first rest =>
      obtain ⟨before, after, rfl⟩ := List.append_of_mem hmember
      have hlinked := hwalk.linked
      rw [← List.cons_append, List.isChain_append] at hlinked
      exact ⟨_, hlinked.2.2 _ (List.getLast?_eq_some_getLast (List.cons_ne_nil _ _)) member rfl⟩

/-- Another way to go on makes no difference if it differs at the last member only, and does
not lead to anything new from there. -/
theorem of_eq_until_last {next' : α → Option α} {last : α} (hwalk : IsWalk next start members)
    (hlast : last ∈ members.getLast?) (hsame : ∀ near, near ≠ last → next' near = next near)
    (hclosed : ∀ far, next' last = some far → far ∈ members) : IsWalk next' start members where
  starts := hwalk.starts
  linked := by
    obtain ⟨front, rfl⟩ := List.getLast?_eq_some_iff.mp hlast
    obtain ⟨-, -, hnew⟩ := List.nodup_append.mp hwalk.nodup
    have hearlier : ∀ near ∈ front, next' near = next near := fun near hnear =>
      hsame near (hnew near hnear last (List.mem_singleton_self last))
    obtain ⟨hfront, -, hlink⟩ := List.isChain_append.mp hwalk.linked
    refine List.isChain_append.mpr ⟨?_, List.isChain_singleton last, ?_⟩
    · exact hfront.imp_of_mem_imp fun near far hnear _ hstep => (hearlier near hnear).trans hstep
    · exact fun near hnear far hfar =>
        (hearlier near (List.mem_of_getLast? hnear)).trans (hlink near hnear far hfar)
  nodup := hwalk.nodup
  closed := by
    intro last' hlast' far hfar
    cases Option.mem_unique hlast hlast'
    exact hclosed far hfar

/-- Renamed along with every step, a walk is the walk from the renamed beginning. -/
theorem map {next' : β → Option β} {rename : α → β} (hwalk : IsWalk next start members)
    (hinj : ∀ first ∈ members, ∀ second ∈ members, rename first = rename second → first = second)
    (hnext : ∀ member ∈ members, next' (rename member) = (next member).map rename) :
    IsWalk next' (rename start) (members.map rename) where
  starts := by rw [List.head?_map, hwalk.starts]; rfl
  linked := by
    rw [List.isChain_map]
    refine List.IsChain.imp_of_mem_imp (fun near far hnear _ hstep => ?_) hwalk.linked
    rw [hnext near hnear, hstep]
    rfl
  nodup := hwalk.nodup.map_on hinj
  closed := by
    intro last hlast far hfar
    rw [List.getLast?_map] at hlast
    obtain ⟨member, hmember, rfl⟩ := Option.map_eq_some_iff.mp hlast
    rw [hnext member (List.mem_of_getLast? hmember)] at hfar
    obtain ⟨item, hitem, rfl⟩ := Option.map_eq_some_iff.mp hfar
    exact List.mem_map_of_mem (hwalk.closed member hmember item hitem)

end IsWalk

end RouteSurvey
