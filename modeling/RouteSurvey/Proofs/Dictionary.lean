import Mathlib.Data.List.Nodup
import RouteSurvey.Dictionary

/-! # Filling dictionaries

A dictionary does not depend on the order in which its entries were added, as long as no key
is added twice. Of several entries with one key the last one is found.
-/

namespace RouteSurvey.Dictionary

variable {α : Type}

theorem insertEntry_perm {key : String} {value : α} {entries : List (String × α)}
    (hnew : key ∉ entries.map Prod.fst) :
    (insertEntry key value entries).Perm ((key, value) :: entries) := by
  induction entries with
  | nil => exact .refl _
  | cons head rest ih =>
      obtain ⟨k, v⟩ := head
      simp only [List.map_cons, List.mem_cons, not_or] at hnew
      unfold insertEntry
      split
      next => exact .refl _
      next =>
        rw [if_neg hnew.1]
        exact ((ih hnew.2).cons (k, v)).trans (.swap (key, value) (k, v) rest)

/-- Entries with new keys are added to those that are there. -/
theorem foldl_insert_perm {entries : List (String × α)} (d : Dictionary α)
    (hnodup : (entries.map Prod.fst ++ d.entries.map Prod.fst).Nodup) :
    (entries.foldl (fun d entry => d.insert entry.1 entry.2) d).entries.Perm
      (entries ++ d.entries) := by
  induction entries generalizing d with
  | nil => exact .refl _
  | cons entry rest ih =>
      rw [List.map_cons, List.cons_append, List.nodup_cons, List.mem_append, not_or] at hnodup
      obtain ⟨⟨hlater, hnew⟩, hrest⟩ := hnodup
      have hinsert : (d.insert entry.1 entry.2).entries.Perm (entry :: d.entries) :=
        insertEntry_perm hnew
      rw [List.foldl_cons, List.cons_append]
      -- The keys of the others are new to the dictionary with this entry in it as well.
      refine (ih (d.insert entry.1 entry.2) ?_).trans ?_
      · have hkeys := (hinsert.map Prod.fst).append_left (rest.map Prod.fst)
        rw [hkeys.nodup_iff, List.map_cons, List.nodup_middle, List.nodup_cons, List.mem_append,
          not_or]
        exact ⟨⟨hlater, hnew⟩, hrest⟩
      · exact (hinsert.append_left rest).trans List.perm_middle

theorem nodup_keys (d : Dictionary α) : (d.entries.map Prod.fst).Nodup := by
  rw [List.Nodup, List.pairwise_map]
  refine d.sorted.imp fun hlt heq => ?_
  rw [heq] at hlt
  exact String.lt_irrefl _ hlt

theorem eq_of_perm {d other : Dictionary α} (hperm : d.entries.Perm other.entries) : d = other := by
  obtain ⟨entries, hsorted⟩ := d
  obtain ⟨others, hsorted'⟩ := other
  rw [Dictionary.mk.injEq]
  refine hperm.eq_of_pairwise (fun first second _ _ hlt hgt => ?_) hsorted hsorted'
  exact absurd (String.lt_trans hlt hgt) (String.lt_irrefl _)

/-- Adding the entries of a dictionary in any order gives it back. -/
theorem ofList_eq_of_perm {entries : List (String × α)} {d : Dictionary α}
    (hperm : entries.Perm d.entries) : ofList entries = d := by
  apply eq_of_perm
  have hnodup : (entries.map Prod.fst).Nodup := (hperm.map Prod.fst).nodup_iff.mpr d.nodup_keys
  have hfilled := foldl_insert_perm empty (by simpa [empty] using hnodup)
  rw [empty, List.append_nil] at hfilled
  exact hfilled.trans hperm

/-! ## Looking up -/

theorem lookup_cons_ite (first other : String) (value : α) (rest : List (String × α)) :
    ((first, value) :: rest).lookup other =
      if other = first then some value else rest.lookup other := by
  rw [List.lookup_cons]
  by_cases hother : other = first
  · rw [if_pos hother, hother, beq_self_eq_true]
  · rw [if_neg hother, beq_eq_false_iff_ne.mpr hother]

theorem lookup_insertEntry (key other : String) (value : α) (entries : List (String × α)) :
    (insertEntry key value entries).lookup other =
      if other = key then some value else entries.lookup other := by
  induction entries with
  | nil => exact lookup_cons_ite key other value []
  | cons head rest ih =>
      obtain ⟨k, v⟩ := head
      unfold insertEntry
      split
      next => exact lookup_cons_ite key other value _
      next =>
        split
        next hsame =>
          subst hsame
          rw [lookup_cons_ite, lookup_cons_ite]
          split <;> rfl
        next hne =>
          rw [lookup_cons_ite, lookup_cons_ite, ih]
          -- At most one of the two keys is the one looked for.
          by_cases hkey : other = k
          · rw [if_pos hkey, if_pos hkey, if_neg fun heq => hne (heq.symm.trans hkey)]
          · rw [if_neg hkey, if_neg hkey]

theorem get?_insert_self (d : Dictionary α) (key : String) (value : α) :
    (d.insert key value).get? key = some value :=
  (lookup_insertEntry key key value d.entries).trans (if_pos rfl)

theorem get?_insert_of_ne (d : Dictionary α) {key other : String} (value : α) (hne : other ≠ key) :
    (d.insert key value).get? other = d.get? other :=
  (lookup_insertEntry key other value d.entries).trans (if_neg hne)

/-- Entries with other keys are not found under a key. -/
theorem get?_foldl_insert {key : String} {entries : List (String × α)} (d : Dictionary α)
    (hothers : ∀ entry ∈ entries, entry.1 ≠ key) :
    (entries.foldl (fun d entry => d.insert entry.1 entry.2) d).get? key = d.get? key := by
  induction entries generalizing d with
  | nil => rfl
  | cons entry rest ih =>
      obtain ⟨hentry, hrest⟩ := List.forall_mem_cons.mp hothers
      rw [List.foldl_cons, ih _ hrest, get?_insert_of_ne d entry.2 hentry.symm]

theorem get?_ofList_of_absent {key : String} {entries : List (String × α)}
    (habsent : ∀ entry ∈ entries, entry.1 ≠ key) : (ofList entries).get? key = none :=
  get?_foldl_insert empty habsent

theorem get?_ofList_of_last {key : String} {value : α} {front back : List (String × α)}
    (hlater : ∀ entry ∈ back, entry.1 ≠ key) :
    (ofList (front ++ (key, value) :: back)).get? key = some value := by
  rw [ofList, List.foldl_append, List.foldl_cons, get?_foldl_insert _ hlater]
  exact get?_insert_self _ key value

end RouteSurvey.Dictionary
