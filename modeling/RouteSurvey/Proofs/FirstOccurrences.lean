import Mathlib.Data.List.Induction
import Mathlib.Data.List.Nodup

/-! # First occurrences

Erasing duplicates keeps the first occurrence of each item. Adding an item at the end
therefore matters only if the item is new.
-/

namespace RouteSurvey

variable {α : Type} [DecidableEq α]

theorem eraseDups_concat_of_mem {items : List α} {item : α} (hmem : item ∈ items) :
    (items ++ [item]).eraseDups = items.eraseDups := by
  simp [List.eraseDups_append, List.removeAll, hmem]

theorem eraseDups_concat_of_notMem {items : List α} {item : α} (hnew : item ∉ items) :
    (items ++ [item]).eraseDups = items.eraseDups ++ [item] := by
  simp [List.eraseDups_append, List.removeAll, hnew, List.eraseDups_cons]

theorem eraseDups_append_of_subset {items more : List α} (hsubset : more ⊆ items) :
    (items ++ more).eraseDups = items.eraseDups := by
  have hnone : more.removeAll items = [] := by
    apply List.filter_eq_nil_iff.mpr
    intro item hitem
    simp [hsubset hitem]
  rw [List.eraseDups_append, hnone, List.eraseDups_nil, List.append_nil]

theorem eraseDups_filter (p : α → Bool) (items : List α) :
    (items.filter p).eraseDups = items.eraseDups.filter p := by
  induction items using List.reverseRecOn with
  | nil => rfl
  | append_singleton items item ih =>
      cases hp : p item with
      | false =>
          rw [List.filter_append, List.filter_cons_of_neg (by simp [hp]), List.filter_nil,
            List.append_nil, ih]
          by_cases hmem : item ∈ items
          · rw [eraseDups_concat_of_mem hmem]
          · rw [eraseDups_concat_of_notMem hmem, List.filter_append,
              List.filter_cons_of_neg (by simp [hp]), List.filter_nil, List.append_nil]
      | true =>
          rw [List.filter_append, List.filter_cons_of_pos hp, List.filter_nil]
          by_cases hmem : item ∈ items
          · rw [eraseDups_concat_of_mem hmem, eraseDups_concat_of_mem, ih]
            exact List.mem_filter.mpr ⟨hmem, hp⟩
          · rw [eraseDups_concat_of_notMem hmem, eraseDups_concat_of_notMem, ih,
              List.filter_append, List.filter_cons_of_pos hp, List.filter_nil]
            exact fun hkept => hmem (List.mem_filter.mp hkept).1

/-- Of the items behind others only those that are new are kept. -/
theorem eraseDups_append_eq_filter (items more : List α) :
    (items ++ more).eraseDups =
      items.eraseDups ++ more.eraseDups.filter (· ∉ items.eraseDups) := by
  rw [List.eraseDups_append, List.removeAll, eraseDups_filter]
  refine congrArg (_ ++ ·) (List.filter_congr fun item _ => ?_)
  simp [List.mem_eraseDups]

theorem eraseDups_of_nodup {items : List α} (hnodup : items.Nodup) : items.eraseDups = items := by
  induction items using List.reverseRecOn with
  | nil => rfl
  | append_singleton items item ih =>
      obtain ⟨hitems, -, hapart⟩ := List.nodup_append.mp hnodup
      have hnew : item ∉ items := by
        intro hmem
        exact hapart item hmem item (List.mem_singleton_self item) rfl
      rw [eraseDups_concat_of_notMem hnew, ih hitems]

/-- Among the items that satisfy `p`, those kept stand as they come first in the whole list. -/
theorem pairwise_idxOf_eraseDups_filter (p : α → Bool) (items : List α) :
    (items.filter p).eraseDups.Pairwise fun first second =>
      items.idxOf first < items.idxOf second := by
  induction items using List.reverseRecOn with
  | nil => exact List.Pairwise.nil
  | append_singleton items item ih =>
      have hkept : ∀ kept ∈ (items.filter p).eraseDups, kept ∈ items := fun kept hmem =>
        (List.mem_filter.mp (List.mem_eraseDups.mp hmem)).1
      have hearlier : (items.filter p).eraseDups.Pairwise fun first second =>
          (items ++ [item]).idxOf first < (items ++ [item]).idxOf second := by
        refine ih.imp_of_mem fun {first second} hfirst hsecond hlt => ?_
        rw [List.idxOf_append_of_mem (hkept first hfirst),
          List.idxOf_append_of_mem (hkept second hsecond)]
        exact hlt
      cases hp : p item with
      | false =>
          rw [List.filter_append, List.filter_cons_of_neg (by simp [hp]), List.filter_nil,
            List.append_nil]
          exact hearlier
      | true =>
          rw [List.filter_append, List.filter_cons_of_pos hp, List.filter_nil]
          by_cases hmem : item ∈ items.filter p
          · rw [eraseDups_concat_of_mem hmem]
            exact hearlier
          · rw [eraseDups_concat_of_notMem hmem]
            have hnew : item ∉ items := fun hold => hmem (List.mem_filter.mpr ⟨hold, hp⟩)
            refine List.pairwise_append.mpr ⟨hearlier, List.pairwise_singleton _ _, ?_⟩
            intro first hfirst last hlast
            rw [List.mem_singleton.mp hlast, List.idxOf_append_of_mem (hkept first hfirst),
              List.idxOf_append_of_notMem hnew]
            have hlt := List.idxOf_lt_length_of_mem (hkept first hfirst)
            omega

theorem nodup_eraseDups (items : List α) : items.eraseDups.Nodup := by
  induction items using List.reverseRecOn with
  | nil => exact List.nodup_nil
  | append_singleton items item ih =>
      by_cases hmem : item ∈ items
      · rw [eraseDups_concat_of_mem hmem]
        exact ih
      · rw [eraseDups_concat_of_notMem hmem]
        refine List.nodup_append.mpr ⟨ih, List.nodup_singleton item, ?_⟩
        intro kept hkept last hlast
        rw [List.mem_singleton.mp hlast]
        exact fun heq => hmem (heq ▸ List.mem_eraseDups.mp hkept)

end RouteSurvey
