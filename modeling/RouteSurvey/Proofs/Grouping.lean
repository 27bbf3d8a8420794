import Mathlib.Data.List.Nodup
import Mathlib.Data.List.Perm.Basic

/-! # Items by key

Where every item has one key, the groups of all keys together hold the items they were made
of, each as often as before.
-/

namespace RouteSurvey

variable {α κ : Type} [BEq κ] [LawfulBEq κ]

/-- If no key is named twice and every item has one of the keys, the groups of the keys
together hold each item as often as it occurs. -/
theorem flatMap_filter_key_perm (key : α → κ) {keys : List κ} (hkeys : keys.Nodup)
    {items : List α} (hcovered : ∀ item ∈ items, key item ∈ keys) :
    (keys.flatMap fun name => items.filter (key · == name)).Perm items := by
  induction keys generalizing items with
  | nil =>
      rw [List.eq_nil_iff_forall_not_mem.mpr fun item hitem => nomatch hcovered item hitem]
      exact List.Perm.refl _
  | cons first keys ih =>
      obtain ⟨hfirst, hkeys⟩ := List.nodup_cons.mp hkeys
      -- The other groups are made of what is left without the first one.
      have hremaining : ∀ name ∈ keys, items.filter (key · == name) =
          (items.filter fun item => !(key item == first)).filter (key · == name) := by
        intro name hname
        rw [List.filter_filter]
        apply List.filter_congr
        intro item _
        have hne : name ≠ first := fun heq => hfirst (heq ▸ hname)
        by_cases hitem : key item = name
        · simp [hitem, hne]
        · simp [hitem]
      have hothers : (keys.flatMap fun name => items.filter (key · == name)).Perm
          (items.filter fun item => !(key item == first)) := by
        rw [List.flatMap_congr hremaining]
        apply ih hkeys
        intro item hitem
        obtain ⟨hmem, hne⟩ := List.mem_filter.mp hitem
        exact (List.mem_cons.mp (hcovered item hmem)).resolve_left (by simpa using hne)
      rw [List.flatMap_cons]
      exact (hothers.append_left _).trans (List.filter_append_perm (key · == first) items)

end RouteSurvey
