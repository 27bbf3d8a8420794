import Mathlib.Data.List.DropRight
import RouteSurvey.Text.Whitespace

/-! # Trimming

A text without its last characters of some kind, and what that leaves of two texts put one
behind the other. The two ends of a text can be trimmed in either order. What is trimmed away
are the blanks around a word.
-/

namespace RouteSurvey.Text

variable (p : Char → Bool)

@[simp]
theorem dropTrailing_nil : dropTrailing p [] = [] :=
  rfl

theorem dropTrailing_dropTrailing (cs : List Char) :
    dropTrailing p (dropTrailing p cs) = dropTrailing p cs :=
  List.rdropWhile_idempotent p cs

/-- Trimming reaches the text in front only if it leaves nothing of the other. -/
theorem dropTrailing_append (front rest : List Char) :
    dropTrailing p (front ++ rest) =
      if dropTrailing p rest = [] then dropTrailing p front else front ++ dropTrailing p rest := by
  simp only [dropTrailing, List.reverse_append, List.dropWhile_append, List.isEmpty_iff,
    List.reverse_eq_nil_iff]
  split <;> simp

theorem dropTrailing_cons (c : Char) (rest : List Char) :
    dropTrailing p (c :: rest) =
      if dropTrailing p rest = [] then if p c then [] else [c] else c :: dropTrailing p rest := by
  rw [← List.singleton_append, dropTrailing_append]
  refine if_congr Iff.rfl ?_ rfl
  exact List.rdropWhile_singleton p c

theorem dropWhile_dropTrailing (cs : List Char) :
    (dropTrailing p cs).dropWhile p = dropTrailing p (cs.dropWhile p) := by
  induction cs with
  | nil => rfl
  | cons c rest ih =>
      by_cases hc : p c
      · rw [List.dropWhile_cons_of_pos hc, ← ih, dropTrailing_cons]
        -- The first character goes in any case, sooner or later.
        by_cases hrest : dropTrailing p rest = [] <;> simp [hrest, hc]
      · rw [List.dropWhile_cons_of_neg hc, dropTrailing_cons]
        by_cases hrest : dropTrailing p rest = [] <;> simp [hrest, hc]

/-- Trimming takes away what satisfies `p` at the end, and nothing else. -/
theorem exists_dropTrailing (cs : List Char) :
    ∃ back, cs = dropTrailing p cs ++ back ∧ ∀ c ∈ back, p c := by
  refine ⟨cs.rtakeWhile p, (List.rdropWhile_append_rtakeWhile).symm, ?_⟩
  intro c hc
  exact List.mem_rtakeWhile_imp hc

theorem head?_dropWhile_ne {c : Char} (hc : p c) (cs : List Char) :
    (cs.dropWhile p).head? ≠ some c := by
  intro hhead
  have hnot := List.head?_dropWhile_not p cs
  rw [hhead] at hnot
  exact absurd hc (by simp [hnot])

theorem getLast?_dropTrailing_ne {c : Char} (hc : p c) (cs : List Char) :
    (dropTrailing p cs).getLast? ≠ some c := by
  rw [dropTrailing, List.getLast?_reverse]
  exact head?_dropWhile_ne p hc cs.reverse

/-! ## Blanks at both ends -/

theorem exists_trim (cs : List Char) :
    ∃ front back, cs = front ++ trim cs ++ back ∧ (∀ c ∈ front, isBlank c) ∧
      ∀ c ∈ back, isBlank c := by
  obtain ⟨back, hcs, hback⟩ := exists_dropTrailing isBlank (cs.dropWhile isBlank)
  refine ⟨cs.takeWhile isBlank, back, ?_, ?_, hback⟩
  · rw [List.append_assoc, trim, ← hcs, List.takeWhile_append_dropWhile]
  · intro c hc
    exact List.mem_takeWhile_imp hc

/-- A word without blanks is what is left of it with blanks around it. -/
theorem trim_append {front word back : List Char} (hfront : ∀ c ∈ front, isBlank c)
    (hword : ∀ c ∈ word, ¬ isBlank c) (hback : ∀ c ∈ back, isBlank c) :
    trim (front ++ word ++ back) = word := by
  have hnone : dropTrailing isBlank back = [] := List.rdropWhile_eq_nil_iff.mpr hback
  have hall : dropTrailing isBlank word = word := by
    apply List.rdropWhile_eq_self_iff.mpr
    intro hne
    exact hword _ (List.getLast_mem hne)
  rw [trim, List.append_assoc, List.dropWhile_append_of_pos hfront]
  cases word with
  | nil =>
      rw [List.nil_append, List.dropWhile_eq_nil_iff.mpr hback]
      rfl
  | cons c rest =>
      rw [List.cons_append, List.dropWhile_cons_of_neg (hword c List.mem_cons_self),
        ← List.cons_append, dropTrailing_append, if_pos hnone, hall]

end RouteSurvey.Text
