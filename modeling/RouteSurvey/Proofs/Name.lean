import Mathlib.Data.List.Basic
import RouteSurvey.Name

/-! # Simple names

The simple name is what stands behind the last separator of a name, or all of it if there is
no separator. Nothing further in front has an influence on it. A word without dots and colons
is its own simple name, also behind any path.
-/

namespace RouteSurvey

namespace Name

/-! ## Separators -/

/-- What stands between two segments of a name. -/
inductive Separator where
  | colons | dot
deriving DecidableEq, Repr

/-- The characters of a separator. -/
def Separator.chars : Separator → List Char
  | colons => [':', ':']
  | dot => ['.']

theorem endsInSeparator_iff {head : List Char} :
    endsInSeparator head ↔ ∃ front, ∃ separator : Separator, head = front ++ separator.chars := by
  constructor
  · intro hends
    unfold endsInSeparator at hends
    split at hends
    next back hback =>
      refine ⟨back.reverse, .dot, (List.reverse_eq_iff.mp hback).trans ?_⟩
      simp [Separator.chars]
    next back hback =>
      refine ⟨back.reverse, .colons, (List.reverse_eq_iff.mp hback).trans ?_⟩
      simp [Separator.chars]
    next => contradiction
  · rintro ⟨front, separator, rfl⟩
    cases separator <;> simp [endsInSeparator, Separator.chars]

theorem endsInSeparator_append (front : List Char) {head : List Char}
    (hhead : endsInSeparator head) : endsInSeparator (front ++ head) := by
  obtain ⟨more, separator, rfl⟩ := endsInSeparator_iff.mp hhead
  exact endsInSeparator_iff.mpr ⟨front ++ more, separator, (List.append_assoc _ _ _).symm⟩

/-- A name can begin behind it: nothing stands there, or a separator ends there. -/
def IsBoundary (head : List Char) : Prop :=
  head = [] ∨ endsInSeparator head

theorem IsBoundary.append {front head : List Char} (hfront : IsBoundary front)
    (hhead : IsBoundary head) : IsBoundary (front ++ head) := by
  rcases hhead with rfl | hhead
  · rwa [List.append_nil]
  · exact Or.inr (endsInSeparator_append front hhead)

theorem hasSeparator_cons_iff {c : Char} {rest : List Char} :
    hasSeparator (c :: rest) ↔
      hasSeparator rest ∨ c = '.' ∨ c = ':' ∧ ∃ tail, rest = ':' :: tail := by
  rw [hasSeparator.eq_def]
  split <;> grind

theorem hasSeparator_append (front : List Char) {name : List Char} (hname : hasSeparator name) :
    hasSeparator (front ++ name) := by
  induction front with
  | nil => exact hname
  | cons c rest ih => exact hasSeparator_cons_iff.mpr (Or.inl ih)

/-! ## Behind the last separator -/

theorem afterSeparators_cons (c : Char) {rest : List Char} (hrest : hasSeparator rest) :
    afterSeparators (c :: rest) = afterSeparators rest := by
  rw [afterSeparators.eq_def]
  exact if_pos hrest

theorem afterSeparators_append (front : List Char) {name : List Char} (hname : hasSeparator name) :
    afterSeparators (front ++ name) = afterSeparators name := by
  induction front with
  | nil => rfl
  | cons c rest ih =>
      rw [List.cons_append, afterSeparators_cons c (hasSeparator_append rest hname), ih]

theorem afterSeparators_of_not_hasSeparator {name : List Char} (hname : ¬ hasSeparator name) :
    afterSeparators name = name := by
  cases name with
  | nil => rfl
  | cons c rest =>
      rw [hasSeparator_cons_iff] at hname
      rw [afterSeparators.eq_def]
      grind

theorem exists_head_of_hasSeparator {name : List Char} (hname : hasSeparator name) :
    ∃ head, endsInSeparator head ∧ name = head ++ afterSeparators name := by
  induction name with
  | nil => contradiction
  | cons c rest ih =>
      by_cases hrest : hasSeparator rest
      · obtain ⟨head, hends, heq⟩ := ih hrest
        refine ⟨c :: head, endsInSeparator_append [c] hends, ?_⟩
        rw [afterSeparators_cons c hrest, List.cons_append, ← heq]
      · -- The only separator stands at the very front.
        rcases hasSeparator_cons_iff.mp hname with hsome | rfl | ⟨rfl, tail, rfl⟩
        · exact absurd hsome hrest
        · refine ⟨['.'], rfl, ?_⟩
          rw [afterSeparators.eq_def]
          simp [hrest]
        · refine ⟨[':', ':'], rfl, ?_⟩
          rw [afterSeparators.eq_def]
          simp [hrest]

/-- Every name ends in what stands after its last separator, which is all of it if there is
no separator. -/
theorem exists_head (name : List Char) :
    ∃ head, IsBoundary head ∧ name = head ++ afterSeparators name := by
  by_cases hname : hasSeparator name
  · obtain ⟨head, hends, heq⟩ := exists_head_of_hasSeparator hname
    exact ⟨head, Or.inr hends, heq⟩
  · refine ⟨[], Or.inl rfl, ?_⟩
    rw [afterSeparators_of_not_hasSeparator hname, List.nil_append]

/-! ## Plain words -/

/-- No character of a word can be part of a separator. -/
def IsPlainWord (word : List Char) : Prop :=
  '.' ∉ word ∧ ':' ∉ word

instance (word : List Char) : Decidable (IsPlainWord word) :=
  inferInstanceAs (Decidable (_ ∧ _))

theorem not_hasSeparator_of_isPlainWord {word : List Char} (hplain : IsPlainWord word) :
    ¬ hasSeparator word := by
  obtain ⟨hdot, hcolon⟩ := hplain
  induction word with
  | nil => exact Bool.false_ne_true
  | cons c rest ih =>
      rw [List.mem_cons, not_or] at hdot hcolon
      rw [hasSeparator_cons_iff]
      rintro (hrest | hc | ⟨hc, -⟩)
      · exact ih hdot.2 hcolon.2 hrest
      · exact hdot.1 hc.symm
      · exact hcolon.1 hc.symm

/-- One colon in front of a plain word makes no separator. -/
theorem not_hasSeparator_colon_cons {word : List Char} (hplain : IsPlainWord word) :
    ¬ hasSeparator (':' :: word) := by
  rw [hasSeparator_cons_iff]
  rintro (hword | hdot | ⟨-, tail, rfl⟩)
  · exact not_hasSeparator_of_isPlainWord hplain hword
  · exact absurd hdot (by decide)
  · exact hplain.2 List.mem_cons_self

/-- Behind any path a plain word is what stands after the last separator. -/
theorem afterSeparators_append_separator (front : List Char) (separator : Separator)
    {word : List Char} (hplain : IsPlainWord word) :
    afterSeparators (front ++ separator.chars ++ word) = word := by
  rw [List.append_assoc]
  cases separator with
  | colons =>
      rw [afterSeparators_append front rfl, Separator.chars, List.cons_append, List.cons_append,
        List.nil_append, afterSeparators.eq_def]
      simp [not_hasSeparator_colon_cons hplain]
  | dot =>
      rw [afterSeparators_append front rfl, Separator.chars, List.cons_append, List.nil_append,
        afterSeparators.eq_def]
      simp [not_hasSeparator_of_isPlainWord hplain]

end Name

/-! ## Names as strings -/

theorem simpleName_of_not_isQualified {name : String} (hname : ¬ isQualified name) :
    simpleName name = name := by
  rw [simpleName, Name.afterSeparators_of_not_hasSeparator hname, String.ofList_toList]

/-- A qualified name keeps its simple name behind any text. -/
theorem simpleName_eq_of_append {short long : String} {head : List Char}
    (hshort : isQualified short) (hlong : long.toList = head ++ short.toList) :
    simpleName long = simpleName short := by
  rw [simpleName, hlong, Name.afterSeparators_append head hshort, simpleName]

theorem simpleName_append_colons (path : String) {word : String}
    (hplain : Name.IsPlainWord word.toList) : simpleName (path ++ "::" ++ word) = word := by
  have hlast := Name.afterSeparators_append_separator path.toList .colons hplain
  rw [simpleName, String.toList_append, String.toList_append]
  exact (congrArg String.ofList hlast).trans String.ofList_toList

end RouteSurvey
