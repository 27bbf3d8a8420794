import Mathlib.Order.Defs.Unbundled
import RouteSurvey.Proofs.Name
import RouteSurvey.TypeRef

/-! # What a type reference can stand for

A reference names a candidate if the two agree in their simple names and the reference is the
end of the candidate, with a separator or nothing in front of it. This is one rule for bare
words, paths and whole names, so naming is a partial order on all names, well formed or not.
-/

namespace RouteSurvey

namespace TypeRef

theorem isTrailingPath_iff {short long : List Char} :
    isTrailingPath short long ↔ ∃ head, Name.endsInSeparator head ∧ long = head ++ short := by
  rw [isTrailingPath, Bool.and_eq_true, List.isSuffixOf_iff_suffix]
  constructor
  · rintro ⟨⟨head, rfl⟩, hends⟩
    exact ⟨head, by simpa using hends, rfl⟩
  · rintro ⟨head, hends, rfl⟩
    exact ⟨List.suffix_append head short, by simpa using hends⟩

/-- Bare or qualified, a reference names what has its simple name and ends in it. -/
theorem names_iff {type : TypeRef} {candidate : String} :
    type.names candidate ↔ RouteSurvey.simpleName type.name = RouteSurvey.simpleName candidate ∧
      ∃ head, Name.IsBoundary head ∧ candidate.toList = head ++ type.name.toList := by
  rw [names, Bool.or_eq_true, beq_iff_eq]
  constructor
  · rintro (rfl | hother)
    · exact ⟨rfl, [], Or.inl rfl, rfl⟩
    · split at hother
      next hqualified =>
        obtain ⟨head, hends, heq⟩ := isTrailingPath_iff.mp hother
        exact ⟨(simpleName_eq_of_append hqualified heq).symm, head, Or.inr hends, heq⟩
      next hbare =>
        have hname : type.name = RouteSurvey.simpleName candidate := eq_of_beq hother
        refine ⟨(simpleName_of_not_isQualified hbare).trans hname, ?_⟩
        rw [hname, RouteSurvey.simpleName, String.toList_ofList]
        exact Name.exists_head candidate.toList
  · rintro ⟨hsimple, head, rfl | hends, heq⟩
    · exact Or.inl (String.toList_inj.mp heq.symm)
    · right
      split
      next => exact isTrailingPath_iff.mpr ⟨head, hends, heq⟩
      next hbare => rw [← hsimple, simpleName_of_not_isQualified hbare, beq_self_eq_true]

example : ¬ (plain "dels::User").names "crate::models::User" := by decide

theorem names_trans {first second third : String} (hfirst : (plain first).names second)
    (hsecond : (plain second).names third) : (plain first).names third := by
  obtain ⟨hsimple, head, hhead, heq⟩ := names_iff.mp hfirst
  obtain ⟨hsimple', front, hfront, heq'⟩ := names_iff.mp hsecond
  refine names_iff.mpr ⟨hsimple.trans hsimple', front ++ head, hfront.append hhead, ?_⟩
  rw [heq', List.append_assoc]
  exact congrArg (front ++ ·) heq

theorem names_antisymm {first second : String} (hfirst : (plain first).names second)
    (hsecond : (plain second).names first) : first = second := by
  obtain ⟨-, head, -, heq⟩ := names_iff.mp hfirst
  obtain ⟨-, front, -, heq'⟩ := names_iff.mp hsecond
  -- Each is an end of the other.
  have hends : first.toList <:+ second.toList := ⟨head, heq.symm⟩
  have hends' : second.toList <:+ first.toList := ⟨front, heq'.symm⟩
  exact String.toList_inj.mp (hends.eq_of_length_le hends'.length_le)

/-- Naming is a partial order, and what a reference names has its simple name. -/
theorem names_isPartialOrder :
    IsPartialOrder String (fun reference candidate => (plain reference).names candidate) ∧
      ∀ reference candidate : String, (plain reference).names candidate →
        RouteSurvey.simpleName reference = RouteSurvey.simpleName candidate := by
  refine ⟨{ refl := ?_, trans := ?_, antisymm := ?_ }, ?_⟩
  · exact fun name => names_iff.mpr ⟨rfl, [], Or.inl rfl, rfl⟩
  · exact fun first second third => names_trans
  · exact fun first second => names_antisymm
  · exact fun reference candidate hnames => (names_iff.mp hnames).1

theorem names_isPartialOrder_user :
    (plain "User").names ":::User" ∧ (plain ":::User").names "crate.:::User" ∧
      (plain "User").names "crate.:::User" ∧
        RouteSurvey.simpleName "User" = RouteSurvey.simpleName "crate.:::User" := by
  have hfirst : (plain "User").names ":::User" := by decide
  have hsecond : (plain ":::User").names "crate.:::User" := by decide
  have hnames := names_isPartialOrder.1.trans _ _ _ hfirst hsecond
  exact ⟨hfirst, hsecond, hnames, names_isPartialOrder.2 _ _ hnames⟩

end TypeRef

end RouteSurvey
