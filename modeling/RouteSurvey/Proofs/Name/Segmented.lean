import RouteSurvey.Proofs.Text.Segments
import RouteSurvey.Proofs.TypeRef

/-! # Well-formed names

A well-formed name consists of segments with a separator between any two neighbours. It can
be read in one way only, and a type reference names it exactly if the segments and separators
of the reference are a trailing run of those of the name.
-/

namespace RouteSurvey.Name

open Text (Stops)

/-! ## Segments and separators -/

/-- A word of which no part can be taken for a separator. -/
structure Segment where
  chars : List Char
  ne_nil : chars ≠ []
  isPlainWord : IsPlainWord chars
deriving DecidableEq

/-- Segments with a separator between any two neighbours. -/
inductive Segmented where
  | last (segment : Segment)
  | cons (segment : Segment) (separator : Separator) (rest : Segmented)
deriving DecidableEq

namespace Segmented

/-- The name as it is written. -/
def chars : Segmented → List Char
  | last segment => segment.chars
  | cons segment separator rest => segment.chars ++ (separator.chars ++ rest.chars)

/-- The written name as a string. -/
def text (name : Segmented) : String :=
  String.ofList name.chars

/-- The segment behind all separators. -/
def lastSegment : Segmented → Segment
  | last segment => segment
  | cons _ _ rest => rest.lastSegment

/-- One name is what is left of another behind some of its separators, or is all of it. -/
inductive IsTrailing (short : Segmented) : Segmented → Prop
  | whole : IsTrailing short short
  | behind (segment : Segment) (separator : Separator) {rest : Segmented}
      (htail : IsTrailing short rest) : IsTrailing short (cons segment separator rest)

end Segmented

/-- The name is a well-formed one. -/
def IsWellFormed (name : String) : Prop :=
  ∃ segmented : Segmented, segmented.text = name

/-! ## Reading -/

/-- The character can be part of a separator. -/
def IsMark (c : Char) : Prop :=
  c = '.' ∨ c = ':'

theorem Separator.isMark {separator : Separator} : ∀ c ∈ separator.chars, IsMark c := by
  cases separator <;> simp [chars, IsMark]

theorem Separator.chars_ne_nil (separator : Separator) : separator.chars ≠ [] := by
  cases separator <;> exact List.cons_ne_nil _ _

theorem Separator.stops (separator : Separator) (rest : List Char) :
    Stops (fun c => ¬ IsMark c) (separator.chars ++ rest) := by
  cases separator <;> exact Text.stops_cons _ (by simp [IsMark])

theorem Separator.chars_inj {first second : Separator} (heq : first.chars = second.chars) :
    first = second := by
  cases first with
  | colons =>
      cases second with
      | colons => rfl
      | dot => contradiction
  | dot =>
      cases second with
      | colons => contradiction
      | dot => rfl

theorem Segment.not_isMark {segment : Segment} : ∀ c ∈ segment.chars, ¬ IsMark c := by
  rintro c hc (rfl | rfl)
  · exact segment.isPlainWord.1 hc
  · exact segment.isPlainWord.2 hc

theorem Segment.stops (segment : Segment) (rest : List Char) :
    Stops IsMark (segment.chars ++ rest) := by
  obtain ⟨c, more, hchars⟩ := List.exists_cons_of_ne_nil segment.ne_nil
  rw [hchars, List.cons_append]
  exact Text.stops_cons _ (segment.not_isMark c (hchars ▸ List.mem_cons_self))

theorem Segment.chars_inj {first second : Segment} (heq : first.chars = second.chars) :
    first = second := by
  cases first
  cases second
  cases heq
  rfl

namespace Segmented

theorem stops_chars (name : Segmented) : Stops IsMark name.chars := by
  cases name with
  | last segment => simpa [chars] using segment.stops []
  | cons segment separator rest => exact segment.stops _

/-- Behind a separator the name begins with the first character that is no mark. -/
theorem chars_inj_of_separator {first second : List Char} {name other : Segmented}
    (hfirst : ∀ c ∈ first, IsMark c) (hsecond : ∀ c ∈ second, IsMark c)
    (heq : first ++ name.chars = second ++ other.chars) :
    first = second ∧ name.chars = other.chars :=
  Text.append_inj_of_stops hfirst hsecond name.stops_chars other.stops_chars heq

theorem chars_last_ne_chars_cons (segment segment' : Segment) (separator : Separator)
    (rest : Segmented) : (last segment).chars ≠ (cons segment' separator rest).chars := by
  intro heq
  obtain ⟨-, hnothing⟩ := Text.append_inj_of_stops segment.not_isMark segment'.not_isMark
    (Text.stops_nil _) (separator.stops rest.chars) ((List.append_nil _).trans heq)
  exact separator.chars_ne_nil (List.append_eq_nil_iff.mp hnothing.symm).1

theorem chars_inj {first second : Segmented} (heq : first.chars = second.chars) :
    first = second := by
  induction first generalizing second with
  | last segment =>
      cases second with
      | last segment' => rw [Segment.chars_inj heq]
      | cons segment' separator' rest' => exact absurd heq (chars_last_ne_chars_cons _ _ _ _)
  | cons segment separator rest ih =>
      cases second with
      | last segment' => exact absurd heq.symm (chars_last_ne_chars_cons _ _ _ _)
      | cons segment' separator' rest' =>
          obtain ⟨hsegment, htail⟩ := Text.append_inj_of_stops segment.not_isMark
            segment'.not_isMark (separator.stops _) (separator'.stops _) heq
          obtain ⟨hseparator, hrest⟩ :=
            chars_inj_of_separator separator.isMark separator'.isMark htail
          rw [Segment.chars_inj hsegment, Separator.chars_inj hseparator, ih hrest]

theorem text_inj {first second : Segmented} (heq : first.text = second.text) : first = second :=
  chars_inj (String.ofList_injective heq)

/-! ## Trailing runs -/

variable {reference candidate : Segmented}

theorem isTrailing_lastSegment (name : Segmented) : (last name.lastSegment).IsTrailing name := by
  induction name with
  | last segment => exact .whole
  | cons segment separator rest ih => exact .behind segment separator ih

theorem IsTrailing.lastSegment_eq (htrailing : reference.IsTrailing candidate) :
    reference.lastSegment = candidate.lastSegment := by
  induction htrailing with
  | whole => rfl
  | behind segment separator htail ih => exact ih

theorem IsTrailing.exists_head (htrailing : reference.IsTrailing candidate) :
    ∃ head, IsBoundary head ∧ candidate.chars = head ++ reference.chars := by
  induction htrailing with
  | whole => exact ⟨[], Or.inl rfl, rfl⟩
  | behind segment separator htail ih =>
      obtain ⟨head, hhead, heq⟩ := ih
      have hsegment : IsBoundary (segment.chars ++ separator.chars) :=
        Or.inr (endsInSeparator_iff.mpr ⟨segment.chars, separator, rfl⟩)
      refine ⟨segment.chars ++ separator.chars ++ head, hsegment.append hhead, ?_⟩
      rw [chars, heq, List.append_assoc, List.append_assoc]

/-- What is written behind some separator of a name is a trailing run of it, even if the
separator is looked for among the characters and not among the separators of the name. -/
theorem isTrailing_of_append {front : List Char} {separator : Separator}
    (heq : candidate.chars = front ++ (separator.chars ++ reference.chars)) :
    reference.IsTrailing candidate := by
  induction candidate generalizing front with
  | last segment =>
      obtain ⟨c, hc⟩ := List.exists_mem_of_ne_nil _ separator.chars_ne_nil
      have hmem : c ∈ segment.chars := by
        rw [chars] at heq
        rw [heq]
        exact List.mem_append_right _ (List.mem_append_left _ hc)
      exact absurd (separator.isMark c hc) (segment.not_isMark c hmem)
  | cons segment separator' rest ih =>
      -- If no more than one separator is in front, then what follows it is all that follows.
      have hnext (hchars : reference.chars = rest.chars) :
          reference.IsTrailing (cons segment separator' rest) :=
        .behind segment separator' (chars_inj hchars ▸ .whole)
      rcases List.append_eq_append_iff.mp heq with
        ⟨middle, -, hmiddle⟩ | ⟨middle, hsegment, hmiddle⟩
      · rcases List.append_eq_append_iff.mp hmiddle with
          ⟨further, -, hfurther⟩ | ⟨marks, hmarks, hrest⟩
        · exact .behind segment separator' (ih hfurther)
        · have hismark : ∀ c ∈ marks, IsMark c := fun c hc =>
            separator'.isMark c (hmarks ▸ List.mem_append_right _ hc)
          exact hnext (chars_inj_of_separator separator.isMark hismark hrest).2
      · have hplain : ∀ c ∈ middle, ¬ IsMark c := fun c hc =>
          segment.not_isMark c (hsegment ▸ List.mem_append_right _ hc)
        obtain ⟨-, htail⟩ := Text.append_inj_of_stops (List.forall_mem_nil _) hplain
          (separator.stops _) (separator'.stops _) ((List.nil_append _).trans hmiddle)
        exact hnext (chars_inj_of_separator separator.isMark separator'.isMark htail).2

theorem simpleName_text (name : Segmented) :
    simpleName name.text = String.ofList name.lastSegment.chars := by
  obtain ⟨head, hhead, heq⟩ := name.isTrailing_lastSegment.exists_head
  rw [simpleName, text, String.toList_ofList, heq, chars]
  rcases hhead with rfl | hends
  · rw [List.nil_append, afterSeparators_of_not_hasSeparator]
    exact not_hasSeparator_of_isPlainWord name.lastSegment.isPlainWord
  · obtain ⟨front, separator, rfl⟩ := endsInSeparator_iff.mp hends
    rw [afterSeparators_append_separator front separator name.lastSegment.isPlainWord]

end Segmented

/-! ## Naming -/

theorem names_text_iff {type : TypeRef} {reference candidate : Segmented}
    (htype : type.name = reference.text) :
    type.names candidate.text ↔ reference.IsTrailing candidate := by
  rw [TypeRef.names_iff, htype, Segmented.simpleName_text, Segmented.simpleName_text,
    Segmented.text, Segmented.text, String.toList_ofList, String.toList_ofList]
  constructor
  · rintro ⟨-, head, rfl | hends, heq⟩
    · rw [Segmented.chars_inj heq]
      exact .whole
    · obtain ⟨front, separator, rfl⟩ := endsInSeparator_iff.mp hends
      rw [List.append_assoc] at heq
      exact Segmented.isTrailing_of_append heq
  · exact fun htrailing => ⟨by rw [htrailing.lastSegment_eq], htrailing.exists_head⟩

end RouteSurvey.Name
