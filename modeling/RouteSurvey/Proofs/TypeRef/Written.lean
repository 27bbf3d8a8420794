import RouteSurvey.Proofs.Text.Segments
import RouteSurvey.TypeRef

/-! # Written types

The written form of a type shows where each name in it ends, unless a name has one of the
marks that stand between names. So types without such names are told apart by their written
forms, however deep their arguments are nested.
-/

namespace RouteSurvey.TypeRef

open Text (Stops)

/-- A mark that the written form puts between names. -/
def IsDelimiter (c : Char) : Prop :=
  c = '<' ∨ c = '>' ∨ c = ','

instance (c : Char) : Decidable (IsDelimiter c) :=
  inferInstanceAs (Decidable (_ ∨ _ ∨ _))

/-- No name in the type has a delimiter, at any depth. A name may be empty. -/
inductive HasPlainNames : TypeRef → Prop
  | mk {name : String} {args : List TypeRef} (hname : ∀ c ∈ name.toList, ¬ IsDelimiter c)
      (hargs : ∀ arg ∈ args, HasPlainNames arg) : HasPlainNames (.mk name args)

theorem HasPlainNames.plain {name : String} (hname : ∀ c ∈ name.toList, ¬ IsDelimiter c) :
    (TypeRef.plain name).HasPlainNames :=
  .mk hname (List.forall_mem_nil _)

/-- What follows a type ends the list that the type stands in, or goes on with it. -/
def Closes (rest : List Char) : Prop :=
  ∀ c ∈ rest.head?, c = '>' ∨ c = ','

theorem closes_cons {c : Char} (rest : List Char) (hc : c = '>' ∨ c = ',') :
    Closes (c :: rest) := by
  rintro _ ⟨⟩
  exact hc

theorem closes_restChars (args : List TypeRef) (rest : List Char) :
    Closes (restChars args ++ '>' :: rest) := by
  cases args with
  | nil => exact closes_cons rest (Or.inl rfl)
  | cons arg args => exact closes_cons _ (Or.inr rfl)

/-- The arguments with the brackets around them, if there are any. -/
def argChars : List TypeRef → List Char
  | [] => []
  | arg :: args => '<' :: (chars arg ++ restChars args ++ ['>'])

theorem chars_mk (name : String) (args : List TypeRef) :
    chars (.mk name args) = name.toList ++ argChars args := by
  cases args with
  | nil => rw [chars, argChars, List.append_nil]
  | cons arg args => rw [chars, argChars]

theorem argChars_cons_append (arg : TypeRef) (args : List TypeRef) (rest : List Char) :
    argChars (arg :: args) ++ rest =
      '<' :: (chars arg ++ (restChars args ++ '>' :: rest)) := by
  simp [argChars]

theorem stops_argChars (args : List TypeRef) {rest : List Char} (hrest : Closes rest) :
    Stops (fun c => ¬ IsDelimiter c) (argChars args ++ rest) := by
  cases args with
  | nil => exact fun c hc hplain => hplain (Or.inr (hrest c hc))
  | cons arg args =>
      rw [argChars_cons_append]
      exact Text.stops_cons _ (not_not_intro (Or.inl rfl))

theorem argChars_cons_append_ne {rest : List Char} (hrest : Closes rest) (arg : TypeRef)
    (args : List TypeRef) (others : List Char) : rest ≠ argChars (arg :: args) ++ others := by
  rintro rfl
  rw [argChars_cons_append] at hrest
  exact absurd (hrest '<' rfl) (by decide)

/-! ## Reading a type back -/

mutual

/-- A type ends where a list goes on or ends. -/
theorem chars_append_inj (first second : TypeRef) (hfirst : first.HasPlainNames)
    (hsecond : second.HasPlainNames) {rest others : List Char} (hrest : Closes rest)
    (hothers : Closes others) (heq : first.chars ++ rest = second.chars ++ others) :
    first = second ∧ rest = others := by
  obtain ⟨name, args⟩ := first
  obtain ⟨name', args'⟩ := second
  obtain ⟨hname, hargs⟩ := hfirst
  obtain ⟨hname', hargs'⟩ := hsecond
  rw [chars_mk, chars_mk, List.append_assoc, List.append_assoc] at heq
  obtain ⟨hnames, htails⟩ := Text.append_inj_of_stops hname hname' (stops_argChars args hrest)
    (stops_argChars args' hothers) heq
  obtain ⟨rfl, hrests⟩ := argChars_append_inj args args' hargs hargs' hrest hothers htails
  rw [String.toList_inj.mp hnames]
  exact ⟨rfl, hrests⟩

theorem argChars_append_inj (args args' : List TypeRef) (hargs : ∀ arg ∈ args, arg.HasPlainNames)
    (hargs' : ∀ arg ∈ args', arg.HasPlainNames) {rest others : List Char} (hrest : Closes rest)
    (hothers : Closes others) (heq : argChars args ++ rest = argChars args' ++ others) :
    args = args' ∧ rest = others := by
  match args, args' with
  | [], [] => exact ⟨rfl, heq⟩
  | [], arg' :: args' => exact absurd heq (argChars_cons_append_ne hrest arg' args' others)
  | arg :: args, [] => exact absurd heq.symm (argChars_cons_append_ne hothers arg args rest)
  | arg :: args, arg' :: args' =>
      rw [argChars_cons_append, argChars_cons_append] at heq
      obtain ⟨harg, hmore⟩ := List.forall_mem_cons.mp hargs
      obtain ⟨harg', hmore'⟩ := List.forall_mem_cons.mp hargs'
      obtain ⟨rfl, htails⟩ := chars_append_inj arg arg' harg harg' (closes_restChars args rest)
        (closes_restChars args' others) (List.cons.inj heq).2
      obtain ⟨rfl, hrests⟩ := restChars_append_inj args args' hmore hmore' htails
      exact ⟨rfl, hrests⟩

theorem restChars_append_inj (args args' : List TypeRef)
    (hargs : ∀ arg ∈ args, arg.HasPlainNames) (hargs' : ∀ arg ∈ args', arg.HasPlainNames)
    {rest others : List Char}
    (heq : restChars args ++ '>' :: rest = restChars args' ++ '>' :: others) :
    args = args' ∧ rest = others := by
  match args, args' with
  | [], [] => exact ⟨rfl, (List.cons.inj heq).2⟩
  | [], arg' :: args' => exact absurd (List.cons.inj heq).1 (by decide)
  | arg :: args, [] => exact absurd (List.cons.inj heq).1 (by decide)
  | arg :: args, arg' :: args' =>
      obtain ⟨harg, hmore⟩ := List.forall_mem_cons.mp hargs
      obtain ⟨harg', hmore'⟩ := List.forall_mem_cons.mp hargs'
      simp only [restChars, List.cons_append, List.append_assoc, List.cons.injEq, true_and] at heq
      obtain ⟨rfl, htails⟩ := chars_append_inj arg arg' harg harg' (closes_restChars args rest)
        (closes_restChars args' others) heq
      obtain ⟨rfl, hrests⟩ := restChars_append_inj args args' hmore hmore' htails
      exact ⟨rfl, hrests⟩

end

theorem display_inj {first second : TypeRef} (hfirst : first.HasPlainNames)
    (hsecond : second.HasPlainNames) (heq : first.display = second.display) : first = second := by
  have hend : Closes [] := by
    intro c hc
    contradiction
  refine (chars_append_inj first second hfirst hsecond hend hend ?_).1
  rw [List.append_nil, List.append_nil]
  exact String.ofList_injective heq

end RouteSurvey.TypeRef
