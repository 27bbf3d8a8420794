import RouteSurvey.Source.Marking

/-! # Arguments of attributes

The arguments of an attribute are its tokens, cut at commas: each is a key, an equals sign and
an expression, or an expression alone. Whatever the parser returns was written in this way, and
what was written so it returns.
-/

namespace RouteSurvey.Source

/-! ## Runs of parsers -/

theorem Next.nothing_iff {tokens : List Token} : Next.nothing tokens ↔ tokens = [] :=
  List.isEmpty_iff

theorem Next.mark_iff (c : Char) {operator : String} (hoperator : operator.toList = [c])
    {tokens : List Token} :
    Next.mark operator tokens ↔ ∃ joint rest, tokens = .punct c joint :: rest := by
  rw [Next.mark, hoperator]
  cases tokens with
  | nil => simp [Next.marks]
  | cons token rest => cases token <;> simp [Next.marks, @eq_comm _ c]

namespace Parser

variable {α β : Type} {before after : ParserState}

theorem run_bind_eq_some_iff {parser : Parser α} {more : α → Parser β} {result : β} :
    (parser >>= more).run before = some (result, after) ↔
      ∃ found middle, parser.run before = some (found, middle) ∧
        (more found).run middle = some (result, after) := by
  exact Option.bind_eq_some_iff.trans Prod.exists

theorem run_pure_eq_some_iff {result found : α} :
    (pure found : Parser α).run before = some (result, after) ↔
      result = found ∧ after = before := by
  change some (found, before) = some (result, after) ↔ _
  rw [Option.some.injEq, Prod.mk.injEq, eq_comm, @eq_comm _ before]

theorem run_failure : (failure : Parser α).run before = none :=
  rfl

/-- What follows on a test goes on with its outcome and has all the tokens before it. -/
theorem run_next_bind (p : List Token → Bool) (more : Bool → Parser β) :
    (next p >>= more).run before = (more (p before.rest)).run before :=
  rfl

theorem run_rest_bind (more : List Token → Parser β) :
    (rest >>= more).run before = (more before.rest).run before :=
  rfl

theorem run_skip (count : Nat) :
    (skip count).run before = some ((), { before with rest := before.rest.drop count }) :=
  rfl

theorem run_expect_eq_some_iff {p : List Token → Bool} {u : Unit} :
    (expect p).run before = some (u, after) ↔ p before.rest ∧ after = before := by
  rw [expect, run_next_bind]
  cases p before.rest with
  | false =>
      constructor
      · intro hrun
        cases hrun
      · rintro ⟨hfalse, -⟩
        cases hfalse
  | true => simp [run_pure_eq_some_iff]

theorem run_mark_eq_some_iff (c : Char) {operator : String} (hoperator : operator.toList = [c])
    {u : Unit} :
    (mark operator).run before = some (u, after) ↔
      ∃ joint rest, before.rest = .punct c joint :: rest ∧
        after = { before with rest := rest } := by
  have hlength : operator.length = 1 := by
    rw [← String.length_toList, hoperator, List.length_singleton]
  simp only [mark, run_bind_eq_some_iff, run_expect_eq_some_iff, run_skip, hlength,
    Next.mark_iff c hoperator]
  grind

theorem run_anyWord_eq_some_iff {ident : Ident} :
    anyWord.run before = some (ident, after) ↔
      ∃ rest, before.rest = .ident ident :: rest ∧ after = { before with rest := rest } := by
  rw [anyWord, run_rest_bind]
  split
  next found rest hrest =>
    simp only [run_bind_eq_some_iff, run_skip, run_pure_eq_some_iff, hrest]
    grind
  next hother =>
    simp only [run_failure, reduceCtorEq, false_iff, not_exists, not_and]
    intro rest hrest
    exact absurd hrest (hother ident rest)

theorem run_name_eq_some_iff {ident : Ident} :
    name.run before = some (ident, after) ↔
      ∃ rest, before.rest = .ident ident :: rest ∧ ident.isName ∧
        after = { before with rest := rest } := by
  simp only [name, run_bind_eq_some_iff, run_expect_eq_some_iff, run_anyWord_eq_some_iff]
  constructor
  · rintro ⟨_, _, ⟨hname, rfl⟩, rest, hrest, rfl⟩
    refine ⟨rest, hrest, ?_, rfl⟩
    rwa [hrest] at hname
  · rintro ⟨rest, hrest, hname, rfl⟩
    exact ⟨(), before, ⟨by rwa [hrest], rfl⟩, rest, hrest, rfl⟩

end Parser

/-! ## Lists -/

/-- The tokens are items with commas between them; a comma may stand behind the last. -/
inductive AreListed {α : Type} (isItem : ParserState → α → ParserState → Prop) :
    ParserState → List α → Prop where
  | none {state : ParserState} : state.rest = [] → AreListed isItem state []
  | last {before after : ParserState} {item : α} : before.rest ≠ [] →
      isItem before item after → after.rest = [] → AreListed isItem before [item]
  | more {before after : ParserState} {item : α} {joint : Bool} {rest : List Token}
      {items : List α} : before.rest ≠ [] → isItem before item after →
      after.rest = .punct ',' joint :: rest → AreListed isItem { after with rest := rest } items →
      AreListed isItem before (item :: items)

section Lists

variable {α : Type} {item : Parser α} {isItem : ParserState → α → ParserState → Prop}
  {before after : ParserState} {found : List α}

theorem areListed_of_run_separatedAux
    (hitem : ∀ before found after, item.run before = some (found, after) →
      isItem before found after) {fuel : Nat}
    (hrun : (Parser.separatedAux Next.nothing (Parser.mark ",") item fuel).run before =
      some (found, after)) : AreListed isItem before found := by
  induction fuel generalizing before found with
  | zero => cases hrun
  | succ fuel ih =>
      rw [Parser.separatedAux, Parser.run_next_bind] at hrun
      split at hrun
      next hend =>
        obtain ⟨rfl, -⟩ := Parser.run_pure_eq_some_iff.mp hrun
        exact .none (Next.nothing_iff.mp hend)
      next hmore =>
        have hne : before.rest ≠ [] := mt Next.nothing_iff.mpr hmore
        obtain ⟨first, middle, hfirst, hrun⟩ := Parser.run_bind_eq_some_iff.mp hrun
        rw [Parser.run_next_bind] at hrun
        split at hrun
        next hend =>
          obtain ⟨rfl, -⟩ := Parser.run_pure_eq_some_iff.mp hrun
          exact .last hne (hitem _ _ _ hfirst) (Next.nothing_iff.mp hend)
        next =>
          obtain ⟨_, behind, hcomma, hrun⟩ := Parser.run_bind_eq_some_iff.mp hrun
          obtain ⟨others, _, hothers, hrun⟩ := Parser.run_bind_eq_some_iff.mp hrun
          obtain ⟨rfl, rfl⟩ := Parser.run_pure_eq_some_iff.mp hrun
          obtain ⟨joint, rest, hrest, rfl⟩ := (Parser.run_mark_eq_some_iff ',' rfl).mp hcomma
          exact .more hne (hitem _ _ _ hfirst) hrest (ih hothers)

theorem areListed_of_run_list
    (hitem : ∀ before found after, item.run before = some (found, after) →
      isItem before found after)
    (hrun : (Parser.list item).run before = some (found, after)) :
    AreListed isItem before found := by
  rw [Parser.list, Parser.separated, Parser.run_rest_bind] at hrun
  exact areListed_of_run_separatedAux hitem hrun

/-- Items that are listed are read, if only the parser goes on for long enough. -/
theorem AreListed.run_separatedAux (hfound : AreListed isItem before found)
    (hitem : ∀ before found after, isItem before found after →
      item.run before = some (found, after)) {fuel : Nat} (hfuel : found.length ≤ fuel) :
    ∃ after, after.rest = [] ∧
      (Parser.separatedAux Next.nothing (Parser.mark ",") item (fuel + 1)).run before =
        some (found, after) := by
  induction hfound generalizing fuel with
  | @none state hend =>
      refine ⟨state, hend, ?_⟩
      rw [Parser.separatedAux, Parser.run_next_bind, if_pos (Next.nothing_iff.mpr hend)]
      rfl
  | @last before after _ hne hfirst hend =>
      refine ⟨after, hend, ?_⟩
      rw [Parser.separatedAux, Parser.run_next_bind, if_neg (mt Next.nothing_iff.mp hne)]
      refine Parser.run_bind_eq_some_iff.mpr ⟨_, after, hitem _ _ _ hfirst, ?_⟩
      rw [Parser.run_next_bind, if_pos (Next.nothing_iff.mpr hend)]
      rfl
  | @more before behind _ joint rest _ hne hfirst hcomma _ ih =>
      obtain ⟨fuel, rfl⟩ := Nat.exists_eq_add_one_of_ne_zero (Nat.ne_zero_of_lt hfuel)
      obtain ⟨after, hend, hrun⟩ := ih (Nat.le_of_lt_succ hfuel)
      refine ⟨after, hend, ?_⟩
      have hmore : behind.rest ≠ [] := by
        rw [hcomma]
        exact List.cons_ne_nil _ _
      rw [Parser.separatedAux, Parser.run_next_bind, if_neg (mt Next.nothing_iff.mp hne)]
      refine Parser.run_bind_eq_some_iff.mpr ⟨_, behind, hitem _ _ _ hfirst, ?_⟩
      rw [Parser.run_next_bind, if_neg (mt Next.nothing_iff.mp hmore)]
      refine Parser.run_bind_eq_some_iff.mpr
        ⟨(), _, (Parser.run_mark_eq_some_iff ',' rfl).mpr ⟨joint, rest, hcomma, rfl⟩, ?_⟩
      exact Parser.run_bind_eq_some_iff.mpr ⟨_, after, hrun, rfl⟩

/-- Every item but the last is followed by a comma, and the last has tokens before it. -/
theorem AreListed.length_le (hfound : AreListed isItem before found)
    (hitem : ∀ before found after, isItem before found after → after.rest <:+ before.rest) :
    found.length ≤ before.rest.length := by
  induction hfound with
  | none => exact Nat.zero_le _
  | last hne => exact List.length_pos_iff.mpr hne
  | more _ hfirst hcomma _ ih =>
      have hfewer := (hitem _ _ _ hfirst).length_le
      rw [hcomma] at hfewer
      exact Nat.le_trans (Nat.succ_le_succ ih) hfewer

theorem AreListed.run_list (hfound : AreListed isItem before found)
    (hitem : ∀ before found after, isItem before found after →
      item.run before = some (found, after)) :
    ∃ after, after.rest = [] ∧ (Parser.list item).run before = some (found, after) := by
  have hlength := hfound.length_le fun before found after hfirst =>
    item.rest_suffix (hitem before found after hfirst)
  rw [Parser.list, Parser.separated, Parser.run_rest_bind]
  exact hfound.run_separatedAux hitem hlength

end Lists

/-! ## Arguments -/

/-- The tokens are a key and an equals sign, and others behind them. -/
def BeginsWithKey (tokens : List Token) (key : Ident) (rest : List Token) : Prop :=
  key.isName ∧ ∃ joint, tokens = .ident key :: .punct '=' joint :: rest

/-- An argument stands at the front: a key, an equals sign and an expression, or else an
expression alone, which counts for the default key. -/
inductive IsArgument (g : Grammar) : ParserState → MarkerArgument → ParserState → Prop where
  | keyed {before after : ParserState} {key : Ident} {rest : List Token} {form : ExprForm} :
      BeginsWithKey before.rest key rest →
      (g.expr true).run { before with rest := rest } = some (form, after) →
      IsArgument g before ⟨key.text, form.expr⟩ after
  | alone {before after : ParserState} {form : ExprForm} :
      (∀ key rest, ¬ BeginsWithKey before.rest key rest) →
      (g.expr true).run before = some (form, after) →
      IsArgument g before ⟨MarkerArgument.defaultKey, form.expr⟩ after

theorem exists_beginsWithKey_iff {tokens : List Token} :
    (∃ key rest, BeginsWithKey tokens key rest) ↔
      Next.name tokens && Next.mark "=" (tokens.drop 1) := by
  rw [Bool.and_eq_true, Next.mark_iff '=' rfl]
  constructor
  · rintro ⟨key, rest, hname, joint, rfl⟩
    exact ⟨hname, joint, rest, rfl⟩
  · rintro ⟨hname, joint, rest, hrest⟩
    cases tokens with
    | nil => cases hname
    | cons token more =>
        cases token with
        | ident key =>
            refine ⟨key, rest, hname, joint, ?_⟩
            rw [← hrest]
            rfl
        | _ => cases hname

theorem isArgument_of_run {g : Grammar} {before after : ParserState} {argument : MarkerArgument}
    (hrun : g.markerArgument.run before = some (argument, after)) :
    IsArgument g before argument after := by
  rw [Grammar.markerArgument, Parser.run_next_bind] at hrun
  split at hrun
  next hkeyed =>
    obtain ⟨key, middle, hkey, hrun⟩ := Parser.run_bind_eq_some_iff.mp hrun
    obtain ⟨_, behind, hmark, hrun⟩ := Parser.run_bind_eq_some_iff.mp hrun
    obtain ⟨form, _, hform, hrun⟩ := Parser.run_bind_eq_some_iff.mp hrun
    obtain ⟨rfl, rfl⟩ := Parser.run_pure_eq_some_iff.mp hrun
    obtain ⟨tokens, hbefore, hname, rfl⟩ := Parser.run_name_eq_some_iff.mp hkey
    obtain ⟨joint, rest, hequals, rfl⟩ := (Parser.run_mark_eq_some_iff '=' rfl).mp hmark
    refine .keyed ⟨hname, joint, ?_⟩ hform
    rw [hbefore]
    exact congrArg _ hequals
  next hnot =>
    obtain ⟨form, _, hform, hrun⟩ := Parser.run_bind_eq_some_iff.mp hrun
    obtain ⟨rfl, rfl⟩ := Parser.run_pure_eq_some_iff.mp hrun
    refine .alone ?_ hform
    intro key rest hkey
    exact hnot (exists_beginsWithKey_iff.mp ⟨key, rest, hkey⟩)

theorem IsArgument.run_eq {g : Grammar} {before after : ParserState} {argument : MarkerArgument}
    (hargument : IsArgument g before argument after) :
    g.markerArgument.run before = some (argument, after) := by
  rw [Grammar.markerArgument, Parser.run_next_bind]
  cases hargument with
  | @keyed _ key rest form hkey hform =>
      rw [if_pos (exists_beginsWithKey_iff.mp ⟨key, rest, hkey⟩)]
      obtain ⟨hname, joint, hbefore⟩ := hkey
      have hread := Parser.run_name_eq_some_iff.mpr ⟨_, hbefore, hname, rfl⟩
      refine Parser.run_bind_eq_some_iff.mpr ⟨key, _, hread, ?_⟩
      refine Parser.run_bind_eq_some_iff.mpr
        ⟨(), _, (Parser.run_mark_eq_some_iff '=' rfl).mpr ⟨joint, rest, rfl, rfl⟩, ?_⟩
      exact Parser.run_bind_eq_some_iff.mpr ⟨form, after, hform, rfl⟩
  | @alone _ form hnone hform =>
      have hnot : ¬ ∃ key rest, BeginsWithKey before.rest key rest := by
        rintro ⟨key, rest, hkey⟩
        exact hnone key rest hkey
      rw [if_neg (mt exists_beginsWithKey_iff.mpr hnot)]
      exact Parser.run_bind_eq_some_iff.mpr ⟨form, after, hform, rfl⟩

namespace Attribute

/-- The arguments that an attribute is written with: none, a value, or those in brackets. -/
inductive Content.Holds : Content → List MarkerArgument → Prop where
  | bare : Holds .bare []
  | value (expr : Expr) : Holds (.value expr) [⟨MarkerArgument.defaultKey, expr⟩]
  | arguments {tokens : List Token} {arguments : List MarkerArgument} :
      AreListed (IsArgument (Grammar.level (8 * Token.totalSize tokens + 8))) { rest := tokens }
        arguments →
      Holds (.arguments tokens) arguments

/-- The arguments that can be read are those that are there. -/
theorem arguments?_eq_some_iff {attr : Attribute} {arguments : List MarkerArgument} :
    attr.arguments? = some arguments ↔ attr.content.Holds arguments := by
  rw [arguments?]
  cases attr.content with
  | bare =>
      constructor
      · intro hread
        cases hread
        exact .bare
      · intro hholds
        cases hholds
        rfl
  | value expr =>
      constructor
      · intro hread
        cases hread
        exact .value expr
      · intro hholds
        cases hholds
        rfl
  | arguments tokens =>
      constructor
      · intro hread
        simp only [Grammar.readAll?, Option.bind_eq_bind, Option.bind_eq_some_iff] at hread
        obtain ⟨⟨found, after⟩, hrun, hfound⟩ := hread
        split at hfound <;> cases hfound
        exact .arguments (areListed_of_run_list (fun _ _ _ => isArgument_of_run) hrun)
      · intro hholds
        cases hholds with
        | arguments hlisted =>
            obtain ⟨after, hend, hrun⟩ := hlisted.run_list fun _ _ _ => IsArgument.run_eq
            simp [Grammar.readAll?, hrun, hend]

theorem not_holds_of_arguments? {attr : Attribute} (hnone : attr.arguments? = none) :
    (∃ tokens, attr.content = .arguments tokens) ∧ ∀ others, ¬ attr.content.Holds others := by
  constructor
  · rw [arguments?] at hnone
    cases hcontent : attr.content with
    | bare => simp [hcontent] at hnone
    | value expr => simp [hcontent] at hnone
    | arguments tokens => exact ⟨tokens, rfl⟩
  · intro others hholds
    rw [arguments?_eq_some_iff.mpr hholds] at hnone
    cases hnone

end Attribute

end RouteSurvey.Source
