import Mathlib.Data.List.Infix
import Mathlib.Tactic.MkIffOfInductiveProp
import RouteSurvey.Proofs.Http.Method
import RouteSurvey.Proofs.Text.Segments
import RouteSurvey.Report

/-! # Lines of a report

What a line of a report shows can be read off it as long as the names in it keep clear of
the marks that set them apart: bars and brackets around paths, bars and parentheses around
media types, and blanks around a name.
-/

namespace RouteSurvey

/-! ## Names that keep clear of the marks -/

@[mk_iff]
structure Param.IsLegible (param : Param) : Prop where
  type_line : '\n' ∉ param.type.toList
  name_line : '\n' ∉ param.name.toList
  default_line : ∀ value ∈ param.default?, '\n' ∉ value.toList
  type_unmarked : ¬ "(default:".toList <:+: param.type.toList
  name_unspaced : ' ' ∉ param.name.toList
  name_unbracketed : '(' ∉ param.name.toList

@[mk_iff]
structure Payload.IsLegible (payload : Payload) : Prop where
  name_line : '\n' ∉ payload.name.toList
  fields : ∀ field ∈ payload.fields, field.IsLegible

@[mk_iff]
structure Route.IsLegible (route : Route) : Prop where
  paths_ne_nil : route.paths ≠ []
  paths_line : ∀ path ∈ route.paths, '\n' ∉ path.toList
  paths_unbarred : ∀ path ∈ route.paths, '|' ∉ path.toList
  paths_unbracketed : ∀ path ∈ route.paths, ']' ∉ path.toList
  types_line : ∀ type ∈ route.consumes ++ route.produces, '\n' ∉ type.toList
  types_unbarred : ∀ type ∈ route.consumes ++ route.produces, '|' ∉ type.toList
  types_unbracketed : ∀ type ∈ route.consumes ++ route.produces, ')' ∉ type.toList
  params : ∀ param ∈ route.params, param.IsLegible
  input? : ∀ payload ∈ route.input?, payload.IsLegible
  output? : ∀ payload ∈ route.output?, payload.IsLegible

instance (param : Param) : Decidable param.IsLegible :=
  decidable_of_iff _ param.isLegible_iff.symm

instance (payload : Payload) : Decidable payload.IsLegible :=
  decidable_of_iff _ payload.isLegible_iff.symm

instance (route : Route) : Decidable route.IsLegible :=
  decidable_of_iff _ route.isLegible_iff.symm

namespace Report

open Text

/-! ## Openings -/

/-- The line begins with the opening. -/
def Opens (opening line : String) : Prop :=
  opening.toList <+: line.toList

theorem opens_append (opening rest : String) : Opens opening (opening ++ rest) := by
  rw [Opens, String.toList_append]
  exact List.prefix_append _ _

/-- Neither of two openings begins with the other. -/
def Differ (first second : List Char) : Prop :=
  ¬ first <+: second ∧ ¬ second <+: first

instance (first second : List Char) : Decidable (Differ first second) :=
  inferInstanceAs (Decidable (_ ∧ _))

theorem Differ.not_isPrefix {first second text : List Char} (hdiffer : Differ first second)
    (hsecond : second <+: text) : ¬ first <+: text := by
  intro hfirst
  exact (List.prefix_or_prefix_of_prefix hfirst hsecond).elim hdiffer.1 hdiffer.2

/-! ## Lists between bars -/

theorem toList_joined (items : List String) :
    (joined "|" items).toList = ['|'].intercalate (items.map String.toList) := by
  rw [joined, String.toList_intercalate]
  rfl

theorem map_toList_inj {items others : List String}
    (heq : items.map String.toList = others.map String.toList) : items = others :=
  List.map_injective_iff.mpr (fun _ _ hitem => String.toList_injective hitem) heq

theorem joined_inj {items others : List String} (hitems : ∀ item ∈ items, '|' ∉ item.toList)
    (hothers : ∀ item ∈ others, '|' ∉ item.toList) (hne : items ≠ []) (hne' : others ≠ [])
    (heq : joined "|" items = joined "|" others) : items = others := by
  have hchars := congrArg String.toList heq
  rw [toList_joined, toList_joined] at hchars
  apply map_toList_inj
  refine intercalate_inj ?_ ?_ (by simpa using hne) (by simpa using hne') hchars
  · simpa using hitems
  · simpa using hothers

theorem notMem_joined {c : Char} {items : List String} (hbar : c ≠ '|')
    (hitems : ∀ item ∈ items, c ∉ item.toList) : c ∉ (joined "|" items).toList := by
  rw [toList_joined]
  induction items with
  | nil => exact List.not_mem_nil
  | cons item items ih =>
      obtain ⟨hitem, hrest⟩ := List.forall_mem_cons.mp hitems
      cases items with
      | nil => simpa using hitem
      | cons second items =>
          rw [List.map_cons, List.map_cons, List.intercalate_cons_cons]
          simp only [List.mem_append, List.mem_singleton, not_or]
          exact ⟨⟨hitem, hbar⟩, ih hrest⟩

/-! ## Request methods -/

/-- The names between bars, as they stand in the head of a route. -/
def methodNames (methods : List HttpMethod) : List Char :=
  (joined "|" (methods.map HttpMethod.name)).toList

theorem filter_splitOn_methodNames (methods : List HttpMethod) :
    ((methodNames methods).splitOn '|').filter (· ≠ []) =
      methods.map fun method => method.name.toList := by
  rw [methodNames, toList_joined, List.map_map]
  apply filter_splitOn_intercalate
  intro item hitem
  obtain ⟨method, _, rfl⟩ := List.mem_map.mp hitem
  exact ⟨method.name_ne_nil, fun hbar => absurd (HttpMethod.isUpper_of_mem_name hbar) (by decide)⟩

theorem notMem_methodNames {c : Char} (methods : List HttpMethod) (hbar : c ≠ '|')
    (hupper : ¬ c.isUpper) : c ∉ methodNames methods := by
  apply notMem_joined hbar
  intro item hitem
  obtain ⟨method, _, rfl⟩ := List.mem_map.mp hitem
  exact fun hc => hupper (HttpMethod.isUpper_of_mem_name hc)

theorem methodNames_inj {first second : List HttpMethod}
    (heq : methodNames first = methodNames second) : first = second := by
  have hnames : first.map (fun method => method.name.toList) =
      second.map fun method => method.name.toList := by
    rw [← filter_splitOn_methodNames, heq, filter_splitOn_methodNames]
  refine eq_of_map_eq ?_ hnames
  intro method _ other _ hname
  exact HttpMethod.name_inj (String.toList_injective hname)

/-- The mark of a deprecated route is no list of request methods. -/
theorem methodNames_ne_deprecated (methods : List HttpMethod) :
    methodNames methods ≠ "DEPRECATED".toList := by
  intro heq
  have hnames := filter_splitOn_methodNames methods
  rw [heq] at hnames
  have hmem : "DEPRECATED".toList ∈ methods.map fun method => method.name.toList := by
    rw [← hnames]
    decide
  obtain ⟨method, _, hname⟩ := List.mem_map.mp hmem
  cases method <;> exact absurd hname (by decide)

/-! ## Media types -/

/-- What a note on media types opens with. -/
def noteOpening (label : String) : List Char :=
  (" (" ++ label ++ ": ").toList

theorem mediaTypes_nil (label : String) : mediaTypes label [] = "" :=
  rfl

theorem toList_mediaTypes {types : List String} (label : String) (hne : types ≠ []) :
    (mediaTypes label types).toList =
      noteOpening label ++ ((joined "|" types).toList ++ [')']) := by
  rw [mediaTypes, if_neg (by simpa using hne)]
  simp [noteOpening]

theorem mediaTypes_append_inj {label : String} {types others : List String}
    {rest rest' : List Char} (htypes : ∀ type ∈ types, '|' ∉ type.toList ∧ ')' ∉ type.toList)
    (hothers : ∀ type ∈ others, '|' ∉ type.toList ∧ ')' ∉ type.toList)
    (hrest : ¬ noteOpening label <+: rest) (hrest' : ¬ noteOpening label <+: rest')
    (heq : (mediaTypes label types).toList ++ rest = (mediaTypes label others).toList ++ rest') :
    types = others ∧ rest = rest' := by
  by_cases hne : types = [] <;> by_cases hne' : others = []
  · subst hne hne'
    exact ⟨rfl, by simpa [mediaTypes_nil] using heq⟩
  · subst hne
    rw [mediaTypes_nil, toList_mediaTypes label hne', List.append_assoc] at heq
    exact absurd ⟨_, heq.symm⟩ hrest
  · subst hne'
    rw [mediaTypes_nil, toList_mediaTypes label hne, List.append_assoc] at heq
    exact absurd ⟨_, heq⟩ hrest'
  · rw [toList_mediaTypes label hne, toList_mediaTypes label hne'] at heq
    simp only [List.append_assoc, List.singleton_append, List.append_cancel_left_eq] at heq
    obtain ⟨hjoined, hrests⟩ := append_inj_of_delimiter
      (notMem_joined (by decide) fun type htype => (htypes type htype).2)
      (notMem_joined (by decide) fun type htype => (hothers type htype).2) heq
    refine ⟨joined_inj (fun type htype => (htypes type htype).1)
      (fun type htype => (hothers type htype).1) hne hne' (String.toList_injective hjoined), hrests⟩

theorem not_expects_isPrefix_returns (types : List String) :
    ¬ noteOpening "expects" <+: (mediaTypes "returns" types).toList := by
  by_cases hne : types = []
  · subst hne
    rw [mediaTypes_nil]
    decide
  · rw [toList_mediaTypes "returns" hne]
    have hdiffer : Differ (noteOpening "expects") (noteOpening "returns") := by decide
    exact hdiffer.not_isPrefix (List.prefix_append _ _)

/-! ## Heads of routes -/

/-- The part of a head behind the mark of deprecation. -/
def headBody (route : Route) : List Char :=
  '[' :: (methodNames route.methods ++ ']' :: (" [".toList ++ ((joined "|" route.paths).toList ++
    ']' :: ((mediaTypes "expects" route.consumes).toList ++
      (mediaTypes "returns" route.produces).toList))))

theorem toList_headLine (route : Route) :
    (headLine route).toList = "\t- ".toList ++
      ((if route.deprecated then "[DEPRECATED] ".toList else []) ++ headBody route) := by
  cases hdeprecated : route.deprecated <;> simp [headLine, headBody, methodNames, hdeprecated]

/-- What the head of a route shows. -/
structure SameHead (first second : Route) : Prop where
  deprecated : first.deprecated = second.deprecated
  methods : first.methods = second.methods
  paths : first.paths = second.paths
  consumes : first.consumes = second.consumes
  produces : first.produces = second.produces

theorem headBody_ne_deprecated (route other : Route) :
    headBody route ≠ "[DEPRECATED] ".toList ++ headBody other := by
  intro heq
  rw [headBody] at heq
  -- Both sides open with a bracket, so the mark would have to be a list of request methods.
  have htail : _ = "DEPRECATED".toList ++ ']' :: (' ' :: headBody other) := (List.cons.inj heq).2
  obtain ⟨hmethods, -⟩ := append_inj_of_delimiter
    (notMem_methodNames route.methods (by decide) (by decide)) (by decide) htail
  exact methodNames_ne_deprecated route.methods hmethods

/-- Up to its closing bracket a head shows request methods, then paths, and then notes. -/
theorem headBody_inj {first second : Route} (hfirst : first.IsLegible) (hsecond : second.IsLegible)
    (heq : headBody first = headBody second) :
    first.methods = second.methods ∧ first.paths = second.paths ∧
      first.consumes = second.consumes ∧ first.produces = second.produces := by
  obtain ⟨hmethods, heq⟩ := append_inj_of_delimiter
    (notMem_methodNames first.methods (by decide) (by decide))
    (notMem_methodNames second.methods (by decide) (by decide)) (List.cons.inj heq).2
  obtain ⟨hpaths, heq⟩ := append_inj_of_delimiter
    (notMem_joined (by decide) hfirst.paths_unbracketed)
    (notMem_joined (by decide) hsecond.paths_unbracketed) (List.append_cancel_left heq)
  have hconsumes : ∀ route : Route, route.IsLegible →
      ∀ type ∈ route.consumes, '|' ∉ type.toList ∧ ')' ∉ type.toList := by
    intro route hroute type htype
    have hmem := List.mem_append_left route.produces htype
    exact ⟨hroute.types_unbarred type hmem, hroute.types_unbracketed type hmem⟩
  have hproduces : ∀ route : Route, route.IsLegible →
      ∀ type ∈ route.produces, '|' ∉ type.toList ∧ ')' ∉ type.toList := by
    intro route hroute type htype
    have hmem := List.mem_append_right route.consumes htype
    exact ⟨hroute.types_unbarred type hmem, hroute.types_unbracketed type hmem⟩
  obtain ⟨hexpects, hreturns⟩ := mediaTypes_append_inj (hconsumes first hfirst)
    (hconsumes second hsecond) (not_expects_isPrefix_returns _) (not_expects_isPrefix_returns _) heq
  rw [← List.append_nil (mediaTypes "returns" first.produces).toList,
    ← List.append_nil (mediaTypes "returns" second.produces).toList] at hreturns
  obtain ⟨hreturns, -⟩ := mediaTypes_append_inj (hproduces first hfirst)
    (hproduces second hsecond) (by decide) (by decide) hreturns
  exact ⟨methodNames_inj hmethods, joined_inj hfirst.paths_unbarred hsecond.paths_unbarred
    hfirst.paths_ne_nil hsecond.paths_ne_nil (String.toList_injective hpaths), hexpects, hreturns⟩

theorem headLine_inj {first second : Route} (hfirst : first.IsLegible) (hsecond : second.IsLegible)
    (heq : headLine first = headLine second) : SameHead first second := by
  have hchars := congrArg String.toList heq
  rw [toList_headLine, toList_headLine] at hchars
  have hbody := List.append_cancel_left hchars
  cases hdeprecated : first.deprecated <;> cases hdeprecated' : second.deprecated <;>
    simp only [hdeprecated, hdeprecated', if_true, if_false, Bool.false_eq_true,
      List.nil_append] at hbody
  · obtain ⟨hmethods, hpaths, hconsumes, hproduces⟩ := headBody_inj hfirst hsecond hbody
    exact ⟨hdeprecated.trans hdeprecated'.symm, hmethods, hpaths, hconsumes, hproduces⟩
  · exact absurd hbody (headBody_ne_deprecated first second)
  · exact absurd hbody.symm (headBody_ne_deprecated second first)
  · obtain ⟨hmethods, hpaths, hconsumes, hproduces⟩ :=
      headBody_inj hfirst hsecond (List.append_cancel_left hbody)
    exact ⟨hdeprecated.trans hdeprecated'.symm, hmethods, hpaths, hconsumes, hproduces⟩

/-! ## Parameters and fields -/

/-- The words of a default, from its mark on. -/
def defaultWords : Option String → List (List Char)
  | none => []
  | some value => "(default:".toList :: (value.toList ++ [')']).splitOn ' '

/-- The line of a parameter behind its indentation. -/
def paramBody (param : Param) : List Char :=
  param.type.toList ++ ' ' :: (param.name.toList ++
    param.default?.elim [] fun value => " (default: ".toList ++ (value.toList ++ [')']))

theorem toList_paramLine (indent : String) (param : Param) :
    (paramLine indent param).toList = (indent ++ "- ").toList ++ paramBody param := by
  cases hdefault : param.default? <;> simp [paramLine, paramBody, hdefault]

theorem splitOn_paramBody {param : Param} (hparam : param.IsLegible) :
    (paramBody param).splitOn ' ' =
      (param.type.toList.splitOn ' ' ++ [param.name.toList]) ++ defaultWords param.default? := by
  rw [paramBody, splitOn_append_cons, List.append_assoc]
  congr 1
  cases param.default? with
  | none => simp [defaultWords, splitOn_of_notMem hparam.name_unspaced]
  | some value =>
      have hmark : " (default: ".toList ++ (value.toList ++ [')']) =
          ' ' :: ("(default:".toList ++ ' ' :: (value.toList ++ [')'])) := rfl
      rw [Option.elim_some, hmark, splitOn_append_cons, splitOn_append_cons,
        splitOn_of_notMem hparam.name_unspaced, splitOn_of_notMem (by decide)]
      rfl

/-- No word in front of the default is its mark. -/
theorem ne_mark_of_mem {param : Param} (hparam : param.IsLegible) {word : List Char}
    (hword : word ∈ param.type.toList.splitOn ' ' ++ [param.name.toList]) :
    word ≠ "(default:".toList := by
  rintro rfl
  rcases List.mem_append.mp hword with htype | hname
  · exact hparam.type_unmarked (isInfix_of_mem_splitOn htype)
  · apply hparam.name_unbracketed
    rw [← List.mem_singleton.mp hname]
    decide

theorem stops_defaultWords (default? : Option String) :
    Stops (· ≠ "(default:".toList) (defaultWords default?) := by
  cases default? with
  | none => exact stops_nil _
  | some value => exact stops_cons _ (not_not_intro rfl)

theorem defaultWords_inj {first second : Option String}
    (heq : defaultWords first = defaultWords second) : first = second := by
  cases first <;> cases second
  · rfl
  · contradiction
  · contradiction
  · have hvalue := List.append_cancel_right (splitOn_inj (List.cons.inj heq).2)
    rw [String.toList_injective hvalue]

theorem paramLine_inj {indent : String} {first second : Param} (hfirst : first.IsLegible)
    (hsecond : second.IsLegible) (heq : paramLine indent first = paramLine indent second) :
    first = second := by
  have hchars := congrArg String.toList heq
  rw [toList_paramLine, toList_paramLine] at hchars
  -- A type may hold blanks, so the lines are compared word by word, up to the mark of a default.
  have hwords := congrArg (List.splitOn ' ') (List.append_cancel_left hchars)
  rw [splitOn_paramBody hfirst, splitOn_paramBody hsecond] at hwords
  obtain ⟨hfront, hdefault⟩ := append_inj_of_stops (fun word => ne_mark_of_mem hfirst)
    (fun word => ne_mark_of_mem hsecond) (stops_defaultWords _) (stops_defaultWords _) hwords
  obtain ⟨htype, hname⟩ := List.append_inj' hfront rfl
  obtain ⟨type, name, default?⟩ := first
  rw [Param.mk.injEq]
  exact ⟨String.toList_injective (splitOn_inj htype),
    String.toList_injective (List.cons.inj hname).1, defaultWords_inj hdefault⟩

theorem opens_paramLine (indent : String) (param : Param) :
    Opens (indent ++ "- ") (paramLine indent param) := by
  rw [Opens, toList_paramLine]
  exact List.prefix_append _ _

theorem params_inj {indent : String} {params others : List Param}
    (hparams : ∀ param ∈ params, param.IsLegible) (hothers : ∀ param ∈ others, param.IsLegible)
    (heq : params.map (paramLine indent) = others.map (paramLine indent)) : params = others :=
  eq_of_map_eq (fun param hparam other hother =>
    paramLine_inj (hparams param hparam) (hothers other hother)) heq

/-! ## Payloads -/

/-- What the first line of a payload opens with. -/
def payloadOpening (label : String) : String :=
  "\t\t" ++ label ++ ": "

/-- The line goes on with a payload of that label. -/
def InPayload (label line : String) : Prop :=
  Opens "\t\t\t- " line ∨ Opens (payloadOpening label) line

theorem payloadLines_append_inj {label : String} {first second : Option Payload}
    {rest others : List String} (hfirst : ∀ payload ∈ first, payload.IsLegible)
    (hsecond : ∀ payload ∈ second, payload.IsLegible) (hrest : Stops (InPayload label) rest)
    (hothers : Stops (InPayload label) others)
    (heq : payloadLines label first ++ rest = payloadLines label second ++ others) :
    first = second ∧ rest = others := by
  have hopening : ∀ payload : Payload,
      InPayload label ("\t\t" ++ label ++ ": " ++ payload.name) := by
    intro payload
    exact Or.inr (opens_append _ _)
  cases first with
  | none =>
      cases second with
      | none => exact ⟨rfl, heq⟩
      | some payload =>
          rw [payloadLines, List.nil_append] at heq
          subst heq
          exact absurd (hopening payload) (hrest _ rfl)
  | some payload =>
      cases second with
      | none =>
          rw [payloadLines, payloadLines, List.nil_append] at heq
          subst heq
          exact absurd (hopening payload) (hothers _ rfl)
      | some other =>
          rw [payloadLines, payloadLines, List.cons_append, List.cons_append] at heq
          obtain ⟨hname, htail⟩ := List.cons_eq_cons.mp heq
          have hfields : ∀ fields : List Param, ∀ line ∈ fields.map (paramLine "\t\t\t"),
              Opens "\t\t\t- " line := by
            intro fields line hline
            obtain ⟨field, _, rfl⟩ := List.mem_map.mp hline
            exact opens_paramLine "\t\t\t" field
          obtain ⟨hlines, hrests⟩ := append_inj_of_stops (hfields payload.fields)
            (hfields other.fields) (fun line hline hopens => hrest line hline (Or.inl hopens))
            (fun line hline hopens => hothers line hline (Or.inl hopens)) htail
          refine ⟨?_, hrests⟩
          have hsame := params_inj (hfirst payload rfl).fields (hsecond other rfl).fields hlines
          obtain ⟨name, fields⟩ := payload
          rw [Option.some.injEq, Payload.mk.injEq]
          exact ⟨(String.append_right_inj _).mp hname, hsame⟩

end Report

end RouteSurvey
