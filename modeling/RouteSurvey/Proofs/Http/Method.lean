import Mathlib.Data.List.Forall2
import RouteSurvey.Http.Method
import RouteSurvey.Proofs.FirstOccurrences
import RouteSurvey.Proofs.Name
import RouteSurvey.Proofs.Text.Trimming

/-! # Reading request methods

A token names a request method by its last segment, with blanks around the name and small
letters in it allowed. Reading tokens from the first to the last adds a method when a token
names it for the first time, and nothing else. So tokens that name no method leave no trace,
and further tokens only add what is new.
-/

namespace RouteSurvey

/-! ## Letters -/

theorem toNat_toUpper (c : Char) :
    c.toUpper.toNat = if 97 ≤ c.toNat ∧ c.toNat ≤ 122 then c.toNat - 32 else c.toNat := by
  have hstep : ('A'.val - 'a'.val).toNat = 4294967264 := by decide
  unfold Char.toUpper
  split
  next hlower =>
    have hrange : 97 ≤ c.toNat ∧ c.toNat ≤ 122 := hlower
    rw [if_pos hrange, ← Char.toNat_val, UInt32.toNat_add, hstep, Char.toNat_val]
    omega
  next hother => exact (if_neg hother).symm

theorem toNat_toLower (c : Char) :
    c.toLower.toNat = if 65 ≤ c.toNat ∧ c.toNat ≤ 90 then c.toNat + 32 else c.toNat := by
  have hstep : ('a'.val - 'A'.val).toNat = 32 := by decide
  unfold Char.toLower
  split
  next hupper =>
    have hrange : 65 ≤ c.toNat ∧ c.toNat ≤ 90 := hupper
    rw [if_pos hrange, ← Char.toNat_val, UInt32.toNat_add, hstep, Char.toNat_val]
    omega
  next hother => exact (if_neg hother).symm

theorem isUpper_iff {c : Char} : c.isUpper ↔ 65 ≤ c.toNat ∧ c.toNat ≤ 90 :=
  decide_eq_true_iff

/-- The character is a given capital letter, or the small letter that goes with it. -/
def IsFormOf (capital c : Char) : Prop :=
  c = capital ∨ c = capital.toLower

section Letters

variable {c capital : Char}

theorem toUpper_eq_iff (hcapital : capital.isUpper) :
    c.toUpper = capital ↔ IsFormOf capital c := by
  have hrange := isUpper_iff.mp hcapital
  simp only [IsFormOf, ← Char.toNat_inj, toNat_toUpper, toNat_toLower]
  grind

theorem not_isBlank_of_isFormOf (hcapital : capital.isUpper) (hform : IsFormOf capital c) :
    ¬ Text.isBlank c := by
  have hrange := isUpper_iff.mp hcapital
  have hletter : 65 ≤ c.toNat ∧ c.toNat ≤ 122 := by
    simp only [IsFormOf, ← Char.toNat_inj, toNat_toLower, if_pos hrange] at hform
    omega
  simp only [Text.isBlank, Bool.or_eq_true, Bool.and_eq_true, decide_eq_true_eq, beq_iff_eq]
  omega

theorem map_toUpper_eq_iff {capitals word : List Char} (hcapitals : ∀ c ∈ capitals, c.isUpper) :
    word.map Char.toUpper = capitals ↔ List.Forall₂ IsFormOf capitals word := by
  induction capitals generalizing word with
  | nil => simp
  | cons capital capitals ih =>
      obtain ⟨hcapital, hrest⟩ := List.forall_mem_cons.mp hcapitals
      cases word with
      | nil => simp
      | cons c rest =>
          rw [List.map_cons, List.cons_eq_cons, List.forall₂_cons, toUpper_eq_iff hcapital,
            ih hrest]

end Letters

namespace HttpMethod

variable {method : HttpMethod} {token : String} {tokens : List String}

/-! ## Names -/

theorem mem_all (method : HttpMethod) : method ∈ all := by
  cases method <;> decide

theorem isUpper_of_mem_name {c : Char} (hc : c ∈ method.name.toList) : c.isUpper := by
  have hall : method.name.toList.all Char.isUpper := by
    cases method <;> decide
  exact List.all_eq_true.mp hall c hc

theorem name_ne_nil (method : HttpMethod) : method.name.toList ≠ [] := by
  cases method <;> decide

theorem name_inj {first second : HttpMethod} (heq : first.name = second.name) : first = second := by
  cases first <;> cases second <;> first | rfl | exact absurd heq (by decide)

/-! ## Tokens -/

/-- The last segment of a token is the name of the method, in letters of either size and with
any blanks around it. -/
def IsNamedBy (method : HttpMethod) (token : String) : Prop :=
  ∃ front word back, (simpleName token).toList = front ++ word ++ back ∧
    (∀ c ∈ front, Text.isBlank c) ∧ (∀ c ∈ back, Text.isBlank c) ∧
    List.Forall₂ IsFormOf method.name.toList word

theorem ofToken?_eq_some_iff : ofToken? token = some method ↔ method.name = spelling token := by
  have hnamed {found : HttpMethod} (hfound : ofToken? token = some found) :
      found.name = spelling token := by
    have htest := List.find?_some hfound
    exact beq_iff_eq.mp htest
  constructor
  · exact hnamed
  · intro hname
    have hsome : (ofToken? token).isSome :=
      List.find?_isSome.mpr ⟨method, method.mem_all, beq_iff_eq.mpr hname⟩
    obtain ⟨found, hfound⟩ := Option.isSome_iff_exists.mp hsome
    rw [hfound, name_inj ((hnamed hfound).trans hname.symm)]

theorem name_eq_spelling_iff :
    method.name = spelling token ↔
      List.Forall₂ IsFormOf method.name.toList (Text.trim token.toList) := by
  rw [← map_toUpper_eq_iff fun c => isUpper_of_mem_name, spelling, eq_comm,
    ← String.toList_inj, String.toList_ofList]

theorem not_isBlank_of_mem {word : List Char}
    (hword : List.Forall₂ IsFormOf method.name.toList word) : ∀ c ∈ word, ¬ Text.isBlank c := by
  intro c hc
  have hname := (map_toUpper_eq_iff fun c => isUpper_of_mem_name).mpr hword
  have hupper : c.toUpper.isUpper := isUpper_of_mem_name (hname ▸ List.mem_map_of_mem hc)
  exact not_isBlank_of_isFormOf hupper ((toUpper_eq_iff hupper).mp rfl)

theorem ofQualified?_eq_some_iff : ofQualified? token = some method ↔ method.IsNamedBy token := by
  rw [ofQualified?, ofToken?_eq_some_iff, name_eq_spelling_iff]
  constructor
  · intro hword
    obtain ⟨front, back, hsegment, hfront, hback⟩ := Text.exists_trim (simpleName token).toList
    exact ⟨front, _, back, hsegment, hfront, hback, hword⟩
  · rintro ⟨front, word, back, hsegment, hfront, hback, hword⟩
    rwa [hsegment, Text.trim_append hfront (not_isBlank_of_mem hword) hback]

theorem IsNamedBy.unique {other : HttpMethod} (hmethod : method.IsNamedBy token)
    (hother : other.IsNamedBy token) : method = other :=
  Option.some.inj ((ofQualified?_eq_some_iff.mpr hmethod).symm.trans
    (ofQualified?_eq_some_iff.mpr hother))

theorem ofQualified?_eq_none_iff :
    ofQualified? token = none ↔ ∀ method : HttpMethod, ¬ method.IsNamedBy token := by
  rw [Option.eq_none_iff_forall_ne_some]
  simp only [ne_eq, ofQualified?_eq_some_iff]

/-! ## First namings -/

/-- Some token names the first method before any names the second. -/
def IsNamedBefore (tokens : List String) (first second : HttpMethod) : Prop :=
  ∃ front token back, tokens = front ++ token :: back ∧ first.IsNamedBy token ∧
    ∀ earlier ∈ front ++ [token], ¬ second.IsNamedBy earlier

/-- The methods are those that tokens name, each once, in the order in which they are named
first. -/
structure AreFirstNamed (tokens : List String) (methods : List HttpMethod) : Prop where
  nodup : methods.Nodup
  mem_iff : ∀ method, method ∈ methods ↔ ∃ token ∈ tokens, method.IsNamedBy token
  ordered : methods.Pairwise (IsNamedBefore tokens)

/-- Takes note of the method that a token names, if it names one that is new. -/
def addNamed (methods : List HttpMethod) (token : String) : List HttpMethod :=
  match ofQualified? token with
  | some method => if method ∈ methods then methods else methods ++ [method]
  | none => methods

theorem addNamed_of_none (methods : List HttpMethod) (hnone : ofQualified? token = none) :
    addNamed methods token = methods := by
  simp only [addNamed, hnone]

theorem addNamed_of_mem {methods : List HttpMethod} (hsome : ofQualified? token = some method)
    (hmem : method ∈ methods) : addNamed methods token = methods := by
  simp only [addNamed, hsome, if_pos hmem]

theorem addNamed_of_notMem {methods : List HttpMethod} (hsome : ofQualified? token = some method)
    (hnew : method ∉ methods) : addNamed methods token = methods ++ [method] := by
  simp only [addNamed, hsome, if_neg hnew]

theorem IsNamedBefore.append {first second : HttpMethod}
    (hbefore : IsNamedBefore tokens first second) (more : List String) :
    IsNamedBefore (tokens ++ more) first second := by
  obtain ⟨front, token, back, rfl, hfirst, hsecond⟩ := hbefore
  exact ⟨front, token, back ++ more, by simp, hfirst, hsecond⟩

theorem IsNamedBefore.asymm {first second : HttpMethod}
    (hbefore : IsNamedBefore tokens first second) : ¬ IsNamedBefore tokens second first := by
  rintro ⟨front', token', back', heq, hsecond', hfirst'⟩
  obtain ⟨front, token, back, rfl, hfirst, hsecond⟩ := hbefore
  -- The token in front is among those that do not name the other method.
  rcases List.append_eq_append_iff.mp heq with ⟨middle, rfl, hrest⟩ | ⟨middle, rfl, hrest⟩
  · cases middle with
    | nil =>
        obtain ⟨rfl, -⟩ := List.cons_eq_cons.mp hrest
        exact hfirst' token (by simp) hfirst
    | cons item middle =>
        obtain ⟨rfl, -⟩ := List.cons_eq_cons.mp hrest
        exact hfirst' token (by simp) hfirst
  · cases middle with
    | nil =>
        obtain ⟨rfl, -⟩ := List.cons_eq_cons.mp hrest
        exact hsecond token' (by simp) hsecond'
    | cons item middle =>
        obtain ⟨rfl, -⟩ := List.cons_eq_cons.mp hrest
        exact hsecond token' (by simp) hsecond'

theorem areFirstNamed_nil : AreFirstNamed [] [] where
  nodup := List.nodup_nil
  mem_iff method := by simp
  ordered := List.Pairwise.nil

theorem AreFirstNamed.isNamedBefore {methods : List HttpMethod} {first second : HttpMethod}
    (hnamed : AreFirstNamed tokens methods) (hfirst : first ∈ methods) (hnew : second ∉ methods) :
    IsNamedBefore tokens first second := by
  obtain ⟨token, htoken, hnames⟩ := (hnamed.mem_iff first).mp hfirst
  obtain ⟨front, back, rfl⟩ := List.append_of_mem htoken
  refine ⟨front, token, back, rfl, hnames, ?_⟩
  intro earlier hearlier hsecond
  refine hnew ((hnamed.mem_iff second).mpr ⟨earlier, ?_, hsecond⟩)
  rw [List.append_cons]
  exact List.mem_append_left back hearlier

theorem AreFirstNamed.concat_of_none {methods : List HttpMethod}
    (hnamed : AreFirstNamed tokens methods) (hnone : ofQualified? token = none) :
    AreFirstNamed (tokens ++ [token]) methods where
  nodup := hnamed.nodup
  mem_iff method := by
    have hnot := ofQualified?_eq_none_iff.mp hnone method
    rw [hnamed.mem_iff method]
    simp [or_and_right, exists_or, hnot]
  ordered := hnamed.ordered.imp fun hbefore => hbefore.append [token]

theorem AreFirstNamed.concat_of_mem {methods : List HttpMethod}
    (hnamed : AreFirstNamed tokens methods) (hsome : ofQualified? token = some method)
    (hmem : method ∈ methods) : AreFirstNamed (tokens ++ [token]) methods where
  nodup := hnamed.nodup
  mem_iff other := by
    simp only [List.mem_append, List.mem_singleton, or_and_right, exists_or, exists_eq_left,
      ← hnamed.mem_iff other]
    constructor
    · exact Or.inl
    · rintro (hother | hother)
      · exact hother
      · rwa [hother.unique (ofQualified?_eq_some_iff.mp hsome)]
  ordered := hnamed.ordered.imp fun hbefore => hbefore.append [token]

theorem AreFirstNamed.concat_of_notMem {methods : List HttpMethod}
    (hnamed : AreFirstNamed tokens methods) (hsome : ofQualified? token = some method)
    (hnew : method ∉ methods) : AreFirstNamed (tokens ++ [token]) (methods ++ [method]) where
  nodup := by
    refine List.nodup_append.mpr ⟨hnamed.nodup, List.nodup_singleton method, ?_⟩
    rintro other hother _ hmem rfl
    exact hnew (List.mem_singleton.mp hmem ▸ hother)
  mem_iff other := by
    simp only [List.mem_append, List.mem_singleton, or_and_right, exists_or, exists_eq_left,
      ← hnamed.mem_iff other]
    refine or_congr_right ⟨?_, fun hother => hother.unique (ofQualified?_eq_some_iff.mp hsome)⟩
    rintro rfl
    exact ofQualified?_eq_some_iff.mp hsome
  ordered := by
    refine List.pairwise_append.mpr ⟨?_, List.pairwise_singleton _ _, ?_⟩
    · exact hnamed.ordered.imp fun hbefore => hbefore.append [token]
    · intro first hfirst second hsecond
      rw [List.mem_singleton.mp hsecond]
      exact (hnamed.isNamedBefore hfirst hnew).append [token]

/-- One more token keeps it that way. -/
theorem AreFirstNamed.addNamed {methods : List HttpMethod}
    (hnamed : AreFirstNamed tokens methods) (token : String) :
    AreFirstNamed (tokens ++ [token]) (addNamed methods token) := by
  cases hread : ofQualified? token with
  | none =>
      rw [addNamed_of_none methods hread]
      exact hnamed.concat_of_none hread
  | some method =>
      by_cases hmem : method ∈ methods
      · rw [addNamed_of_mem hread hmem]
        exact hnamed.concat_of_mem hread hmem
      · rw [addNamed_of_notMem hread hmem]
        exact hnamed.concat_of_notMem hread hmem

theorem areFirstNamed_foldl (tokens : List String) :
    AreFirstNamed tokens (tokens.foldl addNamed []) := by
  induction tokens using List.reverseRecOn with
  | nil => exact areFirstNamed_nil
  | append_singleton tokens token ih =>
      rw [List.foldl_concat]
      exact ih.addNamed token

theorem AreFirstNamed.unique {methods others : List HttpMethod}
    (hmethods : AreFirstNamed tokens methods) (hothers : AreFirstNamed tokens others) :
    methods = others := by
  have hperm : methods.Perm others := by
    refine (List.perm_ext_iff_of_nodup hmethods.nodup hothers.nodup).mpr fun method => ?_
    rw [hmethods.mem_iff, hothers.mem_iff]
  refine hperm.eq_of_pairwise ?_ hmethods.ordered hothers.ordered
  intro first second _ _ hbefore hafter
  exact absurd hafter hbefore.asymm

/-! ## Lists of tokens -/

theorem mem_ofTokens : method ∈ ofTokens tokens ↔ method ∈ tokens.filterMap ofQualified? :=
  List.mem_eraseDups

theorem addNamed_ofTokens (tokens : List String) (token : String) :
    addNamed (ofTokens tokens) token = ofTokens (tokens ++ [token]) := by
  rw [ofTokens, ofTokens, List.filterMap_append, ← ofTokens]
  cases hread : ofQualified? token with
  | none =>
      rw [addNamed_of_none _ hread, List.filterMap_cons_none hread, List.filterMap_nil,
        List.append_nil, ofTokens]
  | some method =>
      rw [List.filterMap_cons_some hread, List.filterMap_nil]
      by_cases hmem : method ∈ ofTokens tokens
      · rw [addNamed_of_mem hread hmem, eraseDups_concat_of_mem (mem_ofTokens.mp hmem), ofTokens]
      · rw [addNamed_of_notMem hread hmem, eraseDups_concat_of_notMem (mt mem_ofTokens.mpr hmem),
          ofTokens]

theorem foldl_addNamed (tokens : List String) : tokens.foldl addNamed [] = ofTokens tokens := by
  induction tokens using List.reverseRecOn with
  | nil => rfl
  | append_singleton tokens token ih => rw [List.foldl_concat, ih, addNamed_ofTokens]

theorem ofTokens_eq_iff {methods : List HttpMethod} :
    ofTokens tokens = methods ↔ AreFirstNamed tokens methods := by
  have hnamed := areFirstNamed_foldl tokens
  rw [foldl_addNamed] at hnamed
  constructor
  · rintro rfl
    exact hnamed
  · exact hnamed.unique

theorem ofTokens_skip {front back : List String}
    (hunknown : ∀ method : HttpMethod, ¬ method.IsNamedBy token) :
    ofTokens (front ++ token :: back) = ofTokens (front ++ back) := by
  rw [ofTokens, ofTokens, List.filterMap_append, List.filterMap_append,
    List.filterMap_cons_none (ofQualified?_eq_none_iff.mpr hunknown)]

theorem ofTokens_append (tokens more : List String) :
    ofTokens (tokens ++ more) =
      ofTokens tokens ++ (ofTokens more).filter (· ∉ ofTokens tokens) := by
  rw [ofTokens, List.filterMap_append, eraseDups_append_eq_filter, ← ofTokens, ← ofTokens]

theorem ofQualified?_name (method : HttpMethod) : ofQualified? method.name = some method := by
  cases method <;> decide

theorem ofTokens_names {methods : List HttpMethod} (hnodup : methods.Nodup) :
    ofTokens (methods.map name) = methods := by
  have hread : ofQualified? ∘ name = some := by
    funext method
    rw [Function.comp_apply, ofQualified?_name]
  rw [ofTokens, List.filterMap_map, hread, List.filterMap_some, eraseDups_of_nodup hnodup]

/-- Reading tokens gives the methods that they name, each once and in the order in which they
are named first; going through the tokens one by one comes to the same. A token that names none
has no effect anywhere, further tokens add the methods that are new, and the names of the
methods are read as these methods again. -/
theorem ofTokens_reads_first_namings :
    (∀ tokens methods, ofTokens tokens = methods ↔ AreFirstNamed tokens methods) ∧
    (∀ tokens : List String, tokens.foldl addNamed [] = ofTokens tokens) ∧
    (∀ front token back, (∀ method : HttpMethod, ¬ method.IsNamedBy token) →
      ofTokens (front ++ token :: back) = ofTokens (front ++ back)) ∧
    (∀ tokens more, ofTokens (tokens ++ more) =
      ofTokens tokens ++ (ofTokens more).filter (· ∉ ofTokens tokens)) ∧
    ∀ tokens, ofTokens ((ofTokens tokens).map name) = ofTokens tokens := by
  refine ⟨fun _ _ => ofTokens_eq_iff, foldl_addNamed, fun _ _ _ => ofTokens_skip,
    ofTokens_append, ?_⟩
  intro tokens
  exact ofTokens_names (nodup_eraseDups _)

example : ofTokens ["get", "RequestMethod.POST", " GET ", "BREW", "http::Method::get"] =
    [.get, .post] := by
  decide

/-- A word that is no method stands between two ways to write one. -/
theorem ofTokens_reads_first_namings_brew :
    (∀ method : HttpMethod, ¬ method.IsNamedBy "BREW") ∧
      ofTokens (["get"] ++ "BREW" :: ["RequestMethod.GET"]) =
        ofTokens (["get"] ++ ["RequestMethod.GET"]) := by
  have hunknown : ∀ method : HttpMethod, ¬ method.IsNamedBy "BREW" :=
    ofQualified?_eq_none_iff.mp (by decide)
  obtain ⟨-, -, hskip, -, -⟩ := ofTokens_reads_first_namings
  exact ⟨hunknown, hskip ["get"] "BREW" ["RequestMethod.GET"] hunknown⟩

end HttpMethod

end RouteSurvey
