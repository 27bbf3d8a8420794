import RouteSurvey.Proofs.Name

/-! # Tails of names

A tail of a name is all of it, or what stands directly behind some separator. Colons may
overlap, so more than one tail can begin behind a run of them. The simple name is the shortest
tail. No separator is left in it, and it differs from the name as soon as there is one. It is
also what is left when the name is cut at its last two colons and then at the last dot.
-/

namespace RouteSurvey

namespace Name

/-! ## What the last separator leaves -/

theorem afterSeparators_suffix (name : List Char) : afterSeparators name <:+ name := by
  obtain ⟨head, -, heq⟩ := exists_head name
  exact ⟨head, heq.symm⟩

/-- A separator is cut off together with everything in front of it. -/
theorem afterSeparators_chars_append_suffix (separator : Separator) (rest : List Char) :
    afterSeparators (separator.chars ++ rest) <:+ rest := by
  by_cases hrest : hasSeparator rest
  · rw [afterSeparators_append separator.chars hrest]
    exact afterSeparators_suffix rest
  · cases separator with
    | dot =>
        simp [Separator.chars, afterSeparators, hrest]
    | colons =>
        by_cases hcolon : hasSeparator (':' :: rest)
        · -- A third colon follows, and the last two of them are the separator.
          rcases hasSeparator_cons_iff.mp hcolon with hsome | hdot | ⟨-, tail, rfl⟩
          · exact absurd hsome hrest
          · exact absurd hdot (by decide)
          · simp [Separator.chars, afterSeparators, hcolon, hrest]
        · simp [Separator.chars, afterSeparators, hcolon]

theorem not_hasSeparator_afterSeparators (name : List Char) :
    ¬ hasSeparator (afterSeparators name) := by
  intro hsome
  obtain ⟨head, -, hname⟩ := exists_head name
  obtain ⟨front, hfront, htail⟩ := exists_head_of_hasSeparator hsome
  have hsame : afterSeparators (afterSeparators name) = afterSeparators name := by
    conv_rhs => rw [hname, afterSeparators_append head hsome]
  rw [hsame] at htail
  -- Nothing would have been cut off.
  have hnil : front = [] := List.self_eq_append_left.mp htail
  rw [hnil] at hfront
  contradiction

theorem hasSeparator_iff {name : List Char} :
    hasSeparator name ↔ ∃ front tail, ∃ separator : Separator,
      name = front ++ (separator.chars ++ tail) := by
  constructor
  · intro hname
    obtain ⟨head, hends, heq⟩ := exists_head_of_hasSeparator hname
    obtain ⟨front, separator, rfl⟩ := endsInSeparator_iff.mp hends
    exact ⟨front, _, separator, heq.trans (List.append_assoc _ _ _)⟩
  · rintro ⟨front, tail, separator, rfl⟩
    apply hasSeparator_append
    cases separator <;> rfl

theorem afterSeparators_suffix_of_append (front : List Char) (separator : Separator)
    (tail : List Char) : afterSeparators (front ++ (separator.chars ++ tail)) <:+ tail := by
  rw [afterSeparators_append front]
  · exact afterSeparators_chars_append_suffix separator tail
  · exact hasSeparator_iff.mpr ⟨[], tail, separator, rfl⟩

/-! ## Cutting twice -/

/-- Goes through a reversed text up to a reversed separator. The piece gone through comes in
front of the one that is given. -/
def pieceUpTo (separator : List Char) : (reversed piece : List Char) → List Char
  | [], piece => piece
  | c :: rest, piece =>
    if separator.isPrefixOf (c :: rest) then piece else pieceUpTo separator rest (c :: piece)

/-- The last of the pieces into which the occurrences of a separator cut a text, searched for
from the end. -/
def lastPiece (separator text : List Char) : List Char :=
  pieceUpTo separator.reverse text.reverse []

section Pieces

variable {separator : List Char}

theorem exists_append_pieceUpTo (separator reversed piece : List Char) :
    ∃ front, reversed.reverse ++ piece = front ++ pieceUpTo separator.reverse reversed piece ∧
      (front = [] ∨ separator <:+ front) := by
  induction reversed generalizing piece with
  | nil => exact ⟨[], rfl, Or.inl rfl⟩
  | cons c rest ih =>
      rw [pieceUpTo]
      split
      next hends =>
        refine ⟨(c :: rest).reverse, rfl, Or.inr ?_⟩
        rw [← List.reverse_prefix, List.reverse_reverse]
        exact List.isPrefixOf_iff_prefix.mp hends
      next =>
        obtain ⟨front, hfront, hends⟩ := ih (c :: piece)
        refine ⟨front, ?_, hends⟩
        rw [← hfront, List.reverse_cons, List.append_assoc, List.singleton_append]

/-- If no separator ends in front of a shorter piece, none is passed by. -/
theorem length_pieceUpTo_le {reversed piece front tail : List Char}
    (htext : reversed.reverse ++ piece = front ++ (separator ++ tail))
    (hpiece : piece.length ≤ tail.length) :
    (pieceUpTo separator.reverse reversed piece).length ≤ tail.length := by
  induction reversed generalizing piece with
  | nil => exact hpiece
  | cons c rest ih =>
      rw [pieceUpTo]
      split
      next => exact hpiece
      next hends =>
        refine ih ?_ ?_
        · rw [← htext, List.reverse_cons, List.append_assoc, List.singleton_append]
        · rw [← List.append_assoc] at htext
          refine Nat.lt_of_le_of_ne hpiece fun hlength => hends ?_
          obtain ⟨hfront, -⟩ := List.append_inj' htext hlength
          rw [List.isPrefixOf_iff_prefix, ← List.reverse_reverse (c :: rest), hfront,
            List.reverse_prefix]
          exact List.suffix_append _ _

theorem lastPiece_suffix (separator text : List Char) : lastPiece separator text <:+ text := by
  obtain ⟨front, hfront, -⟩ := exists_append_pieceUpTo separator text.reverse []
  rw [List.reverse_reverse, List.append_nil] at hfront
  exact ⟨front, hfront.symm⟩

theorem lastPiece_eq_or (separator text : List Char) : lastPiece separator text = text ∨
    ∃ front, text = front ++ (separator ++ lastPiece separator text) := by
  obtain ⟨front, hfront, hends⟩ := exists_append_pieceUpTo separator text.reverse []
  rw [List.reverse_reverse, List.append_nil] at hfront
  rcases hends with rfl | ⟨more, rfl⟩
  · exact Or.inl hfront.symm
  · refine Or.inr ⟨more, ?_⟩
    rw [← List.append_assoc]
    exact hfront

theorem length_lastPiece_le (front separator tail : List Char) :
    (lastPiece separator (front ++ (separator ++ tail))).length ≤ tail.length := by
  have htext : (front ++ (separator ++ tail)).reverse.reverse ++ [] =
      front ++ (separator ++ tail) := by
    rw [List.reverse_reverse, List.append_nil]
  exact length_pieceUpTo_le htext (Nat.zero_le _)

end Pieces

theorem afterSeparators_suffix_lastPiece {name text : List Char} (separator : Separator)
    (htext : text <:+ name) (hafter : afterSeparators name <:+ text) :
    afterSeparators name <:+ lastPiece separator.chars text := by
  rcases lastPiece_eq_or separator.chars text with hsame | ⟨front, hcut⟩
  · rwa [hsame]
  · obtain ⟨more, hname⟩ := htext
    rw [hcut, ← List.append_assoc] at hname
    rw [← hname]
    exact afterSeparators_suffix_of_append _ separator _

/-- What stands behind the last separator is what two cuts from the end leave, the first at
two colons and the second at a dot. -/
theorem afterSeparators_eq_lastPiece (name : List Char) : afterSeparators name =
    lastPiece Separator.dot.chars (lastPiece Separator.colons.chars name) := by
  have hcolons := lastPiece_suffix Separator.colons.chars name
  have hdot := lastPiece_suffix Separator.dot.chars (lastPiece Separator.colons.chars name)
  have hfirst : afterSeparators name <:+ lastPiece Separator.colons.chars name :=
    afterSeparators_suffix_lastPiece .colons List.suffix_rfl (afterSeparators_suffix name)
  apply (afterSeparators_suffix_lastPiece .dot hcolons hfirst).eq_of_length_le
  obtain ⟨head, hhead, hname⟩ := exists_head name
  rcases hhead with rfl | hends
  · rw [List.nil_append] at hname
    rw [← hname]
    exact (hdot.trans hcolons).length_le
  · obtain ⟨front, separator, rfl⟩ := endsInSeparator_iff.mp hends
    rw [List.append_assoc] at hname
    cases separator with
    | colons =>
        apply Nat.le_trans hdot.length_le
        conv_lhs => rw [hname]
        exact length_lastPiece_le front Separator.colons.chars _
    | dot =>
        rcases Nat.eq_or_lt_of_le hfirst.length_le with hlength | hlt
        · rw [hlength]
          exact hdot.length_le
        · -- The last dot is still there after the cut at two colons.
          have hbehind : Separator.dot.chars ++ afterSeparators name <:+
              lastPiece Separator.colons.chars name :=
            List.suffix_of_suffix_length_le ⟨front, hname.symm⟩ hcolons hlt
          obtain ⟨more, hmore⟩ := hbehind
          rw [← hmore]
          exact length_lastPiece_le more Separator.dot.chars _

end Name

/-! ## Paths and tails -/

/-- The text ends in a separator, so that a name can follow. -/
def IsPath (path : String) : Prop :=
  ∃ front, path = front ++ "::" ∨ path = front ++ "."

/-- The name itself, or what stands in it behind a path. -/
def IsTail (name tail : String) : Prop :=
  tail = name ∨ ∃ path, IsPath path ∧ name = path ++ tail

/-- No tail of the name is shorter. -/
structure IsShortestTail (name tail : String) : Prop where
  isTail : IsTail name tail
  shortest : ∀ other, IsTail name other → tail.length ≤ other.length

theorem isPath_iff {path : String} :
    IsPath path ↔
      ∃ front, ∃ separator : Name.Separator, path.toList = front ++ separator.chars := by
  constructor
  · rintro ⟨front, rfl | rfl⟩
    · exact ⟨front.toList, .colons, String.toList_append⟩
    · exact ⟨front.toList, .dot, String.toList_append⟩
  · rintro ⟨front, separator, hpath⟩
    refine ⟨String.ofList front, ?_⟩
    cases separator with
    | colons => exact .inl (String.toList_injective (by simpa [Name.Separator.chars] using hpath))
    | dot => exact .inr (String.toList_injective (by simpa [Name.Separator.chars] using hpath))

theorem isQualified_iff {name : String} :
    isQualified name ↔ ∃ path tail, IsPath path ∧ name = path ++ tail := by
  rw [isQualified, Name.hasSeparator_iff]
  constructor
  · rintro ⟨front, tail, separator, hname⟩
    refine ⟨String.ofList (front ++ separator.chars), String.ofList tail, ?_, ?_⟩
    · exact isPath_iff.mpr ⟨front, separator, String.toList_ofList⟩
    · apply String.toList_injective
      simp [hname]
  · rintro ⟨path, tail, hpath, rfl⟩
    obtain ⟨front, separator, hfront⟩ := isPath_iff.mp hpath
    exact ⟨front, tail.toList, separator, by simp [hfront]⟩

/-! ## The simple name -/

theorem simpleName_eq_lastPiece (name : String) : simpleName name =
    String.ofList (Name.lastPiece ['.'] (Name.lastPiece [':', ':'] name.toList)) := by
  rw [simpleName, Name.afterSeparators_eq_lastPiece]
  rfl

theorem not_isQualified_simpleName (name : String) : ¬ isQualified (simpleName name) := by
  rw [isQualified, simpleName, String.toList_ofList]
  exact Name.not_hasSeparator_afterSeparators name.toList

theorem simpleName_simpleName (name : String) : simpleName (simpleName name) = simpleName name :=
  simpleName_of_not_isQualified (not_isQualified_simpleName name)

theorem isQualified_iff_simpleName_ne {name : String} :
    isQualified name ↔ simpleName name ≠ name := by
  constructor
  · intro hqualified hsame
    apply not_isQualified_simpleName name
    rwa [hsame]
  · intro hne
    by_contra hplain
    exact hne (simpleName_of_not_isQualified hplain)

theorem isTail_simpleName (name : String) : IsTail name (simpleName name) := by
  obtain ⟨head, hhead, heq⟩ := Name.exists_head name.toList
  rcases hhead with rfl | hends
  · refine .inl (String.toList_injective ?_)
    rw [simpleName, String.toList_ofList, ← List.nil_append (Name.afterSeparators _), ← heq]
  · refine .inr ⟨String.ofList head, ?_, String.toList_injective ?_⟩
    · rw [isPath_iff, String.toList_ofList]
      exact Name.endsInSeparator_iff.mp hends
    · rw [String.toList_append, String.toList_ofList, simpleName, String.toList_ofList]
      exact heq

/-- Every tail ends in the simple name. -/
theorem simpleName_suffix {name tail : String} (htail : IsTail name tail) :
    (simpleName name).toList <:+ tail.toList := by
  rw [simpleName, String.toList_ofList]
  rcases htail with rfl | ⟨path, hpath, rfl⟩
  · exact Name.afterSeparators_suffix _
  · obtain ⟨front, separator, hfront⟩ := isPath_iff.mp hpath
    rw [String.toList_append, hfront, List.append_assoc]
    exact Name.afterSeparators_suffix_of_append front separator tail.toList

theorem isShortestTail_simpleName (name : String) : IsShortestTail name (simpleName name) := by
  refine ⟨isTail_simpleName name, ?_⟩
  intro other hother
  rw [← String.length_toList, ← String.length_toList]
  exact (simpleName_suffix hother).length_le

/-- There is just one shortest tail. -/
theorem simpleName_eq_iff {name tail : String} :
    simpleName name = tail ↔ IsShortestTail name tail := by
  constructor
  · rintro rfl
    exact isShortestTail_simpleName name
  · rintro ⟨htail, hshortest⟩
    have hsuffix := simpleName_suffix htail
    have hle := hshortest _ (isTail_simpleName name)
    rw [← String.length_toList, ← String.length_toList] at hle
    exact String.toList_injective (hsuffix.eq_of_length_le hle)

theorem simpleName_append_of_isPath {path word : String} (hpath : IsPath path)
    (hplain : Name.IsPlainWord word.toList) : simpleName (path ++ word) = word := by
  obtain ⟨front, separator, hfront⟩ := isPath_iff.mp hpath
  rw [simpleName, String.toList_append, hfront,
    Name.afterSeparators_append_separator front separator hplain, String.ofList_toList]

/-- The simple name is the shortest tail of a name, without any separator in it, and is its
own simple name. The qualified names are those that it differs from. Behind a path each word
without dots and colons is the simple name. -/
theorem simpleName_is_shortest_tail :
    (∀ name tail, simpleName name = tail ↔ IsShortestTail name tail) ∧
    (∀ name path tail, IsPath path → simpleName name ≠ path ++ tail) ∧
    (∀ name, simpleName (simpleName name) = simpleName name) ∧
    (∀ name, isQualified name ↔ simpleName name ≠ name) ∧
    ∀ path word : String, IsPath path → Name.IsPlainWord word.toList →
      simpleName (path ++ word) = word := by
  refine ⟨fun _ _ => simpleName_eq_iff, ?_, simpleName_simpleName,
    fun _ => isQualified_iff_simpleName_ne, fun _ _ => simpleName_append_of_isPath⟩
  intro name path tail hpath heq
  exact not_isQualified_simpleName name (isQualified_iff.mpr ⟨path, tail, hpath, heq⟩)

/-- Of three colons the last two are a separator, and no name is left behind them at the end. -/
example : simpleName "a.b:::" = "" := by
  decide

/-- A path in which both separators occur, the dot behind two colons that do not end it. -/
theorem simpleName_is_shortest_tail_user :
    IsPath "crate:::org.example." ∧ Name.IsPlainWord "User".toList ∧
      simpleName ("crate:::org.example." ++ "User") = "User" ∧
        simpleName "User" ≠ "crate:::org.example." ++ "User" := by
  obtain ⟨-, hnone, -, -, hbehind⟩ := simpleName_is_shortest_tail
  have hpath : IsPath "crate:::org.example." := ⟨"crate:::org.example", .inr rfl⟩
  have hplain : Name.IsPlainWord "User".toList := by decide
  exact ⟨hpath, hplain, hbehind _ _ hpath hplain, hnone _ _ _ hpath⟩

end RouteSurvey
