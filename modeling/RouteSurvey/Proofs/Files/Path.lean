import Mathlib.Data.List.Basic
import Mathlib.Data.List.TakeWhile
import RouteSurvey.Files.Path
import RouteSurvey.Files.Tree

/-! # The place of a path

Where a path leads does not depend on what is there: without links every path has one place
to which it can lead. The place of a name in a directory is that of the directory with the
name behind it, but a name that contains separators may lead anywhere.
-/

namespace RouteSurvey.Path

/-- Where a piece of a path leads from a location. -/
def step (here : Location) (piece : String) : Location :=
  if piece = "" ∨ piece = "." then here
  else if piece = ".." then here.dropLast
  else here ++ [piece]

/-- The only location to which a path can lead. -/
def place (path : Path) : Location :=
  path.pieces.foldl step []

theorem step_empty (here : Location) : step here "" = here :=
  rfl

theorem step_of_isEntryName {name : String} (hname : isEntryName name = true)
    (here : Location) : step here name = here ++ [name] := by
  simp only [isEntryName, Bool.and_eq_true, decide_eq_true_eq] at hname
  obtain ⟨⟨⟨⟨hempty, hdot⟩, hdots⟩, -⟩, -⟩ := hname
  rw [step, if_neg (by simp [hempty, hdot]), if_neg hdots]

/-! ## Pieces -/

theorem splitAtSlashes_ne_nil (cs : List Char) : splitAtSlashes cs ≠ [] := by
  cases cs with
  | nil => exact List.cons_ne_nil _ _
  | cons c rest =>
      rw [splitAtSlashes]
      split
      · exact List.cons_ne_nil _ _
      · split <;> exact List.cons_ne_nil _ _

theorem splitAtSlashes_append_slash (first second : List Char) :
    splitAtSlashes (first ++ '/' :: second) = splitAtSlashes first ++ splitAtSlashes second := by
  induction first with
  | nil => simp [splitAtSlashes]
  | cons c rest ih =>
      rw [List.cons_append, splitAtSlashes, splitAtSlashes, ih]
      split
      · rfl
      · obtain ⟨piece, more, hrest⟩ := List.exists_cons_of_ne_nil (splitAtSlashes_ne_nil rest)
        rw [hrest]
        rfl

theorem splitAtSlashes_of_notMem {cs : List Char} (hslash : '/' ∉ cs) :
    splitAtSlashes cs = [cs] := by
  induction cs with
  | nil => rfl
  | cons c rest ih =>
      simp only [List.mem_cons, not_or] at hslash
      rw [splitAtSlashes, if_neg (Ne.symm hslash.1), ih hslash.2]

theorem pieces_ne_nil (path : Path) : path.pieces ≠ [] := by
  rw [pieces]
  simpa using splitAtSlashes_ne_nil path.text.toList

/-! ## Names in directories -/

theorem isAbsolute_name {name : String} (hslash : '/' ∉ name.toList) :
    isAbsolute ⟨name⟩ = false := by
  rw [isAbsolute, beq_eq_false_iff_ne]
  exact fun habsolute => hslash (List.mem_of_mem_head? habsolute)

section Join

variable (directory : Path) {name : String}

/-- A name is the last piece of its path in a directory. It takes the place of an empty piece
at the end, or comes behind the pieces that are there. -/
theorem pieces_join_cases (hslash : '/' ∉ name.toList) :
    (∃ front, directory.pieces = front ++ [""] ∧
      (directory.join ⟨name⟩).pieces = front ++ [name]) ∨
    (directory.join ⟨name⟩).pieces = directory.pieces ++ [name] := by
  have hpieces (cs : List Char) :
      (splitAtSlashes (cs ++ '/' :: name.toList)).map String.ofList =
        (splitAtSlashes cs).map String.ofList ++ [name] := by
    rw [splitAtSlashes_append_slash, splitAtSlashes_of_notMem hslash]
    simp
  rw [join, isAbsolute_name hslash, if_neg Bool.false_ne_true]
  by_cases hempty : directory.text = ""
  · refine .inl ⟨[], by rw [pieces, hempty]; rfl, ?_⟩
    simp [pieces, hempty, splitAtSlashes_of_notMem hslash]
  · by_cases hends : directory.text.toList.getLast? = some '/'
    · -- The directory has one more piece, which is empty.
      have htext := (List.dropLast_append_getLast? '/' hends).symm
      refine .inl ⟨(splitAtSlashes directory.text.toList.dropLast).map String.ofList, ?_, ?_⟩
      · rw [pieces, htext, splitAtSlashes_append_slash]
        simp [splitAtSlashes]
      · rw [if_pos (.inr hends), pieces, String.toList_append, htext, List.append_assoc]
        simpa using hpieces directory.text.toList.dropLast
    · refine .inr ?_
      rw [if_neg (by simp [hempty, hends]), pieces, String.toList_append, String.toList_append]
      simpa [pieces] using hpieces directory.text.toList

/-- The pieces in front of the name lead to the directory. -/
theorem pieces_join (hslash : '/' ∉ name.toList) :
    ∃ around, (directory.join ⟨name⟩).pieces = around ++ [name] ∧
      around.foldl step [] = directory.place := by
  obtain ⟨front, hdirectory, hjoin⟩ | hjoin := pieces_join_cases directory hslash
  · refine ⟨front, hjoin, ?_⟩
    rw [place, hdirectory, List.foldl_append]
    exact (step_empty _).symm
  · exact ⟨directory.pieces, hjoin, rfl⟩

/-- An allowed name without separators names a place in the directory itself. -/
theorem place_join (hslash : '/' ∉ name.toList) (hname : isEntryName name) :
    (directory.join ⟨name⟩).place = directory.place ++ [name] := by
  obtain ⟨around, hpieces, haround⟩ := pieces_join directory hslash
  rw [place, hpieces, List.foldl_append, haround]
  exact step_of_isEntryName hname _

end Join

/-! ## Components below a directory -/

/-- The name is a component of its own: it is not empty, has no separators, and leads neither
nowhere nor back. -/
structure IsPlain (name : String) : Prop where
  ne_empty : name ≠ ""
  ne_dot : name ≠ "."
  ne_dots : name ≠ ".."
  notMem_slash : '/' ∉ name.toList

instance (name : String) : Decidable (IsPlain name) :=
  decidable_of_iff (name ≠ "" ∧ name ≠ "." ∧ name ≠ ".." ∧ '/' ∉ name.toList)
    ⟨fun ⟨hempty, hdot, hdots, hslash⟩ => ⟨hempty, hdot, hdots, hslash⟩,
      fun hplain => ⟨hplain.ne_empty, hplain.ne_dot, hplain.ne_dots, hplain.notMem_slash⟩⟩

theorem IsPlain.ofPiece? {name : String} (hname : IsPlain name) :
    Component.ofPiece? name = some (.name name) := by
  rw [Component.ofPiece?, if_neg (by simp [hname.ne_empty, hname.ne_dot]), if_neg hname.ne_dots]

section Components

variable {name : String} (hname : IsPlain name) (directory : Path)

include hname

theorem isAbsolute_join : (directory.join ⟨name⟩).isAbsolute = directory.isAbsolute := by
  have hrelative : isAbsolute ⟨name⟩ = false := isAbsolute_name hname.notMem_slash
  rw [join, hrelative, if_neg Bool.false_ne_true]
  by_cases hempty : directory.text = ""
  · rw [if_pos (.inl hempty), hempty, String.empty_append, hrelative, isAbsolute, hempty]
    rfl
  · obtain ⟨c, rest, htext⟩ := List.exists_cons_of_ne_nil
      (fun hnil => hempty (String.toList_eq_nil_iff.mp hnil))
    split <;> simp [isAbsolute, htext]

/-- The path of a name in a directory begins with a dot if that of the directory does. -/
theorem head?_pieces_join : (directory.join ⟨name⟩).pieces.head? = some "." ↔
    directory.pieces.head? = some "." := by
  obtain ⟨front, hdirectory, hjoin⟩ | hjoin := pieces_join_cases directory hname.notMem_slash
  · rw [hdirectory, hjoin]
    cases front with
    | nil => simp [hname.ne_dot]
    | cons piece front => rfl
  · obtain ⟨piece, rest, hpieces⟩ := List.exists_cons_of_ne_nil (pieces_ne_nil directory)
    rw [hjoin, hpieces]
    rfl

theorem components_join :
    (directory.join ⟨name⟩).components = directory.components ++ [.name name] := by
  have hpieces : (directory.join ⟨name⟩).pieces.filterMap Component.ofPiece? =
      directory.pieces.filterMap Component.ofPiece? ++ [.name name] := by
    obtain ⟨front, hdirectory, hjoin⟩ | hjoin := pieces_join_cases directory hname.notMem_slash
    · have hempty : Component.ofPiece? "" = none := rfl
      simp [hdirectory, hjoin, hname.ofPiece?, hempty]
    · simp [hjoin, hname.ofPiece?]
  rw [components, components, hpieces, isAbsolute_join hname, List.append_assoc]
  simp only [head?_pieces_join hname]

end Components

/-- The path that leads from a directory along some names. -/
def joinAll (root : Path) (names : List String) : Path :=
  names.foldl (fun path name => path.join ⟨name⟩) root

theorem components_joinAll (root : Path) {names : List String}
    (hnames : ∀ name ∈ names, IsPlain name) :
    (root.joinAll names).components = root.components ++ names.map .name := by
  induction names generalizing root with
  | nil => exact (List.append_nil _).symm
  | cons name rest ih =>
      obtain ⟨hname, hrest⟩ := List.forall_mem_cons.mp hnames
      have hbelow := ih (root.join ⟨name⟩) hrest
      rw [components_join hname, List.append_assoc] at hbelow
      exact hbelow

theorem joinAll_inj {root : Path} {names others : List String}
    (hnames : ∀ name ∈ names, IsPlain name) (hothers : ∀ name ∈ others, IsPlain name)
    (heq : root.joinAll names = root.joinAll others) : names = others := by
  have hcomponents := congrArg components heq
  rw [components_joinAll root hnames, components_joinAll root hothers] at hcomponents
  exact List.map_injective_iff.mpr (fun _ _ => Component.name.inj)
    (List.append_cancel_left hcomponents)

theorem below?_joinAll (root : Path) {names : List String}
    (hnames : ∀ name ∈ names, IsPlain name) :
    (root.joinAll names).below? root = some (names.map .name) := by
  rw [below?, components_joinAll root hnames, List.drop_left, if_pos]
  exact List.isPrefixOf_iff_prefix.mpr (List.prefix_append _ _)

/-! ## Extensions -/

theorem takeWhile_behind_dot (front : List Char) {back : List Char} (hdot : '.' ∉ back) :
    ((front ++ '.' :: back).reverse.takeWhile (· ≠ '.')).reverse = back := by
  have hback : ∀ c ∈ back.reverse, decide (c ≠ '.') = true := by
    intro c hc
    rw [decide_eq_true_eq]
    rintro rfl
    exact hdot (List.mem_reverse.mp hc)
  rw [List.reverse_append, List.reverse_cons, List.append_assoc,
    List.takeWhile_append_of_pos hback, List.singleton_append,
    List.takeWhile_cons_of_neg (by simp), List.append_nil, List.reverse_reverse]

theorem extensionOf?_append (stem : String) {extension : String}
    (hdot : '.' ∉ extension.toList) :
    extensionOf? (stem ++ "." ++ extension) = if stem = "" then none else some extension := by
  have htext : (stem ++ "." ++ extension).toList = stem.toList ++ '.' :: extension.toList := by
    simp
  rw [extensionOf?, htext, takeWhile_behind_dot _ hdot, List.length_append, List.length_cons,
    String.ofList_toList]
  by_cases hstem : stem = ""
  · simp [hstem]
  · have hlength : 0 < stem.toList.length := by simpa [Nat.pos_iff_ne_zero] using hstem
    rw [if_neg (by omega), if_neg hstem]

theorem extensionOf?_of_notMem {name : String} (hdot : '.' ∉ name.toList) :
    extensionOf? name = none := by
  have hwhole : name.toList.reverse.takeWhile (· ≠ '.') = name.toList.reverse := by
    refine List.takeWhile_eq_self_iff.mpr fun c hc => ?_
    rw [decide_eq_true_eq]
    rintro rfl
    exact hdot (List.mem_reverse.mp hc)
  rw [extensionOf?, hwhole, List.reverse_reverse, if_pos (Nat.le_succ _)]

theorem exists_last_dot {name : String} (hdot : '.' ∈ name.toList) :
    ∃ stem extension : String, name = stem ++ "." ++ extension ∧ '.' ∉ extension.toList := by
  obtain ⟨back, front, hname, hback⟩ := List.eq_append_cons_of_mem (List.mem_reverse.mpr hdot)
  refine ⟨String.ofList front.reverse, String.ofList back.reverse, ?_, by simpa using hback⟩
  rw [← String.toList_inj, List.reverse_eq_iff.mp hname]
  simp

/-- The extension is what stands behind the last dot, if there is something in front of it. -/
theorem extensionOf?_eq_some {name extension : String} (hdot : '.' ∉ extension.toList) :
    extensionOf? name = some extension ↔ ∃ stem ≠ "", name = stem ++ "." ++ extension := by
  constructor
  · intro hextension
    by_cases hmem : '.' ∈ name.toList
    · obtain ⟨stem, last, rfl, hlast⟩ := exists_last_dot hmem
      rw [extensionOf?_append stem hlast] at hextension
      split at hextension
      · contradiction
      next hstem =>
        cases hextension
        exact ⟨stem, hstem, rfl⟩
    · rw [extensionOf?_of_notMem hmem] at hextension
      contradiction
  · rintro ⟨stem, hstem, rfl⟩
    rw [extensionOf?_append stem hdot, if_neg hstem]

end RouteSurvey.Path
