import RouteSurvey.Proofs.Resolution.Joining

/-! # Double slashes

Joining brings no two slashes next to each other: where a joined path has a double slash,
one of the two that were joined has it. So the paths of a declaration have double slashes
only if a path on its chain is written with one.
-/

namespace RouteSurvey.Resolution

open Declaration (Tree Ref)
open Text (dropTrailing)

/-- Two slashes stand next to each other. -/
def HasDoubleSlash (path : String) : Prop :=
  ['/', '/'] <:+: path.toList

instance (path : String) : Decidable (HasDoubleSlash path) :=
  inferInstanceAs (Decidable (_ <:+: _))

/-! ## One join -/

/-- Every double slash of a join lies wholly in what is taken of the parent, or wholly in what
is taken of the fragment. -/
theorem doubleSlash_of_joinChars {parent fragment before after : List Char}
    (hjoin : joinChars parent fragment = before ++ '/' :: '/' :: after) :
    before ++ ['/', '/'] <+: dropTrailing (· == '/') parent ∨
      '/' :: '/' :: after <:+ fragment.dropWhile (· == '/') := by
  have hends := Text.getLast?_dropTrailing_ne (· == '/') (beq_self_eq_true '/') parent
  have hstarts := Text.head?_dropWhile_ne (· == '/') (beq_self_eq_true '/') fragment
  rcases List.append_eq_append_iff.mp hjoin with ⟨middle, -, hrest⟩ | ⟨middle, hparent, hrest⟩
  · -- The double slash begins with the slash between the two, or further behind.
    right
    cases middle with
    | nil =>
        obtain ⟨-, hfragment⟩ := List.cons_eq_cons.mp hrest
        exact absurd (by rw [hfragment]; rfl) hstarts
    | cons slash middle =>
        obtain ⟨-, hfragment⟩ := List.cons_eq_cons.mp hrest
        exact ⟨middle, hfragment.symm⟩
  · left
    match middle, hrest with
    | [], hrest =>
        obtain ⟨-, hfragment⟩ := List.cons_eq_cons.mp hrest
        exact absurd (by rw [← hfragment]; rfl) hstarts
    | [slash], hrest =>
        obtain ⟨rfl, -⟩ := List.cons_eq_cons.mp hrest
        exact absurd (by rw [hparent, List.getLast?_concat]) hends
    | first :: second :: middle, hrest =>
        simp only [List.cons_append, List.cons.injEq] at hrest
        obtain ⟨rfl, rfl, -⟩ := hrest
        exact ⟨middle, by rw [hparent, List.append_assoc]; rfl⟩

theorem hasDoubleSlash_of_joinPaths {parent fragment : String}
    (hslash : HasDoubleSlash (joinPaths parent fragment)) :
    HasDoubleSlash parent ∨ HasDoubleSlash fragment := by
  obtain ⟨before, after, hjoin⟩ := hslash
  rw [joinPaths, String.toList_ofList, List.append_assoc] at hjoin
  rcases doubleSlash_of_joinChars hjoin.symm with hparent | hfragment
  · refine Or.inl (List.IsInfix.trans ?_ (hparent.trans (List.rdropWhile_prefix _ _)).isInfix)
    exact (List.suffix_append before _).isInfix
  · refine Or.inr (List.IsInfix.trans ?_ (hfragment.trans (List.dropWhile_suffix _)).isInfix)
    exact (List.prefix_append ['/', '/'] after).isInfix

/-! ## Any number of joins -/

theorem exists_hasDoubleSlash_of_foldl {first : String} {rest : List String}
    (hslash : HasDoubleSlash (rest.foldl joinPaths first)) :
    ∃ fragment ∈ first :: rest, HasDoubleSlash fragment := by
  -- The result of each join is the left operand of the next one.
  induction rest generalizing first with
  | nil => exact ⟨first, List.mem_singleton_self first, hslash⟩
  | cons next rest ih =>
      obtain ⟨fragment, hfragment, hslash⟩ := ih hslash
      rcases List.mem_cons.mp hfragment with rfl | hrest
      · rcases hasDoubleSlash_of_joinPaths hslash with hfirst | hnext
        · exact ⟨first, List.mem_cons_self, hfirst⟩
        · exact ⟨next, List.mem_cons_of_mem _ List.mem_cons_self, hnext⟩
      · exact ⟨fragment, List.mem_cons_of_mem _ (List.mem_cons_of_mem _ hrest), hslash⟩

theorem exists_hasDoubleSlash_of_joinedPath {fragments : List String}
    (hslash : HasDoubleSlash (joinedPath fragments)) :
    ∃ fragment ∈ fragments, HasDoubleSlash fragment := by
  cases fragments with
  | nil => exact absurd hslash (by decide)
  | cons first rest => exact exists_hasDoubleSlash_of_foldl hslash

/-! ## Paths of a declaration -/

/-- A resolved path is put together of paths of the mappings on the chain. -/
theorem exists_fragments_of_resolvePaths {tree : Tree} {ref : Ref} {journal : Journal}
    {paths : List String} {path : String}
    (hpaths : ((resolvePaths tree ref).run journal).1 = .ok paths) (hpath : path ∈ paths) :
    ∃ fragments, fragments ≠ [] ∧ joinedPath fragments = path ∧
      ∀ fragment ∈ fragments, ∃ outer mapping, tree.Surrounds ref outer ∧
        mappingAt? tree outer = some mapping ∧ fragment ∈ mapping.paths := by
  obtain ⟨fragments, hne, hjoined, hoffered⟩ :=
    exists_fragments_of_joinedChoices (resolvePaths_eq_ok_iff.mp hpaths) hpath
  refine ⟨fragments, hne, hjoined, fun fragment hfragment => ?_⟩
  obtain ⟨offered, hlist, hmem⟩ := hoffered fragment hfragment
  obtain ⟨-, outer, houter, rfl⟩ := mem_pathLists.mp hlist
  obtain ⟨mapping, hmapping, hmem⟩ := mem_ownAt.mp hmem
  exact ⟨outer, mapping, houter, hmapping, hmem⟩

/-- If no path on the chain of a declaration has a double slash, then its resolved paths have
none. Whatever is joined, each double slash of the join was there before, in one of the two
without the slashes at the seam. -/
theorem joining_adds_no_double_slash :
    (∀ (tree : Tree) (ref : Ref) (journal : Journal) (paths : List String),
      (∀ outer mapping, tree.Surrounds ref outer → mappingAt? tree outer = some mapping →
        ∀ path ∈ mapping.paths, ¬ HasDoubleSlash path) →
      ((resolvePaths tree ref).run journal).1 = .ok paths →
        ∀ path ∈ paths, ¬ HasDoubleSlash path) ∧
    ∀ (parent fragment : String) (before after : List Char),
      (joinPaths parent fragment).toList = before ++ ['/', '/'] ++ after →
        before ++ ['/', '/'] <+: dropTrailing (· == '/') parent.toList ∨
          ['/', '/'] ++ after <:+ fragment.toList.dropWhile (· == '/') := by
  constructor
  · intro tree ref journal paths hchain hpaths path hpath hslash
    obtain ⟨fragments, -, rfl, hoffered⟩ := exists_fragments_of_resolvePaths hpaths hpath
    obtain ⟨fragment, hfragment, hslash⟩ := exists_hasDoubleSlash_of_joinedPath hslash
    obtain ⟨outer, mapping, houter, hmapping, hmem⟩ := hoffered fragment hfragment
    exact hchain outer mapping houter hmapping fragment hmem hslash
  · intro parent fragment before after hjoin
    rw [joinPaths, String.toList_ofList, List.append_assoc] at hjoin
    exact doubleSlash_of_joinChars hjoin

theorem joining_adds_no_double_slash_users :
    (∀ outer mapping, nestedUsers.Surrounds (.ofMethod 1 0) outer →
      mappingAt? nestedUsers outer = some mapping →
        ∀ path ∈ mapping.paths, ¬ HasDoubleSlash path) ∧
    ((resolvePaths nestedUsers (.ofMethod 1 0)).run default).1 = .ok ["/api/users"] ∧
    ¬ HasDoubleSlash "/api/users" ∧
    (joinPaths "a//b/" "/c").toList = "a".toList ++ ['/', '/'] ++ "b/c".toList ∧
    ("a".toList ++ ['/', '/'] <+: dropTrailing (· == '/') "a//b/".toList ∨
      ['/', '/'] ++ "b/c".toList <:+ "/c".toList.dropWhile (· == '/')) := by
  have hwritten : ∀ outer ∈ (nestedUsers.chain (.ofMethod 1 0)).members,
      ∀ path ∈ ownAt nestedUsers Mapping.paths outer, ¬ HasDoubleSlash path := by decide
  have hchain : ∀ outer mapping, nestedUsers.Surrounds (.ofMethod 1 0) outer →
      mappingAt? nestedUsers outer = some mapping →
        ∀ path ∈ mapping.paths, ¬ HasDoubleSlash path := by
    intro outer mapping houter hmapping path hpath
    exact hwritten outer (Tree.mem_chain.mpr houter) path (mem_ownAt.mpr ⟨mapping, hmapping, hpath⟩)
  have hpaths : ((resolvePaths nestedUsers (.ofMethod 1 0)).run default).1 =
      .ok ["/api/users"] := by decide
  have hjoin : (joinPaths "a//b/" "/c").toList = "a".toList ++ ['/', '/'] ++ "b/c".toList := by
    decide
  refine ⟨hchain, hpaths, ?_, hjoin, joining_adds_no_double_slash.2 _ _ _ _ hjoin⟩
  exact joining_adds_no_double_slash.1 nestedUsers _ default _ hchain hpaths _
    (List.mem_singleton_self "/api/users")

end RouteSurvey.Resolution
