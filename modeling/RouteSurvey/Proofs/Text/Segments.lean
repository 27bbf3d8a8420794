import Mathlib.Data.List.Basic

/-! # Segments

A text that was put together of segments can be taken apart again if it shows where each of
them ends. The same holds of lines that were put together of blocks.
-/

namespace RouteSurvey.Text

variable {α ι : Type}

/-! ## Where a segment ends -/

/-- What follows a segment of items with `p` does not begin with such an item. -/
def Stops (p : α → Prop) (rest : List α) : Prop :=
  ∀ item ∈ rest.head?, ¬ p item

theorem stops_nil (p : α → Prop) : Stops p [] := by
  intro item hitem
  contradiction

theorem stops_cons {p : α → Prop} {item : α} (rest : List α) (hitem : ¬ p item) :
    Stops p (item :: rest) := by
  rintro _ ⟨⟩
  exact hitem

theorem append_inj_of_stops {p : α → Prop} {first second rest others : List α}
    (hfirst : ∀ item ∈ first, p item) (hsecond : ∀ item ∈ second, p item)
    (hrest : Stops p rest) (hothers : Stops p others) (heq : first ++ rest = second ++ others) :
    first = second ∧ rest = others := by
  induction first generalizing second with
  | nil =>
      cases second with
      | nil => exact ⟨rfl, heq⟩
      | cons item second =>
          rw [List.nil_append] at heq
          subst heq
          exact absurd (hsecond item List.mem_cons_self) (hrest item rfl)
  | cons item first ih =>
      cases second with
      | nil =>
          rw [List.nil_append] at heq
          subst heq
          exact absurd (hfirst item List.mem_cons_self) (hothers item rfl)
      | cons other second =>
          obtain ⟨rfl, htails⟩ := List.cons_eq_cons.mp heq
          obtain ⟨rfl, hrests⟩ := ih (List.forall_mem_cons.mp hfirst).2
            (List.forall_mem_cons.mp hsecond).2 htails
          exact ⟨rfl, hrests⟩

theorem append_inj_of_delimiter {c : α} {first second rest others : List α} (hfirst : c ∉ first)
    (hsecond : c ∉ second) (heq : first ++ c :: rest = second ++ c :: others) :
    first = second ∧ rest = others := by
  have hne : ∀ segment : List α, c ∉ segment → ∀ item ∈ segment, item ≠ c := by
    rintro segment hsegment item hitem rfl
    exact hsegment hitem
  obtain ⟨rfl, hrests⟩ := append_inj_of_stops (hne first hfirst) (hne second hsecond)
    (stops_cons rest (not_not_intro rfl)) (stops_cons others (not_not_intro rfl)) heq
  exact ⟨rfl, (List.cons.inj hrests).2⟩

/-! ## Blocks -/

theorem stops_blocks {p : α → Prop} {head : ι → α} (body : ι → List α) {items : List ι}
    (hitems : ∀ item ∈ items, ¬ p (head item)) :
    Stops p (items.flatMap fun item => head item :: body item) := by
  cases items with
  | nil => exact stops_nil p
  | cons item items =>
      rw [List.flatMap_cons, List.cons_append]
      exact stops_cons _ (hitems item List.mem_cons_self)

/-- Blocks stand apart from each other if their first lines differ in kind from all others.
What each block tells about its item is then told by all of them together. -/
theorem map_eq_of_blocks {β : Type} {p : α → Prop} {head : ι → α} {body : ι → List α}
    {f : ι → β} {items others : List ι}
    (hitems : ∀ item ∈ items, ¬ p (head item) ∧ ∀ line ∈ body item, p line)
    (hothers : ∀ item ∈ others, ¬ p (head item) ∧ ∀ line ∈ body item, p line)
    (htold : ∀ item ∈ items, ∀ other ∈ others, head item = head other → body item = body other →
      f item = f other)
    (heq : (items.flatMap fun item => head item :: body item) =
      others.flatMap fun item => head item :: body item) :
    items.map f = others.map f := by
  induction items generalizing others with
  | nil =>
      cases others with
      | nil => rfl
      | cons other others => simp at heq
  | cons item items ih =>
      cases others with
      | nil => simp at heq
      | cons other others =>
          rw [List.flatMap_cons, List.flatMap_cons, List.cons_append, List.cons_append] at heq
          obtain ⟨hhead, htail⟩ := List.cons_eq_cons.mp heq
          obtain ⟨hitem, hitems⟩ := List.forall_mem_cons.mp hitems
          obtain ⟨hother, hothers⟩ := List.forall_mem_cons.mp hothers
          -- Both bodies end where the next head stands, or at the end of all lines.
          obtain ⟨hbody, hrest⟩ := append_inj_of_stops hitem.2 hother.2
            (stops_blocks body fun item hitem => (hitems item hitem).1)
            (stops_blocks body fun item hitem => (hothers item hitem).1) htail
          have hfirst := htold item List.mem_cons_self other List.mem_cons_self hhead hbody
          have hlater := ih hitems hothers (fun item hitem other hother =>
            htold item (List.mem_cons_of_mem _ hitem) other (List.mem_cons_of_mem _ hother)) hrest
          rw [List.map_cons, List.map_cons, hfirst, hlater]

theorem eq_of_map_eq {f : ι → α} {items others : List ι}
    (hinj : ∀ item ∈ items, ∀ other ∈ others, f item = f other → item = other)
    (heq : items.map f = others.map f) : items = others := by
  induction items generalizing others with
  | nil => exact (List.map_eq_nil_iff.mp heq.symm).symm
  | cons item items ih =>
      cases others with
      | nil => contradiction
      | cons other others =>
          obtain ⟨hitem, htail⟩ := List.cons_eq_cons.mp heq
          rw [hinj item List.mem_cons_self other List.mem_cons_self hitem]
          refine congrArg (other :: ·) (ih ?_ htail)
          intro item hitem other hother
          exact hinj item (List.mem_cons_of_mem _ hitem) other (List.mem_cons_of_mem _ hother)

/-! ## Lines and items -/

/-- Lines without the mark that ends them. -/
theorem eq_of_flatMap_terminated {c : α} {lines others : List (List α)}
    (hlines : ∀ line ∈ lines, c ∉ line) (hothers : ∀ line ∈ others, c ∉ line)
    (heq : (lines.flatMap fun line => line ++ [c]) = others.flatMap fun line => line ++ [c]) :
    lines = others := by
  induction lines generalizing others with
  | nil =>
      cases others with
      | nil => rfl
      | cons other others => simp at heq
  | cons line lines ih =>
      cases others with
      | nil => simp at heq
      | cons other others =>
          simp only [List.flatMap_cons, List.append_assoc, List.singleton_append] at heq
          obtain ⟨hline, hrest⟩ := append_inj_of_delimiter (hlines line List.mem_cons_self)
            (hothers other List.mem_cons_self) heq
          have hlines := (List.forall_mem_cons.mp hlines).2
          have hothers := (List.forall_mem_cons.mp hothers).2
          rw [hline, ih hlines hothers hrest]

theorem isInfix_intercalate {c : α} {word : List α} {words : List (List α)} (hword : word ∈ words) :
    word <:+: [c].intercalate words := by
  induction words with
  | nil => contradiction
  | cons first rest ih =>
      cases rest with
      | nil =>
          cases List.mem_singleton.mp hword
          exact ⟨[], [], by simp⟩
      | cons second rest =>
          rw [List.intercalate_cons_cons]
          rcases List.mem_cons.mp hword with rfl | hrest
          · rw [List.append_assoc]
            exact (List.prefix_append _ _).isInfix
          · exact (ih hrest).trans (List.suffix_append _ _).isInfix

theorem mem_intercalate {item : α} {separator : List α} {words : List (List α)}
    (hmem : item ∈ separator.intercalate words) :
    item ∈ separator ∨ ∃ word ∈ words, item ∈ word := by
  induction words with
  | nil =>
      rw [List.intercalate_nil] at hmem
      contradiction
  | cons first rest ih =>
      cases rest with
      | nil =>
          rw [List.intercalate_singleton] at hmem
          exact Or.inr ⟨first, List.mem_singleton_self first, hmem⟩
      | cons second rest =>
          rw [List.intercalate_cons_cons, List.mem_append, List.mem_append] at hmem
          obtain (hfirst | hseparator) | hrest := hmem
          · exact Or.inr ⟨first, List.mem_cons_self, hfirst⟩
          · exact Or.inl hseparator
          · exact (ih hrest).imp_right fun ⟨word, hword, hitem⟩ =>
              ⟨word, List.mem_cons_of_mem first hword, hitem⟩

variable [DecidableEq α]

theorem intercalate_inj {c : α} {items others : List (List α)} (hitems : ∀ item ∈ items, c ∉ item)
    (hothers : ∀ item ∈ others, c ∉ item) (hne : items ≠ []) (hne' : others ≠ [])
    (heq : [c].intercalate items = [c].intercalate others) : items = others := by
  have hsplit := congrArg (List.splitOn c) heq
  rwa [List.splitOn_intercalate c hitems hne, List.splitOn_intercalate c hothers hne'] at hsplit

theorem splitOn_of_notMem {c : α} {word : List α} (hword : c ∉ word) : word.splitOn c = [word] := by
  have hsplit : ([c].intercalate [word]).splitOn c = [word] :=
    List.splitOn_intercalate c (by simpa using hword) (List.cons_ne_nil _ _)
  rwa [List.intercalate_singleton] at hsplit

/-- Items that are not empty are read back, also if there are none. -/
theorem filter_splitOn_intercalate {c : α} {items : List (List α)}
    (hitems : ∀ item ∈ items, item ≠ [] ∧ c ∉ item) :
    (([c].intercalate items).splitOn c).filter (· ≠ []) = items := by
  by_cases hne : items = []
  · subst hne
    rw [List.intercalate_nil, splitOn_of_notMem List.not_mem_nil]
    rfl
  · rw [List.splitOn_intercalate c (fun item hitem => (hitems item hitem).2) hne]
    apply List.filter_eq_self.mpr
    intro item hitem
    exact decide_eq_true (hitems item hitem).1

theorem splitOn_append_cons (c : α) (front rest : List α) :
    (front ++ c :: rest).splitOn c = front.splitOn c ++ rest.splitOn c :=
  List.splitOnP_append_cons front rest (by simp)

theorem splitOn_inj {c : α} {first second : List α} (heq : first.splitOn c = second.splitOn c) :
    first = second := by
  calc first = [c].intercalate (first.splitOn c) := (List.intercalate_splitOn c).symm
    _ = [c].intercalate (second.splitOn c) := by rw [heq]
    _ = second := List.intercalate_splitOn c

theorem isInfix_of_mem_splitOn {c : α} {word text : List α} (hword : word ∈ text.splitOn c) :
    word <:+: text := by
  have hinfix : word <:+: [c].intercalate (text.splitOn c) := isInfix_intercalate hword
  rwa [List.intercalate_splitOn] at hinfix

end RouteSurvey.Text
