import RouteSurvey.Proofs.Dictionary
import RouteSurvey.Proofs.FirstOccurrences

/-! # Gathering rows by name

Rows that come one after the other are gathered into items, one for each name. A dictionary
can tell at which position the item of a name stands, so that it need not be searched for.
As long as each position is that of the item with the name, both ways lead to the same items:
one for each name, in the order in which the names first occur, made of the rows of the name.
-/

namespace RouteSurvey

/-- How rows are gathered into items. -/
structure Gathering (ρ α : Type) where
  /-- The name of the item that a row goes into -/
  key : ρ → String
  name : α → String
  /-- The item of a name before it has any rows -/
  empty : String → α
  /-- The item with one more row -/
  add : α → ρ → α
  name_empty : ∀ key, name (empty key) = key
  name_add : ∀ item row, name (add item row) = name item

/-- Items, and the positions at which the items of some names are said to stand. -/
structure PositionTable (α : Type) where
  items : List α := []
  positions : Dictionary Nat := Dictionary.empty

namespace Gathering

variable {ρ α : Type} (g : Gathering ρ α)

/-- The item that is begun by a row. -/
def begin (row : ρ) : α :=
  g.add (g.empty (g.key row)) row

/-- Adds a row to the first item of its name, beginning one at the end if there is none. -/
def put : List α → ρ → List α
  | [], row => [g.begin row]
  | item :: rest, row =>
    if g.name item = g.key row then g.add item row :: rest else item :: put rest row

/-- Adds a row to the item at the position of its name, beginning one at the end if the name
has no position yet. -/
def enter (table : PositionTable α) (row : ρ) : PositionTable α :=
  match table.positions.get? (g.key row) with
  | some position => { table with items := table.items.modify position (g.add · row) }
  | none => {
      items := table.items ++ [g.begin row]
      positions := table.positions.insert (g.key row) table.items.length }

/-- The names of some rows, each once, in the order in which they first occur. -/
def names (rows : List ρ) : List String :=
  (rows.map g.key).eraseDups

/-- The item that the rows of a name make up. -/
def itemOf (rows : List ρ) (name : String) : α :=
  (rows.filter (g.key · == name)).foldl g.add (g.empty name)

/-- The items that some rows make up. -/
def gather (rows : List ρ) : List α :=
  (g.names rows).map (g.itemOf rows)

variable {items : List α} {rows : List ρ} {row : ρ} {name : String}

/-! ## Names -/

theorem mem_names : name ∈ g.names rows ↔ ∃ row ∈ rows, g.key row = name := by
  rw [names, List.mem_eraseDups, List.mem_map]

theorem nodup_names (rows : List ρ) : (g.names rows).Nodup :=
  nodup_eraseDups _

theorem names_concat_of_mem (hmem : g.key row ∈ g.names rows) :
    g.names (rows ++ [row]) = g.names rows := by
  rw [names, List.map_append, List.map_singleton]
  exact eraseDups_concat_of_mem (List.mem_eraseDups.mp hmem)

theorem names_concat_of_notMem (hnew : g.key row ∉ g.names rows) :
    g.names (rows ++ [row]) = g.names rows ++ [g.key row] := by
  rw [names, List.map_append, List.map_singleton]
  exact eraseDups_concat_of_notMem (mt List.mem_eraseDups.mpr hnew)

/-! ## Items -/

theorem name_begin (row : ρ) : g.name (g.begin row) = g.key row := by
  rw [begin, g.name_add, g.name_empty]

theorem name_foldl_add (item : α) (rows : List ρ) :
    g.name (rows.foldl g.add item) = g.name item := by
  induction rows generalizing item with
  | nil => rfl
  | cons row rest ih => rw [List.foldl_cons, ih, g.name_add]

theorem name_itemOf (rows : List ρ) (name : String) : g.name (g.itemOf rows name) = name := by
  rw [itemOf, name_foldl_add, g.name_empty]

theorem map_name_gather (rows : List ρ) : (g.gather rows).map g.name = g.names rows := by
  rw [gather, List.map_map]
  exact List.map_id'' (g.name_itemOf rows) _

theorem itemOf_concat_self (rows : List ρ) (row : ρ) :
    g.itemOf (rows ++ [row]) (g.key row) = g.add (g.itemOf rows (g.key row)) row := by
  simp [itemOf]

theorem itemOf_concat_of_ne (hne : name ≠ g.key row) :
    g.itemOf (rows ++ [row]) name = g.itemOf rows name := by
  simp [itemOf, hne.symm]

theorem filter_of_notMem (hnew : name ∉ g.names rows) :
    rows.filter (g.key · == name) = [] := by
  apply List.filter_eq_nil_iff.mpr
  intro row hrow hsame
  exact hnew (g.mem_names.mpr ⟨row, hrow, beq_iff_eq.mp hsame⟩)

theorem itemOf_of_notMem (hnew : name ∉ g.names rows) : g.itemOf rows name = g.empty name := by
  rw [itemOf, filter_of_notMem g hnew, List.foldl_nil]

/-! ## Stretches of rows -/

/-- Rows without a name in common are gathered apart. -/
theorem gather_append {first second : List ρ}
    (hapart : ∀ row ∈ first, ∀ other ∈ second, g.key row ≠ g.key other) :
    g.gather (first ++ second) = g.gather first ++ g.gather second := by
  have hdisjoint : ∀ name ∈ g.names first, name ∉ g.names second := by
    intro name hfirst hsecond
    obtain ⟨row, hrow, rfl⟩ := g.mem_names.mp hfirst
    obtain ⟨other, hother, hsame⟩ := g.mem_names.mp hsecond
    exact hapart row hrow other hother hsame.symm
  have hnames : g.names (first ++ second) = g.names first ++ g.names second := by
    rw [names, List.map_append, eraseDups_append_eq_filter, List.filter_eq_self.mpr]
    · rfl
    · intro name hsecond
      exact decide_eq_true fun hfirst => hdisjoint name hfirst hsecond
  rw [gather, hnames, List.map_append, gather, gather]
  congr 1
  · apply List.map_congr_left
    intro name hname
    rw [itemOf, List.filter_append, filter_of_notMem g (hdisjoint name hname), List.append_nil,
      itemOf]
  · apply List.map_congr_left
    intro name hname
    rw [itemOf, List.filter_append, filter_of_notMem g fun hfirst => hdisjoint name hfirst hname,
      List.nil_append, itemOf]

/-- Rows of one name make up one item. -/
theorem gather_of_key (hne : rows ≠ []) (hkey : ∀ row ∈ rows, g.key row = name) :
    g.gather rows = [rows.foldl g.add (g.empty name)] := by
  obtain ⟨row, rest, rfl⟩ := List.exists_cons_of_ne_nil hne
  have hnames : g.names (row :: rest) = [name] := by
    have hsame : rest.map g.key ⊆ [name] := by
      intro other hother
      obtain ⟨later, hlater, rfl⟩ := List.mem_map.mp hother
      exact List.mem_singleton.mpr (hkey later (List.mem_cons_of_mem _ hlater))
    rw [names, List.map_cons, hkey row List.mem_cons_self]
    exact eraseDups_append_of_subset hsame
  rw [gather, hnames, List.map_singleton, itemOf, List.filter_eq_self.mpr]
  intro later hlater
  exact beq_iff_eq.mpr (hkey later hlater)

/-! ## Searching for the item of a name -/

theorem put_of_notMem (hnew : g.key row ∉ items.map g.name) :
    g.put items row = items ++ [g.begin row] := by
  induction items with
  | nil => rfl
  | cons item rest ih =>
      rw [List.map_cons, List.mem_cons, not_or] at hnew
      rw [put, if_neg (Ne.symm hnew.1), ih hnew.2, List.cons_append]

/-- If no name occurs twice, the only position of a name is where its item is found. -/
theorem put_of_getElem? {position : Nat} (hnodup : (items.map g.name).Nodup)
    (hposition : (items.map g.name)[position]? = some (g.key row)) :
    g.put items row = items.modify position (g.add · row) := by
  induction items generalizing position with
  | nil => simp at hposition
  | cons item rest ih =>
      obtain ⟨hitem, hrest⟩ := List.nodup_cons.mp hnodup
      cases position with
      | zero =>
          have hname : g.name item = g.key row := Option.some.inj hposition
          rw [put, if_pos hname, List.modify_zero_cons]
      | succ position =>
          have hlater : (rest.map g.name)[position]? = some (g.key row) := hposition
          have hname : g.name item ≠ g.key row := by
            intro heq
            exact hitem (heq ▸ List.mem_of_getElem? hlater)
          rw [put, if_neg hname, ih hrest hlater, List.modify_succ_cons]

/-- A row changes the item of its name and no other. -/
theorem put_map_itemOf {names : List String} (hnodup : names.Nodup) (hmem : g.key row ∈ names) :
    g.put (names.map (g.itemOf rows)) row = names.map (g.itemOf (rows ++ [row])) := by
  induction names with
  | nil => contradiction
  | cons name rest ih =>
      obtain ⟨hname, hrest⟩ := List.nodup_cons.mp hnodup
      rw [List.map_cons, List.map_cons, put, name_itemOf]
      by_cases hsame : name = g.key row
      · subst hsame
        rw [if_pos rfl, itemOf_concat_self]
        refine congrArg _ (List.map_congr_left fun other hother => ?_)
        exact (g.itemOf_concat_of_ne fun heq => hname (heq ▸ hother)).symm
      · have hlater : g.key row ∈ rest := (List.mem_cons.mp hmem).resolve_left (Ne.symm hsame)
        rw [if_neg hsame, ih hrest hlater, itemOf_concat_of_ne g hsame]

/-- One more row turns the items of some rows into those of the rows with it. -/
theorem put_gather (rows : List ρ) (row : ρ) :
    g.put (g.gather rows) row = g.gather (rows ++ [row]) := by
  by_cases hmem : g.key row ∈ g.names rows
  · rw [gather, gather, names_concat_of_mem g hmem]
    exact g.put_map_itemOf (g.nodup_names rows) hmem
  · have hnew : g.key row ∉ (g.gather rows).map g.name := by rwa [map_name_gather]
    rw [put_of_notMem g hnew, gather, gather, names_concat_of_notMem g hmem, List.map_append,
      List.map_singleton, itemOf_concat_self, itemOf_of_notMem g hmem]
    refine congrArg (· ++ _) (List.map_congr_left fun name hname => ?_)
    exact (g.itemOf_concat_of_ne fun heq => hmem (heq ▸ hname)).symm

theorem foldl_put (rows : List ρ) : rows.foldl g.put [] = g.gather rows := by
  induction rows using List.reverseRecOn with
  | nil => rfl
  | append_singleton rows row ih => rw [List.foldl_concat, ih, put_gather]

/-! ## Positions of names -/

theorem map_name_modify (items : List α) (position : Nat) (row : ρ) :
    (items.modify position (g.add · row)).map g.name = items.map g.name := by
  induction items generalizing position with
  | nil => rw [List.modify_nil]
  | cons item rest ih =>
      cases position with
      | zero => rw [List.modify_zero_cons, List.map_cons, List.map_cons, g.name_add]
      | succ position => rw [List.modify_succ_cons, List.map_cons, List.map_cons, ih]

theorem getElem?_concat_eq_some_iff {names : List String} {other : String} {position : Nat} :
    (names ++ [name])[position]? = some other ↔
      names[position]? = some other ∨ position = names.length ∧ name = other := by
  rw [List.getElem?_append]
  split
  next hlt => simp [Nat.ne_of_lt hlt]
  next hge =>
    rw [List.getElem?_eq_none (Nat.not_lt.mp hge), List.getElem?_singleton]
    grind

/-- Each position in the table is that of the item with the name, and each item has one. -/
def IsPlaced (table : PositionTable α) : Prop :=
  ∀ name position, table.positions.get? name = some position ↔
    (table.items.map g.name)[position]? = some name

variable {g} {table : PositionTable α}

theorem IsPlaced.nodup (htable : g.IsPlaced table) : (table.items.map g.name).Nodup := by
  rw [List.nodup_iff_getElem?_ne_getElem?]
  intro first second hlt hlength heq
  obtain ⟨name, hname⟩ : ∃ name, (table.items.map g.name)[second]? = some name :=
    ⟨_, List.getElem?_eq_getElem hlength⟩
  have hsecond := (htable name second).mpr hname
  have hfirst := (htable name first).mpr (heq.trans hname)
  rw [hfirst, Option.some_inj] at hsecond
  exact absurd hsecond (Nat.ne_of_lt hlt)

theorem IsPlaced.notMem (htable : g.IsPlaced table) (hnone : table.positions.get? name = none) :
    name ∉ table.items.map g.name := by
  intro hmem
  obtain ⟨position, hposition⟩ := List.mem_iff_getElem?.mp hmem
  rw [(htable name position).mpr hposition] at hnone
  contradiction

theorem IsPlaced.items_enter (htable : g.IsPlaced table) (row : ρ) :
    (g.enter table row).items = g.put table.items row := by
  unfold enter
  split
  next position hposition =>
    exact (g.put_of_getElem? htable.nodup ((htable _ _).mp hposition)).symm
  next hnone => exact (g.put_of_notMem (htable.notMem hnone)).symm

theorem isPlaced_empty (g : Gathering ρ α) : g.IsPlaced {} := by
  intro name position
  constructor <;> exact nofun

theorem IsPlaced.enter (htable : g.IsPlaced table) (row : ρ) : g.IsPlaced (g.enter table row) := by
  intro name position
  unfold Gathering.enter
  split
  next => rw [map_name_modify, htable name position]
  next hnone =>
    -- The name had no position before, and its item is now the last one.
    have hnew := htable.notMem hnone
    rw [List.map_append, List.map_singleton, g.name_begin, getElem?_concat_eq_some_iff,
      List.length_map]
    by_cases hname : name = g.key row
    · rw [hname, Dictionary.get?_insert_self, Option.some_inj]
      have hnot : (table.items.map g.name)[position]? ≠ some (g.key row) := by
        intro hposition
        exact hnew (List.mem_of_getElem? hposition)
      rw [or_iff_right hnot, and_iff_left rfl, eq_comm]
    · rw [Dictionary.get?_insert_of_ne _ _ hname, htable name position]
      simp [Ne.symm hname]

theorem IsPlaced.foldl_enter (htable : g.IsPlaced table) (rows : List ρ) :
    g.IsPlaced (rows.foldl g.enter table) ∧
      (rows.foldl g.enter table).items = rows.foldl g.put table.items := by
  induction rows generalizing table with
  | nil => exact ⟨htable, rfl⟩
  | cons row rest ih =>
      rw [List.foldl_cons, List.foldl_cons, ← htable.items_enter]
      exact ih (htable.enter row)

/-- With every row the positions stay right, so looking them up leads to the items that the rows
make up. -/
theorem items_foldl_enter (g : Gathering ρ α) (rows : List ρ) :
    (rows.foldl g.enter {}).items = g.gather rows :=
  (g.isPlaced_empty.foldl_enter rows).2.trans (g.foldl_put rows)

end Gathering

end RouteSurvey
