import RouteSurvey.Data.Yaml.Token

/-! # Nodes

The tree of a YAML document. A node may carry an anchor, to which an alias elsewhere
refers. Anchors and aliases are first given by name; numbering them settles which anchor
an alias means.
-/

namespace RouteSurvey.Data.Yaml

/-- A node whose anchors and aliases are given by values of type `α`. -/
inductive Node (α : Type) where
  | scalar (anchor? : Option α) (tag? : Option String) (text : String) (style : Style)
  | list (anchor? : Option α) (tag? : Option String) (items : List (Node α))
  | record (anchor? : Option α) (tag? : Option String) (entries : List (Node α × Node α))
  | reference (target : α)

namespace Node

/-- The node of a value that is left out. -/
def empty {α : Type} : Node α :=
  scalar none none "" .plain

mutual

/-- The number of steps it takes to write a node down: one for a scalar or an alias, and
two around the parts of a collection. -/
def size {α : Type} : Node α → Nat
  | scalar .. => 1
  | reference _ => 1
  | list _ _ items => 2 + itemsSize items
  | record _ _ entries => 2 + entriesSize entries

/-- The steps for the items of a list. -/
def itemsSize {α : Type} : List (Node α) → Nat
  | [] => 0
  | item :: rest => item.size + itemsSize rest

/-- The steps for the entries of a record. -/
def entriesSize {α : Type} : List (Node α × Node α) → Nat
  | [] => 0
  | (key, value) :: rest => key.size + value.size + entriesSize rest

end

/-! ## Numbering -/

/-- The names of anchors so far, each with the number of the latest anchor of that name. -/
abbrev Names : Type := List (String × Nat)

/-- Gives an anchor its number, which is the number of different names before it. -/
def Names.add (names : Names) : Option String → Option Nat × Names
  | none => (none, names)
  | some name => (some names.length, (name, names.length) :: names.filter (·.1 ≠ name))

mutual

/-- Numbers the anchors and aliases of a node in the order in which they stand. An alias
without an anchor before it is an error. -/
def number (names : Names) : Node String → Option (Node Nat × Names)
  | scalar anchor? tag? text style =>
    let (anchor?, names) := names.add anchor?
    some (scalar anchor? tag? text style, names)
  | reference name => (names.lookup name).map fun target => (reference target, names)
  | list anchor? tag? items => do
    let (anchor?, names) := names.add anchor?
    let (items, names) ← numberItems names items
    return (list anchor? tag? items, names)
  | record anchor? tag? entries => do
    let (anchor?, names) := names.add anchor?
    let (entries, names) ← numberEntries names entries
    return (record anchor? tag? entries, names)

/-- Numbers the items of a list. -/
def numberItems (names : Names) : List (Node String) → Option (List (Node Nat) × Names)
  | [] => some ([], names)
  | item :: rest => do
    let (item, names) ← number names item
    let (rest, names) ← numberItems names rest
    return (item :: rest, names)

/-- Numbers the entries of a record, each key before its value. -/
def numberEntries (names : Names) :
    List (Node String × Node String) → Option (List (Node Nat × Node Nat) × Names)
  | [] => some ([], names)
  | (key, value) :: rest => do
    let (key, names) ← number names key
    let (value, names) ← number names value
    let (rest, names) ← numberEntries names rest
    return ((key, value) :: rest, names)

end

/-- A node under its anchor, if it has one. -/
def underAnchor {α : Type} (anchor? : Option α) (node : Node α) : List (α × Node α) :=
  anchor?.elim [] fun anchor => [(anchor, node)]

mutual

/-- The anchored nodes in the order in which they begin. -/
def anchored {α : Type} : Node α → List (α × Node α)
  | reference _ => []
  | scalar anchor? tag? text style => underAnchor anchor? (scalar anchor? tag? text style)
  | list anchor? tag? items =>
    underAnchor anchor? (list anchor? tag? items) ++ itemsAnchored items
  | record anchor? tag? entries =>
    underAnchor anchor? (record anchor? tag? entries) ++ entriesAnchored entries

/-- The anchored nodes in the items of a list. -/
def itemsAnchored {α : Type} : List (Node α) → List (α × Node α)
  | [] => []
  | item :: rest => anchored item ++ itemsAnchored rest

/-- The anchored nodes in the entries of a record. -/
def entriesAnchored {α : Type} : List (Node α × Node α) → List (α × Node α)
  | [] => []
  | (key, value) :: rest => anchored key ++ anchored value ++ entriesAnchored rest

end

end Node

/-- A document: its node, and the nodes that aliases stand for. -/
structure Document where
  root : Node Nat
  /-- The nodes with a number; of several with one number the first counts -/
  targets : List (Nat × Node Nat)

/-- Numbers a node and lists what aliases stand for. Of several anchors with one number
the last one counts. -/
def Document.ofNode? (node : Node String) : Option Document :=
  (node.number []).map fun (root, _) => ⟨root, root.anchored.reverse⟩

end RouteSurvey.Data.Yaml
