import Mathlib.Data.List.Forall2
import RouteSurvey.Data.Format
import RouteSurvey.Proofs.Dictionary

/-! # Spellings

The JSON values that stand for a text, a flag, a list, a dictionary or an object, and the ways
in which an object gives the fields it has to give or may leave out. The readings of JSON give
back what was spelled.
-/

namespace RouteSurvey.Data

/-- Which values stand for which items. -/
abbrev Spelling (α : Type) :=
  Datum → α → Prop

namespace Json

variable {α : Type}

/-- The entries of an object with the given members. -/
def keyed (members : List (String × Datum)) : List (Datum × Datum) :=
  members.map fun member => (.text member.1, member.2)

/-- The object of the given members, in this order. -/
def object (members : List (String × Datum)) : Datum :=
  .record (keyed members)

/-- No member has the key. -/
def Lacks (members : List (String × Datum)) (key : String) : Prop :=
  key ∉ members.map Prod.fst

/-- Exactly one member has the key, and this is its value. -/
def Gives (members : List (String × Datum)) (key : String) (value : Datum) : Prop :=
  ∃ before after, members = before ++ (key, value) :: after ∧
    Lacks before key ∧ Lacks after key

@[simp]
theorem lacks_nil (key : String) : Lacks [] key :=
  List.not_mem_nil

@[simp]
theorem lacks_cons {name key : String} {value : Datum} {rest : List (String × Datum)} :
    Lacks ((name, value) :: rest) key ↔ key ≠ name ∧ Lacks rest key := by
  rw [Lacks, List.map_cons, List.mem_cons, not_or]
  rfl

@[simp]
theorem gives_cons_self {key : String} {found value : Datum} {rest : List (String × Datum)} :
    Gives ((key, found) :: rest) key value ↔ found = value ∧ Lacks rest key := by
  constructor
  · rintro ⟨before, after, heq, hbefore, hafter⟩
    cases before with
    | nil =>
        cases heq
        exact ⟨rfl, hafter⟩
    | cons member before =>
        obtain ⟨rfl, rfl⟩ := List.cons.inj heq
        exact absurd rfl (lacks_cons.mp hbefore).1
  · rintro ⟨rfl, hrest⟩
    exact ⟨[], rest, rfl, lacks_nil key, hrest⟩

@[simp]
theorem gives_cons_of_ne {name key : String} {found value : Datum}
    {rest : List (String × Datum)} (hne : key ≠ name) :
    Gives ((name, found) :: rest) key value ↔ Gives rest key value := by
  constructor
  · rintro ⟨before, after, heq, hbefore, hafter⟩
    cases before with
    | nil =>
        cases heq
        exact absurd rfl hne
    | cons member before =>
        obtain ⟨rfl, rfl⟩ := List.cons.inj heq
        exact ⟨before, after, rfl, (lacks_cons.mp hbefore).2, hafter⟩
  · rintro ⟨before, after, rfl, hbefore, hafter⟩
    exact ⟨(name, found) :: before, after, rfl, lacks_cons.mpr ⟨hne, hbefore⟩, hafter⟩

/-! ## Values -/

inductive AsText : Spelling String
  | text (s : String) : AsText (.text s) s

inductive AsFlag : Spelling Bool
  | flag (b : Bool) : AsFlag (.flag b) b

inductive AsList (spells : Spelling α) : Spelling (List α)
  | list {items : List Datum} {xs : List α} (hitems : List.Forall₂ spells items xs) :
      AsList spells (.list items) xs

structure SpellsEntry (spells : Spelling α) (member : String × Datum) (entry : String × α) :
    Prop where
  key : member.1 = entry.1
  value : spells member.2 entry.2

/-- The entries of a dictionary stand in an object in any order. -/
inductive AsDictionary (spells : Spelling α) : Spelling (Dictionary α)
  | object {members : List (String × Datum)} {entries : List (String × α)} {d : Dictionary α}
      (hmembers : List.Forall₂ (SpellsEntry spells) members entries)
      (hentries : entries.Perm d.entries) : AsDictionary spells (object members) d

inductive AsObject (spelledBy : List (String × Datum) → α → Prop) : Spelling α
  | object {members : List (String × Datum)} {x : α} (hmembers : spelledBy members x) :
      AsObject spelledBy (object members) x

/-! ## Fields -/

section Fields

variable (members : List (String × Datum)) (key : String) (spells : Spelling α)

/-- A field that is written out. -/
inductive Required : α → Prop
  | written {value : Datum} {x : α} (hgives : Gives members key value)
      (hspells : spells value x) : Required x

/-- A field that may be left out if it has its default. -/
inductive Defaulted (default : α) : α → Prop
  | written {value : Datum} {x : α} (hgives : Gives members key value)
      (hspells : spells value x) : Defaulted default x
  | omitted (hlacks : Lacks members key) : Defaulted default default

/-- A field that is left out or null if there is nothing to write. -/
inductive Optional : Option α → Prop
  | written {value : Datum} {x : α} (hgives : Gives members key value)
      (hspells : spells value x) : Optional (some x)
  | null (hgives : Gives members key .null) : Optional none
  | omitted (hlacks : Lacks members key) : Optional none

end Fields

/-! ## Reading back -/

/-- Every spelling of an item is read as this item. -/
def Reads (read : Datum → Option α) (spells : Spelling α) : Prop :=
  ∀ value x, spells value x → read value = some x

theorem Lacks.filter_eq {members : List (String × Datum)} {key : String}
    (hlacks : Lacks members key) : members.filter (·.1 == key) = [] := by
  rw [List.filter_eq_nil_iff]
  intro member hmember hkey
  exact hlacks (List.mem_map.mpr ⟨member, hmember, beq_iff_eq.mp hkey⟩)

theorem Gives.filter_eq {members : List (String × Datum)} {key : String} {value : Datum}
    (hgives : Gives members key value) : members.filter (·.1 == key) = [(key, value)] := by
  obtain ⟨before, after, rfl, hbefore, hafter⟩ := hgives
  rw [List.filter_append, hbefore.filter_eq, List.filter_cons_of_pos (by simp),
    hafter.filter_eq, List.nil_append]

theorem mapM_keyed (members : List (String × Datum)) :
    (keyed members).mapM key? = some members := by
  rw [keyed, List.mapM_map]
  induction members with
  | nil => rfl
  | cons member rest ih => simp [key?, ih]

@[simp]
theorem record_object (names : List String) (members : List (String × Datum)) :
    format.record names (object members) = some members :=
  mapM_keyed members

@[simp]
theorem dictionary_object (members : List (String × Datum)) :
    format.dictionary (object members) = some members :=
  mapM_keyed members

theorem reads_text : Reads format.text AsText := by
  rintro _ _ ⟨s⟩
  rfl

theorem not_asText_null (s : String) : ¬ AsText .null s := by
  rintro ⟨⟩

theorem reads_flag : Reads format.flag AsFlag := by
  rintro _ _ ⟨b⟩
  rfl

/-- What is read item by item is read back as a whole. -/
theorem mapM_eq_of_forall₂ {ι : Type} {read : ι → Option α} {items : List ι} {xs : List α}
    (hitems : List.Forall₂ (fun item x => read item = some x) items xs) :
    items.mapM read = some xs := by
  induction hitems with
  | nil => rfl
  | cons hread _ ih => simp [hread, ih]

section Reading

variable {members : List (String × Datum)} {key : String} {read : Datum → Option α}
  {spells : Spelling α} (hread : Reads read spells)
include hread

theorem reads_listOf : Reads (format.listOf read) (AsList spells) := by
  rintro _ xs ⟨hitems⟩
  exact mapM_eq_of_forall₂ (hitems.imp hread)

theorem required_eq {x : α} (hfield : Required members key spells x) :
    Format.required members key read = some x := by
  obtain ⟨hgives, hspells⟩ := hfield
  simp [Format.required, Format.field?, hgives.filter_eq, hread _ _ hspells]

theorem defaulted_eq {default x : α} (hfield : Defaulted members key spells default x) :
    Format.defaulted members key default read = some x := by
  cases hfield with
  | written hgives hspells =>
      simp [Format.defaulted, Format.field?, hgives.filter_eq, hread _ _ hspells]
  | omitted hlacks => simp [Format.defaulted, Format.field?, hlacks.filter_eq]

/-- Only what is never spelled as null can be told from what is missing. -/
theorem optionalField_eq {x? : Option α} (hnull : ∀ x, ¬ spells .null x)
    (hfield : Optional members key spells x?) :
    format.optionalField members key read = some x? := by
  cases hfield with
  | @written value x hgives hspells =>
      have hpresent : format.optional value = some (some value) := by
        cases value with
        | null => exact absurd hspells (hnull x)
        | _ => rfl
      simp [Format.optionalField, Format.defaulted, Format.field?, hgives.filter_eq, hpresent,
        hread _ _ hspells]
  | null hgives =>
      have habsent : format.optional .null = some none := rfl
      simp [Format.optionalField, Format.defaulted, Format.field?, hgives.filter_eq, habsent]
  | omitted hlacks =>
      simp [Format.optionalField, Format.defaulted, Format.field?, hlacks.filter_eq]

end Reading

/-! ## Spelling everything -/

/-- Every item has a spelling. -/
def IsTotal (spells : Spelling α) : Prop :=
  ∀ x, ∃ value, spells value x

theorem isTotal_text : IsTotal AsText :=
  fun s => ⟨.text s, .text s⟩

theorem exists_forall₂ {ι : Type} {related : ι → α → Prop} (htotal : ∀ x, ∃ i, related i x)
    (xs : List α) : ∃ items, List.Forall₂ related items xs := by
  induction xs with
  | nil => exact ⟨[], .nil⟩
  | cons x xs ih =>
      obtain ⟨i, hi⟩ := htotal x
      obtain ⟨items, hitems⟩ := ih
      exact ⟨i :: items, .cons hi hitems⟩

theorem IsTotal.list {spells : Spelling α} (htotal : IsTotal spells) :
    IsTotal (AsList spells) := by
  intro xs
  obtain ⟨items, hitems⟩ := exists_forall₂ htotal xs
  exact ⟨.list items, .list hitems⟩

theorem IsTotal.dictionary {spells : Spelling α} (htotal : IsTotal spells) :
    IsTotal (AsDictionary spells) := by
  intro d
  have hmember : ∀ entry : String × α, ∃ member, SpellsEntry spells member entry := by
    rintro ⟨key, x⟩
    obtain ⟨value, hvalue⟩ := htotal x
    exact ⟨(key, value), rfl, hvalue⟩
  obtain ⟨members, hmembers⟩ := exists_forall₂ hmember d.entries
  exact ⟨object members, .object hmembers (.refl _)⟩

theorem IsTotal.optional {spells : Spelling α} (htotal : IsTotal spells) (x? : Option α) :
    ∃ value, ∀ members key, Gives members key value → Optional members key spells x? := by
  cases x? with
  | none => exact ⟨.null, fun _ _ => .null⟩
  | some x =>
      obtain ⟨value, hvalue⟩ := htotal x
      exact ⟨value, fun _ _ hgives => .written hgives hvalue⟩

end Json

end RouteSurvey.Data
