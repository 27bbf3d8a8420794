import RouteSurvey.DocumentFormat
import RouteSurvey.Proofs.Data.Spelling

/-! # Spellings of declaration trees

The JSON values that stand for a declaration tree. Members may come in any order and among
others that mean nothing, what has its default may be left out, and a type reference without
arguments may be written in three ways. Reading gives back the tree that was spelled.
-/

namespace RouteSurvey

open Data Data.Json

/-! ## Type references -/

namespace TypeRef

mutual

/-- The values a type reference is told by. -/
inductive Spells : Spelling TypeRef
  | bare (name : String) : Spells (.text name) (plain name)
  | named {members : List (String × Datum)} {name : String}
      (hname : Gives members "name" (.text name)) (hargs : Lacks members "args") :
      Spells (object members) (plain name)
  | applied {members : List (String × Datum)} {name : String} {items : List Datum}
      {args : List TypeRef} (hname : Gives members "name" (.text name))
      (hargs : Gives members "args" (.list items)) (hitems : SpellsAll items args) :
      Spells (object members) (mk name args)

/-- The values type references are told by, in order. -/
inductive SpellsAll : List Datum → List TypeRef → Prop
  | nil : SpellsAll [] []
  | cons {item : Datum} {type : TypeRef} {items : List Datum} {types : List TypeRef}
      (hitem : Spells item type) (hitems : SpellsAll items types) :
      SpellsAll (item :: items) (type :: types)

end

/-- A type reference is told by its looks, so even what means nothing has to be readable. -/
structure IsSpelledBy (value : Datum) (type : TypeRef) : Prop where
  readable : value.isReadable
  spells : Spells value type

theorem ofKey?_of_ne {key : String} (hname : key ≠ "name") (hargs : key ≠ "args") :
    Part.ofKey? (.text key) = some .other := by
  unfold Part.ofKey?
  split <;> simp_all

/-- The parts of an object are the names and the argument lists among its members. -/
theorem partsOf?_keyed {members : List (String × Datum)} {names : List String}
    {lists : List (List TypeRef)}
    (hnames : members.filter (·.1 == "name") = names.map fun name => ("name", .text name))
    (hlists : List.Forall₂
      (fun member args => ∃ items, member = ("args", .list items) ∧ ofData? items = some args)
      (members.filter (·.1 == "args")) lists) :
    partsOf? (keyed members) = some (names, lists) := by
  -- Both filters are carried along, since a name and an argument list may come in either order.
  induction members generalizing names lists with
  | nil =>
      cases hlists
      have hnone : names = [] := by simpa using hnames.symm
      rw [hnone]
      rfl
  | cons member rest ih =>
      obtain ⟨key, value⟩ := member
      rw [keyed, List.map_cons, ← keyed, partsOf?]
      by_cases hname : key = "name"
      · subst hname
        rw [List.filter_cons_of_pos (by simp)] at hnames
        rw [List.filter_cons_of_neg (by simp)] at hlists
        cases names with
        | nil => simp at hnames
        | cons name names =>
            obtain ⟨hvalue, hrest⟩ := List.cons.inj hnames
            cases hvalue
            simp [ih hrest hlists, Part.ofKey?]
      · rw [List.filter_cons_of_neg (by simpa using hname)] at hnames
        by_cases hargs : key = "args"
        · subst hargs
          rw [List.filter_cons_of_pos (by simp)] at hlists
          cases hlists with
          | cons hhead hrest =>
              obtain ⟨items, hmember, hread⟩ := hhead
              cases hmember
              simp [ih hnames hrest, Part.ofKey?, hread]
        · rw [List.filter_cons_of_neg (by simpa using hargs)] at hlists
          simp [ih hnames hlists, ofKey?_of_ne hname hargs]

theorem ofDatum?_named {members : List (String × Datum)} {name : String}
    (hname : Gives members "name" (.text name)) (hargs : Lacks members "args") :
    ofDatum? (object members) = some (plain name) := by
  have hparts : partsOf? (keyed members) = some ([name], []) := by
    apply partsOf?_keyed hname.filter_eq
    rw [hargs.filter_eq]
    exact .nil
  rw [object, ofDatum?, hparts]
  rfl

theorem ofDatum?_applied {members : List (String × Datum)} {name : String} {items : List Datum}
    {args : List TypeRef} (hname : Gives members "name" (.text name))
    (hargs : Gives members "args" (.list items)) (hitems : ofData? items = some args) :
    ofDatum? (object members) = some (mk name args) := by
  have hparts : partsOf? (keyed members) = some ([name], [args]) := by
    apply partsOf?_keyed hname.filter_eq
    rw [hargs.filter_eq]
    exact .cons ⟨items, rfl, hitems⟩ .nil
  rw [object, ofDatum?, hparts]
  rfl

mutual

theorem ofDatum?_of_spells {value : Datum} {type : TypeRef} :
    Spells value type → ofDatum? value = some type
  | .bare name => by rw [ofDatum?]
  | .named hname hargs => ofDatum?_named hname hargs
  | .applied hname hargs hitems => ofDatum?_applied hname hargs (ofData?_of_spellsAll hitems)

theorem ofData?_of_spellsAll {items : List Datum} {types : List TypeRef} :
    SpellsAll items types → ofData? items = some types
  | .nil => by rw [ofData?]
  | .cons hitem hitems => by
      have hhead := ofDatum?_of_spells hitem
      have hrest := ofData?_of_spellsAll hitems
      rw [ofData?, hhead, hrest]
      rfl

end

theorem reads : Reads (TypeRef.read Json.format) IsSpelledBy := by
  intro value type hvalue
  have hdatum : Json.format.datum value = some value := if_pos hvalue.readable
  simp [TypeRef.read, hdatum, ofDatum?_of_spells hvalue.spells, Format.need]

theorem not_isSpelledBy_null (type : TypeRef) : ¬ IsSpelledBy .null type := by
  rintro ⟨-, hspells⟩
  cases hspells

mutual

theorem isTotal : (type : TypeRef) → ∃ value, IsSpelledBy value type
  | mk name args => by
      obtain ⟨items, hreadable, hitems⟩ := exists_spellsAll args
      refine ⟨object [("name", .text name), ("args", .list items)], ?_, ?_⟩
      · simpa [object, keyed, Datum.isReadable, entriesAreReadable] using hreadable
      · exact .applied (by simp) (by simp) hitems

theorem exists_spellsAll : (types : List TypeRef) →
    ∃ items, listIsReadable items ∧ SpellsAll items types
  | [] => ⟨[], rfl, .nil⟩
  | type :: types => by
      obtain ⟨value, hvalue⟩ := isTotal type
      obtain ⟨items, hreadable, hitems⟩ := exists_spellsAll types
      refine ⟨value :: items, ?_, .cons hvalue.spells hitems⟩
      simp [listIsReadable, hvalue.readable, hreadable]

end

end TypeRef

/-! ## Markers -/

namespace Literal

/-- A literal is spelled in the form it has. -/
inductive IsSpelledBy : Spelling Literal
  | text (s : String) : IsSpelledBy (.text s) (text s)
  | list (items : List String) : IsSpelledBy (.list (items.map .text)) (list items)

theorem listIsReadable_texts (items : List String) : listIsReadable (items.map .text) := by
  induction items with
  | nil => rfl
  | cons item rest ih => simpa [listIsReadable, Datum.isReadable] using ih

theorem mapM_texts (items : List String) :
    (items.map Datum.text).mapM stringOf? = some items := by
  rw [List.mapM_map]
  induction items with
  | nil => rfl
  | cons item rest ih => simp [stringOf?, ih]

theorem reads : Reads (Literal.read Json.format) IsSpelledBy := by
  rintro _ _ (s | items)
  · rfl
  · have hdatum : Json.format.datum (.list (items.map .text)) = some (.list (items.map .text)) :=
      if_pos (listIsReadable_texts items)
    have hliteral : Literal.ofDatum? (.list (items.map .text)) = some (list items) := by
      rw [Literal.ofDatum?, mapM_texts, Option.map_some]
    simp [Literal.read, hdatum, hliteral, Format.need]

theorem isTotal : IsTotal IsSpelledBy
  | text s => ⟨.text s, .text s⟩
  | list items => ⟨.list (items.map .text), .list items⟩

end Literal

namespace Marker

structure IsSpelledBy (members : List (String × Datum)) (marker : Marker) : Prop where
  kind : Required members "kind" AsText marker.kind
  values : Defaulted members "values" (AsDictionary Literal.IsSpelledBy) Dictionary.empty
    marker.values

theorem reads_values :
    Reads (Marker.readValues Json.format) (AsDictionary Literal.IsSpelledBy) := by
  rintro _ d ⟨hmembers, hentries⟩
  rw [Marker.readValues, dictionary_object]
  rw [Option.bind_eq_bind, Option.bind_some, mapM_eq_of_forall₂ (hmembers.imp _)]
  · exact congrArg some (Dictionary.ofList_eq_of_perm hentries)
  · rintro ⟨key, value⟩ ⟨_, literal⟩ ⟨rfl, hvalue⟩
    simp [Literal.reads _ _ hvalue]

theorem reads : Reads (Marker.read Json.format) (AsObject IsSpelledBy) := by
  rintro _ marker ⟨hmembers⟩
  simp [Marker.read, required_eq reads_text hmembers.kind,
    defaulted_eq reads_values hmembers.values]

theorem isTotal : IsTotal (AsObject IsSpelledBy) := by
  intro marker
  obtain ⟨values, hvalues⟩ := Literal.isTotal.dictionary marker.values
  exact ⟨object [("kind", .text marker.kind), ("values", values)],
    .object ⟨.written (by simp) (.text _), .written (by simp) hvalues⟩⟩

end Marker

/-! ## Declarations -/

namespace Declaration

section Specification

variable (members : List (String × Datum))

structure Parameter.IsSpelledBy (parameter : Parameter) : Prop where
  name : Required members "name" AsText parameter.name
  type : Required members "type" TypeRef.IsSpelledBy parameter.type
  markers : Defaulted members "annotations" (AsList (AsObject Marker.IsSpelledBy)) []
    parameter.markers

structure Field.IsSpelledBy (field : Field) : Prop where
  name : Required members "name" AsText field.name
  type : Required members "type" TypeRef.IsSpelledBy field.type
  isStatic : Defaulted members "static" AsFlag false field.isStatic
  isSynthetic : Defaulted members "synthetic" AsFlag false field.isSynthetic

structure Method.IsSpelledBy (method : Method) : Prop where
  name : Required members "name" AsText method.name
  markers : Defaulted members "annotations" (AsList (AsObject Marker.IsSpelledBy)) []
    method.markers
  parameters : Defaulted members "params" (AsList (AsObject Parameter.IsSpelledBy)) []
    method.parameters
  returnType? : Optional members "return_type" TypeRef.IsSpelledBy method.returnType?

structure Class.IsSpelledBy (owner : Class) : Prop where
  name : Required members "name" AsText owner.name
  enclosing? : Optional members "enclosing" AsText owner.enclosing?
  markers : Defaulted members "annotations" (AsList (AsObject Marker.IsSpelledBy)) []
    owner.markers
  superclass? : Optional members "superclass" TypeRef.IsSpelledBy owner.superclass?
  fields : Defaulted members "fields" (AsList (AsObject Field.IsSpelledBy)) [] owner.fields
  methods : Defaulted members "methods" (AsList (AsObject Method.IsSpelledBy)) [] owner.methods

structure Tree.IsSpelledBy (tree : Tree) : Prop where
  classes : Defaulted members "classes" (AsList (AsObject Class.IsSpelledBy)) [] tree.classes

end Specification

theorem Parameter.reads : Reads (Parameter.read Json.format) (AsObject IsSpelledBy) := by
  rintro _ parameter ⟨hmembers⟩
  simp [Parameter.read, required_eq reads_text hmembers.name,
    required_eq TypeRef.reads hmembers.type,
    defaulted_eq (reads_listOf Marker.reads) hmembers.markers]

theorem Parameter.isTotal : IsTotal (AsObject IsSpelledBy) := by
  intro parameter
  obtain ⟨type, htype⟩ := TypeRef.isTotal parameter.type
  obtain ⟨markers, hmarkers⟩ := Marker.isTotal.list parameter.markers
  exact ⟨object [("name", .text parameter.name), ("type", type), ("annotations", markers)],
    .object ⟨.written (by simp) (.text _), .written (by simp) htype,
      .written (by simp) hmarkers⟩⟩

theorem Field.reads : Reads (Field.read Json.format) (AsObject IsSpelledBy) := by
  rintro _ field ⟨hmembers⟩
  simp [Field.read, required_eq reads_text hmembers.name,
    required_eq TypeRef.reads hmembers.type, defaulted_eq reads_flag hmembers.isStatic,
    defaulted_eq reads_flag hmembers.isSynthetic]

theorem Field.isTotal : IsTotal (AsObject IsSpelledBy) := by
  intro field
  obtain ⟨type, htype⟩ := TypeRef.isTotal field.type
  exact ⟨object [("name", .text field.name), ("type", type), ("static", .flag field.isStatic),
      ("synthetic", .flag field.isSynthetic)],
    .object ⟨.written (by simp) (.text _), .written (by simp) htype, .written (by simp) (.flag _),
      .written (by simp) (.flag _)⟩⟩

theorem Method.reads : Reads (Method.read Json.format) (AsObject IsSpelledBy) := by
  rintro _ method ⟨hmembers⟩
  simp [Method.read, required_eq reads_text hmembers.name,
    defaulted_eq (reads_listOf Marker.reads) hmembers.markers,
    defaulted_eq (reads_listOf Parameter.reads) hmembers.parameters,
    optionalField_eq TypeRef.reads TypeRef.not_isSpelledBy_null hmembers.returnType?]

theorem Method.isTotal : IsTotal (AsObject IsSpelledBy) := by
  intro method
  obtain ⟨markers, hmarkers⟩ := Marker.isTotal.list method.markers
  obtain ⟨parameters, hparameters⟩ := Parameter.isTotal.list method.parameters
  obtain ⟨returnType, hreturnType⟩ := IsTotal.optional TypeRef.isTotal method.returnType?
  exact ⟨object [("name", .text method.name), ("annotations", markers), ("params", parameters),
      ("return_type", returnType)],
    .object ⟨.written (by simp) (.text _), .written (by simp) hmarkers,
      .written (by simp) hparameters, hreturnType _ _ (by simp)⟩⟩

theorem Class.reads : Reads (Class.read Json.format) (AsObject IsSpelledBy) := by
  rintro _ owner ⟨hmembers⟩
  simp [Class.read, required_eq reads_text hmembers.name,
    optionalField_eq reads_text not_asText_null hmembers.enclosing?,
    defaulted_eq (reads_listOf Marker.reads) hmembers.markers,
    optionalField_eq TypeRef.reads TypeRef.not_isSpelledBy_null hmembers.superclass?,
    defaulted_eq (reads_listOf Field.reads) hmembers.fields,
    defaulted_eq (reads_listOf Method.reads) hmembers.methods]

theorem Class.isTotal : IsTotal (AsObject IsSpelledBy) := by
  intro owner
  obtain ⟨enclosing, henclosing⟩ := isTotal_text.optional owner.enclosing?
  obtain ⟨markers, hmarkers⟩ := Marker.isTotal.list owner.markers
  obtain ⟨superclass, hsuperclass⟩ := IsTotal.optional TypeRef.isTotal owner.superclass?
  obtain ⟨fields, hfields⟩ := Field.isTotal.list owner.fields
  obtain ⟨methods, hmethods⟩ := Method.isTotal.list owner.methods
  exact ⟨object [("name", .text owner.name), ("enclosing", enclosing), ("annotations", markers),
      ("superclass", superclass), ("fields", fields), ("methods", methods)],
    .object ⟨.written (by simp) (.text _), henclosing _ _ (by simp), .written (by simp) hmarkers,
      hsuperclass _ _ (by simp), .written (by simp) hfields, .written (by simp) hmethods⟩⟩

namespace Tree

theorem reads : Reads (Tree.read Json.format) (AsObject IsSpelledBy) := by
  rintro _ tree ⟨hmembers⟩
  simp [Tree.read, defaulted_eq (reads_listOf Class.reads) hmembers.classes]

theorem isTotal : IsTotal (AsObject IsSpelledBy) := by
  intro tree
  obtain ⟨classes, hclasses⟩ := Class.isTotal.list tree.classes
  exact ⟨object [("classes", classes)], .object ⟨.written (by simp) hclasses⟩⟩

/-- Every tree can be spelled, every value that spells it is decoded as it, and so is every
text of such a value. -/
theorem decode_of_spelled (tree : Tree) :
    (∃ value, AsObject IsSpelledBy value tree) ∧
      ∀ value, AsObject IsSpelledBy value tree →
        Tree.read Json.format value = some tree ∧
          ∀ text, Json.read? text = some value → Tree.ofText? .json text = some tree := by
  refine ⟨isTotal tree, ?_⟩
  intro value hvalue
  have hread := reads value tree hvalue
  refine ⟨hread, ?_⟩
  intro text htext
  simp [Tree.ofText?, DocumentFormat.decode?, htext, hread]

/-! One mapped method with a marker and a generic type, in an unusual spelling. -/

def usersType : TypeRef :=
  .mk "Map" [.plain "Id", .plain "User", .plain "Page"]

def usersTypeValue : Datum :=
  object [("args", .list [.text "Id", object [("name", .text "User")],
    object [("doc", .null), ("args", .list []), ("name", .text "Page")]]), ("name", .text "Map")]

def usersMarker : Marker where
  kind := "request_mapping"
  values := ⟨[("method", .list ["GET", "PUT"]), ("path", .text "/users")], by
    rw [SortedKeys]
    decide⟩

def usersMarkerValue : Datum :=
  object [("values", object [("path", .text "/users"),
    ("method", .list [.text "GET", .text "PUT"])]), ("kind", .text "request_mapping")]

def usersMethod : Method where
  name := "find"
  markers := [usersMarker]
  returnType? := some usersType

def usersMethodValue : Datum :=
  object [("return_type", usersTypeValue), ("params", .list []),
    ("annotations", .list [usersMarkerValue]), ("name", .text "find")]

def users : Class where
  name := "Users"
  fields := [{ name := "all", type := usersType }]
  methods := [usersMethod]

def usersValue : Datum :=
  object [("methods", .list [usersMethodValue]), ("since", .list [.number none, .unreadable]),
    ("fields", .list [object [("name", .text "all"), ("synthetic", .flag false),
      ("type", usersTypeValue)]]), ("enclosing", .null), ("name", .text "Users")]

theorem decode_of_spelled_users :
    AsObject IsSpelledBy (object [("version", .number none), ("classes", .list [usersValue])])
      ⟨[users]⟩ ∧
    Tree.read Json.format (object [("version", .number none), ("classes", .list [usersValue])]) =
      some ⟨[users]⟩ := by
  have htype : TypeRef.IsSpelledBy usersTypeValue usersType := by
    have huser : TypeRef.Spells (object [("name", .text "User")]) (.plain "User") :=
      .named (by simp) (by simp)
    have hpage : TypeRef.Spells
        (object [("doc", .null), ("args", .list []), ("name", .text "Page")]) (.plain "Page") :=
      .applied (by simp) (by simp) .nil
    exact ⟨by decide,
      .applied (by simp) (by simp) (.cons (.bare "Id") (.cons huser (.cons hpage .nil)))⟩
  have hlist : Literal.IsSpelledBy (.list [.text "GET", .text "PUT"]) (.list ["GET", "PUT"]) :=
    .list ["GET", "PUT"]
  have hvalues : AsDictionary Literal.IsSpelledBy (object [("path", .text "/users"),
      ("method", .list [.text "GET", .text "PUT"])]) usersMarker.values :=
    .object (.cons ⟨rfl, .text "/users"⟩ (.cons ⟨rfl, hlist⟩ .nil)) (.swap _ _ [])
  have hmarker : AsObject Marker.IsSpelledBy usersMarkerValue usersMarker :=
    .object ⟨.written (by simp) (.text "request_mapping"), .written (by simp) hvalues⟩
  have hmethod : AsObject Method.IsSpelledBy usersMethodValue usersMethod :=
    .object ⟨.written (by simp) (.text "find"), .written (by simp) (.list (.cons hmarker .nil)),
      .written (by simp) (.list .nil), .written (by simp) htype⟩
  have hfield : AsObject Field.IsSpelledBy (object [("name", .text "all"),
      ("synthetic", .flag false), ("type", usersTypeValue)]) ⟨"all", usersType, false, false⟩ :=
    .object ⟨.written (by simp) (.text "all"), .written (by simp) htype, .omitted (by simp),
      .written (by simp) (.flag false)⟩
  have hclass : AsObject Class.IsSpelledBy usersValue users :=
    .object ⟨.written (by simp) (.text "Users"), .null (by simp), .omitted (by simp),
      .omitted (by simp), .written (by simp) (.list (.cons hfield .nil)),
      .written (by simp) (.list (.cons hmethod .nil))⟩
  have htree : AsObject IsSpelledBy
      (object [("version", .number none), ("classes", .list [usersValue])]) ⟨[users]⟩ :=
    .object ⟨.written (by simp) (.list (.cons hclass .nil))⟩
  exact ⟨htree, ((decode_of_spelled ⟨[users]⟩).2 _ htree).1⟩

end Tree

end Declaration

end RouteSurvey
