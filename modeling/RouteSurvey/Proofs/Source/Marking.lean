import RouteSurvey.Proofs.Http.Method
import RouteSurvey.Proofs.Mapping
import RouteSurvey.Proofs.Marker
import RouteSurvey.Proofs.Source.Arguments
import RouteSurvey.Proofs.Source.Leaves

/-! # What markers tell of attributes

Under a key a marker has the strings of the last argument with this key, in the order in which
they are written and without those that are empty. The mapping that is read from the marker
has its paths and methods in this order, too.
-/

namespace RouteSurvey.Source

/-! ## Keys -/

/-- The strings that arguments give to a key: those of the last argument with the key, from the
first to the last leaf of its value, without the empty ones; none if no argument has the key. -/
inductive AreUnderKey (arguments : List MarkerArgument) (key : String) : List String → Prop where
  | absent : (∀ argument ∈ arguments, argument.key ≠ key) → AreUnderKey arguments key []
  | last {front back : List MarkerArgument} {argument : MarkerArgument} {leaves : List String} :
      arguments = front ++ argument :: back → argument.key = key →
      (∀ later ∈ back, later.key ≠ key) → argument.value.HasLeaves leaves →
      AreUnderKey arguments key (leaves.filter (· ≠ ""))

variable {key : String} {arguments : List MarkerArgument} {strings : List String}

theorem absent_or_last (arguments : List MarkerArgument) (key : String) :
    (∀ argument ∈ arguments, argument.key ≠ key) ∨
      ∃ front argument back, arguments = front ++ argument :: back ∧ argument.key = key ∧
        ∀ later ∈ back, later.key ≠ key := by
  induction arguments with
  | nil => exact Or.inl (by simp)
  | cons first rest ih =>
      rcases ih with habsent | ⟨front, argument, back, rfl, hkey, hlater⟩
      · by_cases hfirst : first.key = key
        · exact Or.inr ⟨[], first, rest, rfl, hfirst, habsent⟩
        · exact Or.inl (List.forall_mem_cons.mpr ⟨hfirst, habsent⟩)
      · exact Or.inr ⟨first :: front, argument, back, rfl, hkey, hlater⟩

theorem list_markerOf_of_absent (kind : String)
    (habsent : ∀ argument ∈ arguments, argument.key ≠ key) :
    (markerOf kind arguments).list key = [] := by
  have hentries : ∀ entry ∈ arguments.map MarkerArgument.entry, entry.1 ≠ key :=
    List.forall_mem_map.mpr habsent
  rw [Marker.list, markerOf, Dictionary.get?_ofList_of_absent hentries, Option.elim_none]

theorem list_markerOf_of_last (kind : String) {front back : List MarkerArgument}
    {argument : MarkerArgument} (hkey : argument.key = key)
    (hlater : ∀ later ∈ back, later.key ≠ key) :
    (markerOf kind (front ++ argument :: back)).list key =
      argument.value.leaves.filter (· ≠ "") := by
  have hentries : ∀ entry ∈ back.map MarkerArgument.entry, entry.1 ≠ key :=
    List.forall_mem_map.mpr hlater
  rw [Marker.list, markerOf, List.map_append, List.map_cons, MarkerArgument.entry, hkey,
    Dictionary.get?_ofList_of_last hentries, Option.elim_some, Literal.strings_ofStrings]

theorem list_markerOf_eq_iff (kind : String) :
    (markerOf kind arguments).list key = strings ↔ AreUnderKey arguments key strings := by
  constructor
  · rintro rfl
    rcases absent_or_last arguments key with habsent | ⟨front, argument, back, rfl, hkey, hlater⟩
    · rw [list_markerOf_of_absent kind habsent]
      exact .absent habsent
    · rw [list_markerOf_of_last kind hkey hlater]
      exact .last rfl hkey hlater (Expr.leaves_eq_iff.mp rfl)
  · intro hstrings
    cases hstrings with
    | absent habsent => exact list_markerOf_of_absent kind habsent
    | last harguments hkey hlater hleaves =>
        rw [harguments, list_markerOf_of_last kind hkey hlater, Expr.leaves_eq_iff.mpr hleaves]

/-! ## Mappings -/

/-- The mapping has what arguments say, in the order in which they say it: the paths under
`path`, or under `value` if there are none, and for the generic kind the methods in the order in
which they are first named. -/
structure KeepsWritten (arguments : List MarkerArgument) (kind : MappingKind) (mapping : Mapping) :
    Prop where
  kind_eq : mapping.kind = kind
  paths : (mapping.paths ≠ [] ∧ AreUnderKey arguments "path" mapping.paths) ∨
    (AreUnderKey arguments "path" [] ∧ AreUnderKey arguments "value" mapping.paths)
  methods : match kind with
    | .request => ∃ tokens, AreUnderKey arguments "method" tokens ∧
        HttpMethod.AreFirstNamed tokens mapping.methods
    | .shorthand verb => mapping.methods = [verb.method]

theorem pathsOf_markerOf (kind : String) (arguments : List MarkerArgument) :
    (Mapping.pathsOf (markerOf kind arguments) ≠ [] ∧
      AreUnderKey arguments "path" (Mapping.pathsOf (markerOf kind arguments))) ∨
    (AreUnderKey arguments "path" [] ∧
      AreUnderKey arguments "value" (Mapping.pathsOf (markerOf kind arguments))) := by
  rw [Mapping.pathsOf, Marker.firstList_pair]
  split
  next hnone => exact Or.inr ⟨(list_markerOf_eq_iff _).mp hnone, (list_markerOf_eq_iff _).mp rfl⟩
  next hsome => exact Or.inl ⟨hsome, (list_markerOf_eq_iff _).mp rfl⟩

theorem keepsWritten_ofMarker (name : String) (arguments : List MarkerArgument)
    (kind : MappingKind) :
    KeepsWritten arguments kind (Mapping.ofMarker kind (markerOf name arguments)) where
  kind_eq := Mapping.kind_ofMarker kind _
  paths := by
    cases kind <;> exact pathsOf_markerOf name arguments
  methods := by
    cases kind with
    | request =>
        exact ⟨_, (list_markerOf_eq_iff _).mp rfl, HttpMethod.ofTokens_eq_iff.mp rfl⟩
    | shorthand verb => rfl

/-! ## Attributes -/

/-- The marker tells what the arguments of an attribute say. -/
structure Tells (arguments : List MarkerArgument) (marker : Marker) : Prop where
  list_eq_iff : ∀ key strings, marker.list key = strings ↔ AreUnderKey arguments key strings
  string?_eq_iff : ∀ key first, marker.string? key = some first ↔
    ∃ rest, AreUnderKey arguments key (first :: rest)
  mapping : ∀ kind : MappingKind, marker.kind = kind.name →
    ∃ mapping, (Normalized.ofMarkers [marker]).mapping? = some mapping ∧
      KeepsWritten arguments kind mapping

theorem tells_markerOf (kind : String) (arguments : List MarkerArgument) :
    Tells arguments (markerOf kind arguments) where
  list_eq_iff _ _ := list_markerOf_eq_iff kind
  string?_eq_iff key first := by
    simp only [Marker.string?, List.head?_eq_some_iff, ← list_markerOf_eq_iff kind]
  mapping mappingKind hkind :=
    ⟨_, mapping?_singleton hkind, keepsWritten_ofMarker kind arguments mappingKind⟩

/-- The marker of an attribute has under each key the strings that the last argument with the key
is written with, and a mapping has them in the same order. If the arguments cannot be read, which
only happens to tokens that hold no list of arguments, the marker has its kind only. Whether a
value is stored as one string or as a list shows in nothing that is read from markers. -/
theorem marker_tells_written_strings :
    (∀ (attr : Attribute) kind arguments, attr.kind? = some kind →
      attr.arguments? = some arguments →
      (∀ others, attr.content.Holds others ↔ others = arguments) ∧
        ∃ marker, attr.marker? = some marker ∧ marker.kind = kind ∧ Tells arguments marker) ∧
    (∀ (attr : Attribute) kind, attr.kind? = some kind → attr.arguments? = none →
      attr.marker? = some ⟨kind, Dictionary.empty⟩ ∧
        (∃ tokens, attr.content = .arguments tokens) ∧
          ∀ others, ¬ attr.content.Holds others) ∧
    (∀ kind key string (values : Dictionary RouteSurvey.Literal),
      Marker.Alike ⟨kind, values.insert key (.text string)⟩
        ⟨kind, values.insert key (.list [string])⟩) ∧
    (∀ first second : Marker, first.Alike second →
      first.list = second.list ∧ first.firstList = second.firstList ∧
        first.string? = second.string?) ∧
    ∀ markers others : List Marker, List.Forall₂ Marker.Alike markers others →
      Normalized.ofMarkers markers = Normalized.ofMarkers others := by
  refine ⟨?_, ?_, Marker.alike_insert, ?_, fun _ _ => Normalized.ofMarkers_alike⟩
  · intro attr kind arguments hkind hread
    constructor
    · intro others
      rw [← Attribute.arguments?_eq_some_iff, hread, Option.some_inj, eq_comm]
    · refine ⟨markerOf kind arguments, ?_, rfl, tells_markerOf kind arguments⟩
      rw [Attribute.marker?, hkind, hread, Option.getD_some, Option.map_some]
  · intro attr kind hkind hnone
    refine ⟨?_, Attribute.not_holds_of_arguments? hnone⟩
    rw [Attribute.marker?, hkind, hnone, Option.getD_none, Option.map_some]
    rfl
  · intro first second halike
    exact ⟨halike.list_eq, halike.firstList_eq, halike.string?_eq⟩

/-- The attribute `request_mapping("/old", value = ["/a", [("/b"), ""]], method = [POST])`. -/
def nestedAttribute : Attribute where
  isAbsolute := false
  path := [⟨"request_mapping", by decide⟩]
  content := .arguments [
    .literal (.text "/old"), .punct ',' false,
    .ident ⟨"value", by decide⟩, .punct '=' false,
    .group .bracket [.literal (.text "/a"), .punct ',' false,
      .group .bracket [.group .paren [.literal (.text "/b")], .punct ',' false,
        .literal (.text "")]], .punct ',' false,
    .ident ⟨"method", by decide⟩, .punct '=' false, .group .bracket [.ident ⟨"POST", by decide⟩]]

/-- Its arguments. -/
def nestedArguments : List MarkerArgument :=
  [⟨"value", .literal (.text "/old")⟩,
    ⟨"value", .array [.literal (.text "/a"),
      .array [.paren (.literal (.text "/b")), .literal (.text "")]]⟩,
    ⟨"method", .array [.path [⟨"POST", by decide⟩]]⟩]

/-- The attribute `get_mapping(path =)`, whose argument has no expression. -/
def brokenAttribute : Attribute where
  isAbsolute := false
  path := [⟨"get_mapping", by decide⟩]
  content := .arguments [.ident ⟨"path", by decide⟩, .punct '=' false]

/-- A later value counts in place of an earlier one, with its lists flattened. -/
theorem marker_tells_written_strings_nested :
    nestedAttribute.arguments? = some nestedArguments ∧
    nestedAttribute.content.Holds nestedArguments ∧
    (∃ marker, nestedAttribute.marker? = some marker ∧ marker.list "value" = ["/a", "/b"] ∧
      ∃ mapping, (Normalized.ofMarkers [marker]).mapping? = some mapping ∧
        KeepsWritten nestedArguments .request mapping) ∧
    brokenAttribute.arguments? = none ∧
    brokenAttribute.marker? = some ⟨"get_mapping", Dictionary.empty⟩ ∧
    Normalized.ofMarkers [⟨"get_mapping", Dictionary.empty.insert "path" (.text "/a")⟩] =
      Normalized.ofMarkers [⟨"get_mapping", Dictionary.empty.insert "path" (.list ["/a"])⟩] := by
  obtain ⟨hread, hbroken, hstored, -, halike⟩ := marker_tells_written_strings
  have harguments : nestedAttribute.arguments? = some nestedArguments := rfl
  have hnone : brokenAttribute.arguments? = none := rfl
  obtain ⟨hholds, marker, hmarker, hkind, htells⟩ :=
    hread nestedAttribute "request_mapping" nestedArguments (by decide) harguments
  have hvalue : AreUnderKey nestedArguments "value" ["/a", "/b"] :=
    (list_markerOf_eq_iff "request_mapping").mp (by decide)
  refine ⟨harguments, (hholds _).mpr rfl, ⟨marker, hmarker, (htells.list_eq_iff _ _).mpr hvalue,
      htells.mapping .request hkind⟩,
    hnone, (hbroken brokenAttribute "get_mapping" (by decide) hnone).1,
    halike _ _ (.cons (hstored "get_mapping" "path" "/a" Dictionary.empty) .nil)⟩

end RouteSurvey.Source
