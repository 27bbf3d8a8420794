import RouteSurvey.Proofs.Registry
import RouteSurvey.Proofs.Report.Lines

/-! # Legible reports

A report tells everything about its routes but the names of their handlers. Its lines are of
kinds that their indentations tell apart: a class stands at the margin, a route behind one
tab, and what belongs to a route behind more. So the lines fall into blocks again.
-/

namespace RouteSurvey

@[mk_iff]
structure RouteGroup.IsLegible (group : RouteGroup) : Prop where
  className_line : '\n' ∉ group.className.toList
  className_unindented : group.className.toList.head? ≠ some '\t'
  routes : ∀ route ∈ group.routes, route.IsLegible

/-- All names in a registry keep clear of the marks between them. -/
def Registry.IsLegible (registry : Registry) : Prop :=
  ∀ group ∈ registry.groups, group.IsLegible

instance (group : RouteGroup) : Decidable group.IsLegible :=
  decidable_of_iff _ group.isLegible_iff.symm

instance (registry : Registry) : Decidable registry.IsLegible :=
  inferInstanceAs (Decidable (∀ group ∈ registry.groups, group.IsLegible))

/-- A route without the name of its handler, which no report mentions. -/
def Route.withoutHandler (route : Route) : Route :=
  { route with handler := "" }

def RouteGroup.withoutHandlers (group : RouteGroup) : RouteGroup :=
  { group with routes := group.routes.map Route.withoutHandler }

def Registry.withoutHandlers (registry : Registry) : Registry :=
  ⟨registry.groups.map RouteGroup.withoutHandlers⟩

namespace Report

open Text

/-! ## Kinds of lines -/

/-- The lines of a route below its head. -/
def detailLines (route : Route) : List String :=
  route.params.map (paramLine "\t\t") ++
    (payloadLines "input" route.input? ++ payloadLines "output" route.output?)

theorem routeLines_eq : routeLines = fun route => headLine route :: detailLines route := by
  funext route
  rw [routeLines, detailLines, List.append_assoc]

theorem opens_of_mem_payloadLines {label : String} {payload? : Option Payload} {line : String}
    (hline : line ∈ payloadLines label payload?) :
    Opens (payloadOpening label) line ∨ Opens "\t\t\t- " line := by
  cases payload? with
  | none => contradiction
  | some payload =>
      rcases List.mem_cons.mp hline with rfl | hfield
      · exact Or.inl (opens_append _ _)
      · obtain ⟨field, _, rfl⟩ := List.mem_map.mp hfield
        exact Or.inr (opens_paramLine "\t\t\t" field)

theorem opens_head?_payloadLines {label : String} {payload? : Option Payload} {line : String}
    (hline : line ∈ (payloadLines label payload?).head?) : Opens (payloadOpening label) line := by
  cases payload? with
  | none => contradiction
  | some payload =>
      cases hline
      exact opens_append _ _

theorem Opens.not_opens {first second line : String} (hline : Opens second line)
    (hdiffer : Differ first.toList second.toList) : ¬ Opens first line :=
  hdiffer.not_isPrefix hline

theorem Opens.of_isPrefix {first second line : String} (hline : Opens second line)
    (hfirst : first.toList <+: second.toList) : Opens first line :=
  hfirst.trans hline

/-- Whatever stands below the head of a route stands behind two tabs. -/
theorem opens_of_mem_detailLines {route : Route} {line : String}
    (hline : line ∈ detailLines route) : Opens "\t\t" line := by
  rcases List.mem_append.mp hline with hparam | hpayload
  · obtain ⟨param, _, rfl⟩ := List.mem_map.mp hparam
    exact (opens_paramLine "\t\t" param).of_isPrefix (by decide)
  · rcases List.mem_append.mp hpayload with hinput | houtput
    · rcases opens_of_mem_payloadLines hinput with hopens | hopens
      · exact hopens.of_isPrefix (by decide)
      · exact hopens.of_isPrefix (by decide)
    · rcases opens_of_mem_payloadLines houtput with hopens | hopens
      · exact hopens.of_isPrefix (by decide)
      · exact hopens.of_isPrefix (by decide)

theorem opens_headLine (route : Route) : Opens "\t-" (headLine route) := by
  have hopens : Opens "\t- " (headLine route) := by
    rw [Opens, toList_headLine]
    exact List.prefix_append _ _
  exact hopens.of_isPrefix (by decide)

theorem opens_of_mem_routes {routes : List Route} {line : String}
    (hline : line ∈ routes.flatMap routeLines) : Opens "\t" line := by
  obtain ⟨route, _, hline⟩ := List.mem_flatMap.mp hline
  rw [routeLines_eq] at hline
  rcases List.mem_cons.mp hline with rfl | hdetail
  · exact (opens_headLine route).of_isPrefix (by decide)
  · exact (opens_of_mem_detailLines hdetail).of_isPrefix (by decide)

theorem not_opens_className {group : RouteGroup} (hgroup : group.IsLegible) :
    ¬ Opens "\t" (group.className ++ ":") := by
  intro hopens
  rw [Opens, String.toList_append] at hopens
  have hname := hgroup.className_unindented
  cases hchars : group.className.toList with
  | nil =>
      rw [hchars] at hopens
      revert hopens
      decide
  | cons c rest =>
      rw [hchars] at hname hopens
      have htab : '\t' = c := (List.cons_prefix_cons.mp hopens).1
      exact hname (congrArg some htab.symm)

/-! ## Blocks -/

/-- Below the head of a route the parameters come first, then the request and the response. -/
theorem detailLines_inj {first second : Route} (hfirst : first.IsLegible)
    (hsecond : second.IsLegible) (heq : detailLines first = detailLines second) :
    first.params = second.params ∧ first.input? = second.input? ∧
      first.output? = second.output? := by
  have hparams : ∀ route : Route, ∀ line ∈ route.params.map (paramLine "\t\t"),
      Opens "\t\t- " line := by
    intro route line hline
    obtain ⟨param, _, rfl⟩ := List.mem_map.mp hline
    exact opens_paramLine "\t\t" param
  have hpayloads : ∀ route : Route, Stops (Opens "\t\t- ")
      (payloadLines "input" route.input? ++ payloadLines "output" route.output?) := by
    intro route line hline
    rcases List.mem_append.mp (List.mem_of_mem_head? hline) with hinput | houtput
    · rcases opens_of_mem_payloadLines hinput with hopens | hopens
      · exact hopens.not_opens (by decide)
      · exact hopens.not_opens (by decide)
    · rcases opens_of_mem_payloadLines houtput with hopens | hopens
      · exact hopens.not_opens (by decide)
      · exact hopens.not_opens (by decide)
  -- No line of a payload looks like the line of a parameter, and a response not like a request.
  obtain ⟨hlines, hrest⟩ := append_inj_of_stops (hparams first) (hparams second)
    (hpayloads first) (hpayloads second) heq
  have houtputs : ∀ route : Route,
      Stops (InPayload "input") (payloadLines "output" route.output?) := by
    rintro route line hline (hopens | hopens)
    · exact (opens_head?_payloadLines hline).not_opens (by decide) hopens
    · exact (opens_head?_payloadLines hline).not_opens (by decide) hopens
  obtain ⟨hinput, hrest⟩ := payloadLines_append_inj hfirst.input? hsecond.input?
    (houtputs first) (houtputs second) hrest
  rw [← List.append_nil (payloadLines "output" first.output?),
    ← List.append_nil (payloadLines "output" second.output?)] at hrest
  obtain ⟨houtput, -⟩ := payloadLines_append_inj hfirst.output? hsecond.output?
    (stops_nil _) (stops_nil _) hrest
  exact ⟨params_inj hfirst.params hsecond.params hlines, hinput, houtput⟩

theorem withoutHandler_eq {first second : Route} (hfirst : first.IsLegible)
    (hsecond : second.IsLegible) (hclass : first.className = second.className)
    (hhead : headLine first = headLine second) (hdetails : detailLines first = detailLines second) :
    first.withoutHandler = second.withoutHandler := by
  obtain ⟨hdeprecated, hmethods, hpaths, hconsumes, hproduces⟩ := headLine_inj hfirst hsecond hhead
  obtain ⟨hparams, hinput, houtput⟩ := detailLines_inj hfirst hsecond hdetails
  simp only [Route.withoutHandler, Route.mk.injEq, true_and]
  exact ⟨hclass, hpaths, hmethods, hconsumes, hproduces, hdeprecated, hparams, hinput, houtput⟩

/-- The routes of two groups of one class, read from the lines below the class. -/
theorem routes_withoutHandler_eq {first second : List Route} {className : String}
    (hfirst : ∀ route ∈ first, route.IsLegible ∧ route.className = className)
    (hsecond : ∀ route ∈ second, route.IsLegible ∧ route.className = className)
    (heq : first.flatMap routeLines = second.flatMap routeLines) :
    first.map Route.withoutHandler = second.map Route.withoutHandler := by
  have hkinds : ∀ route : Route, ¬ Opens "\t\t" (headLine route) ∧
      ∀ line ∈ detailLines route, Opens "\t\t" line := fun route =>
    ⟨(opens_headLine route).not_opens (by decide), fun line => opens_of_mem_detailLines⟩
  rw [routeLines_eq] at heq
  refine map_eq_of_blocks (fun route _ => hkinds route) (fun route _ => hkinds route) ?_ heq
  intro route hroute other hother
  obtain ⟨hlegible, hclass⟩ := hfirst route hroute
  obtain ⟨hlegible', hclass'⟩ := hsecond other hother
  exact withoutHandler_eq hlegible hlegible' (hclass.trans hclass'.symm)

theorem groups_withoutHandlers_eq {first second : Registry} (hfirst : first.IsLegible)
    (hsecond : second.IsLegible) (hfiled : Registry.IsFiled first.groups)
    (hfiled' : Registry.IsFiled second.groups) (heq : lines first = lines second) :
    first.withoutHandlers = second.withoutHandlers := by
  have hkinds : ∀ registry : Registry, registry.IsLegible → ∀ group ∈ registry.groups,
      ¬ Opens "\t" (group.className ++ ":") ∧
        ∀ line ∈ group.routes.flatMap routeLines, Opens "\t" line :=
    fun registry hregistry group hgroup =>
      ⟨not_opens_className (hregistry group hgroup), fun line => opens_of_mem_routes⟩
  apply congrArg Registry.mk
  refine map_eq_of_blocks (hkinds first hfirst) (hkinds second hsecond) ?_ heq
  intro group hgroup other hother hclass hroutes
  have hname := (String.append_left_inj ":").mp hclass
  have hsame := routes_withoutHandler_eq
    (fun route hroute => ⟨(hfirst group hgroup).routes route hroute,
      hfiled group hgroup route hroute⟩)
    (fun route hroute => ⟨(hsecond other hother).routes route hroute,
      (hfiled' other hother route hroute).trans hname.symm⟩) hroutes
  rw [RouteGroup.withoutHandlers, RouteGroup.withoutHandlers, hname, hsame]

/-! ## Texts -/

theorem toList_render (registry : Registry) :
    (render registry).toList =
      ((lines registry).map String.toList).flatMap fun line => line ++ ['\n'] := by
  rw [render, String.toList_join, List.flatMap_map, List.flatMap_map]
  apply List.flatMap_congr
  intro line _
  rw [String.toList_append]
  rfl

theorem paramLine_line {indent : String} {param : Param} (hindent : '\n' ∉ indent.toList)
    (hparam : param.IsLegible) : '\n' ∉ (paramLine indent param).toList := by
  rw [toList_paramLine, paramBody]
  simp only [String.toList_append, List.mem_append, List.mem_cons, not_or]
  refine ⟨⟨hindent, by decide⟩, hparam.type_line, by decide, hparam.name_line, ?_⟩
  cases hdefault : param.default? with
  | none => exact List.not_mem_nil
  | some value =>
      simp only [Option.elim_some, List.mem_append, not_or]
      exact ⟨by decide, hparam.default_line value hdefault, by decide⟩

theorem payloadLines_line {label : String} {payload? : Option Payload} {line : String}
    (hlabel : '\n' ∉ label.toList) (hpayload : ∀ payload ∈ payload?, payload.IsLegible)
    (hline : line ∈ payloadLines label payload?) : '\n' ∉ line.toList := by
  cases payload? with
  | none => contradiction
  | some payload =>
      have hlegible := hpayload payload rfl
      rcases List.mem_cons.mp hline with rfl | hfield
      · simp only [String.toList_append, List.mem_append, not_or]
        exact ⟨⟨⟨by decide, hlabel⟩, by decide⟩, hlegible.name_line⟩
      · obtain ⟨field, hmem, rfl⟩ := List.mem_map.mp hfield
        exact paramLine_line (by decide) (hlegible.fields field hmem)

theorem mediaTypes_line (label : String) {types : List String} (hlabel : '\n' ∉ label.toList)
    (htypes : ∀ type ∈ types, '\n' ∉ type.toList) : '\n' ∉ (mediaTypes label types).toList := by
  by_cases hne : types = []
  · rw [hne, mediaTypes_nil]
    decide
  · rw [toList_mediaTypes label hne, noteOpening]
    simp only [String.toList_append, List.mem_append, not_or]
    exact ⟨⟨⟨by decide, hlabel⟩, by decide⟩, notMem_joined (by decide) htypes, by decide⟩

theorem headLine_line {route : Route} (hroute : route.IsLegible) :
    '\n' ∉ (headLine route).toList := by
  have hconsumes := mediaTypes_line "expects" (by decide) fun type htype =>
    hroute.types_line type (List.mem_append_left _ htype)
  have hproduces := mediaTypes_line "returns" (by decide) fun type htype =>
    hroute.types_line type (List.mem_append_right _ htype)
  rw [toList_headLine, headBody]
  simp only [List.mem_append, List.mem_cons, not_or]
  refine ⟨by decide, ?_, by decide, notMem_methodNames _ (by decide) (by decide), by decide,
    by decide, notMem_joined (by decide) hroute.paths_line, by decide, hconsumes, hproduces⟩
  split <;> decide

theorem lines_line {registry : Registry} (hregistry : registry.IsLegible) {line : String}
    (hline : line ∈ lines registry) : '\n' ∉ line.toList := by
  obtain ⟨group, hgroup, hline⟩ := List.mem_flatMap.mp hline
  have hlegible := hregistry group hgroup
  rcases List.mem_cons.mp hline with rfl | hroutes
  · rw [String.toList_append, List.mem_append, not_or]
    exact ⟨hlegible.className_line, by decide⟩
  · obtain ⟨route, hroute, hline⟩ := List.mem_flatMap.mp hroutes
    have hroute := hlegible.routes route hroute
    rw [routeLines_eq] at hline
    rcases List.mem_cons.mp hline with rfl | hdetail
    · exact headLine_line hroute
    · simp only [detailLines, List.mem_append] at hdetail
      rcases hdetail with hparam | hinput | houtput
      · obtain ⟨param, hmem, rfl⟩ := List.mem_map.mp hparam
        exact paramLine_line (by decide) (hroute.params param hmem)
      · exact payloadLines_line (by decide) hroute.input? hinput
      · exact payloadLines_line (by decide) hroute.output? houtput

theorem lines_eq_of_render_eq {first second : Registry} (hfirst : first.IsLegible)
    (hsecond : second.IsLegible) (heq : render first = render second) :
    lines first = lines second := by
  have hchars := congrArg String.toList heq
  rw [toList_render, toList_render] at hchars
  apply map_toList_inj
  refine eq_of_flatMap_terminated ?_ ?_ hchars
  · exact List.forall_mem_map.mpr fun line hline => lines_line hfirst hline
  · exact List.forall_mem_map.mpr fun line hline => lines_line hsecond hline

theorem render_withoutHandlers (registry : Registry) :
    render registry.withoutHandlers = render registry := by
  have hlines : lines registry.withoutHandlers = lines registry := by
    rw [lines, lines, Registry.withoutHandlers, List.flatMap_map]
    apply List.flatMap_congr
    intro group _
    rw [RouteGroup.withoutHandlers, groupLines, groupLines, List.flatMap_map]
    rfl
  rw [render, render, hlines]

/-- Two registries have the same report exactly if they differ at most in the names of
handlers. A registry is always made by grouping routes. -/
theorem render_eq_iff_withoutHandlers_eq {first second : List Route}
    (hfirst : (Registry.ofRoutes first).IsLegible)
    (hsecond : (Registry.ofRoutes second).IsLegible) :
    render (Registry.ofRoutes first) = render (Registry.ofRoutes second) ↔
      (Registry.ofRoutes first).withoutHandlers = (Registry.ofRoutes second).withoutHandlers := by
  constructor
  · intro heq
    exact groups_withoutHandlers_eq hfirst hsecond (Registry.isFiled_ofRoutes first)
      (Registry.isFiled_ofRoutes second) (lines_eq_of_render_eq hfirst hsecond heq)
  · intro heq
    rw [← render_withoutHandlers, heq, render_withoutHandlers]

/-- The routes of a shop, with a default that looks like another one. -/
def orderRoutes (handler : String) : List Route :=
  [{ className := "shop::Orders", handler, paths := ["/orders", "/orders/(all)"],
     methods := [.get, .post], consumes := [], produces := ["text/csv", "text/plain"],
     deprecated := true,
     params := [⟨"Map<K, V>", "filter", some "x (default: y)"⟩, ⟨"u32", "page", none⟩],
     input? := none, output? := some ⟨"Json", [⟨"u32", "id", none⟩]⟩ },
   { className := "shop::Health", handler, paths := [""], methods := [.get], consumes := [""],
     produces := [], deprecated := false, params := [], input? := some ⟨"shop::Probe", []⟩,
     output? := none }]

theorem render_eq_iff_withoutHandlers_eq_orders :
    (Registry.ofRoutes (orderRoutes "list")).IsLegible ∧
      (Registry.ofRoutes (orderRoutes "all")).IsLegible ∧
      Registry.ofRoutes (orderRoutes "list") ≠ Registry.ofRoutes (orderRoutes "all") ∧
      render (Registry.ofRoutes (orderRoutes "list")) =
        render (Registry.ofRoutes (orderRoutes "all")) ∧
      (Registry.ofRoutes (orderRoutes "list")).withoutHandlers =
        (Registry.ofRoutes (orderRoutes "all")).withoutHandlers := by
  have hlist : (Registry.ofRoutes (orderRoutes "list")).IsLegible := by decide +kernel
  have hall : (Registry.ofRoutes (orderRoutes "all")).IsLegible := by decide +kernel
  have hrender : render (Registry.ofRoutes (orderRoutes "list")) =
      render (Registry.ofRoutes (orderRoutes "all")) := by decide +kernel
  exact ⟨hlist, hall, by decide +kernel,
    (render_eq_iff_withoutHandlers_eq hlist hall).mpr rfl,
    (render_eq_iff_withoutHandlers_eq hlist hall).mp hrender⟩

end Report

end RouteSurvey
