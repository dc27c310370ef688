import Mathlib.Data.List.Induction
import RouteIdl.Proofs.Compilation.References

/-!
# The course of a compilation

What a compilation reports, in order. Each route that is reached is announced together with the
repetition of its name, if that is allowed, and then the visits of its schemas are reported: all of
them if the route contributes, and those up to the culprit if it is refused for one of them.
-/

namespace RouteIdl

open Idl Schema
open Traced (result_bind_eq_ok events_bind_of_ok events_bind_of_error events_bind_pure)

/-- The log records of a computation that a listener with a given threshold receives, in order. -/
def Traced.observed {α : Type} (threshold : Log.Level) (run : Traced α) : List Log.Record :=
  (run.events.map Event.record).filter fun record => threshold.passes record.level

/-- Everything is observed at the finest threshold. -/
theorem Traced.observed_trace {α : Type} (run : Traced α) :
    run.observed .trace = run.events.map Event.record := by
  refine List.filter_eq_self.mpr fun record hrecord => ?_
  obtain ⟨event, -, rfl⟩ := List.mem_map.mp hrecord
  cases event <;> rfl

theorem flatMap_fst_zipIdx {α β : Type} (f : α → List β) (xs : List α) :
    (xs.zipIdx.flatMap fun entry => f entry.1) = xs.flatMap f := by
  rw [← List.flatMap_map Prod.fst f, List.zipIdx_map_fst]

namespace Route

/-- What is reported of a route before its schemas, after routes with the given RPC names: that it
is taken up, and that its name occurred before, if that is allowed. -/
def notices (route : Route) (seen : List String) (settings : Settings) : List Event :=
  .routeStarted route.method route.url route.rpcName ::
    if settings.duplicates = .allow ∧ route.rpcName ∈ seen then
      [.duplicateRpc route.rpcName route.url]
    else []

theorem target_notices {route : Route} {seen : List String} {settings : Settings} :
    ∀ event ∈ route.notices seen settings, event.record.target = Event.documentTarget := by
  intro event hevent
  unfold notices at hevent
  split at hevent <;> simp at hevent
  · rcases hevent with rfl | rfl <;> rfl
  · rw [hevent]
    rfl

theorem notices_reverse (route : Route) (seen : List String) (settings : Settings) :
    route.notices seen.reverse settings = route.notices seen settings := by
  simp only [notices, List.mem_reverse]

/-- What is reported of things that are reached in turn, each at the place of a route and after the
routes before that. -/
def inTurn {α : Type} (report : List Route → α → List Event) (routes : List Route)
    (reached : List α) : List Event :=
  reached.zipIdx.flatMap fun entry => report (routes.take entry.2) entry.1

/-- What is reported of routes that are reached in turn, each with those of its visits that are
taken up: first what there is to notice about the route after those before it. -/
def turns (settings : Settings) : List Route → List (Route × List Visit) → List Event :=
  inTurn fun earlier taken =>
    taken.1.notices (earlier.map rpcName) settings ++ taken.2.map Visit.event

/-- A route with all of its visits. -/
def inFull (settings : Settings) (route : Route) : Route × List Visit :=
  (route, route.visits settings)

theorem map_fst_inFull (settings : Settings) (routes : List Route) :
    (routes.map (inFull settings)).map Prod.fst = routes := by
  rw [List.map_map]
  exact List.map_id' routes

/-- The visits of a route that are taken up before it is refused. A repeated name is noticed before
any of them, and an offending schema is the last of them. -/
inductive Stops (route : Route) (settings : Settings) : List Visit → CompileError → Prop where
  | repeated : Stops route settings [] (.duplicateRpc route.rpcName)
  | offending {before after : List Visit} {culprit : Visit}
      (hvisits : route.visits settings = before ++ culprit :: after)
      (hculprit : Offending culprit.node) :
      Stops route settings (before ++ [culprit]) culprit.error

section Step

variable {route : Route} {seen : List String} {service : String} {settings : Settings}

theorem notices_eq :
    route.notices seen settings =
      .routeStarted route.method route.url route.rpcName ::
        (route.noteName seen settings).events := by
  unfold notices noteName
  split
  next h => simp [h.1, h.2]
  next h =>
    split
    next hseen => cases hpolicy : settings.duplicates <;> simp_all
    next => rfl

/-- A route that contributes reports all of its visits. -/
theorem events_compile_of_ok {part : List Message × Rpc}
    (h : (route.compile seen service settings).result = .ok part) :
    (route.compile seen service settings).events =
      route.notices seen settings ++ (route.visits settings).map Visit.event := by
  obtain ⟨hname, hpart⟩ := compile_eq_ok_iff.mp h
  rw [compile_eq, events_bind_of_ok rfl, events_bind_of_ok (noteName_eq_ok_iff.mpr hname),
    notices_eq]
  cases route.contribution_follows service settings with
  | completes _ _ hevents _ => rw [hevents]; rfl
  | stops _ _ _ _ _ _ hresult _ =>
      rw [hpart] at hresult
      cases hresult

/-- A route that is refused reports its visits up to the one that it is refused for. -/
theorem events_compile_of_error {error : CompileError}
    (h : (route.compile seen service settings).result = .error error) :
    ∃ visited, route.Stops settings visited error ∧
      (route.compile seen service settings).events =
        route.notices seen settings ++ visited.map Visit.event := by
  rw [compile_eq, Traced.result_report_bind] at h
  rw [compile_eq, events_bind_of_ok rfl, notices_eq]
  rcases Traced.result_bind_eq_error.mp h with hnoted | ⟨_, hnoted, hpart⟩
  · obtain ⟨_, _, rfl⟩ := noteName_eq_error_iff.mp hnoted
    refine ⟨[], .repeated, ?_⟩
    rw [events_bind_of_error hnoted, List.map_nil, List.append_nil]
    rfl
  · rw [events_bind_of_ok hnoted]
    cases route.contribution_follows service settings with
    | completes _ hresult _ _ =>
        rw [hpart] at hresult
        cases hresult
    | stops before culprit after hvisits _ hculprit hresult hevents =>
        rw [hpart] at hresult
        cases hresult
        exact ⟨_, .offending hvisits hculprit, by rw [hevents]; rfl⟩

end Step

section Run

variable {service : String} {settings : Settings}

/-- Further routes are taken up after the others, whose names are then seen. -/
theorem compileAll_append (seen : List String) (before rest : List Route) :
    compileAll service settings seen (before ++ rest) =
      compileAll service settings seen before >>= fun out =>
        compileAll service settings ((before.map rpcName).reverse ++ seen) rest >>= fun others =>
          pure (out.1 ++ others.1, out.2 ++ others.2) := by
  induction before generalizing seen with
  | nil => simp [compileAll]
  | cons route before ih =>
      simp only [List.cons_append, compileAll, ih, bind_assoc, pure_bind, List.map_cons,
        List.reverse_cons, List.append_assoc, List.nil_append]

theorem compileAll_concat (before : List Route) (route : Route) :
    compileAll service settings [] (before ++ [route]) =
      compileAll service settings [] before >>= fun out =>
        route.compile (before.map rpcName).reverse service settings >>= fun part =>
          pure (out.1 ++ part.1, out.2 ++ [part.2]) := by
  simp [compileAll_append, compileAll]

theorem inTurn_concat {α : Type} {report : List Route → α → List Event} {routes : List Route}
    {reached : List α} {last : α} :
    inTurn report routes (reached ++ [last]) =
      inTurn report routes reached ++ report (routes.take reached.length) last := by
  simp [inTurn, List.zipIdx_append]

/-- Of the routes in a list only those matter that come before one that is reached. -/
theorem inTurn_append {α : Type} {report : List Route → α → List Event} {routes rest : List Route}
    {reached : List α} (h : reached.length ≤ routes.length) :
    inTurn report (routes ++ rest) reached = inTurn report routes reached := by
  refine List.flatMap_congr fun entry hentry => ?_
  have hlt := List.snd_lt_of_mem_zipIdx hentry
  rw [List.take_append_of_le_length (by omega)]

theorem turns_concat {before rest : List Route} {taken : List (Route × List Visit)} {route : Route}
    {visited : List Visit} (h : taken.length = before.length) :
    turns settings (before ++ rest) (taken ++ [(route, visited)]) =
      turns settings before taken ++
        (route.notices (before.map rpcName) settings ++ visited.map Visit.event) := by
  rw [turns, inTurn_concat, inTurn_append (Nat.le_of_eq h), h, List.take_left]

/-- A pass that succeeds reports all visits of every route. -/
theorem events_compileAll_of_ok {routes : List Route} {out : List Message × List Rpc}
    (h : (compileAll service settings [] routes).result = .ok out) :
    (compileAll service settings [] routes).events =
      turns settings routes (routes.map (inFull settings)) := by
  -- From the end, since what there is to notice about a route depends on those before it.
  induction routes using List.reverseRecOn generalizing out with
  | nil => rfl
  | append_singleton before route ih =>
      rw [compileAll_concat] at h ⊢
      obtain ⟨others, hothers, h⟩ := result_bind_eq_ok.mp h
      obtain ⟨part, hpart, -⟩ := result_bind_eq_ok.mp h
      rw [List.map_append, List.map_singleton, inFull, turns_concat (List.length_map _),
        events_bind_of_ok hothers, ih hothers, events_bind_pure, events_compile_of_ok hpart,
        notices_reverse]

/-- A pass that fails reports all visits of the routes before the one that is refused, and of that
one the visits up to the refusal. -/
theorem compileAll_stops {routes : List Route} {error : CompileError}
    (h : (compileAll service settings [] routes).result = .error error) :
    ∃ before route after visited, routes = before ++ route :: after ∧
      (∃ out, (compileAll service settings [] before).result = .ok out) ∧
      route.Refused (before.map rpcName) settings error ∧ route.Stops settings visited error ∧
      (compileAll service settings [] routes).events =
        turns settings routes (before.map (inFull settings) ++ [(route, visited)]) := by
  obtain ⟨before, route, after, rfl, ⟨out, hout⟩, hrefused⟩ := compileAll_eq_error_iff.mp h
  have herror : (route.compile (before.map rpcName).reverse service settings).result =
      .error error := by
    refine compile_eq_error_iff.mpr (hrefused.of_subset ?_ ?_) <;> simp
  obtain ⟨visited, hstops, hevents⟩ := events_compile_of_error herror
  rw [List.append_nil] at hrefused
  refine ⟨before, route, after, visited, rfl, ⟨out, hout⟩, hrefused, hstops, ?_⟩
  rw [turns_concat (List.length_map _), ← events_compileAll_of_ok hout, compileAll_append,
    events_bind_of_ok hout, events_bind_pure, List.append_nil, compileAll,
    events_bind_of_error herror, hevents, notices_reverse]

end Run

end Route

/-- How a compilation under a service name goes: to the end, with the text of all parts, or up to
the first route that is refused. -/
inductive Course (routes : List Route) (name : ServiceName) (service : String)
    (settings : Settings) : Prop where
  | completes (text : String) (parts : List (List Message × Rpc))
      (hresult : (compileText routes name settings).result = .ok text)
      (hblocks : Blocks routes service settings parts text)
      (hevents : (compileText routes name settings).events =
        .passStarted service routes.length ::
          (Route.turns settings routes (routes.map (Route.inFull settings)) ++
            [.passFinished service (parts.flatMap (·.1)).length (parts.map (·.2)).length]))
  | stops (before : List Route) (route : Route) (after : List Route) (visited : List Visit)
      (error : CompileError) (hroutes : routes = before ++ route :: after)
      (hbefore : ∃ text, (compileText before name settings).result = .ok text)
      (hresult : (compileText routes name settings).result = .error error)
      (hrefused : route.Refused (before.map Route.rpcName) settings error)
      (hstops : route.Stops settings visited error)
      (hevents : (compileText routes name settings).events =
        .passStarted service routes.length ::
          Route.turns settings routes (before.map (Route.inFull settings) ++ [(route, visited)]))

section Document

variable {routes : List Route} {name : ServiceName} {service : String} {settings : Settings}

theorem events_compileText :
    (compileText routes name settings).events = (compile routes name settings).events := by
  rw [compileText, events_bind_pure]

/-- Without a name for the service nothing is reported and nothing is compiled. -/
theorem compileText_of_no_service {error : CompileError} (h : name.resolve = .error error) :
    compileText routes name settings = Traced.fail error := by
  unfold compileText compile
  rw [h]
  rfl

theorem events_compile_of_ok (hservice : name.resolve = .ok service)
    {out : List Message × List Rpc}
    (hout : (Route.compileAll service settings [] routes).result = .ok out) :
    (compile routes name settings).events =
      .passStarted service routes.length ::
        ((Route.compileAll service settings [] routes).events ++
          [.passFinished service out.1.length out.2.length]) := by
  rw [compile, events_bind_of_ok hservice, events_bind_of_ok rfl, events_bind_of_ok hout]
  rfl

theorem events_compile_of_error (hservice : name.resolve = .ok service) {error : CompileError}
    (herror : (Route.compileAll service settings [] routes).result = .error error) :
    (compile routes name settings).events =
      .passStarted service routes.length ::
        (Route.compileAll service settings [] routes).events := by
  rw [compile, events_bind_of_ok hservice, events_bind_of_ok rfl, events_bind_of_error herror]
  rfl

/-- Once its service has a name, a compilation takes one of the two courses. -/
theorem course_of_service (hservice : name.resolve = .ok service) :
    Course routes name service settings := by
  cases hpass : (Route.compileAll service settings [] routes).result with
  | ok out =>
      obtain ⟨-, parts, hparts, rfl⟩ := Route.compileAll_eq_ok_iff.mp hpass
      have hresult : (compile routes name settings).result =
          .ok (Document.ofParts service parts) := by
        rw [compile_result hservice, hpass]
        rfl
      refine .completes _ parts (compileText_eq_ok_iff.mpr ⟨_, hresult, rfl⟩)
        (blocks_of_contributions hparts) ?_
      rw [events_compileText, events_compile_of_ok hservice hpass,
        Route.events_compileAll_of_ok hpass]
  | error error =>
      obtain ⟨before, route, after, visited, hroutes, ⟨out, hout⟩, hrefused, hstops, hevents⟩ :=
        Route.compileAll_stops hpass
      obtain ⟨document, hdocument⟩ :
          ∃ document, (compile before name settings).result = .ok document := by
        rw [compile_result hservice, hout]
        exact ⟨_, rfl⟩
      have hresult : (compile routes name settings).result = .error error := by
        rw [compile_result hservice, hpass]
        rfl
      refine .stops before route after visited error hroutes
        ⟨_, compileText_eq_ok_iff.mpr ⟨document, hdocument, rfl⟩⟩
        (compileText_eq_error_iff.mpr hresult) hrefused hstops ?_
      rw [events_compileText, events_compile_of_error hservice hpass, hevents]

end Document

end RouteIdl
