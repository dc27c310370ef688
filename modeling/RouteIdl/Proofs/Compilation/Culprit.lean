import RouteIdl.Proofs.Compilation.Course
import RouteIdl.Proofs.Schema.Diagnostics

/-!
# The culprit of a compilation

What a listener learns of the schemas of a compilation. The schema nodes are reported in the order
of their visits, each before those below it, so that the last report of a compilation that is
refused for a schema is that of the culprit, which it shows as the error does.
-/

namespace RouteIdl

open Idl Schema

theorem Visit.event_of_offending {visit : Visit} (h : Offending visit.node) :
    visit.event = .propertyStarted visit.field visit.index visit.required visit.node := by
  rw [Visit.event, h.toJson_ofJson]

/-- What a listener learns of the visits that a run is to take up. -/
structure Traces {α : Type} (visits : List Visit) (run : Traced α) : Prop where
  /-- The nodes that are taken up are reported in order: the first ones of the visits, and all of
  them if the run has a value. -/
  visited : ∃ visited, visited <+: visits ∧
    (run.observed .trace).filter (·.target == Event.messageTarget) =
      visited.map (·.event.record) ∧
    ∀ value, run.result = .ok value → visited = visits
  /-- If a schema is refused, the last of all reports shows the refused field and schema. -/
  culprit : ∀ field schema, run.result = .error (.invalidProperty field schema) →
    ∃ index required, (run.observed .trace).getLast? =
      some (Event.propertyStarted field index required schema).record

theorem filter_message_visits (visits : List Visit) :
    (visits.map (·.event.record)).filter (·.target == Event.messageTarget) =
      visits.map (·.event.record) := by
  refine List.filter_eq_self.mpr fun record hrecord => ?_
  obtain ⟨visit, -, rfl⟩ := List.mem_map.mp hrecord
  rfl

/-- A run that follows visits reports them and nothing else. -/
theorem Traced.Follows.traces {α : Type} {run : Traced α} {visits : List Visit}
    (h : run.Follows visits) :
    Traces visits run ∧ ∀ record ∈ run.observed .trace, record.target = Event.messageTarget := by
  have hobserved {visited : List Visit} (hevents : run.events = visited.map Visit.event) :
      run.observed .trace = visited.map (·.event.record) := by
    rw [Traced.observed_trace, hevents, List.map_map]
    rfl
  have htarget {visited : List Visit} :
      ∀ record ∈ visited.map (·.event.record), record.target = Event.messageTarget := by
    intro record hrecord
    obtain ⟨visit, -, rfl⟩ := List.mem_map.mp hrecord
    rfl
  cases h with
  | completes value hresult hevents hclean =>
      refine ⟨⟨⟨visits, List.prefix_rfl, ?_, fun _ _ => rfl⟩, fun field schema h => ?_⟩, ?_⟩
      · rw [hobserved hevents, filter_message_visits]
      · rw [hresult] at h
        cases h
      · exact hobserved hevents ▸ htarget
  | stops before culprit after hvisits hclean hculprit hresult hevents =>
      refine ⟨⟨⟨before ++ [culprit], ?_, ?_, fun value h => ?_⟩, fun field schema h => ?_⟩, ?_⟩
      · exact ⟨after, by simp [hvisits]⟩
      · rw [hobserved hevents, filter_message_visits]
      · rw [hresult] at h
        cases h
      · rw [hresult] at h
        cases h
        refine ⟨culprit.index, culprit.required, ?_⟩
        rw [hobserved hevents, List.map_append, List.map_singleton, List.getLast?_concat,
          Visit.event_of_offending hculprit]
      · exact hobserved hevents ▸ htarget

namespace Route

section Turns

variable {route : Route} {settings : Settings} {visited : List Visit} {error : CompileError}

theorem filter_message_turns (routes : List Route) (taken : List (Route × List Visit)) :
    ((turns settings routes taken).map Event.record).filter (·.target == Event.messageTarget) =
      (taken.flatMap Prod.snd).map (·.event.record) := by
  have hnotices (route : Route) (seen : List String) :
      ((route.notices seen settings).map Event.record).filter
        (·.target == Event.messageTarget) = [] := by
    refine List.filter_eq_nil_iff.mpr fun record hrecord => ?_
    obtain ⟨event, hevent, rfl⟩ := List.mem_map.mp hrecord
    rw [target_notices event hevent]
    exact nofun
  have hvisits (visits : List Visit) :
      ((visits.map Visit.event).map Event.record).filter (·.target == Event.messageTarget) =
        visits.map (·.event.record) := by
    rw [List.map_map]
    exact filter_message_visits visits
  simp only [turns, inTurn, List.map_flatMap, List.filter_flatMap, List.map_append,
    List.filter_append, hnotices, hvisits, List.nil_append]
  exact flatMap_fst_zipIdx (fun entry : Route × List Visit => entry.2.map (·.event.record)) taken

theorem Stops.visited_prefix (h : route.Stops settings visited error) :
    visited <+: route.visits settings := by
  cases h with
  | repeated => exact List.nil_prefix
  | @offending before after culprit hvisits _ =>
      exact ⟨after, by rw [hvisits, List.append_assoc, List.singleton_append]⟩

theorem Stops.getLast? {field : String} {schema : Json}
    (h : route.Stops settings visited (.invalidProperty field schema)) :
    ∃ index required,
      visited.getLast?.map Visit.event = some (.propertyStarted field index required schema) := by
  cases h with
  | @offending _ _ culprit _ hculprit =>
      refine ⟨culprit.index, culprit.required, ?_⟩
      rw [List.getLast?_concat, Option.map_some, Visit.event_of_offending hculprit]

/-- What is reported of routes ends with the last visit of the last of them. -/
theorem getLast?_turns {before rest : List Route} {taken : List (Route × List Visit)} {last : Event}
    (hlength : taken.length = before.length)
    (hlast : visited.getLast?.map Visit.event = some last) :
    (turns settings (before ++ rest) (taken ++ [(route, visited)])).getLast? = some last := by
  rw [turns_concat hlength, List.getLast?_append, List.getLast?_append, List.getLast?_map, hlast]
  rfl

theorem flatMap_snd_inFull (routes : List Route) :
    (routes.map (inFull settings)).flatMap Prod.snd = routes.flatMap (visits · settings) := by
  rw [List.flatMap_map]
  rfl

end Turns

end Route

section Pass

variable {routes : List Route} {name : ServiceName} {service : String} {settings : Settings}
  {taken : List (Route × List Visit)} {conclusion : List Event}

theorem ServiceName.eq_of_resolve_eq_error {error : CompileError}
    (h : name.resolve = .error error) : error = .missingServiceName := by
  unfold ServiceName.resolve at h
  split at h
  · split at h <;> cases h
    rfl
  · cases h
    rfl

/-- Of a compilation the reports on schemas are those of the visits that are taken up. -/
theorem filter_message_pass (hevents : (compileText routes name settings).events =
      .passStarted service routes.length :: (Route.turns settings routes taken ++ conclusion))
    (hconclusion : ∀ event ∈ conclusion, event.record.target = Event.documentTarget) :
    ((compileText routes name settings).observed .trace).filter
        (·.target == Event.messageTarget) = (taken.flatMap Prod.snd).map (·.event.record) := by
  have hrest : (conclusion.map Event.record).filter (·.target == Event.messageTarget) = [] := by
    refine List.filter_eq_nil_iff.mpr fun record hrecord => ?_
    obtain ⟨event, hevent, rfl⟩ := List.mem_map.mp hrecord
    rw [hconclusion event hevent]
    exact nofun
  have hstart : [(Event.passStarted service routes.length).record].filter
      (·.target == Event.messageTarget) = [] := rfl
  rw [Traced.observed_trace, hevents, List.map_cons, ← List.singleton_append, List.filter_append,
    hstart, List.nil_append, List.map_append, List.filter_append, Route.filter_message_turns,
    hrest, List.append_nil]

end Pass

/-- The nodes of a schema are reported in the order of their visits. So are those of a compilation,
route by route and those of the request first, and if it is refused for a schema, then its very last
report is that of the refused node, with the field and the schema of the error. -/
theorem compileText_traced (routes : List Route) (name : ServiceName) (settings : Settings) :
    (∀ field index required node,
      Traces (Visit.all ⟨field, index, required, node⟩)
          (Schema.items field index required (ofJson node)) ∧
        ∀ record ∈ (Schema.items field index required (ofJson node)).observed .trace,
          record.target = Event.messageTarget) ∧
    Traces (routes.flatMap (Route.visits · settings)) (compileText routes name settings) := by
  refine ⟨fun field index required node => ?_, ?_⟩
  · exact (Visit.follows_all ⟨field, index, required, node⟩).traces
  cases hservice : name.resolve with
  | error error =>
      rw [compileText_of_no_service hservice]
      refine ⟨⟨[], List.nil_prefix, rfl, nofun⟩, fun field schema h => ?_⟩
      cases h
      cases ServiceName.eq_of_resolve_eq_error hservice
  | ok service =>
      have hcourse : Course routes name service settings := course_of_service hservice
      cases hcourse with
      | completes text parts hresult hblocks hevents =>
          refine ⟨⟨_, List.prefix_rfl, ?_, fun _ _ => rfl⟩, fun field schema h => ?_⟩
          · rw [filter_message_pass hevents (List.forall_mem_singleton.mpr rfl),
              Route.flatMap_snd_inFull]
          · rw [hresult] at h
            cases h
      | stops before route after visited error hroutes hbefore hresult hrefused hstops hevents =>
          refine ⟨⟨before.flatMap (Route.visits · settings) ++ visited, ?_, ?_, fun value h => ?_⟩,
            fun field schema h => ?_⟩
          · rw [hroutes, List.flatMap_append, List.flatMap_cons, List.prefix_append_right_inj]
            exact hstops.visited_prefix.trans (List.prefix_append _ _)
          · rw [← List.append_nil (Route.turns _ _ _)] at hevents
            rw [filter_message_pass hevents (List.forall_mem_nil _), List.flatMap_append,
              Route.flatMap_snd_inFull, List.flatMap_singleton]
          · rw [hresult] at h
            cases h
          -- A refused schema is shown, after all that was reported of the routes before.
          · rw [hresult] at h
            cases h
            obtain ⟨index, required, hlast⟩ := hstops.getLast?
            refine ⟨index, required, ?_⟩
            rw [Traced.observed_trace, hevents, List.getLast?_map, List.getLast?_cons, hroutes,
              Route.getLast?_turns (List.length_map _) hlast]
            rfl

/-- A route with a parameter that has no type in the language, after one that compiles: the last
report is that of the parameter. -/
theorem compileText_traced_flag :
    (compileText [.postUser, .putFlag] ⟨some "users", none⟩ {}).result =
        .error (.invalidProperty "on" (.object [("type", .string "boolean")])) ∧
      ∃ index required,
        ((compileText [.postUser, .putFlag] ⟨some "users", none⟩ {}).observed .trace).getLast? =
          some (Event.propertyStarted "on" index required
            (.object [("type", .string "boolean")])).record := by
  have hresult : (compileText [.postUser, .putFlag] ⟨some "users", none⟩ {}).result =
      .error (.invalidProperty "on" (.object [("type", .string "boolean")])) := rfl
  exact ⟨hresult, (compileText_traced [.postUser, .putFlag] ⟨some "users", none⟩ {}).2.culprit
    "on" (.object [("type", .string "boolean")]) hresult⟩

end RouteIdl
