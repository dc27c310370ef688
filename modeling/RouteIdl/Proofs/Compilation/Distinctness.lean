import RouteIdl.Proofs.Compilation.Bodies
import RouteIdl.Proofs.Params.UniqueKeys
import RouteIdl.Proofs.Schema.Distinctness

/-!
# Distinct names in documents

In the messages of a document fields side by side have distinct names, and so have messages side by
side. In a choice they have if its variants declare distinct types, and only then.
-/

namespace RouteIdl

open Idl Schema

namespace Origin

/-- Names side by side are distinct in a message. In a choice those of the fields are exactly if no
two variants declare the same type, and those of the messages exactly if no two variants do that
have structure of their own. -/
structure Separates (origin : Origin) (body : Body) : Prop where
  fields : ∀ items, body = .message items → (body.fields.map (·.name)).Nodup
  messages : ∀ items, body = .message items → body.messageNames.Nodup
  choices : ∀ variants, origin = .choices variants →
    ((body.fields.map (·.name)).Nodup ↔ (variants.filterMap declaredType?).Nodup)
  choiceMessages : ∀ variants, origin = .choices variants →
    (body.messageNames.Nodup ↔ ((variants.filter structured).filterMap declaredType?).Nodup)

theorem Gives.separates {origin : Origin} {body : Body} (h : origin.Gives body)
    (hdistinct : origin.Distinct) : origin.Separates body := by
  cases h with
  | object hitems =>
      obtain ⟨hfields, hmessages⟩ := propertyItems_nodup (hdistinct _ rfl) hitems
      exact ⟨fun _ _ => hfields, fun _ _ => hmessages, nofun, nofun⟩
  | choices hitems =>
      refine ⟨nofun, nofun, ?_, ?_⟩
      · rintro _ ⟨⟩
        exact choiceItems_fields_nodup_iff hitems
      · rintro _ ⟨⟩
        exact choiceItems_messageNames_nodup_iff hitems
  | wrapper name choices listing =>
      exact ⟨fun _ _ => List.nodup_nil, fun _ _ => List.nodup_singleton name, nofun, nofun⟩
  | listing name =>
      exact ⟨fun _ _ => List.nodup_singleton name, fun _ _ => List.nodup_nil, nofun, nofun⟩
  -- One schema alone contributes one field and at most one message.
  | @value schema items hitems =>
      have hyields := items_eq_ok_iff.mp hitems
      obtain ⟨field, hfields, _, _⟩ := hyields.fields
      refine ⟨fun _ _ => ?_, fun _ _ => ?_, nofun, nofun⟩
      · rw [Body.fields, Body.items, hfields, List.map_singleton]
        exact List.nodup_singleton _
      · rw [Body.messageNames, Body.items, hyields.messageNames]
        cases schema.messageName? "value" with
        | none => exact List.nodup_nil
        | some message => exact List.nodup_singleton message
  | nothing => exact ⟨fun _ _ => List.nodup_nil, fun _ _ => List.nodup_nil, nofun, nofun⟩

theorem distinct_ofResponse {node : Option Json} (h : ∀ json, node = some json → json.UniqueKeys) :
    ∀ origin ∈ ofResponse node, origin.Distinct := by
  unfold ofResponse
  split
  next => exact List.forall_mem_singleton.mpr nofun
  next => exact List.forall_mem_singleton.mpr nofun
  next properties required hobject =>
    obtain ⟨json, rfl, hshape⟩ := Option.map_eq_some_iff.mp hobject
    have horigins := distinct_origins (h json rfl)
    rw [hshape] at horigins
    exact horigins
  next schema _ _ hvalue =>
    obtain ⟨json, rfl, rfl⟩ := Option.map_eq_some_iff.mp hvalue
    exact List.forall_mem_cons.mpr ⟨nofun, distinct_origins (h json rfl)⟩

end Origin

namespace Route

variable {route : Route} {settings : Settings}

theorem distinct_requestOrigins (h : route.UniqueKeys) :
    ∀ origin ∈ (Params.ofRoute route).origins, origin.Distinct := by
  unfold Params.origins
  split
  next => exact List.forall_mem_nil _
  next =>
    refine List.forall_mem_cons.mpr ⟨?_, ?_⟩
    · rintro _ ⟨⟩
      rw [Params.toObjectSchema, List.map_map]
      exact nodup_names_ofRoute
    · rw [Params.toObjectSchema, propertyOrigins_eq_flatMap, List.flatMap_map]
      intro origin horigin
      obtain ⟨property, hproperty, horigin⟩ := List.mem_flatMap.mp horigin
      exact distinct_origins (h.of_mem_properties property hproperty) origin horigin

theorem distinct_responseOrigins (h : route.UniqueKeys) :
    ∀ origin ∈ route.responseOrigins settings, origin.Distinct := by
  unfold responseOrigins
  split
  next => exact List.forall_mem_nil _
  next schema hschema =>
    exact Origin.distinct_ofResponse fun json hjson => (h schema hschema).of_responseFor? hjson

theorem distinct_origins (h : route.UniqueKeys) :
    ∀ origin ∈ route.origins settings, origin.Distinct := by
  intro origin horigin
  rcases List.mem_append.mp horigin with hrequest | hresponse
  · exact distinct_requestOrigins h origin hrequest
  · exact distinct_responseOrigins h origin hresponse

end Route

/-- Names side by side are distinct in every message of a document, at every depth, and in a choice
exactly if its variants declare distinct types. Routes with unique keys, which are all that can be
read, are enough for that. -/
theorem compileText_distinct :
    (∀ routes name settings text, (∀ route ∈ routes, Route.UniqueKeys route) →
      (compileText routes name settings).result = .ok text →
        ∃ document, (compile routes name settings).result = .ok document ∧
          text = document.text settings.presence ∧
          List.Forall₂ (fun origin body => origin.Gives body ∧ origin.Separates body)
            (routes.flatMap (Route.origins settings)) document.bodies) ∧
    ∀ input routes, Route.listOfSymbols input = .ok routes →
      ∀ route ∈ routes, Route.UniqueKeys route := by
  refine ⟨?_, fun input routes h => Route.uniqueKeys_of_listOfSymbols h⟩
  intro routes name settings text hkeys h
  obtain ⟨document, hdocument, htext⟩ := compileText_eq_ok_iff.mp h
  have hdistinct : ∀ origin ∈ routes.flatMap (Route.origins settings), origin.Distinct := by
    intro origin horigin
    obtain ⟨route, hroute, horigin⟩ := List.mem_flatMap.mp horigin
    exact Route.distinct_origins (hkeys route hroute) origin horigin
  have hbodies := (List.forall₂_and_left _ _).mpr ⟨hdistinct, compile_bodies hdocument⟩
  refine ⟨document, hdocument, htext, hbodies.imp ?_⟩
  rintro origin body ⟨hdistinct, hgives⟩
  exact ⟨hgives, hgives.separates hdistinct⟩

namespace Route

/-- A route whose response is one of two objects. -/
def twins : Route where
  method := "GET"
  url := "/twins"
  schema := some {
    response := some (.object [("200", .object [("oneOf", .array [
      .object [("type", .string "object")], .object [("type", .string "object")]])])]) }

/-- The text of a list with that route. -/
def twinsText : String :=
  "[[\"GET\",\"/twins\",[null,null,null,\x7b\"200\":\x7b\"oneOf\":[" ++
    "\x7b\"type\":\"object\"\x7d,\x7b\"type\":\"object\"\x7d]\x7d\x7d]]]"

theorem twins_of_text : listOfSymbols (Json.Symbol.ofText twinsText) = .ok [twins] := by
  cbv

end Route

/-- The document of a route that is read from a text. -/
theorem compileText_distinct_twins :
    Route.listOfSymbols (Json.Symbol.ofText Route.twinsText) = .ok [.twins] ∧
      ∃ text, (compileText [.twins] ⟨some "shop", none⟩ {}).result = .ok text ∧
        ∃ document, (compile [.twins] ⟨some "shop", none⟩ {}).result = .ok document ∧
          text = document.text .label ∧
          List.Forall₂ (fun origin body => origin.Gives body ∧ origin.Separates body)
            ([Route.twins].flatMap (Route.origins {})) document.bodies := by
  obtain ⟨hdistinct, hread⟩ := compileText_distinct
  obtain ⟨text, htext⟩ : ∃ text,
      (compileText [.twins] ⟨some "shop", none⟩ {}).result = .ok text := ⟨_, rfl⟩
  have hkeys := hread _ _ Route.twins_of_text
  exact ⟨Route.twins_of_text, text, htext, hdistinct _ _ _ _ hkeys htext⟩

/-- Two variants of the same type give choices and messages of the same name. -/
theorem not_distinct_twins :
    (∀ route ∈ [Route.twins], route.UniqueKeys) ∧
      ∃ document, (compile [.twins] ⟨some "shop", none⟩ {}).result = .ok document ∧
        ∃ body ∈ document.bodies,
          ¬ (body.fields.map (·.name)).Nodup ∧ ¬ body.messageNames.Nodup := by
  refine ⟨Route.uniqueKeys_of_listOfSymbols Route.twins_of_text, _, rfl, .oneOf
    [.message "objectObject" [], .field ⟨"object", 0, "objectObject", false, false⟩,
      .message "objectObject" [], .field ⟨"object", 1, "objectObject", false, false⟩],
    ?_, by decide, by decide⟩
  -- The choice is in the wrapper, which is in the message.
  exact List.mem_cons_of_mem _ (List.mem_cons_of_mem _ List.mem_cons_self)

end RouteIdl
