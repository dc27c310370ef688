import Mathlib.Data.List.Forall2
import RouteIdl.Compilation
import RouteIdl.Proofs.Schema.Acceptance

/-!
# Contributions of routes

What one route contributes to a document does not depend on the routes before it; these only decide
whether its name is refused. A contribution takes up the visits of the route, those of the request
first, and its messages have the names that the route calls for.
-/

namespace RouteIdl

open Idl Schema
open Traced (Follows)

namespace Visit

/-- The visits that a response schema gives rise to. The properties of an object are taken up
directly, and anything else but the empty schema as one field. -/
def ofResponse : Json → List Visit
  | .object members =>
      if members = [] then []
      else if typeKeyword? members = some "object" then (ofKeywords members).flatMap all
      else all ⟨"value", 0, false, .object members⟩
  | node => all ⟨"value", 0, false, node⟩

theorem ofResponse_of_value {node : Json} (hany : ofJson node ≠ .any)
    (hobject : ∀ properties required, ofJson node ≠ .object properties required) :
    ofResponse node = all ⟨"value", 0, false, node⟩ := by
  cases node with
  | object members =>
      have hkeywords : members ≠ [] := by
        rintro rfl
        exact hany rfl
      have htype : typeKeyword? members ≠ some "object" :=
        fun htype => hobject _ _ (ofJson_of_type_object htype)
      rw [ofResponse, if_neg hkeywords, if_neg htype]
  | _ => rfl

end Visit

namespace Route

/-- The messages and the remote procedure of a route, whatever routes come before it. -/
def contribution (route : Route) (service : String) (settings : Settings) :
    Traced (List Message × Rpc) := do
  let request ← requestMessages route.rpcName (Params.ofRoute route)
  let response ← route.responseMessages route.rpcName settings
  pure (request ++ response,
    route.rpc route.rpcName (Params.ofRoute route) service settings)

/-- The visits of the request schemas of a route: those of its merged parameters. -/
def requestVisits (route : Route) : List Visit :=
  (Visit.ofProperties (Params.ofRoute route).required 0 (Params.ofRoute route).properties).flatMap
    Visit.all

/-- The visits of the response schema of a route. -/
def responseVisits (route : Route) (settings : Settings) : List Visit :=
  match route.schema.bind (·.responseFor? settings.responseStatus) with
  | none => []
  | some node => Visit.ofResponse node

/-- The visits of a route, those of the request first. -/
def visits (route : Route) (settings : Settings) : List Visit :=
  route.requestVisits ++ route.responseVisits settings

theorem requestMessages_follows (route : Route) :
    (requestMessages route.rpcName (Params.ofRoute route)).Follows route.requestVisits := by
  unfold requestMessages requestVisits
  split
  next hempty =>
    rw [List.isEmpty_iff.mp hempty]
    exact Follows.pure []
  next =>
    exact (Visit.follows_message _ _ _).bind_pure _

theorem responseMessage_follows (name : String) (node : Json) :
    (responseMessage name (some node)).Follows (Visit.ofResponse node) := by
  unfold responseMessage
  rw [Option.map_some]
  rcases type_object_or_empty_or_other node with ⟨members, rfl, htype⟩ | rfl | ⟨hany, hobject⟩
  · have hkeywords : members ≠ [] := by
      rintro rfl
      cases htype
    rw [ofJson_of_type_object htype, Visit.ofResponse, if_neg hkeywords, if_pos htype]
    exact Visit.follows_message _ _ _
  · exact Follows.pure _
  · have hvalue := Visit.follows_all ⟨"value", 0, false, node⟩
    rw [Visit.items] at hvalue
    rw [Visit.ofResponse_of_value hany hobject]
    cases hshape : ofJson node with
    | any => exact absurd hshape hany
    | object properties required => exact absurd hshape (hobject properties required)
    | _ =>
        rw [hshape] at hvalue
        exact hvalue.bind_pure _

theorem responseMessages_follows (route : Route) (settings : Settings) :
    (route.responseMessages route.rpcName settings).Follows (route.responseVisits settings) := by
  unfold responseMessages responseVisits
  cases route.schema with
  | none => exact Follows.pure []
  | some schema =>
      simp only [Option.bind_some]
      cases schema.responseFor? settings.responseStatus with
      | none => exact (Follows.pure _).bind_pure _
      | some node => exact (responseMessage_follows _ node).bind_pure _

/-- A route contributes if none of its nodes offends, and the first that does is its error. -/
theorem contribution_follows (route : Route) (service : String) (settings : Settings) :
    (route.contribution service settings).Follows (route.visits settings) :=
  route.requestMessages_follows.bind fun _ _ =>
    (route.responseMessages_follows settings).bind_pure _

/-- The names of the messages that a route calls for: one for its request if any parameter is
declared, and then one for its response if any schema is. -/
def messageNames (route : Route) : List String :=
  (if (Params.ofRoute route).properties = [] then [] else [Identifier.request route.rpcName]) ++
    if route.schema.isSome then [Identifier.response route.rpcName] else []

theorem message_name {name : String} {shape : ObjectSchema} {message : Message}
    (h : (shape.message name).result = .ok message) : message.name = name := by
  obtain ⟨body, _, hmessage⟩ := Traced.result_bind_eq_ok.mp h
  cases hmessage
  rfl

theorem responseMessage_name {name : String} {schema : Option Json} {message : Message}
    (h : (responseMessage name schema).result = .ok message) :
    message.name = Identifier.response name := by
  unfold responseMessage at h
  split at h
  next => cases h; rfl
  next => cases h; rfl
  next => exact message_name h
  next =>
    obtain ⟨items, _, hmessage⟩ := Traced.result_bind_eq_ok.mp h
    cases hmessage
    rfl

theorem requestMessages_names {name : String} {params : Params} {messages : List Message}
    (h : (requestMessages name params).result = .ok messages) :
    messages.map (·.name) = if params.properties = [] then [] else [Identifier.request name] := by
  have hempty : params.isEmpty ↔ params.properties = [] := List.isEmpty_iff
  unfold requestMessages at h
  split at h
  next hnone =>
    cases h
    rw [if_pos (hempty.mp hnone), List.map_nil]
  next hsome =>
    obtain ⟨message, hmessage, hmessages⟩ := Traced.result_bind_eq_ok.mp h
    cases hmessages
    rw [if_neg (mt hempty.mpr hsome), List.map_singleton, message_name hmessage]

theorem responseMessages_names {route : Route} {name : String} {settings : Settings}
    {messages : List Message} (h : (route.responseMessages name settings).result = .ok messages) :
    messages.map (·.name) = if route.schema.isSome then [Identifier.response name] else [] := by
  unfold responseMessages at h
  split at h
  next hschema =>
    cases h
    rw [hschema]
    rfl
  next schema hschema =>
    obtain ⟨message, hmessage, hmessages⟩ := Traced.result_bind_eq_ok.mp h
    cases hmessages
    rw [hschema, List.map_singleton, responseMessage_name hmessage]
    rfl

/-- A contribution has the messages that the route calls for and its remote procedure. -/
theorem contribution_ok {route : Route} {service : String} {settings : Settings}
    {part : List Message × Rpc} (h : (route.contribution service settings).result = .ok part) :
    part.1.map (·.name) = route.messageNames ∧
      part.2 = route.rpc route.rpcName (Params.ofRoute route) service settings := by
  obtain ⟨request, hrequest, h⟩ := Traced.result_bind_eq_ok.mp h
  obtain ⟨response, hresponse, h⟩ := Traced.result_bind_eq_ok.mp h
  cases h
  refine ⟨?_, rfl⟩
  rw [List.map_append, requestMessages_names hrequest, responseMessages_names hresponse,
    messageNames]

end Route

end RouteIdl
