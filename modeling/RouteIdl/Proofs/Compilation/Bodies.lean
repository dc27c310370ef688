import RouteIdl.Proofs.Compilation.Pass
import RouteIdl.Proofs.Schema.Places

/-!
# Bodies of documents

The bodies in the messages of a document, at every depth, where they stand, and what of its routes
each of them comes from. Those of a request come from the merged parameters and those of a response
from the schema under the configured status.
-/

namespace RouteIdl

open Idl
open Traced (result_bind_eq_ok)

/-- The bodies of the messages of a document. -/
def Idl.Document.bodies (document : Document) : List Body :=
  document.messages.flatMap Message.bodies

/-- The bodies of the messages of a document, where they stand. -/
def Idl.Document.places (document : Document) : List Place :=
  document.messages.flatMap Message.places

theorem Idl.Document.map_body_places (document : Document) :
    document.places.map (·.body) = document.bodies := by
  rw [places, bodies, List.map_flatMap]
  simp only [Message.map_body_places]

/-- What the bodies in the request message for parameters come from. Without parameters there is no
message. -/
def Params.origins (params : Params) : List Origin :=
  if params.isEmpty then [] else params.toObjectSchema.origins

/-- What the bodies in the response message for a response schema come from. -/
def Origin.ofResponse (node : Option Json) : List Origin :=
  match node.map Schema.ofJson with
  | none => [.nothing]
  | some .any => [.nothing]
  | some (.object properties required) => ObjectSchema.origins ⟨properties, required⟩
  | some other => .value other :: other.origins

namespace Route

/-- What the bodies in the response message of a route come from. Without schemas there is no
message. -/
def responseOrigins (route : Route) (settings : Settings) : List Origin :=
  match route.schema with
  | none => []
  | some schema => Origin.ofResponse (schema.responseFor? settings.responseStatus)

/-- What the bodies in the messages of a route come from, those of the request first. -/
def origins (settings : Settings) (route : Route) : List Origin :=
  (Params.ofRoute route).origins ++ route.responseOrigins settings

variable {name service : String} {settings : Settings} {messages : List Message}

theorem requestMessages_places {params : Params}
    (h : (requestMessages name params).result = .ok messages) :
    List.Forall₂ Origin.GivesAt params.origins (messages.flatMap Message.places) := by
  unfold requestMessages at h
  unfold Params.origins
  split at h
  next hempty =>
    cases h
    rw [if_pos hempty]
    exact .nil
  next hempty =>
    obtain ⟨message, hmessage, ⟨⟩⟩ := result_bind_eq_ok.mp h
    rw [if_neg hempty, List.flatMap_singleton]
    exact ObjectSchema.message_places hmessage

theorem responseMessage_places {node : Option Json} {message : Message}
    (h : (responseMessage name node).result = .ok message) :
    List.Forall₂ Origin.GivesAt (Origin.ofResponse node) message.places := by
  unfold responseMessage at h
  unfold Origin.ofResponse
  generalize node.map Schema.ofJson = shape at h ⊢
  cases shape with
  | none =>
      cases h
      exact .cons (.nothing _ []) .nil
  | some schema =>
      cases schema with
      | any =>
          cases h
          exact .cons (.nothing _ []) .nil
      | object properties required => exact ObjectSchema.message_places h
      | _ =>
          obtain ⟨items, hitems, ⟨⟩⟩ := result_bind_eq_ok.mp h
          exact .cons (.value _ [] hitems)
            (Schema.hasPlaces _ [⟨_, items⟩] (Schema.items_eq_ok_iff.mp hitems))

theorem responseMessages_places {route : Route}
    (h : (route.responseMessages name settings).result = .ok messages) :
    List.Forall₂ Origin.GivesAt (route.responseOrigins settings)
      (messages.flatMap Message.places) := by
  unfold responseMessages at h
  unfold responseOrigins
  generalize route.schema = declared at h ⊢
  cases declared with
  | none =>
      cases h
      exact .nil
  | some schema =>
      obtain ⟨message, hmessage, ⟨⟩⟩ := result_bind_eq_ok.mp h
      rw [List.flatMap_singleton]
      exact responseMessage_places hmessage

theorem contribution_places {route : Route} {part : List Message × Rpc}
    (h : (route.contribution service settings).result = .ok part) :
    List.Forall₂ Origin.GivesAt (route.origins settings) (part.1.flatMap Message.places) := by
  obtain ⟨request, hrequest, h⟩ := result_bind_eq_ok.mp h
  obtain ⟨response, hresponse, ⟨⟩⟩ := result_bind_eq_ok.mp h
  rw [List.flatMap_append]
  exact List.rel_append (requestMessages_places hrequest) (responseMessages_places hresponse)

end Route

/-- The bodies of a document are those that its routes call for, in order, and stand where these
call for them. -/
theorem compile_places {routes : List Route} {name : ServiceName} {settings : Settings}
    {document : Document} (h : (compile routes name settings).result = .ok document) :
    List.Forall₂ Origin.GivesAt (routes.flatMap (Route.origins settings)) document.places := by
  obtain ⟨service, hservice⟩ := resolve_of_compile_eq_ok h
  obtain ⟨_, parts, hparts, rfl⟩ := (compile_eq_ok_iff hservice).mp h
  have hplaces : (Document.ofParts service parts).places =
      parts.flatMap fun part => part.1.flatMap Message.places := List.flatMap_assoc
  rw [hplaces]
  exact List.rel_flatMap hparts fun _ _ hpart => Route.contribution_places hpart

/-- The bodies of a document are those that its routes call for, in order. -/
theorem compile_bodies {routes : List Route} {name : ServiceName} {settings : Settings}
    {document : Document} (h : (compile routes name settings).result = .ok document) :
    List.Forall₂ Origin.Gives (routes.flatMap (Route.origins settings)) document.bodies := by
  rw [← document.map_body_places, List.forall₂_map_right_iff]
  exact (compile_places h).imp fun _ _ hplace => hplace.gives

end RouteIdl
