import RouteIdl.Proofs.Compilation.Pass

/-!
# References between blocks

The messages of a document and the types that its remote procedures refer to. Whether a message is
there and whether it is referred to are decided apart from each other, and agree.
-/

namespace RouteIdl

open Idl

namespace Identifier

/-- The last character tells apart the names of requests, the names of responses, and the types
that take their place. -/
def lastChar? (name : String) : Option Char :=
  name.toList.getLast?

theorem lastChar?_request (rpc : String) : lastChar? (request rpc) = some 't' := by
  simp [lastChar?, request, String.toList_append]

theorem lastChar?_response (rpc : String) : lastChar? (response rpc) = some 'e' := by
  simp [lastChar?, response, String.toList_append]

theorem request_ne_response (rpc other : String) : request rpc ≠ response other := by
  intro heq
  have hlast := congrArg lastChar? heq
  rw [lastChar?_request, lastChar?_response] at hlast
  cases hlast

theorem emptyType_ne_request (rpc : String) : emptyType ≠ request rpc := by
  intro heq
  have hlast := congrArg lastChar? heq
  rw [lastChar?_request] at hlast
  cases hlast

theorem textType_ne_response (rpc : String) : textType ≠ response rpc := by
  intro heq
  have hlast := congrArg lastChar? heq
  rw [lastChar?_response] at hlast
  cases hlast

theorem request_inj {rpc other : String} : request rpc = request other ↔ rpc = other :=
  String.append_left_inj "Request"

theorem response_inj {rpc other : String} : response rpc = response other ↔ rpc = other :=
  String.append_left_inj "Response"

end Identifier

namespace Route

/-- How the messages and the remote procedure of one route fit together. -/
structure Contributes (route : Route) (messages : List Message) (rpc : Rpc) : Prop where
  /-- The messages are those that the route calls for, in order. -/
  names : messages.map (·.name) = route.messageNames
  /-- The procedure has the name of the route. -/
  rpc_name : rpc.name = route.rpcName
  /-- The procedure takes the request message exactly if there is one. -/
  request_iff : rpc.request = Identifier.request route.rpcName ↔
    Identifier.request route.rpcName ∈ messages.map (·.name)
  /-- Without a request message it takes the empty one. -/
  request_else : Identifier.request route.rpcName ∉ messages.map (·.name) →
    rpc.request = emptyType
  /-- The procedure gives the response message exactly if there is one. -/
  response_iff : rpc.response = Identifier.response route.rpcName ↔
    Identifier.response route.rpcName ∈ messages.map (·.name)
  /-- Without a response message it gives a text. -/
  response_else : Identifier.response route.rpcName ∉ messages.map (·.name) →
    rpc.response = textType

theorem mem_messageNames {route : Route} {name : String} (h : name ∈ route.messageNames) :
    name = Identifier.request route.rpcName ∨ name = Identifier.response route.rpcName := by
  unfold messageNames at h
  rcases List.mem_append.mp h with h | h
  · split at h <;> simp_all
  · split at h <;> simp_all

theorem request_mem_messageNames {route : Route} :
    Identifier.request route.rpcName ∈ route.messageNames ↔
      (Params.ofRoute route).properties ≠ [] := by
  have hne := Identifier.request_ne_response route.rpcName route.rpcName
  unfold messageNames
  split <;> split <;> simp_all

theorem response_mem_messageNames {route : Route} :
    Identifier.response route.rpcName ∈ route.messageNames ↔ route.schema.isSome := by
  have hne := (Identifier.request_ne_response route.rpcName route.rpcName).symm
  unfold messageNames
  split <;> split <;> simp_all

theorem rpc_request {route : Route} {name service : String} {params : Params}
    {settings : Settings} :
    (route.rpc name params service settings).request =
      if params.properties = [] then emptyType else Identifier.request name := by
  simp [rpc, Params.isEmpty]

theorem rpc_response {route : Route} {name service : String} {params : Params}
    {settings : Settings} :
    (route.rpc name params service settings).response =
      if route.schema.isSome then Identifier.response name else textType := rfl

theorem contributes_of_contribution {route : Route} {service : String} {settings : Settings}
    {part : List Message × Rpc} (h : (route.contribution service settings).result = .ok part) :
    route.Contributes part.1 part.2 := by
  obtain ⟨hnames, hrpc⟩ := contribution_ok h
  rw [hrpc]
  constructor
  · exact hnames
  · rfl
  -- The types that stand in for missing messages never have the name of one.
  · rw [hnames, request_mem_messageNames, rpc_request]
    split <;> simp_all [Identifier.emptyType_ne_request]
  · rw [hnames, request_mem_messageNames, rpc_request]
    intro hnone
    rw [if_pos (not_not.mp hnone)]
  · rw [hnames, response_mem_messageNames, rpc_response]
    split <;> simp_all [Identifier.textType_ne_response]
  · rw [hnames, response_mem_messageNames]
    intro hnone
    exact if_neg hnone

namespace Contributes

variable {route : Route} {messages : List Message} {rpc : Rpc}

/-- Whatever message the procedure of a route takes is one of the route. -/
theorem request_defined (h : route.Contributes messages rpc) :
    rpc.request = emptyType ∨ ∃ message ∈ messages, message.name = rpc.request := by
  by_cases hmem : Identifier.request route.rpcName ∈ messages.map (·.name)
  · refine .inr ?_
    rw [h.request_iff.mpr hmem]
    exact List.mem_map.mp hmem
  · exact .inl (h.request_else hmem)

/-- Whatever message the procedure of a route gives is one of the route. -/
theorem response_defined (h : route.Contributes messages rpc) :
    rpc.response = textType ∨ ∃ message ∈ messages, message.name = rpc.response := by
  by_cases hmem : Identifier.response route.rpcName ∈ messages.map (·.name)
  · refine .inr ?_
    rw [h.response_iff.mpr hmem]
    exact List.mem_map.mp hmem
  · exact .inl (h.response_else hmem)

/-- The procedure of a route refers to each of its messages. -/
theorem message_referenced (h : route.Contributes messages rpc) {message : Message}
    (hmessage : message ∈ messages) : rpc.request = message.name ∨ rpc.response = message.name := by
  have hmem : message.name ∈ messages.map (·.name) := List.mem_map_of_mem hmessage
  rcases mem_messageNames (h.names ▸ hmem) with hname | hname
  · rw [hname] at hmem ⊢
    exact .inl (h.request_iff.mpr hmem)
  · rw [hname] at hmem ⊢
    exact .inr (h.response_iff.mpr hmem)

end Contributes

theorem exists_contributes {routes : List Route} {parts : List (List Message × Rpc)}
    (h : List.Forall₂ (fun route part => Contributes route part.1 part.2) routes parts)
    {part : List Message × Rpc} (hpart : part ∈ parts) :
    ∃ route ∈ routes, route.Contributes part.1 part.2 :=
  exists_related_of_mem h hpart

end Route

/-- How the text of a document is made up of the parts that routes contribute. -/
structure Blocks (routes : List Route) (service : String) (settings : Settings)
    (parts : List (List Message × Rpc)) (text : String) : Prop where
  /-- The messages come first and the service last, with blank lines between them. -/
  text_eq : text = "\n\n".intercalate
    ((parts.flatMap (·.1)).map (·.text settings.presence) ++
      [(Service.sole service (parts.map (·.2))).text])
  /-- Every route has a part, in order. -/
  contributes : List.Forall₂ (fun route part => Route.Contributes route part.1 part.2) routes parts
  /-- Every message that a procedure takes is there. -/
  request_defined : ∀ rpc ∈ parts.map (·.2), rpc.request = emptyType ∨
    ∃ message ∈ parts.flatMap (·.1), message.name = rpc.request
  /-- Every message that a procedure gives is there. -/
  response_defined : ∀ rpc ∈ parts.map (·.2), rpc.response = textType ∨
    ∃ message ∈ parts.flatMap (·.1), message.name = rpc.response
  /-- Every message is taken or given by a procedure. -/
  referenced : ∀ message ∈ parts.flatMap (·.1), ∃ rpc ∈ parts.map (·.2),
    rpc.request = message.name ∨ rpc.response = message.name

/-- The parts that routes contribute make up a text, in which nothing is missing and nothing is left
over. -/
theorem blocks_of_contributions {routes : List Route} {service : String} {settings : Settings}
    {parts : List (List Message × Rpc)}
    (h : List.Forall₂ (fun route part => (route.contribution service settings).result = .ok part)
      routes parts) :
    Blocks routes service settings parts
      ((Document.ofParts service parts).text settings.presence) := by
  have hcontributes : List.Forall₂ (fun route part => Route.Contributes route part.1 part.2)
      routes parts := h.imp fun _ _ => Route.contributes_of_contribution
  have hmem {part : List Message × Rpc} (hpart : part ∈ parts) {typeName : String} :
      (∃ message ∈ part.1, message.name = typeName) →
        ∃ message ∈ parts.flatMap (·.1), message.name = typeName := by
    rintro ⟨message, hmessage, hname⟩
    exact ⟨message, List.mem_flatMap.mpr ⟨part, hpart, hmessage⟩, hname⟩
  refine ⟨rfl, hcontributes, ?_, ?_, ?_⟩
  · intro rpc hrpc
    obtain ⟨part, hpart, rfl⟩ := List.mem_map.mp hrpc
    obtain ⟨route, _, hroute⟩ := Route.exists_contributes hcontributes hpart
    exact hroute.request_defined.imp_right (hmem hpart)
  · intro rpc hrpc
    obtain ⟨part, hpart, rfl⟩ := List.mem_map.mp hrpc
    obtain ⟨route, _, hroute⟩ := Route.exists_contributes hcontributes hpart
    exact hroute.response_defined.imp_right (hmem hpart)
  · intro message hmessage
    obtain ⟨part, hpart, hmessage⟩ := List.mem_flatMap.mp hmessage
    obtain ⟨route, _, hroute⟩ := Route.exists_contributes hcontributes hpart
    exact ⟨part.2, List.mem_map_of_mem hpart, hroute.message_referenced hmessage⟩

/-- The text of a document is made of the messages of each route, in order, and last the service
with one procedure for each route. No procedure refers to a message that is not there, and every
message is referred to. -/
theorem compileText_blocks {routes : List Route} {name : ServiceName} {settings : Settings}
    {text : String} (h : (compileText routes name settings).result = .ok text) :
    ∃ service parts, name.resolve = .ok service ∧
      (compile routes name settings).result = .ok (Document.ofParts service parts) ∧
      Blocks routes service settings parts text := by
  obtain ⟨document, hdocument, rfl⟩ := compileText_eq_ok_iff.mp h
  obtain ⟨service, hservice⟩ := resolve_of_compile_eq_ok hdocument
  obtain ⟨_, parts, hparts, rfl⟩ := (compile_eq_ok_iff hservice).mp hdocument
  exact ⟨service, parts, hservice, hdocument, blocks_of_contributions hparts⟩

/-- The blocks of a route with a parameter and of one without schemas. -/
theorem compileText_blocks_two :
    ∃ text, (compileText [.postUser, .getUser] ⟨some "users", none⟩ {}).result = .ok text ∧
      ∃ service parts, ServiceName.resolve ⟨some "users", none⟩ = .ok service ∧
        (compile [.postUser, .getUser] ⟨some "users", none⟩ {}).result =
          .ok (Document.ofParts service parts) ∧
        Blocks [.postUser, .getUser] service {} parts text := by
  obtain ⟨text, htext⟩ : ∃ text,
      (compileText [.postUser, .getUser] ⟨some "users", none⟩ {}).result = .ok text := ⟨_, rfl⟩
  exact ⟨text, htext, compileText_blocks htext⟩

end RouteIdl
