import RouteIdl.Proofs.Compilation.Noninterference
import RouteIdl.Proofs.Idl.ReadBack
import RouteIdl.Proofs.Schema.Distinctness
import RouteIdl.Proofs.Schema.Evolution

/-!
# The two sides of a route

The schema of a request is merged with others before it is classified, and that of a response is
classified at once. A schema that is all that a route takes and what it gives is compiled to the
same body on both sides, or refused on both.
-/

namespace RouteIdl

open Idl Schema
open Traced (result_bind_eq_ok result_bind_eq_error)

/-- The text of a message with items is its header and what the items alone determine. -/
theorem Idl.Message.text_eq_header (style : PresenceStyle) (name : String) {items : List Item}
    (hitems : items ≠ []) :
    Message.text style ⟨name, items⟩ =
      "\n".intercalate
        (("message " ++ name ++ " \x7b") :: (itemLines style 1 items ++ ["\x7d"])) := by
  have hlines : itemLines style 1 items ≠ [] := by
    rw [itemLines_eq_map_rows, Ne, List.map_eq_nil_iff, itemRows_eq_nil_iff]
    exact hitems
  have hindent : indent 0 = "" := by decide
  simp [text, lines, toItem, Item.lines, block, hlines, hindent]

namespace Route

/-- The object that a schema describes is all that a route takes, in whichever place, and what it
gives with the configured status. -/
structure Echoes (route : Route) (settings : Settings) (members : List (String × Json)) :
    Prop where
  request : route.requestSlots = [.object members]
  response : route.responseNode? settings = some (.object members)
  type : typeKeyword? members = some "object"
  properties : propertyNodes members ≠ []
  keys : (Json.object members).UniqueKeys

/-- What the request of a route is compiled to, if it takes anything. -/
def requestSide (route : Route) : Traced Message :=
  (Params.ofRoute route).toObjectSchema.message (Identifier.request route.rpcName)

/-- What the response of a route is compiled to, if it declares schemas. -/
def responseSide (route : Route) (settings : Settings) : Traced Message :=
  responseMessage route.rpcName (route.responseNode? settings)

/-- Both sides of a route are refused for the same field, and with them every document that begins
with the route. -/
structure SidesRefused (route : Route) (settings : Settings) (field : String) (node : Json) :
    Prop where
  request : route.requestSide.result = .error (.invalidProperty field node)
  response : (route.responseSide settings).result = .error (.invalidProperty field node)
  document : ∀ rest name service, name.resolve = .ok service →
    (compileText (route :: rest) name settings).result = .error (.invalidProperty field node)

/-- Both sides of a route have the same items, and the first two blocks of every document that
begins with the route differ in their first lines only. The route alone has a document. -/
structure SidesCompiled (route : Route) (settings : Settings) (items : List Item) : Prop where
  request : route.requestSide.result = .ok ⟨Identifier.request route.rpcName, items⟩
  response : (route.responseSide settings).result =
    .ok ⟨Identifier.response route.rpcName, items⟩
  single : ∀ name service, name.resolve = .ok service →
    ∃ text, (compileText [route] name settings).result = .ok text
  blocks : ∀ rest name text, (compileText (route :: rest) name settings).result = .ok text →
    ∃ lines blocks, text = "\n\n".intercalate
      ("\n".intercalate (("message " ++ Identifier.request route.rpcName ++ " \x7b") :: lines) ::
        "\n".intercalate (("message " ++ Identifier.response route.rpcName ++ " \x7b") :: lines) ::
          blocks)

namespace Echoes

variable {route : Route} {settings : Settings} {members : List (String × Json)}

theorem properties_ofRoute (h : route.Echoes settings members) :
    (Params.ofRoute route).properties = propertyNodes members := by
  have hdeclared : route.declaredProperties = propertyNodes members := by
    rw [declaredProperties, h.request, List.flatMap_singleton]
    rfl
  rw [Route.properties_ofRoute, hdeclared]
  exact Json.putAll_nil_of_nodup (uniqueKeys_propertyNodes h.keys.of_object.2).1

/-- Merging a single schema and classifying what comes of it is classifying the schema. -/
theorem toObjectSchema_ofRoute (h : route.Echoes settings members) :
    (Params.ofRoute route).toObjectSchema = ObjectSchema.ofMembers members := by
  have hparams : Params.ofRoute route = route.requestSlots.foldl Params.absorb {} := rfl
  have hrequired : (Params.ofRoute route).required =
      NameSet.ofList (requiredNames (members.lookup "required")) := by
    rw [hparams, h.request]
    rfl
  rw [Params.toObjectSchema, h.properties_ofRoute, hrequired, ← propertiesKeyword_eq,
    ObjectSchema.ofMembers]

theorem requestSide_eq (h : route.Echoes settings members) :
    route.requestSide =
      (ObjectSchema.ofMembers members).message (Identifier.request route.rpcName) :=
  congrArg (ObjectSchema.message _) h.toObjectSchema_ofRoute

theorem responseSide_eq (h : route.Echoes settings members) :
    route.responseSide settings =
      (ObjectSchema.ofMembers members).message (Identifier.response route.rpcName) := by
  rw [responseSide, h.response, responseMessage, Option.map_some, ofJson_of_type_object h.type,
    ← propertiesKeyword_eq, ObjectSchema.ofMembers]

theorem requestMessages_eq (h : route.Echoes settings members) :
    requestMessages route.rpcName (Params.ofRoute route) =
      route.requestSide >>= fun message => pure [message] := by
  have hnonempty : ¬ (Params.ofRoute route).isEmpty := by
    simpa [Params.isEmpty, h.properties_ofRoute] using h.properties
  rw [requestMessages, if_neg hnonempty]
  rfl

theorem responseMessages_eq (h : route.Echoes settings members) :
    route.responseMessages route.rpcName settings =
      route.responseSide settings >>= fun message => pure [message] := by
  have hschema : route.schema.isSome := by
    obtain ⟨schema, hschema, -⟩ := Option.bind_eq_some_iff.mp h.response
    rw [hschema]
    rfl
  rw [Route.responseMessages_eq, if_pos hschema]
  rfl

/-- A route whose request is refused is refused for it, wherever it stands. -/
theorem contribution_eq_error (h : route.Echoes settings members) {error : CompileError}
    (hrequest : route.requestSide.result = .error error) (service : String) :
    (route.contribution service settings).result = .error error := by
  unfold contribution
  rw [h.requestMessages_eq]
  exact result_bind_eq_error.mpr (.inl (result_bind_eq_error.mpr (.inl hrequest)))

theorem contribution_eq_ok (h : route.Echoes settings members) {request response : Message}
    (hrequest : route.requestSide.result = .ok request)
    (hresponse : (route.responseSide settings).result = .ok response) (service : String) :
    (route.contribution service settings).result = .ok ([request, response],
      route.rpc route.rpcName (Params.ofRoute route) service settings) := by
  unfold contribution
  rw [h.requestMessages_eq, h.responseMessages_eq]
  apply result_bind_eq_ok.mpr
  refine ⟨[request], result_bind_eq_ok.mpr ⟨request, hrequest, rfl⟩, ?_⟩
  apply result_bind_eq_ok.mpr
  exact ⟨[response], result_bind_eq_ok.mpr ⟨response, hresponse, rfl⟩, rfl⟩

/-- The first route of a document has no predecessor that could have its name, so that what refuses
it refuses the document. -/
theorem compileText_eq_error (h : route.Echoes settings members) {error : CompileError}
    (hrequest : route.requestSide.result = .error error) (rest : List Route) {name : ServiceName}
    {service : String} (hservice : name.resolve = .ok service) :
    (compileText (route :: rest) name settings).result = .error error := by
  have hcontribution := h.contribution_eq_error hrequest service
  obtain ⟨culprit, hfirst, rfl⟩ :=
    (route.contribution_follows service settings).result_error_iff.mp hcontribution
  have hnothing : ∃ document, (RouteIdl.compile [] name settings).result = .ok document :=
    ⟨_, (RouteIdl.compile_eq_ok_iff hservice).mpr ⟨by simp [NamesAccepted], [], .nil, rfl⟩⟩
  rw [compileText_eq_error_iff]
  apply (RouteIdl.compile_eq_error_iff hservice).mpr
  exact ⟨[], route, rest, rfl, hnothing, .invalid (fun _ => List.not_mem_nil) hfirst⟩

theorem exists_compileText_single (h : route.Echoes settings members) {request response : Message}
    (hrequest : route.requestSide.result = .ok request)
    (hresponse : (route.responseSide settings).result = .ok response) {name : ServiceName}
    {service : String} (hservice : name.resolve = .ok service) :
    ∃ text, (compileText [route] name settings).result = .ok text := by
  have hpart := h.contribution_eq_ok hrequest hresponse service
  have hnames : NamesAccepted settings [] [route] := by simp [NamesAccepted]
  have hdocument := (RouteIdl.compile_eq_ok_iff hservice).mpr
    ⟨hnames, _, .cons hpart .nil, rfl⟩
  exact ⟨_, compileText_eq_ok_iff.mpr ⟨_, hdocument, rfl⟩⟩

/-- The messages of the first route are the first blocks of a document. -/
theorem text_of_compileText (h : route.Echoes settings members) {request response : Message}
    (hrequest : route.requestSide.result = .ok request)
    (hresponse : (route.responseSide settings).result = .ok response) {rest : List Route}
    {name : ServiceName} {text : String}
    (htext : (compileText (route :: rest) name settings).result = .ok text) :
    ∃ blocks, text = "\n\n".intercalate
      (request.text settings.presence :: response.text settings.presence :: blocks) := by
  obtain ⟨document, hdocument, rfl⟩ := compileText_eq_ok_iff.mp htext
  obtain ⟨service, hservice⟩ := resolve_of_compile_eq_ok hdocument
  obtain ⟨-, parts, hparts, rfl⟩ := (RouteIdl.compile_eq_ok_iff hservice).mp hdocument
  cases hparts with
  | @cons _ part _ parts hpart _ =>
      rw [h.contribution_eq_ok hrequest hresponse service] at hpart
      cases hpart
      exact ⟨_, rfl⟩

/-- Every property has a field, and there is one. -/
theorem ne_nil_of_propertyItems (h : route.Echoes settings members) {items : List Item}
    (hitems : (propertyItems (ObjectSchema.ofMembers members).required 0
      (ObjectSchema.ofMembers members).properties).result = .ok items) : items ≠ [] := by
  rintro rfl
  have hnames := (propertyItems_fields hitems).2
  rw [ObjectSchema.ofMembers, propertiesKeyword_eq, List.map_map] at hnames
  exact h.properties (List.map_eq_nil_iff.mp hnames.symm)

/-- The name of a message has no part in whether its properties are refused. -/
theorem sidesRefused (h : route.Echoes settings members) {field : String} {node : Json}
    (hrefused : (propertyItems (ObjectSchema.ofMembers members).required 0
      (ObjectSchema.ofMembers members).properties).result =
        .error (.invalidProperty field node)) :
    route.SidesRefused settings field node := by
  have hmessage (name : String) : ((ObjectSchema.ofMembers members).message name).result =
      .error (.invalidProperty field node) := result_bind_eq_error.mpr (.inl hrefused)
  have hrequest : route.requestSide.result = .error (.invalidProperty field node) := by
    rw [h.requestSide_eq, hmessage]
  refine ⟨hrequest, ?_, fun rest name service => h.compileText_eq_error hrequest rest⟩
  rw [h.responseSide_eq, hmessage]

theorem sidesCompiled (h : route.Echoes settings members) {items : List Item}
    (hitems : (propertyItems (ObjectSchema.ofMembers members).required 0
      (ObjectSchema.ofMembers members).properties).result = .ok items) :
    route.SidesCompiled settings items := by
  have hmessage (name : String) : ((ObjectSchema.ofMembers members).message name).result =
      .ok ⟨name, items⟩ := ObjectSchema.message_eq_ok_iff.mpr ⟨items, hitems, rfl⟩
  have hrequest : route.requestSide.result =
      .ok ⟨Identifier.request route.rpcName, items⟩ := by
    rw [h.requestSide_eq, hmessage]
  have hresponse : (route.responseSide settings).result =
      .ok ⟨Identifier.response route.rpcName, items⟩ := by
    rw [h.responseSide_eq, hmessage]
  refine ⟨hrequest, hresponse,
    fun name service => h.exists_compileText_single hrequest hresponse, ?_⟩
  intro rest name text htext
  obtain ⟨blocks, rfl⟩ := h.text_of_compileText hrequest hresponse htext
  refine ⟨itemLines settings.presence 1 items ++ ["\x7d"], blocks, ?_⟩
  have hne := h.ne_nil_of_propertyItems hitems
  rw [Message.text_eq_header _ _ hne, Message.text_eq_header _ _ hne]

end Echoes

/-- A schema that is all that a route takes and what it gives is refused on both sides, for the same
field and with the same schema in the error, or becomes two messages that differ in their names
only. -/
theorem sides_agree {route : Route} {settings : Settings} {members : List (String × Json)}
    (h : route.Echoes settings members) :
    (∃ field node, route.SidesRefused settings field node) ∨
      ∃ items, route.SidesCompiled settings items := by
  cases hbody : (propertyItems (ObjectSchema.ofMembers members).required 0
      (ObjectSchema.ofMembers members).properties).result with
  | error error =>
      obtain ⟨field, node, rfl⟩ := refusesProperties_propertyItems
        (fun property _ => refusesProperties_items property.2) 0 error hbody
      exact .inl ⟨field, node, h.sidesRefused hbody⟩
  | ok items => exact .inr ⟨items, h.sidesCompiled hbody⟩

/-- An object with a number that it requires and a state of a given schema. -/
def stateful (state : Json) : List (String × Json) :=
  [("type", .string "object"),
    ("properties", .object [("id", .object [("type", .string "number")]), ("state", state)]),
    ("required", .array [.string "id", .integer 7])]

/-- A route that takes such an object in its query string and gives one. -/
def echo (state : Json) : Route where
  method := "GET"
  url := "/echo"
  schema := some {
    querystring := some (.object (stateful state)),
    response := some (.object [("200", .object (stateful state))]) }

theorem echoes_stateful {state : Json} (h : state.UniqueKeys) :
    (echo state).Echoes {} (stateful state) where
  request := rfl
  response := rfl
  type := rfl
  properties := List.cons_ne_nil _ _
  keys := by
    have hscalar (text : String) : (Json.string text).UniqueKeys := .scalar rfl rfl
    have hnumber : (Json.object [("type", .string "number")]).UniqueKeys :=
      .object (by decide) (List.forall_mem_singleton.mpr (hscalar _))
    refine .object (by simp [stateful]) ?_
    simp only [stateful, List.forall_mem_cons]
    refine ⟨hscalar _, .object (by simp) ?_, .array ?_, List.forall_mem_nil _⟩
    · simp only [List.forall_mem_cons]
      exact ⟨hnumber, h, List.forall_mem_nil _⟩
    · simp only [List.forall_mem_cons]
      exact ⟨hscalar _, .scalar rfl rfl, List.forall_mem_nil _⟩

/-- A state that is a text is compiled on both sides, and one that is a truth value is refused on
both. -/
theorem sides_agree_stateful :
    (echo (.object [("type", .string "string")])).Echoes {}
        (stateful (.object [("type", .string "string")])) ∧
      (echo (.object [("type", .string "boolean")])).Echoes {}
        (stateful (.object [("type", .string "boolean")])) ∧
      (∃ items, (echo (.object [("type", .string "string")])).SidesCompiled {} items) ∧
      (echo (.object [("type", .string "boolean")])).SidesRefused {} "state"
        (.object [("type", .string "boolean")]) := by
  have hkeys (kind : String) : (Json.object [("type", .string kind)]).UniqueKeys :=
    .object (by simp) (List.forall_mem_singleton.mpr (.scalar rfl rfl))
  have htext := echoes_stateful (hkeys "string")
  have htruth := echoes_stateful (hkeys "boolean")
  refine ⟨htext, htruth, ?_, ?_⟩
  · rcases sides_agree htext with ⟨field, node, hrefused⟩ | hcompiled
    · cases hrefused.request
    · exact hcompiled
  · rcases sides_agree htruth with ⟨field, node, hrefused⟩ | ⟨items, hcompiled⟩
    · cases hrefused.request
      exact hrefused
    · cases hcompiled.request

end Route

end RouteIdl
