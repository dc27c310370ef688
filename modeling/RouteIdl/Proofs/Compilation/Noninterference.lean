import RouteIdl.Proofs.Compilation.Pass
import RouteIdl.Proofs.Params.Merging
import RouteIdl.Proofs.Schema.Outlined

/-!
# Noninterference of annotations

Of the schemas of its routes a document tells the outlines and nothing else. Routes that agree on
them, on what their remote procedures show, and on whether they declare schemas contribute the same
messages and procedures, whatever else is written in their schemas.
-/

namespace RouteIdl

open Idl Schema
open Traced (result_bind_eq_ok)

/-- Merged parameters have outlines. -/
def Params.Outlined (params : Params) (outlines : List (String × Bool × Outline)) : Prop :=
  PropertiesOutlined params.required.toList params.properties outlines

theorem Params.outlined_iff {params : Params} {outlines : List (String × Bool × Outline)} :
    params.Outlined outlines ↔ params.toObjectSchema.outline? = some outlines :=
  propertiesOutlined_iff (fun _ => Iff.rfl) fun property _ => RouteIdl.outlined_iff property.2

theorem Params.Outlined.eq_nil_iff {params : Params} {outlines : List (String × Bool × Outline)}
    (h : params.Outlined outlines) : outlines = [] ↔ params.properties = [] := by
  obtain ⟨properties, required⟩ := params
  cases h <;> simp

namespace Outline

/-- The items of the response message for a schema with this outline. -/
def responseItems : Outline → List Item
  | .any => []
  | .object false properties => propertyItems 0 properties
  | outline => outline.items "value" 0 false

/-- Without the shape of an object or of any value, a response holds its value in one field. -/
theorem responseItems_of_value {schema : Schema} {outline : Outline}
    (h : schema.outline? = some outline) (hany : schema ≠ .any)
    (hobject : ∀ properties names, schema ≠ .object properties names) :
    outline.responseItems = outline.items "value" 0 (outline.marks false) := by
  rw [marks_false]
  unfold responseItems
  split
  · exact absurd (eq_any_of_outline h) hany
  · obtain ⟨properties, names, heq, _⟩ := eq_object_of_outline h
    exact absurd heq (hobject properties names)
  · rfl

end Outline

namespace Route

/-- The schema of the response with the configured status, as written. -/
def responseNode? (route : Route) (settings : Settings) : Option Json :=
  route.schema.bind (·.responseFor? settings.responseStatus)

/-- Two routes agree on all that a document shows of them. -/
structure Agrees (settings : Settings) (route other : Route) : Prop where
  method : route.method = other.method
  url : route.url = other.url
  visibility : route.effectiveVisibility settings = other.effectiveVisibility settings
  schema : route.schema.isSome = other.schema.isSome
  /-- Their merged parameters have the same outlines. -/
  request : ∀ outlines,
    (Params.ofRoute route).Outlined outlines ↔ (Params.ofRoute other).Outlined outlines
  /-- They lack a response schema both, or both have one with the same outline. -/
  response : Option.Rel SameOutline (route.responseNode? settings) (other.responseNode? settings)

/-- Two routes declare the same up to what has no place in an outline: their request schemas declare
matching properties and require the same of them, whatever else stands in them, and so do their
response schemas. -/
structure SameDeclarations (settings : Settings) (route other : Route) : Prop where
  method : route.method = other.method
  url : route.url = other.url
  visibility : route.effectiveVisibility settings = other.effectiveVisibility settings
  schema : route.schema.isSome = other.schema.isSome
  properties : Json.Matching SameOutline route.declaredProperties other.declaredProperties
  required : ∀ name ∈ route.declaredProperties.map Prod.fst,
    (name ∈ route.declaredRequired ↔ name ∈ other.declaredRequired)
  response : Option.Rel SameOutline (route.responseNode? settings) (other.responseNode? settings)

variable {route other : Route} {settings : Settings} {service name : String}

theorem SameDeclarations.symm (h : route.SameDeclarations settings other) :
    other.SameDeclarations settings route where
  method := h.method.symm
  url := h.url.symm
  visibility := h.visibility.symm
  schema := h.schema.symm
  properties := h.properties.symm fun _ _ => SameOutline.symm
  required name hname := (h.required name (h.properties.keys_eq ▸ hname)).symm
  response := rel_symm (fun _ _ => SameOutline.symm) h.response

theorem SameDeclarations.outlined (h : route.SameDeclarations settings other)
    {outlines : List (String × Bool × Outline)}
    (houtlines : (Params.ofRoute route).Outlined outlines) :
    (Params.ofRoute other).Outlined outlines := by
  have hmerged : Json.Matching SameOutline (Params.ofRoute route).properties
      (Params.ofRoute other).properties := by
    rw [properties_ofRoute, properties_ofRoute]
    exact Json.Matching.putAll .nil h.properties
  refine PropertiesOutlined.congr hmerged (fun name hname => ?_) houtlines
  rw [properties_ofRoute, Json.mem_keys_putAll] at hname
  have hdeclared := hname.resolve_left (List.not_mem_nil)
  rw [← NameSet.mem_iff, ← NameSet.mem_iff, mem_required_ofRoute, mem_required_ofRoute]
  exact h.required name hdeclared

/-- Merging keeps what is declared the same. -/
theorem SameDeclarations.agrees (h : route.SameDeclarations settings other) :
    route.Agrees settings other where
  method := h.method
  url := h.url
  visibility := h.visibility
  schema := h.schema
  request _ := ⟨h.outlined, h.symm.outlined⟩
  response := h.response

theorem requestMessages_eq_ok_iff {params : Params} {messages : List Message} :
    (requestMessages name params).result = .ok messages ↔
      ∃ outlines, params.Outlined outlines ∧ messages =
        if outlines = [] then []
        else [⟨Identifier.request name, Outline.propertyItems 0 outlines⟩] := by
  by_cases hempty : params.properties = []
  · have hnone : PropertiesOutlined params.required.toList params.properties [] := by
      rw [hempty]
      exact .nil
    simp only [requestMessages, Params.isEmpty, hempty, List.isEmpty_nil, if_true,
      Traced.result_pure, Except.ok.injEq]
    constructor
    · rintro rfl
      exact ⟨[], hnone, rfl⟩
    · rintro ⟨outlines, houtlines, rfl⟩
      rw [if_pos (houtlines.eq_nil_iff.mpr hempty)]
  · have hparams : ¬ params.isEmpty := by simpa [Params.isEmpty] using hempty
    rw [requestMessages, if_neg hparams]
    constructor
    · intro h
      obtain ⟨message, hmessage, ⟨⟩⟩ := result_bind_eq_ok.mp h
      obtain ⟨outlines, houtlines, rfl⟩ := ObjectSchema.message_eq_ok_iff_outline.mp hmessage
      have hsome := Params.outlined_iff.mpr houtlines
      exact ⟨outlines, hsome, (if_neg (mt hsome.eq_nil_iff.mp hempty)).symm⟩
    · rintro ⟨outlines, houtlines, rfl⟩
      rw [if_neg (mt houtlines.eq_nil_iff.mp hempty)]
      have hmessage : (params.toObjectSchema.message (Identifier.request name)).result =
          .ok ⟨Identifier.request name, Outline.propertyItems 0 outlines⟩ :=
        ObjectSchema.message_eq_ok_iff_outline.mpr
          ⟨outlines, Params.outlined_iff.mp houtlines, rfl⟩
      exact result_bind_eq_ok.mpr ⟨_, hmessage, rfl⟩

theorem responseMessage_eq_ok_iff {node : Json} {message : Message} :
    (responseMessage name (some node)).result = .ok message ↔
      ∃ outline, Outlined node outline ∧
        message = ⟨Identifier.response name, outline.responseItems⟩ := by
  simp only [RouteIdl.outlined_iff, responseMessage, Option.map_some]
  split
  next heq => cases heq
  next hany =>
    rw [Option.some.inj hany]
    simp [outline?, Outline.responseItems, eq_comm]
  next properties names hobject =>
    rw [Option.some.inj hobject]
    simp only [ObjectSchema.message_eq_ok_iff_outline, outline?, Option.map_eq_some_iff]
    constructor
    · rintro ⟨outlines, houtlines, rfl⟩
      exact ⟨_, ⟨outlines, houtlines, rfl⟩, rfl⟩
    · rintro ⟨_, ⟨outlines, houtlines, rfl⟩, rfl⟩
      exact ⟨outlines, houtlines, rfl⟩
  next schema hany hobject hschema =>
    rw [Option.some.inj hschema]
    simp only [result_bind_eq_ok, items_eq_ok_iff_outline]
    constructor
    · rintro ⟨_, ⟨outline, houtline, rfl⟩, ⟨⟩⟩
      refine ⟨outline, houtline, ?_⟩
      rw [Outline.responseItems_of_value houtline hany hobject]
    · rintro ⟨outline, houtline, rfl⟩
      refine ⟨_, ⟨outline, houtline, rfl⟩, ?_⟩
      rw [Outline.responseItems_of_value houtline hany hobject]
      rfl

/-- Response schemas with the same outline give the same message. -/
theorem responseMessage_of_sameOutline {node other : Option Json}
    (h : Option.Rel SameOutline node other) {message : Message}
    (hmessage : (Route.responseMessage name node).result = .ok message) :
    (Route.responseMessage name other).result = .ok message := by
  cases h with
  | none => exact hmessage
  | some hsame =>
      obtain ⟨outline, houtline, rfl⟩ := responseMessage_eq_ok_iff.mp hmessage
      exact responseMessage_eq_ok_iff.mpr ⟨outline, (hsame outline).mp houtline, rfl⟩

theorem responseMessages_eq (route : Route) (name : String) (settings : Settings) :
    route.responseMessages name settings =
      if route.schema.isSome then do
        let message ← responseMessage name (route.responseNode? settings)
        pure [message]
      else pure [] := by
  unfold responseMessages responseNode?
  cases route.schema <;> rfl

namespace Agrees

theorem symm (h : route.Agrees settings other) : other.Agrees settings route where
  method := h.method.symm
  url := h.url.symm
  visibility := h.visibility.symm
  schema := h.schema.symm
  request outlines := (h.request outlines).symm
  response := rel_symm (fun _ _ => SameOutline.symm) h.response

theorem rpcName (h : route.Agrees settings other) : route.rpcName = other.rpcName := by
  rw [Route.rpcName, Route.rpcName, h.method, h.url]

theorem responseMessages (h : route.Agrees settings other) {messages : List Message}
    (hmessages : (route.responseMessages name settings).result = .ok messages) :
    (other.responseMessages name settings).result = .ok messages := by
  rw [responseMessages_eq, h.schema] at hmessages
  rw [responseMessages_eq]
  by_cases hdeclared : other.schema.isSome
  · rw [if_pos hdeclared] at hmessages ⊢
    obtain ⟨message, hmessage, ⟨⟩⟩ := result_bind_eq_ok.mp hmessages
    have hother := responseMessage_of_sameOutline h.response hmessage
    exact result_bind_eq_ok.mpr ⟨message, hother, rfl⟩
  · rw [if_neg hdeclared] at hmessages ⊢
    exact hmessages

/-- Routes that agree contribute the same messages and the same procedure. -/
theorem contribution (h : route.Agrees settings other) {part : List Message × Rpc}
    (hpart : (route.contribution service settings).result = .ok part) :
    (other.contribution service settings).result = .ok part := by
  obtain ⟨request, hrequest, hpart⟩ := result_bind_eq_ok.mp hpart
  obtain ⟨response, hresponse, ⟨⟩⟩ := result_bind_eq_ok.mp hpart
  obtain ⟨outlines, houtlines, hmessages⟩ := requestMessages_eq_ok_iff.mp hrequest
  have houtlines' := (h.request outlines).mp houtlines
  have hrequest' := requestMessages_eq_ok_iff.mpr ⟨outlines, houtlines', hmessages⟩
  have hempty : (Params.ofRoute route).isEmpty = (Params.ofRoute other).isEmpty := by
    rw [Bool.eq_iff_iff, Params.isEmpty, Params.isEmpty, List.isEmpty_iff, List.isEmpty_iff,
      ← houtlines.eq_nil_iff, ← houtlines'.eq_nil_iff]
  have hrpc : other.rpc other.rpcName (Params.ofRoute other) service settings =
      route.rpc route.rpcName (Params.ofRoute route) service settings := by
    simp only [Route.rpc, Route.hasRequestBody, h.rpcName, h.method, h.url, h.visibility, h.schema,
      hempty]
    rfl
  unfold Route.contribution
  rw [← h.rpcName] at hrpc ⊢
  refine result_bind_eq_ok.mpr ⟨request, hrequest', ?_⟩
  refine result_bind_eq_ok.mpr ⟨response, h.responseMessages hresponse, ?_⟩
  rw [hrpc]
  rfl

end Agrees

theorem rpcNames_of_agrees {routes others : List Route}
    (h : List.Forall₂ (Agrees settings) routes others) :
    routes.map rpcName = others.map rpcName := by
  induction h with
  | nil => rfl
  | cons hfirst _ ih => rw [List.map_cons, List.map_cons, hfirst.rpcName, ih]

theorem namesAccepted_nil_iff {routes : List Route} :
    NamesAccepted settings [] routes ↔
      (settings.duplicates = .reject → (routes.map rpcName).Nodup) := by
  simp [NamesAccepted]

end Route

section Compile

variable {routes others : List Route} {settings : Settings}

theorem compile_of_agrees (h : List.Forall₂ (Route.Agrees settings) routes others)
    {name : ServiceName} {document : Document}
    (hdocument : (compile routes name settings).result = .ok document) :
    (compile others name settings).result = .ok document := by
  obtain ⟨service, hservice⟩ := resolve_of_compile_eq_ok hdocument
  obtain ⟨hnames, parts, hparts, rfl⟩ := (compile_eq_ok_iff hservice).mp hdocument
  rw [Route.namesAccepted_nil_iff, Route.rpcNames_of_agrees h] at hnames
  refine (compile_eq_ok_iff hservice).mpr
    ⟨Route.namesAccepted_nil_iff.mpr hnames, parts, ?_, rfl⟩
  clear hdocument hnames
  induction h generalizing parts with
  | nil => exact hparts
  | cons hfirst _ ih =>
      cases hparts with
      | cons hpart hrest => exact .cons (hfirst.contribution hpart) (ih _ hrest)

end Compile

/-- Lists of routes that agree, route by route, are compiled to the same text, if one of them is
compiled to any. Routes agree if they differ only in keywords without meaning, in the order of
keywords, in required names without a property, and in responses with other statuses. -/
theorem compileText_noninterference (settings : Settings) :
    (∀ routes others, List.Forall₂ (Route.Agrees settings) routes others →
      ∀ name text, (compileText routes name settings).result = .ok text ↔
        (compileText others name settings).result = .ok text) ∧
    (∀ route other, Route.SameDeclarations settings route other → route.Agrees settings other) ∧
    ∀ members others, SameKeywords members others →
      SameOutline (.object members) (.object others) := by
  refine ⟨fun routes others h name text => ?_, fun _ _ h => h.agrees, fun _ _ h => h.sameOutline⟩
  have hsymm : List.Forall₂ (Route.Agrees settings) others routes :=
    (h.imp fun _ _ => Route.Agrees.symm).flip
  simp only [compileText_eq_ok_iff]
  constructor
  · rintro ⟨document, hdocument, rfl⟩
    exact ⟨document, compile_of_agrees h hdocument, rfl⟩
  · rintro ⟨document, hdocument, rfl⟩
    exact ⟨document, compile_of_agrees hsymm hdocument, rfl⟩

namespace Route

/-- A route with two parameters and a number as response. Annotations go to one parameter, to the
request and to the response; the names, besides the first parameter, are those required. -/
def order (annotations : List (String × Json)) (names : List Json)
    (responses : List (String × Json)) : Route where
  method := "POST"
  url := "/orders"
  schema := some {
    body := some (.object (annotations ++ [
      ("required", .array (names ++ [.string "item"])),
      ("properties", .object [
        ("item", .object (annotations ++ [("type", .string "string")])),
        ("note", .object [])])])),
    response := some (.object (responses ++ [
      ("200", .object (("type", .string "number") :: annotations))])) }

end Route

/-- A title, a required name without a property, a null among the required names, and a response
with another status make no difference to the text. -/
theorem compileText_noninterference_order :
    ∃ text, (compileText [.order [] [] []] ⟨some "shop", none⟩ {}).result = .ok text ∧
      (compileText [.order [("title", .string "any")] [.string "gone", .null]
        [("404", .object [("type", .string "null")])]] ⟨some "shop", none⟩ {}).result =
          .ok text := by
  obtain ⟨hagrees, hdeclared, hkeywords⟩ := compileText_noninterference {}
  have hitem : SameKeywords [("type", .string "string")]
      [("title", .string "any"), ("type", .string "string")] :=
    ⟨by simp, rfl, .nil, nofun, .none, .none⟩
  have hresponse : SameKeywords [("type", .string "number")]
      [("type", .string "number"), ("title", .string "any")] :=
    ⟨by simp, rfl, .nil, nofun, .none, .none⟩
  have hsame : Route.SameDeclarations {} (.order [] [] [])
      (.order [("title", .string "any")] [.string "gone", .null]
        [("404", .object [("type", .string "null")])]) :=
    { method := rfl
      url := rfl
      visibility := rfl
      schema := rfl
      properties := .cons ⟨rfl, hkeywords _ _ hitem⟩ (.cons ⟨rfl, fun _ => Iff.rfl⟩ .nil)
      required := by decide
      response := .some (hkeywords _ _ hresponse) }
  refine ⟨_, rfl, ?_⟩
  exact (hagrees _ _ (.cons (hdeclared _ _ hsame) .nil) _ _).mp rfl

end RouteIdl
