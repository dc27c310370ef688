import RouteIdl.Proofs.Compilation.Bodies
import RouteIdl.Proofs.Schema.Siblings

/-!
# Numbers of fields

The fields of a body are numbered from zero in the order in which they stand there, whatever
messages stand between them. There is one for each property or variant that the body comes from.
-/

namespace RouteIdl

open Idl Schema

namespace Origin

/-- How many fields stand directly in a body. -/
def size : Origin → Nat
  | object shape => shape.properties.length
  | choices variants => variants.length
  | wrapper => 0
  | listing => 1
  | value _ => 1
  | nothing => 0

/-- The fields of a body are numbered from zero, and those of an object have the names of its
properties in order. -/
structure Numbers (origin : Origin) (body : Body) : Prop where
  numbers : body.fields.map (·.number) = List.range origin.size
  names : ∀ shape, origin = .object shape →
    body.fields.map (·.name) = shape.properties.map Prod.fst

/-- The translation of each kind of origin numbers its fields. -/
theorem Gives.numbers {origin : Origin} {body : Body} (h : origin.Gives body) :
    origin.Numbers body := by
  cases h with
  | object hitems =>
      obtain ⟨hnumbers, hnames⟩ := propertyItems_fields hitems
      refine ⟨?_, ?_⟩
      · rw [size, List.range_eq_range']
        exact hnumbers
      · rintro _ ⟨⟩
        exact hnames
  | choices hitems =>
      refine ⟨?_, nofun⟩
      rw [size, List.range_eq_range']
      exact (choiceItems_fields hitems).1
  | wrapper name choices listing => exact ⟨rfl, nofun⟩
  | listing name => exact ⟨rfl, nofun⟩
  | value hitems =>
      obtain ⟨field, hfields, _, hnumber⟩ := (items_eq_ok_iff.mp hitems).fields
      refine ⟨?_, nofun⟩
      rw [Body.fields, Body.items, hfields, List.map_singleton, hnumber]
      rfl
  | nothing => exact ⟨rfl, nofun⟩

end Origin

/-- In every body of a document, at every depth, the fields are numbered from zero without gap. The
bodies are those that the routes call for, in order: an object gives the fields of a message, one
for each property and with its name, and a union those of a choice, one for each variant. -/
theorem compileText_numbered {routes : List Route} {name : ServiceName} {settings : Settings}
    {text : String} (h : (compileText routes name settings).result = .ok text) :
    ∃ document, (compile routes name settings).result = .ok document ∧
      text = document.text settings.presence ∧
      (∀ body ∈ document.bodies,
        body.fields.map (·.number) = List.range body.fields.length) ∧
      List.Forall₂ (fun origin body => origin.Gives body ∧ origin.Numbers body)
        (routes.flatMap (Route.origins settings)) document.bodies := by
  obtain ⟨document, hdocument, htext⟩ := compileText_eq_ok_iff.mp h
  have hbodies : List.Forall₂ (fun origin body => origin.Gives body ∧ origin.Numbers body)
      (routes.flatMap (Route.origins settings)) document.bodies :=
    (compile_bodies hdocument).imp fun _ _ hgives => ⟨hgives, hgives.numbers⟩
  refine ⟨document, hdocument, htext, fun body hbody => ?_, hbodies⟩
  obtain ⟨origin, _, _, hnumbers⟩ := exists_related_of_mem hbodies hbody
  have hlength : body.fields.length = origin.size := by
    rw [← List.length_map (·.number), hnumbers.numbers, List.length_range]
  rw [hlength, hnumbers.numbers]

namespace Route

/-- A route that takes pages of ranges or of texts and gives a list of numbers. -/
def search : Route where
  method := "POST"
  url := "/search"
  schema := some {
    body := some (.object [("properties", .object [
      ("page", .object [("type", .string "number")]),
      ("filter", .object [("oneOf", .array [
        .object [("type", .string "object"), ("properties", .object [
          ("from", .object [("type", .string "number")]),
          ("to", .object [("type", .string "number")])])],
        .object [("oneOf", .array [.object [("type", .string "string")], .object []])]])])])]),
    response := some (.object [
      ("200", .object [("type", .string "array"),
        ("items", .object [("type", .string "number")])])]) }

end Route

/-- The message for the parameters, the wrapper of the outer union with its choices, the range, the
wrapper of the inner union with its choices, the two lists of wrapped values, and the response. -/
example :
    ((compile [.search] ⟨some "shop", none⟩ {}).result.map fun document =>
      document.bodies.map fun body => body.fields.map fun field => (field.name, field.number)) =
      .ok [[("page", 0), ("filter", 1)], [], [("object", 0), ("variant1", 1)],
        [("from", 0), ("to", 1)], [], [("string", 0), ("variant1", 1)], [("variant1", 0)],
        [("filter", 0)], [("value", 0)]] := by
  rfl

/-- Fields are numbered in the messages of a route with unions in one another. -/
theorem compileText_numbered_search :
    ∃ text, (compileText [.search] ⟨some "shop", none⟩ {}).result = .ok text ∧
      ∃ document, (compile [.search] ⟨some "shop", none⟩ {}).result = .ok document ∧
        text = document.text .label ∧
        (∀ body ∈ document.bodies,
          body.fields.map (·.number) = List.range body.fields.length) ∧
        List.Forall₂ (fun origin body => origin.Gives body ∧ origin.Numbers body)
          ([Route.search].flatMap (Route.origins {})) document.bodies := by
  obtain ⟨text, htext⟩ : ∃ text,
      (compileText [.search] ⟨some "shop", none⟩ {}).result = .ok text := ⟨_, rfl⟩
  exact ⟨text, htext, compileText_numbered htext⟩

end RouteIdl
