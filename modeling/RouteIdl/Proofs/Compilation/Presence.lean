import RouteIdl.Proofs.Compilation.Bodies
import RouteIdl.Proofs.Schema.Presence

/-!
# Presence of fields in documents

At every depth, a field of a document is required exactly if it belongs to a property that the
object around it requires and whose schema is not the one without keywords. The required names of
an object say nothing about the fields of another one.
-/

namespace RouteIdl

open Idl Schema

namespace Origin

/-- Which fields that stand directly in a body are required. -/
structure Marks (origin : Origin) (body : Body) : Prop where
  /-- In an object, the fields of the properties that it requires, unless these accept any value. -/
  properties : ∀ shape, origin = .object shape →
    List.Forall₂ (fun property field => field.name = property.1 ∧
        (field.required = true ↔ property.1 ∈ shape.required ∧ property.2 ≠ .any))
      shape.properties body.fields
  /-- Elsewhere none. -/
  others : (∀ shape, origin ≠ .object shape) → ∀ field ∈ body.fields, field.required = false
  /-- Of the fields with the type of any value, only those of unions that are named so. -/
  named : ∀ field ∈ body.fields, field.required = true → field.type = anyType →
    field.name = anyType ∧ ∃ shape variants, origin = .object shape ∧
      (field.name, .union variants) ∈ shape.properties

theorem Marks.of_not_required {origin : Origin} {body : Body}
    (hobject : ∀ shape, origin ≠ .object shape)
    (h : ∀ field ∈ body.fields, field.required = false) : origin.Marks body := by
  refine ⟨fun shape heq => absurd heq (hobject shape), fun _ => h, ?_⟩
  intro field hfield hrequired
  rw [h field hfield] at hrequired
  cases hrequired

theorem Gives.marks {origin : Origin} {body : Body} (h : origin.Gives body) :
    origin.Marks body := by
  cases h with
  | @object shape items hitems =>
      have hfields := propertyItems_required hitems
      refine ⟨?_, fun hother => absurd rfl (hother shape), ?_⟩
      · rintro _ ⟨⟩
        exact hfields.imp fun _ _ hfield => ⟨hfield.1, hfield.2.1⟩
      · intro field hfield hrequired htype
        obtain ⟨⟨name, schema⟩, hmem, hname, _, hunion⟩ := exists_related_of_mem hfields hfield
        obtain ⟨rfl, variants, rfl⟩ := hunion hrequired htype
        exact ⟨hname, shape, variants, rfl, hname ▸ hmem⟩
  | choices hitems =>
      refine .of_not_required nofun ((choiceItems_yieldsAll hitems).not_required ?_)
      exact List.forall_mem_map.mpr fun _ _ => rfl
  | wrapper name choices listing => exact .of_not_required nofun (List.forall_mem_nil _)
  | listing name => exact .of_not_required nofun (List.forall_mem_singleton.mpr rfl)
  | @value schema items hitems =>
      refine .of_not_required nofun fun field hfield => ?_
      simpa using (items_eq_ok_iff.mp hitems).required_iff hfield
  | nothing => exact .of_not_required nofun (List.forall_mem_nil _)

end Origin

/-- In every body of a document, at every depth, the required fields are those of the properties
that the object of the body requires, schemas without keywords apart. No choice, no list of wrapped
values and no response value is required, and no field of any value, unless it belongs to a union
that is named like that type. -/
theorem compileText_presence {routes : List Route} {name : ServiceName} {settings : Settings}
    {text : String} (h : (compileText routes name settings).result = .ok text) :
    ∃ document, (compile routes name settings).result = .ok document ∧
      text = document.text settings.presence ∧
      List.Forall₂ (fun origin body => origin.Gives body ∧ origin.Marks body)
        (routes.flatMap (Route.origins settings)) document.bodies ∧
      ∀ node, Schema.ofJson node = .any ↔ node = .object [] := by
  obtain ⟨document, hdocument, htext⟩ := compileText_eq_ok_iff.mp h
  refine ⟨document, hdocument, htext, ?_, fun _ => ofJson_eq_any_iff⟩
  exact (compile_bodies hdocument).imp fun _ _ hgives => ⟨hgives, hgives.marks⟩

namespace Route

/-- A schema of an object with a text and anything as properties, and the names it requires. -/
def noteSchema (required : List String) : Json :=
  .object [("type", .string "object"),
    ("properties", .object [("text", .object [("type", .string "string")]), ("extra", .object [])]),
    ("required", .array (required.map .string))]

/-- A route that takes a note with comments and gives a note or a text, which require different
properties of the same names. -/
def annotate : Route where
  method := "POST"
  url := "/notes"
  schema := some {
    body := some (.object [
      ("properties", .object [("text", noteSchema ["extra"]),
        ("comments", .object [("type", .string "array"), ("items", noteSchema ["text"])]),
        ("extra", .object [])]),
      ("required", .array [.string "comments", .string "extra"])]),
    response := some (.object [("200", .object [
      ("oneOf", .array [noteSchema ["text", "extra"], .object [("type", .string "string")]]),
      ("required", .array [.string "value"])])]) }

end Route

/-- Of the request the list of comments is required, and of each comment and of the note in the
response the text. -/
example :
    ((compile [.annotate] ⟨some "notes", none⟩ {}).result.map fun document =>
      document.bodies.map fun body => body.fields.map fun field => (field.name, field.required)) =
      .ok [[("text", false), ("comments", true), ("extra", false)],
        [("text", false), ("extra", false)], [("text", true), ("extra", false)],
        [("value", false)], [], [("object", false), ("string", false)],
        [("text", true), ("extra", false)], [("value", false)]] := by
  rfl

/-- Presence is exact in the messages of a route with objects in lists and unions. -/
theorem compileText_presence_annotate :
    ∃ text, (compileText [.annotate] ⟨some "notes", none⟩ {}).result = .ok text ∧
      ∃ document, (compile [.annotate] ⟨some "notes", none⟩ {}).result = .ok document ∧
        text = document.text .label ∧
        List.Forall₂ (fun origin body => origin.Gives body ∧ origin.Marks body)
          ([Route.annotate].flatMap (Route.origins {})) document.bodies ∧
        ∀ node, Schema.ofJson node = .any ↔ node = .object [] := by
  obtain ⟨text, htext⟩ : ∃ text,
      (compileText [.annotate] ⟨some "notes", none⟩ {}).result = .ok text := ⟨_, rfl⟩
  exact ⟨text, htext, compileText_presence htext⟩

/-- A route with a required parameter that is a union and named like the type of any value. -/
def Route.anyNamed : Route where
  method := "POST"
  url := "/values"
  schema := some {
    body := some (.object [
      ("properties", .object [(anyType, .object [("oneOf", .array [
        .object [("type", .string "string")]])])]),
      ("required", .array [.string anyType])]) }

/-- A field with the type of any value is required if a required union is named like that type. -/
theorem required_anyNamed :
    ∃ document, (compile [.anyNamed] ⟨some "values", none⟩ {}).result = .ok document ∧
      ∃ body ∈ document.bodies, ∃ field ∈ body.fields,
        field.type = "google.protobuf.Any" ∧ field.required = true := by
  refine ⟨_, rfl, _, List.mem_cons_self, ⟨anyType, 0, anyType, false, true⟩, ?_, rfl, rfl⟩
  exact List.mem_singleton.mpr rfl

end RouteIdl
