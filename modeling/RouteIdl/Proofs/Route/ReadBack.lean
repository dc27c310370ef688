import RouteIdl.Proofs.Json.ReadBack
import RouteIdl.Proofs.Route.Fits

/-!
# Reading back routes

A route that was read is read back from its compact text, in whichever form and with whatever else
it was written at first.
-/

namespace RouteIdl

open Json

/-- A schema that may be absent is read back from its value, which is null if it is absent. -/
theorem slot_reads {slot : Option Json} {room : Nat}
    (h : ∀ json, slot = some json → json ≠ .null ∧ json.Fits IsExact room) :
    Reader.Reads (optional (value room)) (slot.getD .null).chars slot := by
  cases slot with
  | none => exact optional_reads_null _
  | some json =>
      obtain ⟨hne, hfits⟩ := h json rfl
      exact optional_reads (value_reads hfits) (hfits.opens_of_ne_null hne)

namespace RouteSchema

theorem collects {schema : RouteSchema} {room : Nat} (h : schema.Fits IsExact room) :
    Collects (putEntry (entries room)) ⟨{}, []⟩
      [("body", schema.body.getD .null), ("params", schema.params.getD .null),
        ("querystring", schema.querystring.getD .null), ("response", schema.response.getD .null)]
      ⟨schema, ["response", "querystring", "params", "body"]⟩ := by
  refine .cons (putEntry_reads rfl (by decide) (Entry.of_reads (slot_reads h.body) _)) ?_
  refine .cons (putEntry_reads rfl (by decide) (Entry.of_reads (slot_reads h.params) _)) ?_
  refine .cons (putEntry_reads rfl (by decide) (Entry.of_reads (slot_reads h.querystring) _)) ?_
  refine .cons (putEntry_reads rfl (by decide) (Entry.of_reads (slot_reads h.response) _)) ?_
  exact .nil _

theorem reads {schema : RouteSchema} {room : Nat} (h : schema.Fits IsExact room) :
    Reader.Reads (reader (room + 1)) schema.toJson.chars schema := by
  refine record_reads (collects h) ?_
  simp [entries, Entry.of]

end RouteSchema

namespace Route

theorem collects {route : Route} {room : Nat} (h : route.Fits IsExact room) :
    Collects (putEntry (entries (room + 1))) ⟨⟨"", "", none, none⟩, []⟩
      [("method", .string route.method), ("url", .string route.url),
        ("schema", (route.schema.map RouteSchema.toJson).getD .null),
        ("visibility", Settings.optionalText route.visibility)]
      ⟨route, ["visibility", "schema", "url", "method"]⟩ := by
  have hschema : Reader.Reads (optional (RouteSchema.reader (room + 1)))
      ((route.schema.map RouteSchema.toJson).getD .null).chars route.schema := by
    cases hroute : route.schema with
    | none => exact optional_reads_null _
    | some schema =>
        have hopens : Opens 'n' schema.toJson.chars := ⟨_, _, rfl, rfl, by decide⟩
        exact optional_reads (RouteSchema.reads (h schema hroute)) hopens
  have hvisibility : Reader.Reads (optional stringValue)
      (Settings.optionalText route.visibility).chars route.visibility := by
    cases route.visibility with
    | none => exact optional_reads_null _
    | some text =>
        have hopens : Opens 'n' (Json.string text).chars := ⟨_, _, rfl, rfl, by decide⟩
        exact optional_reads (stringValue_reads text) hopens
  refine .cons (putEntry_reads rfl (by decide) (Entry.of_reads (stringValue_reads _) _)) ?_
  refine .cons (putEntry_reads rfl (by decide) (Entry.of_reads (stringValue_reads _) _)) ?_
  refine .cons (putEntry_reads rfl (by decide) (Entry.of_reads hschema _)) ?_
  refine .cons (putEntry_reads rfl (by decide) (Entry.of_reads hvisibility _)) ?_
  exact .nil _

theorem reads {route : Route} {room : Nat} (h : route.Fits IsExact room) :
    Reader.Reads (reader (room + 2)) route.toJson.chars route := by
  refine record_reads (collects h) ?_
  simp [entries, Entry.of]

/-- A route that was read off a text whose numbers are integers is read back from its compact text.
Unknown and repeated keys, absent entries, escapes and either form of the records make no
difference. -/
theorem ofText_text_toJson {text : String} {route : Route} (h : ofText text = .ok route)
    (hnumbers : IntegersOnly (Symbol.ofText text)) :
    ofText route.toJson.text = .ok route := by
  have hfits : route.Fits IsExact 125 :=
    whole_eq_ok (reader_ensures lasts_integersOnly 125) hnumbers h
  have hread := whole_of_reads (reads hfits)
  have hchars : Symbol.ofText route.toJson.text = route.toJson.chars.map Symbol.char := by
    rw [Symbol.ofText, Json.text, String.toList_ofList]
  rw [ofText, hchars]
  exact hread

/-- A route with an unknown key, an escape and a repeated key, its schemas in order. -/
def keyedText : String :=
  "\x7b\"tags\":[0,1],\"url\":\"/:id\\u0022\",\"method\":\"GET\"," ++
    "\"schema\":[\x7b\"k\":1,\"of\":null,\"k\":-2\x7d],\"visibility\":null\x7d"

/-- The compact text of that route. -/
def keyedCompact : String :=
  "\x7b\"method\":\"GET\",\"url\":\"/:id\\\"\"," ++
    "\"schema\":\x7b\"body\":\x7b\"k\":-2,\"of\":null\x7d,\"params\":null," ++
    "\"querystring\":null,\"response\":null\x7d,\"visibility\":null\x7d"

theorem ofText_text_toJson_keyed :
    IntegersOnly (Symbol.ofText keyedText) ∧
      ∃ route, ofText keyedText = .ok route ∧ route.toJson.text = keyedCompact ∧
        ofText keyedCompact = .ok route := by
  have hnumbers : IntegersOnly (Symbol.ofText keyedText) := by decide +kernel
  have htext : (ofText keyedText).map (·.toJson.text) = .ok keyedCompact := by decide +kernel
  refine ⟨hnumbers, ?_⟩
  cases hread : ofText keyedText with
  | error fault =>
      rw [hread] at htext
      cases htext
  | ok route =>
      rw [hread] at htext
      have hcompact : route.toJson.text = keyedCompact := Except.ok.inj htext
      exact ⟨route, rfl, hcompact, hcompact ▸ ofText_text_toJson hread hnumbers⟩

end Route

end RouteIdl
