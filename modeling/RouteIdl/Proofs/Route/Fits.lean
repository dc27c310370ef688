import RouteIdl.Proofs.Json.Fits
import RouteIdl.Route

/-!
# Routes that can be read

Routes whose schemas fit into the containers that are left inside a route. Whatever is read as a
route, in either form of its records, is one of them, and no schema that is there is a null.
-/

namespace RouteIdl

open Json

/-- Every schema that is there fits into so many containers and is no null. -/
structure RouteSchema.Fits (numeric : Json → Prop) (room : Nat) (schema : RouteSchema) : Prop where
  body : ∀ json, schema.body = some json → json ≠ .null ∧ json.Fits numeric room
  params : ∀ json, schema.params = some json → json ≠ .null ∧ json.Fits numeric room
  querystring : ∀ json, schema.querystring = some json → json ≠ .null ∧ json.Fits numeric room
  response : ∀ json, schema.response = some json → json ≠ .null ∧ json.Fits numeric room

/-- The schemas of a route fit into so many containers. -/
def Route.Fits (numeric : Json → Prop) (room : Nat) (route : Route) : Prop :=
  ∀ schema, route.schema = some schema → schema.Fits numeric room

variable {clean : List Symbol → Prop} {numeric : Json → Prop} (hlasts : Lasts clean numeric)
include hlasts

namespace RouteSchema

theorem entries_keep (room : Nat) :
    ∀ entry ∈ entries room, entry.Keeps clean (RouteSchema.Fits numeric room) := by
  have hvalue := optional_value_ensures hlasts room
  simp only [entries, List.forall_mem_cons]
  refine ⟨?_, ?_, ?_, ?_, List.forall_mem_nil _⟩
  · exact Entry.keeps_of hvalue fun _ _ hschema hbody => { hschema with body := hbody }
  · exact Entry.keeps_of hvalue fun _ _ hschema hparams => { hschema with params := hparams }
  · exact Entry.keeps_of hvalue fun _ _ hschema hquery => { hschema with querystring := hquery }
  · exact Entry.keeps_of hvalue fun _ _ hschema hresponse =>
      { hschema with response := hresponse }

theorem reader_ensures (room : Nat) :
    Reader.Ensures clean (reader (room + 1)) (RouteSchema.Fits numeric room) := by
  have hempty : RouteSchema.Fits numeric room {} := ⟨nofun, nofun, nofun, nofun⟩
  exact record_ensures hlasts (entries_keep hlasts room) hempty

end RouteSchema

namespace Route

theorem entries_keep (room : Nat) :
    ∀ entry ∈ entries (room + 1), entry.Keeps clean (Route.Fits numeric room) := by
  have htext := stringValue_ensures hlasts
  have hschema : Reader.Ensures clean (optional (RouteSchema.reader (room + 1))) fun found =>
      ∀ schema, found = some schema → schema.Fits numeric room :=
    optional_ensures hlasts fun _ _ _ hinput _ h =>
      RouteSchema.reader_ensures hlasts room hinput h
  have hvisibility : Reader.Ensures clean (optional stringValue) fun found =>
      ∀ text, found = some text → True :=
    optional_ensures hlasts fun _ _ _ hinput _ h => htext hinput h
  simp only [entries, List.forall_mem_cons]
  refine ⟨?_, ?_, ?_, ?_, List.forall_mem_nil _⟩
  · exact Entry.keeps_of htext fun _ _ hroute _ => hroute
  · exact Entry.keeps_of htext fun _ _ hroute _ => hroute
  · exact Entry.keeps_of hschema fun _ _ _ hfound => hfound
  · exact Entry.keeps_of hvisibility fun _ _ hroute _ => hroute

theorem reader_ensures (room : Nat) :
    Reader.Ensures clean (reader (room + 2)) (Route.Fits numeric room) := by
  have hempty : Route.Fits numeric room ⟨"", "", none, none⟩ := nofun
  exact record_ensures hlasts (entries_keep hlasts room) hempty

end Route

end RouteIdl
