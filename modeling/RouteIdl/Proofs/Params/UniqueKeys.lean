import RouteIdl.Proofs.Json.UniqueKeys
import RouteIdl.Proofs.Params.Merging
import RouteIdl.Proofs.Route.Fits

/-!
# Unique keys of routes

Routes whose schemas have unique keys: all routes that are read from a text. Merging passes this on
to the schemas of the parameters.
-/

namespace RouteIdl

open Json

/-- No object in any schema has a key twice. -/
structure RouteSchema.UniqueKeys (schema : RouteSchema) : Prop where
  body : ∀ value, schema.body = some value → value.UniqueKeys
  params : ∀ value, schema.params = some value → value.UniqueKeys
  querystring : ∀ value, schema.querystring = some value → value.UniqueKeys
  response : ∀ value, schema.response = some value → value.UniqueKeys

namespace RouteSchema

/-- Schemas that can be read have unique keys. -/
theorem Fits.uniqueKeys {schema : RouteSchema} {room : Nat}
    (h : schema.Fits (fun found => found.isNumber) room) : schema.UniqueKeys where
  body json hjson := (h.body json hjson).2.uniqueKeys fun _ => id
  params json hjson := (h.params json hjson).2.uniqueKeys fun _ => id
  querystring json hjson := (h.querystring json hjson).2.uniqueKeys fun _ => id
  response json hjson := (h.response json hjson).2.uniqueKeys fun _ => id

theorem UniqueKeys.of_mem_requestSlots {schema : RouteSchema} (h : schema.UniqueKeys) {slot : Json}
    (hslot : slot ∈ schema.requestSlots) : slot.UniqueKeys := by
  simp only [requestSlots, List.mem_filterMap, List.mem_cons, List.not_mem_nil, or_false,
    id] at hslot
  obtain ⟨_, rfl | rfl | rfl, hsome⟩ := hslot
  · exact h.body slot hsome
  · exact h.params slot hsome
  · exact h.querystring slot hsome

theorem UniqueKeys.of_responseFor? {schema : RouteSchema} (h : schema.UniqueKeys) {status : String}
    {node : Json} (hnode : schema.responseFor? status = some node) : node.UniqueKeys := by
  obtain ⟨responses, hresponses, hmember⟩ := Option.bind_eq_some_iff.mp hnode
  exact (h.response responses hresponses).of_member? hmember

end RouteSchema

namespace Route

/-- No object in any schema of a route has a key twice. -/
def UniqueKeys (route : Route) : Prop :=
  ∀ schema, route.schema = some schema → schema.UniqueKeys

/-- All routes that a text lists have unique keys. -/
theorem uniqueKeys_of_listOfSymbols {input : List Json.Symbol} {routes : List Route}
    (h : listOfSymbols input = .ok routes) : ∀ route ∈ routes, route.UniqueKeys := by
  have hreader := list_ensures lasts_true (Route.reader_ensures lasts_true 124)
  intro route hroute schema hschema
  exact (whole_eq_ok hreader trivial h route hroute schema hschema).uniqueKeys

namespace UniqueKeys

variable {route : Route}

theorem of_mem_requestSlots (h : route.UniqueKeys) {slot : Json}
    (hslot : slot ∈ route.requestSlots) : slot.UniqueKeys := by
  unfold requestSlots at hslot
  cases hschema : route.schema with
  | none => simp [hschema] at hslot
  | some schema => exact (h schema hschema).of_mem_requestSlots (by simpa [hschema] using hslot)

/-- The schemas of merged parameters are among those that are declared. -/
theorem of_mem_properties (h : route.UniqueKeys) :
    ∀ property ∈ (Params.ofRoute route).properties, property.2.UniqueKeys := by
  rw [properties_ofRoute]
  refine forall_putAll (List.forall_mem_nil _) ?_
  intro property hproperty
  obtain ⟨slot, hslot, hproperty⟩ := List.mem_flatMap.mp hproperty
  have hkeys := h.of_mem_requestSlots hslot
  exact (Json.UniqueKeys.of_members? fun _ hmember => hkeys.of_member? hmember).2 property hproperty

end UniqueKeys

end Route

end RouteIdl
