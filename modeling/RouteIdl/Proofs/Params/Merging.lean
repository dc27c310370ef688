import RouteIdl.Params
import RouteIdl.Proofs.Json.Members

/-!
# Merging of parameters

The merged parameters of a route are the properties that its request schemas declare, put one after
the other, and all names that any of them requires. Merging sees of the schemas of properties only
which one is put where.
-/

namespace RouteIdl

namespace Params

/-- The properties that a request schema declares. -/
def declaredProperties (slot : Json) : List (String × Json) :=
  ((slot.member? "properties").bind Json.members?).getD []

/-- The names that a request schema requires. -/
def declaredRequired (slot : Json) : List String :=
  Schema.requiredNames (slot.member? "required")

variable {params : Params} {slots : List Json}

theorem properties_foldl_absorb :
    (slots.foldl absorb params).properties =
      Json.putAll params.properties (slots.flatMap declaredProperties) := by
  induction slots generalizing params with
  | nil => rfl
  | cons slot rest ih =>
      rw [List.foldl_cons, ih, List.flatMap_cons, Json.putAll_append]
      rfl

theorem mem_required_foldl_absorb {name : String} :
    name ∈ (slots.foldl absorb params).required ↔
      name ∈ params.required ∨ name ∈ slots.flatMap declaredRequired := by
  induction slots generalizing params with
  | nil => simp
  | cons slot rest ih =>
      have hstep : (params.absorb slot).required =
          params.required.insertAll (declaredRequired slot) := rfl
      rw [List.foldl_cons, ih, hstep, NameSet.mem_insertAll, List.flatMap_cons, List.mem_append,
        or_assoc]

end Params

namespace Route

/-- The request schemas of a route. -/
def requestSlots (route : Route) : List Json :=
  (route.schema.map RouteSchema.requestSlots).getD []

/-- The properties that the request schemas of a route declare, in order. -/
def declaredProperties (route : Route) : List (String × Json) :=
  route.requestSlots.flatMap Params.declaredProperties

/-- The names that the request schemas of a route require. -/
def declaredRequired (route : Route) : List String :=
  route.requestSlots.flatMap Params.declaredRequired

variable {route : Route}

theorem properties_ofRoute :
    (Params.ofRoute route).properties = Json.putAll [] route.declaredProperties :=
  Params.properties_foldl_absorb

theorem mem_required_ofRoute {name : String} :
    name ∈ (Params.ofRoute route).required ↔ name ∈ route.declaredRequired := by
  have hmem : name ∈ (Params.ofRoute route).required ↔
      name ∈ (∅ : NameSet) ∨ name ∈ route.declaredRequired := Params.mem_required_foldl_absorb
  simpa using hmem

theorem nodup_names_ofRoute : ((Params.ofRoute route).properties.map Prod.fst).Nodup := by
  rw [properties_ofRoute]
  exact Json.nodup_keys_putAll List.nodup_nil

end Route

end RouteIdl
