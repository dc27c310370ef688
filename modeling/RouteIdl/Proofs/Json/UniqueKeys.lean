import RouteIdl.Proofs.Json.Fits

/-!
# Unique keys

Values in which no object, at any depth, has a key twice. All values that are read are of this kind,
since a key that occurs again in a text takes the place of its first occurrence.
-/

namespace RouteIdl.Json

/-- No object has a key twice, at any depth. -/
inductive UniqueKeys : Json → Prop where
  | scalar {json : Json} (hmembers : json.members? = none) (helements : json.elements? = none) :
      UniqueKeys json
  | array {elements : List Json} (helements : ∀ element ∈ elements, UniqueKeys element) :
      UniqueKeys (.array elements)
  | object {members : List (String × Json)} (hkeys : (members.map Prod.fst).Nodup)
      (hvalues : ∀ member ∈ members, UniqueKeys member.2) : UniqueKeys (.object members)

namespace UniqueKeys

variable {json : Json} {members : List (String × Json)}

theorem of_object (h : (Json.object members).UniqueKeys) :
    (members.map Prod.fst).Nodup ∧ ∀ member ∈ members, member.2.UniqueKeys := by
  cases h with
  | scalar hnone => cases hnone
  | object hkeys hvalues => exact ⟨hkeys, hvalues⟩

theorem of_array {elements : List Json} (h : (Json.array elements).UniqueKeys) :
    ∀ element ∈ elements, element.UniqueKeys := by
  cases h with
  | scalar _ hnone => cases hnone
  | array helements => exact helements

/-- The members of a value that may be absent. -/
theorem of_members? {value : Option Json} (h : ∀ json, value = some json → json.UniqueKeys) :
    (((value.bind Json.members?).getD []).map Prod.fst).Nodup ∧
      ∀ member ∈ (value.bind Json.members?).getD [], member.2.UniqueKeys := by
  cases value with
  | none => exact ⟨List.nodup_nil, List.forall_mem_nil _⟩
  | some json =>
      cases json with
      | object members => exact (h _ rfl).of_object
      | _ => exact ⟨List.nodup_nil, List.forall_mem_nil _⟩

/-- The elements of a value that may be absent. -/
theorem of_elements? {value : Option Json} (h : ∀ json, value = some json → json.UniqueKeys) :
    ∀ element ∈ (value.bind Json.elements?).getD [], element.UniqueKeys := by
  cases value with
  | none => exact List.forall_mem_nil _
  | some json =>
      cases json with
      | array elements => exact (h _ rfl).of_array
      | _ => exact List.forall_mem_nil _

theorem of_lookup {key : String} {value : Json}
    (hvalues : ∀ member ∈ members, member.2.UniqueKeys) (h : members.lookup key = some value) :
    value.UniqueKeys := by
  obtain ⟨before, after, rfl, _⟩ := List.lookup_eq_some_iff.mp h
  exact hvalues (key, value) (List.mem_append_right before List.mem_cons_self)

theorem of_member? {key : String} {value : Json} (h : json.UniqueKeys)
    (hvalue : json.member? key = some value) : value.UniqueKeys := by
  cases json with
  | object members => exact of_lookup h.of_object.2 hvalue
  | _ => cases hvalue

end UniqueKeys

/-- Whatever is read as a value has unique keys. -/
theorem Fits.uniqueKeys {numeric : Json → Prop} {room : Nat} {json : Json}
    (h : json.Fits numeric room) (hnumeric : ∀ found, numeric found → found.isNumber) :
    json.UniqueKeys := by
  induction h with
  | null => exact .scalar rfl rfl
  | bool value => exact .scalar rfl rfl
  | string text => exact .scalar rfl rfl
  | @number _ found hfound =>
      have hnumber := hnumeric found hfound
      cases found <;> first | exact .scalar rfl rfl | cases hnumber
  | array _ ih => exact .array ih
  | object hkeys _ ih => exact .object hkeys ih

end RouteIdl.Json
