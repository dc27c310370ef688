import RouteIdl.Schema

/-!
# Classification by keywords

The shape of a schema object, read off its keywords. Each keyword counts at its first occurrence
only, so that looking it up tells all that the classification sees of it.
-/

namespace RouteIdl.Schema

/-- The schemas of the properties of an object schema, as written. -/
def propertyNodes (members : List (String × Json)) : List (String × Json) :=
  ((members.lookup "properties").bind Json.members?).getD []

/-- The alternatives of a schema, as written, if it lists any. -/
def variantNodes? (members : List (String × Json)) : Option (List Json) :=
  (members.lookup "oneOf").bind Json.elements?

/-- A scan that stops at the first occurrence of a keyword is a look-up. -/
theorem scan_eq_lookup {β : Type} (keyword : String) (read : Json → β) (absent : β)
    (scan : List (String × Json) → β) (hnil : scan [] = absent)
    (hcons : ∀ key value rest,
      scan ((key, value) :: rest) = if key = keyword then read value else scan rest)
    (members : List (String × Json)) :
    scan members = ((members.lookup keyword).map read).getD absent := by
  induction members with
  | nil => exact hnil
  | cons member rest ih =>
      obtain ⟨key, value⟩ := member
      rw [hcons, List.lookup_cons]
      by_cases h : key = keyword
      · simp [h]
      · have hne : (keyword == key) = false := by simpa using Ne.symm h
        simp [h, hne, ih]

theorem propertiesKeyword_eq (members : List (String × Json)) :
    propertiesKeyword members =
      (propertyNodes members).map fun property => (property.1, ofJson property.2) := by
  rw [scan_eq_lookup "properties" propertiesOf [] propertiesKeyword rfl
    (fun _ _ _ => by rw [propertiesKeyword]), propertyNodes]
  cases members.lookup "properties" with
  | none => rfl
  | some value => cases value <;> simp [propertiesOf, Json.members?, ofMembers_eq_map]

theorem itemsKeyword_eq (members : List (String × Json)) :
    itemsKeyword members = (members.lookup "items").map ofJson := by
  rw [scan_eq_lookup "items" (some <| ofJson ·) none itemsKeyword rfl
    (fun _ _ _ => by rw [itemsKeyword])]
  cases members.lookup "items" <;> rfl

theorem oneOfKeyword_eq (members : List (String × Json)) :
    oneOfKeyword members = (variantNodes? members).map (·.map ofJson) := by
  rw [scan_eq_lookup "oneOf" variantsOf none oneOfKeyword rfl
    (fun _ _ _ => by rw [oneOfKeyword]), variantNodes?]
  cases members.lookup "oneOf" with
  | none => rfl
  | some value => cases value <;> simp [variantsOf, Json.elements?, ofElements_eq_map]

theorem ofJson_of_not_object {node : Json} (h : ∀ members, node ≠ .object members) :
    ofJson node = .unrecognized node := by
  cases node with
  | object members => exact absurd rfl (h members)
  | _ => rfl

variable {members : List (String × Json)}

theorem ofJson_of_type_object (h : typeKeyword? members = some "object") :
    ofJson (.object members) =
      .object ((propertyNodes members).map fun property => (property.1, ofJson property.2))
        (NameSet.ofList (requiredNames (members.lookup "required"))) := by
  rw [ofJson, h, propertiesKeyword_eq]
  rfl

theorem ofJson_of_type_array (h : typeKeyword? members = some "array") :
    ofJson (.object members) =
      match members.lookup "items" with
      | some items => .array (ofJson items) (.object members)
      | none => .unrecognized (.object members) := by
  rw [ofJson, h, itemsKeyword_eq]
  cases members.lookup "items" <;> rfl

/-- Without one of the two types that come first, alternatives go before any other type, and only
a schema without keywords accepts everything. -/
theorem ofJson_of_type_other (hobject : typeKeyword? members ≠ some "object")
    (harray : typeKeyword? members ≠ some "array") :
    ofJson (.object members) =
      match variantNodes? members, typeKeyword? members with
      | some variants, _ => .union (variants.map ofJson)
      | none, some kind => .primitive kind (.object members)
      | none, none => if members = [] then .any else .unrecognized (.object members) := by
  rw [ofJson]
  split
  · contradiction
  · contradiction
  · rw [oneOfKeyword_eq]
    cases variantNodes? members with
    | some variants => rfl
    | none =>
        cases htype : typeKeyword? members with
        | none => cases members <;> simp
        | some kind =>
            cases members with
            | nil => simp [typeKeyword?] at htype
            | cons member rest => simp

/-- Objects of type object are the only ones with that shape, and the object without keywords is
the only one that accepts every value. -/
theorem type_object_or_empty_or_other (node : Json) :
    (∃ members, node = .object members ∧ typeKeyword? members = some "object") ∨
      node = .object [] ∨
      ofJson node ≠ .any ∧ ∀ properties required, ofJson node ≠ .object properties required := by
  cases node with
  | object members =>
      by_cases hobject : typeKeyword? members = some "object"
      · exact .inl ⟨members, rfl, hobject⟩
      by_cases harray : typeKeyword? members = some "array"
      · refine .inr (.inr ?_)
        rw [ofJson_of_type_array harray]
        cases members.lookup "items" <;> simp
      by_cases hempty : members = []
      · exact .inr (.inl (congrArg Json.object hempty))
      · refine .inr (.inr ?_)
        rw [ofJson_of_type_other hobject harray, if_neg hempty]
        cases variantNodes? members <;> cases typeKeyword? members <;> simp
  | _ => exact .inr (.inr ⟨by simp [ofJson], by simp [ofJson]⟩)

theorem eq_of_ofJson_eq_object {node : Json} {properties : List (String × Schema)}
    {required : NameSet} (h : ofJson node = .object properties required) :
    ∃ members, node = .object members ∧ typeKeyword? members = some "object" := by
  rcases type_object_or_empty_or_other node with hobject | rfl | ⟨_, hother⟩
  · exact hobject
  · cases h
  · exact absurd h (hother properties required)

end RouteIdl.Schema
