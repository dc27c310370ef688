import RouteIdl.Proofs.Schema.Siblings
import RouteIdl.Proofs.Schema.Visits

/-!
# Names of choices

How the choices of a union are named. The type of a variant is read off its shape, and that agrees
with the type keyword as it is written, unless the variant is a union itself: alternatives go before
every type but object and array, and the type keyword beside them is lost.
-/

namespace RouteIdl

open Idl

namespace Schema

/-- The type keyword of a schema, as written. -/
def writtenType? (node : Json) : Option String :=
  (node.member? "type").bind Json.text?

/-- Whether a schema is one of several alternatives: it lists them, and has neither of the two types
that go before them. -/
def ListsAlternatives (node : Json) : Prop :=
  ((node.member? "oneOf").bind Json.elements?).isSome ∧
    writtenType? node ≠ some "object" ∧ writtenType? node ≠ some "array"

instance (node : Json) : Decidable (ListsAlternatives node) :=
  inferInstanceAs (Decidable (_ ∧ _))

/-- The type by which a schema is known: its type keyword, unless it is a union. -/
def knownType? (node : Json) : Option String :=
  if ListsAlternatives node then none else writtenType? node

/-- Of a schema object without a shape the type is looked up in what is kept of it. -/
theorem declaredType?_unrecognized (members : List (String × Json)) :
    (unrecognized (.object members)).declaredType? = typeKeyword? members := rfl

theorem declaredType?_ofJson_object (members : List (String × Json)) :
    (ofJson (.object members)).declaredType? =
      if (variantNodes? members).isSome ∧ typeKeyword? members ≠ some "object" ∧
          typeKeyword? members ≠ some "array" then none
      else typeKeyword? members := by
  by_cases hobject : typeKeyword? members = some "object"
  · simp [ofJson_of_type_object hobject, declaredType?, hobject]
  by_cases harray : typeKeyword? members = some "array"
  · rw [ofJson_of_type_array harray]
    cases members.lookup "items" with
    | some items => simp [declaredType?, harray]
    | none => simp [declaredType?_unrecognized, harray]
  rw [ofJson_of_type_other hobject harray]
  cases hvariants : variantNodes? members with
  | some variants => simp [declaredType?, hobject, harray]
  | none =>
      cases htype : typeKeyword? members with
      | some kind => simp [declaredType?]
      | none =>
          by_cases hempty : members = []
          · simp [hempty, declaredType?]
          · simp [hempty, declaredType?_unrecognized, htype]

/-- The type that is read off the shape of a schema is the one by which it is known. -/
theorem declaredType?_ofJson (node : Json) : (ofJson node).declaredType? = knownType? node := by
  cases node with
  | object members => exact declaredType?_ofJson_object members
  | _ => rfl

theorem choiceName_ofJson (position : Nat) (node : Json) :
    choiceName position (ofJson node) =
      (knownType? node).getD ("variant" ++ toString position) := by
  rw [choiceName, declaredType?_ofJson]

/-- The choices of a union are named after the types by which its variants are known, and by their
positions if there is none. -/
theorem union_choices_named {name : String} {index : Nat} {required : Bool} {variants : List Json}
    {items : List Item}
    (h : (Schema.items name index required (.union (variants.map ofJson))).result = .ok items) :
    (∃ choices, items = unionItems name index required choices ∧
      (fieldsOf choices).map (·.name) =
        variants.zipIdx.map fun entry =>
          (knownType? entry.1).getD ("variant" ++ toString entry.2)) ∧
    ∀ node, (ofJson node).declaredType? = knownType? node := by
  refine ⟨?_, declaredType?_ofJson⟩
  cases items_eq_ok_iff.mp h with
  | @union _ choices hchoices =>
      refine ⟨choices, rfl, ?_⟩
      rw [(choiceItems_fields hchoices).2, List.zipIdx_map, List.map_map]
      refine List.map_congr_left fun entry _ => ?_
      exact choiceName_ofJson entry.2 entry.1

/-- A text that is one of several. -/
def textChoice : Json :=
  .object [("type", .string "string"), ("oneOf", .array [.object [("type", .string "string")]])]

/-- A number, an object with alternatives, a text that is one of several, and any value. -/
theorem union_choices_named_mixed :
    ∃ items choices,
      (Schema.items "part" 0 false (.union ([.object [("type", .string "number")],
        .object [("oneOf", .array []), ("type", .string "object")], textChoice,
        .object []].map ofJson))).result = .ok items ∧
      items = unionItems "part" 0 false choices ∧
      (fieldsOf choices).map (·.name) = ["number", "object", "variant2", "variant3"] := by
  obtain ⟨items, hitems⟩ : ∃ items,
      (Schema.items "part" 0 false (.union ([.object [("type", .string "number")],
        .object [("oneOf", .array []), ("type", .string "object")], textChoice,
        .object []].map ofJson))).result = .ok items := ⟨_, rfl⟩
  obtain ⟨⟨choices, hchoices, hnames⟩, -⟩ := union_choices_named hitems
  exact ⟨items, choices, hitems, hchoices, hnames.trans rfl⟩

/-- The type keyword of a variant with alternatives of its own is lost, so it does not name the
choice. -/
theorem union_choice_untyped :
    writtenType? textChoice = some "string" ∧ (ofJson textChoice).declaredType? = none ∧
      ∃ choices, (Schema.items "part" 0 false (.union ([textChoice].map ofJson))).result =
          .ok (unionItems "part" 0 false choices) ∧
        (fieldsOf choices).map (·.name) = ["variant0"] :=
  ⟨rfl, rfl, _, rfl, by decide⟩

end Schema

end RouteIdl
