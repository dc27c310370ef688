import RouteIdl.Proofs.Schema.Bodies

/-!
# Siblings in a body

The fields and messages that stand side by side: one field for each property or variant, numbered by
its position, and a message for those that have structure of their own.
-/

namespace RouteIdl

open Idl

namespace Idl

theorem fieldsOf_append (items rest : List Item) :
    fieldsOf (items ++ rest) = fieldsOf items ++ fieldsOf rest :=
  List.filterMap_append

theorem messageNamesOf_append (items rest : List Item) :
    messageNamesOf (items ++ rest) = messageNamesOf items ++ messageNamesOf rest :=
  List.filterMap_append

end Idl

namespace Schema

/-- The name of the message that a schema contributes under a name, if it has structure of its
own. -/
def messageName? (name : String) : Schema → Option String
  | .object _ _ => some (Identifier.nested name)
  | .array (.object _ _) _ => some (Identifier.nested name)
  | .union _ => some (Identifier.oneOf name)
  | _ => none

/-- Messages tell the fields apart that they are for. -/
theorem messageName?_inj {schema other : Schema} {name name' message : String}
    (h : schema.messageName? name = some message) (h' : other.messageName? name' = some message) :
    name = name' := by
  have hsuffix {schema : Schema} {name : String} (h : schema.messageName? name = some message) :
      message = Identifier.nested name ∨ message = Identifier.oneOf name := by
    unfold messageName? at h
    split at h <;> cases h <;> simp
  rcases hsuffix h with rfl | rfl
  · rcases hsuffix h' with heq | heq
    · exact Identifier.nested_inj.mp heq
    · exact absurd heq (Identifier.nested_ne_oneOf _ _)
  · rcases hsuffix h' with heq | heq
    · exact absurd heq (Identifier.oneOf_ne_nested _ _)
    · exact Identifier.oneOf_inj.mp heq

section Yields

variable {name : String} {index : Nat} {required : Bool} {schema : Schema} {items : List Item}

/-- A schema contributes one field, with its name and number. -/
theorem Yields.fields (h : Yields name index required schema items) :
    ∃ field, fieldsOf items = [field] ∧ field.name = name ∧ field.number = index := by
  cases h <;> exact ⟨_, rfl, rfl, rfl⟩

theorem Yields.messageNames (h : Yields name index required schema items) :
    messageNamesOf items = (schema.messageName? name).toList := by
  cases h <;> rfl

end Yields

section YieldsAll

variable {index : Nat} {parts : List (String × Bool × Schema)} {items : List Item}

/-- Named schemas contribute a field each, in order. -/
theorem YieldsAll.fields (h : YieldsAll index parts items) :
    (fieldsOf items).map (·.number) = List.range' index parts.length ∧
      (fieldsOf items).map (·.name) = parts.map (·.1) := by
  induction h with
  | nil => exact ⟨rfl, rfl⟩
  | cons hfirst _ ih =>
      obtain ⟨hnumbers, hnames⟩ := ih
      obtain ⟨field, hfield, hname, hnumber⟩ := hfirst.fields
      rw [fieldsOf_append, hfield, List.singleton_append, List.map_cons, List.map_cons, hnumbers,
        hnames, hnumber, hname]
      exact ⟨rfl, rfl⟩

theorem YieldsAll.messageNames (h : YieldsAll index parts items) :
    messageNamesOf items = parts.filterMap fun part => part.2.2.messageName? part.1 := by
  induction h with
  | nil => rfl
  | @cons _ name _ schema _ _ _ hfirst _ ih =>
      rw [messageNamesOf_append, hfirst.messageNames, ih]
      cases hmessage : schema.messageName? name <;> simp [hmessage]

end YieldsAll

variable {index : Nat} {items : List Item}

theorem propertyItems_fields {required : NameSet} {properties : List (String × Schema)}
    (h : (propertyItems required index properties).result = .ok items) :
    (fieldsOf items).map (·.number) = List.range' index properties.length ∧
      (fieldsOf items).map (·.name) = properties.map Prod.fst := by
  have hfields := (propertyItems_yieldsAll h).fields
  rwa [propertyParts, List.length_map, List.map_map] at hfields

theorem choiceItems_fields {variants : List Schema}
    (h : (choiceItems index variants).result = .ok items) :
    (fieldsOf items).map (·.number) = List.range' index variants.length ∧
      (fieldsOf items).map (·.name) =
        (variants.zipIdx index).map fun entry => choiceName entry.2 entry.1 := by
  have hfields := (choiceItems_yieldsAll h).fields
  rwa [choiceParts, List.length_map, List.length_zipIdx, List.map_map] at hfields

theorem propertyItems_messageNames {required : NameSet} {properties : List (String × Schema)}
    (h : (propertyItems required index properties).result = .ok items) :
    messageNamesOf items =
      properties.filterMap fun property => property.2.messageName? property.1 := by
  rw [(propertyItems_yieldsAll h).messageNames, propertyParts, List.filterMap_map]
  rfl

theorem choiceItems_messageNames {variants : List Schema}
    (h : (choiceItems index variants).result = .ok items) :
    messageNamesOf items = (variants.zipIdx index).filterMap fun entry =>
      entry.1.messageName? (choiceName entry.2 entry.1) := by
  rw [(choiceItems_yieldsAll h).messageNames, choiceParts, List.filterMap_map]
  rfl

end Schema

end RouteIdl
