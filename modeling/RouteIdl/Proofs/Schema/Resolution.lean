import RouteIdl.Proofs.Schema.Places

/-!
# Resolution of type references

The type of every field is a well-known one or the name of a message that is made together with the
field: the message right before it, one in the wrapper right before it, or the wrapper around it.
Conversely every message is there for the field right after it, or lists the values of the wrapper
in which it stands.
-/

namespace RouteIdl

open Idl
open Schema (Yields YieldsAll wrapperOf listingOf)

/-- The types of fields that need no message. -/
def Idl.plainTypes : List String :=
  [Scalar.uint32.name, Scalar.string.name, anyType]

theorem append_cons_eq_singleton {α : Type} {before after : List α} {x a : α}
    (h : before ++ x :: after = [a]) : before = [] ∧ x = a ∧ after = [] := by
  cases before with
  | nil => simpa using h
  | cons y rest => simp at h

theorem append_cons_eq_pair {α : Type} {before after : List α} {x a b : α}
    (h : before ++ x :: after = [a, b]) :
    (before = [] ∧ x = a ∧ after = [b]) ∨ (before = [a] ∧ x = b ∧ after = []) := by
  cases before with
  | nil => simpa using h
  | cons y rest =>
      obtain ⟨rfl, hrest⟩ := List.cons.inj h
      obtain ⟨rfl, hx, hafter⟩ := append_cons_eq_singleton hrest
      exact .inr ⟨rfl, hx, hafter⟩

namespace Schema

variable {name : String} {index : Nat} {required : Bool} {schema : Schema} {items : List Item}

/-- A schema contributes a field alone, of a type that needs no message, or a message and then a
field whose type is that message or, for a wrapper, a message directly in it. -/
theorem Yields.alone_or_pair (h : Yields name index required schema items) :
    ∃ field : Field, field.name = name ∧ field.number = index ∧
      ((items = [.field field] ∧ field.type ∈ plainTypes) ∨
        ∃ message body, items = [.message message body, .field field] ∧
          (message = field.type ∨
            message = Identifier.oneOf name ∧ ∃ inner, .message field.type inner ∈ body)) := by
  cases h with
  | @scalar kind scalar source hkind =>
      refine ⟨_, rfl, rfl, .inl ⟨rfl, ?_⟩⟩
      cases scalar <;> simp [plainTypes]
  | @scalars kind scalar inner source hkind =>
      refine ⟨_, rfl, rfl, .inl ⟨rfl, ?_⟩⟩
      cases scalar <;> simp [plainTypes]
  | object hbody => exact ⟨_, rfl, rfl, .inr ⟨_, _, rfl, .inl rfl⟩⟩
  | objects source hbody => exact ⟨_, rfl, rfl, .inr ⟨_, _, rfl, .inl rfl⟩⟩
  | @union variants choices hchoices =>
      refine ⟨_, rfl, rfl, .inr ⟨_, _, rfl, .inr ⟨rfl, (listingOf name).items, ?_⟩⟩⟩
      exact List.mem_cons_of_mem _ List.mem_cons_self
  | any =>
      refine ⟨_, rfl, rfl, .inl ⟨rfl, ?_⟩⟩
      simp [plainTypes]

/-- Every item stands among those of one of the named schemas. -/
theorem YieldsAll.exists_block {parts : List (String × Bool × Schema)} {before after : List Item}
    {item : Item} (h : YieldsAll index parts items) (hitem : items = before ++ item :: after) :
    ∃ position part init head tail rest, parts[position]? = some part ∧
      Yields part.1 (index + position) part.2.1 part.2.2 (head ++ item :: tail) ∧
      before = init ++ head ∧ after = tail ++ rest := by
  induction h generalizing before with
  | nil => simp at hitem
  | @cons index name required schema parts first others hfirst hothers ih =>
      rcases List.append_eq_append_iff.mp hitem with ⟨init, rfl, hrest⟩ | ⟨tail, rfl, htail⟩
      · obtain ⟨position, part, init', head, tail, rest, hpart, hyields, rfl, hafter⟩ := ih hrest
        refine ⟨position + 1, part, first ++ init', head, tail, rest, hpart, ?_, ?_, hafter⟩
        · rwa [Nat.add_right_comm, Nat.add_assoc] at hyields
        · rw [List.append_assoc]
      -- The item is the first of the rest, or one of the first block.
      · cases tail with
        | nil =>
            have hstart : others = [] ++ item :: after := htail.symm
            obtain ⟨position, part, init', head, tail, rest, hpart, hyields, hbefore, hafter⟩ :=
              ih hstart
            obtain ⟨rfl, rfl⟩ := List.append_eq_nil_iff.mp hbefore.symm
            refine ⟨position + 1, part, before ++ [], [], tail, rest, hpart, ?_, by simp, hafter⟩
            rwa [Nat.add_right_comm, Nat.add_assoc] at hyields
        | cons x tail =>
            obtain ⟨rfl, rfl⟩ := List.cons.inj htail
            exact ⟨0, _, [], before, tail, others, rfl, hfirst, rfl, rfl⟩

end Schema

namespace Origin

/-- The named schemas whose items stand in a body, with whether they are required. The bodies that
belong to a union alone have none. -/
def parts : Origin → List (String × Bool × Schema)
  | object shape => Schema.propertyParts shape.required shape.properties
  | choices variants => Schema.choiceParts 0 variants
  | value schema => [("value", false, schema)]
  | wrapper | listing | nothing => []

/-- Some items are all that is made for the schema with the name and at the position of a field. -/
def Makes (origin : Origin) (field : Field) (items : List Item) : Prop :=
  ∃ required schema, origin.parts[field.number]? = some (field.name, required, schema) ∧
    Yields field.name field.number required schema items

/-- What the type of a field refers to, given what stands before the field. -/
inductive Refers (origin : Origin) (place : Place) (before : List Item) (field : Field) : Prop where
  /-- No message. -/
  | plain (htype : field.type ∈ plainTypes) (hmakes : origin.Makes field [.field field])
  /-- For an object or a list of objects, the message right before the field. -/
  | nested {init body : List Item} (hbefore : before = init ++ [.message field.type body])
      (hmakes : origin.Makes field [.message field.type body, .field field])
  /-- For a union, a message directly in the wrapper right before the field. -/
  | union {init body inner : List Item}
      (hbefore : before = init ++ [.message (Identifier.oneOf field.name) body])
      (hinner : .message field.type inner ∈ body)
      (hmakes : origin.Makes field [.message (Identifier.oneOf field.name) body, .field field])
  /-- For the values that a union lists, the wrapper around the message that lists them. -/
  | listed {choices : List Item} {outer : List Message}
      (haround : place.around = listingOf field.name :: wrapperOf field.name choices :: outer)
      (hholds : place.body = .message (listingOf field.name).items)
      (hname : (wrapperOf field.name choices).name = field.type)

/-- What a message is there for, given what stands after it. -/
inductive Serves (origin : Origin) (place : Place) (name : String) (body after : List Item) :
    Prop where
  /-- The field right after it. -/
  | field {field : Field} {rest : List Item} (hafter : after = .field field :: rest)
      (hmakes : origin.Makes field [.message name body, .field field])
  /-- The wrapper in which it stands, to list its values. -/
  | listing {choices : List Item} {outer : List Message}
      (haround : place.around = wrapperOf name choices :: outer)
      (hholds : place.body = .message (wrapperOf name choices).items)
      (hmessage : ⟨name, body⟩ = listingOf name)

/-- Every field that stands directly in a body has a type that is known there, and every message has
a use. -/
structure Resolves (origin : Origin) (place : Place) : Prop where
  fields : ∀ before field after, place.body.items = before ++ .field field :: after →
    origin.Refers place before field
  messages : ∀ before name body after, place.body.items = before ++ .message name body :: after →
    origin.Serves place name body after

section YieldsAll

variable {origin : Origin} {place : Place}

theorem refers_of_yieldsAll {before after : List Item} {field : Field}
    (h : YieldsAll 0 origin.parts place.body.items)
    (hfield : place.body.items = before ++ .field field :: after) :
    origin.Refers place before field := by
  obtain ⟨position, ⟨name, required, schema⟩, init, head, tail, rest, hpart, hyields, rfl, rfl⟩ :=
    h.exists_block hfield
  rw [Nat.zero_add] at hyields
  obtain ⟨made, rfl, rfl, ⟨hitems, htype⟩ | ⟨message, body, hitems, hmessage⟩⟩ :=
    hyields.alone_or_pair
  · obtain ⟨rfl, hmade, rfl⟩ := append_cons_eq_singleton hitems
    cases hmade
    exact .plain htype ⟨required, schema, hpart, hyields⟩
  · rcases append_cons_eq_pair hitems with ⟨_, hmade, _⟩ | ⟨rfl, hmade, rfl⟩
    · cases hmade
    · cases hmade
      have hmakes : origin.Makes field [.message message body, .field field] :=
        ⟨required, schema, hpart, hyields⟩
      rcases hmessage with rfl | ⟨rfl, inner, hinner⟩
      · exact .nested rfl hmakes
      · exact .union rfl hinner hmakes

theorem serves_of_yieldsAll {before body after : List Item} {name : String}
    (h : YieldsAll 0 origin.parts place.body.items)
    (hmessage : place.body.items = before ++ .message name body :: after) :
    origin.Serves place name body after := by
  obtain ⟨position, ⟨_, required, schema⟩, init, head, tail, rest, hpart, hyields, rfl, rfl⟩ :=
    h.exists_block hmessage
  rw [Nat.zero_add] at hyields
  obtain ⟨made, rfl, rfl, ⟨hitems, _⟩ | ⟨message, inner, hitems, _⟩⟩ := hyields.alone_or_pair
  · obtain ⟨_, hmade, _⟩ := append_cons_eq_singleton hitems
    cases hmade
  · rcases append_cons_eq_pair hitems with ⟨rfl, hmade, rfl⟩ | ⟨_, hmade, _⟩
    · cases hmade
      exact .field rfl ⟨required, schema, hpart, hyields⟩
    · cases hmade

theorem resolves_of_yieldsAll (h : YieldsAll 0 origin.parts place.body.items) :
    origin.Resolves place :=
  ⟨fun _ _ _ => refers_of_yieldsAll h, fun _ _ _ _ => serves_of_yieldsAll h⟩

end YieldsAll

/-- The references in a body resolve where it stands. -/
theorem GivesAt.resolves {origin : Origin} {place : Place} (h : origin.GivesAt place) :
    origin.Resolves place := by
  cases h with
  | object name around hitems => exact resolves_of_yieldsAll (Schema.propertyItems_yieldsAll hitems)
  | choices name around hitems => exact resolves_of_yieldsAll (Schema.choiceItems_yieldsAll hitems)
  | @value schema items name around hitems =>
      have hnone : YieldsAll 1 [] [] := .nil
      have hall := YieldsAll.cons (Schema.items_eq_ok_iff.mp hitems) hnone
      rw [List.append_nil] at hall
      exact resolves_of_yieldsAll hall
  | wrapper name choices around =>
      refine ⟨fun before field after hfield => ?_, fun before message body after hmessage => ?_⟩
      · rcases append_cons_eq_pair hfield.symm with ⟨_, hitem, _⟩ | ⟨_, hitem, _⟩ <;> cases hitem
      · rcases append_cons_eq_pair hmessage.symm with ⟨_, hitem, _⟩ | ⟨_, hitem, _⟩
        · cases hitem
        · cases hitem
          exact .listing rfl rfl rfl
  | listing name choices around =>
      refine ⟨fun before field after hfield => ?_, fun before message body after hmessage => ?_⟩
      · obtain ⟨rfl, hitem, rfl⟩ := append_cons_eq_singleton hfield.symm
        cases hitem
        exact .listed rfl rfl rfl
      · obtain ⟨_, hitem, _⟩ := append_cons_eq_singleton hmessage.symm
        cases hitem
  | nothing name around =>
      refine ⟨fun before field after hfield => ?_, fun before message body after hmessage => ?_⟩
      · simp [Body.items] at hfield
      · simp [Body.items] at hmessage

end Origin

end RouteIdl
