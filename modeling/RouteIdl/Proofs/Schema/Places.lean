import RouteIdl.Proofs.Schema.Bodies

/-!
# Places of bodies

Where a body stands in a message: the messages around it. A translation has exactly the bodies that
its schema calls for, in the order in which they are opened, and each stands in the messages that
its origin calls for: the choices of a union in the message that wraps them, and next to them the
message that lists wrapped values.
-/

namespace RouteIdl

open Idl

namespace Idl

/-- A body and the messages around it, the innermost first. -/
structure Place where
  /-- The messages around the body. -/
  around : List Message
  /-- The body. -/
  body : Body

mutual

/-- The bodies of an item in given messages, each before those inside it. -/
def Item.places (around : List Message) : Item → List Place
  | .field _ => []
  | .message name items =>
      ⟨⟨name, items⟩ :: around, .message items⟩ :: itemPlaces (⟨name, items⟩ :: around) items
  | .oneOf _ items => ⟨around, .oneOf items⟩ :: itemPlaces around items

/-- The bodies of several items in given messages. -/
def itemPlaces (around : List Message) : List Item → List Place
  | [] => []
  | item :: rest => item.places around ++ itemPlaces around rest

end

/-- The bodies of a message, its own first. -/
def Message.places (message : Message) : List Place :=
  message.toItem.places []

theorem itemPlaces_append (around : List Message) (items rest : List Item) :
    itemPlaces around (items ++ rest) = itemPlaces around items ++ itemPlaces around rest := by
  induction items with
  | nil => rfl
  | cons item items ih => rw [List.cons_append, itemPlaces, ih, itemPlaces, List.append_assoc]

mutual

/-- Without what is around them, the places are the bodies. -/
theorem Item.map_body_places (around : List Message) :
    ∀ item : Item, (item.places around).map (·.body) = item.bodies
  | .field _ => rfl
  | .message _ items => by rw [Item.places, Item.bodies, List.map_cons, map_body_itemPlaces]
  | .oneOf _ items => by rw [Item.places, Item.bodies, List.map_cons, map_body_itemPlaces]

theorem map_body_itemPlaces (around : List Message) :
    ∀ items : List Item, (itemPlaces around items).map (·.body) = itemBodies items
  | [] => rfl
  | item :: rest => by
      rw [itemPlaces, itemBodies, List.map_append, item.map_body_places, map_body_itemPlaces]

end

theorem Message.map_body_places (message : Message) :
    message.places.map (·.body) = message.bodies :=
  message.toItem.map_body_places []

end Idl

namespace Schema

/-- The message that lists the wrapped values of a union. -/
def listingOf (name : String) : Message :=
  ⟨name, [.field ⟨name, 0, Identifier.oneOf name, true, false⟩]⟩

/-- The message that wraps the choices of a union together with the one that lists wrapped
values. -/
def wrapperOf (name : String) (choices : List Item) : Message :=
  ⟨Identifier.oneOf name, [.oneOf "types" choices, (listingOf name).toItem]⟩

/-- A union contributes its wrapper and the field that refers to the listing in it. -/
theorem unionItems_eq (name : String) (index : Nat) (required : Bool) (choices : List Item) :
    unionItems name index required choices =
      [(wrapperOf name choices).toItem, .field ⟨name, index, name, false, required⟩] := rfl

end Schema

open Schema (wrapperOf listingOf)

/-- A body is the translation of what it comes from, and stands where that calls for. -/
inductive Origin.GivesAt : Origin → Place → Prop where
  | object {shape : ObjectSchema} {items : List Item} (name : String) (around : List Message)
      (hitems : (Schema.propertyItems shape.required 0 shape.properties).result = .ok items) :
      GivesAt (.object shape) ⟨⟨name, items⟩ :: around, .message items⟩
  | choices {variants : List Schema} {items : List Item} (name : String) (around : List Message)
      (hitems : (Schema.choiceItems 0 variants).result = .ok items) :
      GivesAt (.choices variants) ⟨wrapperOf name items :: around, .oneOf items⟩
  | wrapper (name : String) (choices : List Item) (around : List Message) :
      GivesAt .wrapper ⟨wrapperOf name choices :: around, .message (wrapperOf name choices).items⟩
  | listing (name : String) (choices : List Item) (around : List Message) :
      GivesAt .listing
        ⟨listingOf name :: wrapperOf name choices :: around, .message (listingOf name).items⟩
  | value {schema : Schema} {items : List Item} (name : String) (around : List Message)
      (hitems : (schema.items "value" 0 false).result = .ok items) :
      GivesAt (.value schema) ⟨⟨name, items⟩ :: around, .message items⟩
  | nothing (name : String) (around : List Message) :
      GivesAt .nothing ⟨⟨name, []⟩ :: around, .message []⟩

theorem Origin.GivesAt.gives {origin : Origin} {place : Place} (h : origin.GivesAt place) :
    origin.Gives place.body := by
  cases h with
  | object name around hitems => exact .object hitems
  | choices name around hitems => exact .choices hitems
  | wrapper name choices around => exact .wrapper name choices _
  | listing name choices around => exact .listing name
  | value name around hitems => exact .value hitems
  | nothing name around => exact .nothing

namespace Schema

/-- The bodies of a schema are those that it calls for, wherever its items stand. -/
def HasPlaces (schema : Schema) : Prop :=
  ∀ {name : String} {index : Nat} {required : Bool} {items : List Item} (around : List Message),
    Yields name index required schema items →
      List.Forall₂ Origin.GivesAt schema.origins (itemPlaces around items)

theorem YieldsAll.places {index : Nat} {parts : List (String × Bool × Schema)} {items : List Item}
    (h : YieldsAll index parts items) (hparts : ∀ part ∈ parts, part.2.2.HasPlaces)
    (around : List Message) :
    List.Forall₂ Origin.GivesAt (parts.flatMap fun part => part.2.2.origins)
      (itemPlaces around items) := by
  induction h with
  | nil => exact .nil
  | cons hfirst _ ih =>
      obtain ⟨hschema, hrest⟩ := List.forall_mem_cons.mp hparts
      rw [itemPlaces_append, List.flatMap_cons]
      exact List.rel_append (hschema around hfirst) (ih hrest)

theorem propertyItems_places {required : NameSet} {index : Nat}
    {properties : List (String × Schema)} {items : List Item}
    (h : ∀ property ∈ properties, property.2.HasPlaces)
    (hitems : (propertyItems required index properties).result = .ok items)
    (around : List Message) :
    List.Forall₂ Origin.GivesAt (propertyOrigins properties) (itemPlaces around items) := by
  have hplaces := (propertyItems_yieldsAll hitems).places (List.forall_mem_map.mpr h) around
  rwa [propertyParts, List.flatMap_map, ← propertyOrigins_eq_flatMap] at hplaces

theorem choiceItems_places {position : Nat} {variants : List Schema} {items : List Item}
    (h : ∀ variant ∈ variants, variant.HasPlaces)
    (hitems : (choiceItems position variants).result = .ok items) (around : List Message) :
    List.Forall₂ Origin.GivesAt (variantOrigins variants) (itemPlaces around items) := by
  have hparts : ∀ part ∈ choiceParts position variants, part.2.2.HasPlaces :=
    List.forall_mem_map.mpr fun entry hentry => h _ (List.fst_mem_of_mem_zipIdx hentry)
  have horigins : (choiceParts position variants).flatMap (fun part => part.2.2.origins) =
      variantOrigins variants := by
    have hfirst := congrArg (List.flatMap origins) (List.zipIdx_map_fst position variants)
    rw [List.flatMap_map] at hfirst
    rw [choiceParts, List.flatMap_map, variantOrigins_eq_flatMap]
    exact hfirst
  rw [← horigins]
  exact (choiceItems_yieldsAll hitems).places hparts around

theorem hasPlaces (schema : Schema) : schema.HasPlaces := by
  intro name index required items around h
  induction schema generalizing name index required items around with
  | primitive kind source =>
      cases h
      exact .nil
  | object properties names ih =>
      cases h with
      | @object _ _ body hbody =>
          have hinner := propertyItems_places (fun property hmem => ih property hmem) hbody
            (⟨Identifier.nested name, body⟩ :: around)
          simp only [itemPlaces, Item.places, List.append_nil]
          exact .cons (.object _ _ hbody) hinner
  | array element source ih =>
      cases h with
      | scalars inner _ hkind => exact .nil
      | @objects properties names body _ hbody =>
          -- The bodies are those of the items alone, which the hypothesis is about.
          have hobject : Yields name index required (.object properties names)
              [.message (Identifier.nested name) body,
                .field ⟨name, index, Identifier.nested name, false, required⟩] := .object hbody
          have hplaces := ih around hobject
          exact hplaces
  | union variants ih =>
      cases h with
      | @union _ choices hchoices =>
          have hinner := choiceItems_places (fun variant hmem => ih variant hmem) hchoices
            (wrapperOf name choices :: around)
          rw [unionItems_eq]
          simp only [itemPlaces, Item.places, Message.toItem, List.append_nil, wrapperOf,
            List.cons_append]
          refine .cons (.wrapper name choices around) (.cons (.choices name around hchoices) ?_)
          exact List.rel_append hinner (.cons (.listing name choices around) .nil)
  | any =>
      cases h
      exact .nil
  | unrecognized source => cases h

end Schema

theorem ObjectSchema.message_places {name : String} {shape : ObjectSchema} {message : Message}
    (h : (shape.message name).result = .ok message) :
    List.Forall₂ Origin.GivesAt shape.origins message.places := by
  obtain ⟨items, hitems, rfl⟩ := message_eq_ok_iff.mp h
  exact .cons (.object name [] hitems)
    (Schema.propertyItems_places (fun property _ => property.2.hasPlaces) hitems [⟨name, items⟩])

end RouteIdl
