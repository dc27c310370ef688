import RouteIdl.Proofs.Schema.Outline

/-!
# Faithfulness of translations

An outline can be read back from its items. Every property ends at its field, so that a list of
items splits into properties in one way only, and the message before a field tells by its name
whether it belongs to an object or to a union.
-/

namespace RouteIdl

open Idl

namespace Idl

/-- The items of one property or choice: a field, with at most one message before it. -/
inductive Entry : List Item → Prop where
  | field (field : Field) : Entry [.field field]
  | message (name : String) (items : List Item) (field : Field) :
      Entry [.message name items, .field field]

theorem Entry.append_inj {first first' rest rest' : List Item} (hfirst : Entry first)
    (hfirst' : Entry first') (h : first ++ rest = first' ++ rest') :
    first = first' ∧ rest = rest' := by
  cases hfirst <;> cases hfirst' <;> simp_all

theorem Entry.ne_nil {items : List Item} (h : Entry items) : items ≠ [] := by
  cases h <;> simp

/-- A list of entries splits into them in one way, so that what gives rise to them is determined
if each entry determines it. -/
theorem eq_of_flatMap_entries_eq {α : Type} {entry : α × Nat → List Item}
    (hentry : ∀ x, Entry (entry x)) {xs ys : List α} {index : Nat}
    (hinj : ∀ x ∈ xs, ∀ y index, entry (x, index) = entry (y, index) → x = y)
    (h : (xs.zipIdx index).flatMap entry = (ys.zipIdx index).flatMap entry) : xs = ys := by
  induction xs generalizing ys index with
  | nil =>
      cases ys with
      | nil => rfl
      | cons y ys =>
          have hempty : entry (y, index) = [] := (List.append_eq_nil_iff.mp h.symm).1
          exact absurd hempty (hentry _).ne_nil
  | cons x xs ih =>
      cases ys with
      | nil =>
          have hempty : entry (x, index) = [] := (List.append_eq_nil_iff.mp h).1
          exact absurd hempty (hentry _).ne_nil
      | cons y ys =>
          obtain ⟨hfirst, hrest⟩ := (hentry (x, index)).append_inj (hentry (y, index)) h
          rw [hinj x List.mem_cons_self y index hfirst,
            ih (fun x hx => hinj x (List.mem_cons_of_mem _ hx)) hrest]

theorem Scalar.name_inj {scalar other : Scalar} : scalar.name = other.name ↔ scalar = other := by
  cases scalar <;> cases other <;> simp [name]

theorem Scalar.name_ne_anyType (scalar : Scalar) : scalar.name ≠ anyType := by
  cases scalar <;> decide

end Idl

namespace Outline

theorem entry_items (name : String) (index : Nat) (required : Bool) (outline : Outline) :
    Entry (outline.items name index required) := by
  cases outline with
  | scalar repeated kind => exact .field _
  | any => exact .field _
  | object repeated properties => exact .message _ _ _
  | union variants => exact .message _ _ _

theorem propertyItems_eq_flatMap (index : Nat) (properties : List (String × Bool × Outline)) :
    propertyItems index properties = (properties.zipIdx index).flatMap fun (property, index) =>
      property.2.2.items property.1 index property.2.1 := by
  induction properties generalizing index with
  | nil => rfl
  | cons property rest ih => rw [propertyItems, ih, List.zipIdx_cons, List.flatMap_cons]

theorem choiceItems_eq_flatMap (position : Nat) (variants : List Outline) :
    choiceItems position variants = (variants.zipIdx position).flatMap fun (variant, position) =>
      variant.items (variant.choiceName position) position false := by
  induction variants generalizing position with
  | nil => rfl
  | cons variant rest ih => rw [choiceItems, ih, List.zipIdx_cons, List.flatMap_cons]

/-- The items of an outline determine it, its name, and whether it is required. -/
def Readable (outline : Outline) : Prop :=
  ∀ {other : Outline} {name name' : String} {index index' : Nat} {required required' : Bool},
    outline.items name index required = other.items name' index' required' →
      name = name' ∧ required = required' ∧ outline = other

theorem propertyItems_inj {properties others : List (String × Bool × Outline)}
    (hread : ∀ property ∈ properties, property.2.2.Readable)
    (h : propertyItems 0 properties = propertyItems 0 others) : properties = others := by
  simp only [propertyItems_eq_flatMap] at h
  refine eq_of_flatMap_entries_eq (fun _ => entry_items _ _ _ _) ?_ h
  rintro ⟨name, required, outline⟩ hmem ⟨name', required', other⟩ index heq
  obtain ⟨rfl, rfl, rfl⟩ := hread _ hmem heq
  rfl

theorem choiceItems_inj {variants others : List Outline}
    (hread : ∀ variant ∈ variants, variant.Readable)
    (h : choiceItems 0 variants = choiceItems 0 others) : variants = others := by
  simp only [choiceItems_eq_flatMap] at h
  refine eq_of_flatMap_entries_eq (fun _ => entry_items _ _ _ _) ?_ h
  intro variant hmem other position heq
  exact (hread variant hmem heq).2.2

theorem readable (outline : Outline) : outline.Readable := by
  intro other name name' index index' required required' h
  induction outline generalizing other name name' index index' required required' with
  | scalar repeated kind =>
      cases other with
      | scalar repeated' kind' => simp_all [items, Scalar.name_inj]
      | _ => simp [items, Schema.unionItems, Scalar.name_ne_anyType] at h
  | any =>
      cases other with
      | any => simp_all [items]
      | _ => simp [items, Schema.unionItems, (Scalar.name_ne_anyType _).symm] at h
  | object repeated properties ih =>
      cases other with
      | object repeated' others =>
          simp only [items, List.cons.injEq, Item.message.injEq, Item.field.injEq,
            Field.mk.injEq] at h
          obtain ⟨⟨_, hbody⟩, ⟨rfl, _, _, rfl, rfl⟩, _⟩ := h
          have hproperties := propertyItems_inj (fun property hmem => ih property hmem) hbody
          exact ⟨rfl, rfl, congrArg _ hproperties⟩
      -- The message of a union has another suffix.
      | _ => simp [items, Schema.unionItems] at h
  | union variants ih =>
      cases other with
      | union others =>
          simp only [items, Schema.unionItems, List.cons.injEq, Item.message.injEq,
            Item.oneOf.injEq, Item.field.injEq, Field.mk.injEq] at h
          obtain ⟨⟨_, ⟨_, hchoices⟩, _⟩, ⟨rfl, _, _, _, rfl⟩, _⟩ := h
          have hvariants := choiceItems_inj (fun variant hmem => ih variant hmem) hchoices
          exact ⟨rfl, rfl, congrArg _ hvariants⟩
      | _ => simp [items, Schema.unionItems] at h

end Outline

/-- Two objects have the same message under a name exactly if they have the same outline: their
properties agree in name, order, shape, and in whether they are required, unless they accept every
value. -/
theorem ObjectSchema.message_faithful (members members' : List (String × Json)) (name : String)
    {message message' : Message}
    (h : ((ofMembers members).message name).result = .ok message)
    (h' : ((ofMembers members').message name).result = .ok message') :
    ∃ outlines outlines', (ofMembers members).outline? = some outlines ∧
      (ofMembers members').outline? = some outlines' ∧
      (message = message' ↔ outlines = outlines') := by
  obtain ⟨outlines, houtlines, rfl⟩ := message_eq_ok_iff_outline.mp h
  obtain ⟨outlines', houtlines', rfl⟩ := message_eq_ok_iff_outline.mp h'
  refine ⟨outlines, outlines', houtlines, houtlines', ?_, ?_⟩
  · intro heq
    exact Outline.propertyItems_inj (fun property _ => property.2.2.readable)
      (Message.mk.inj heq).2
  · rintro rfl
    rfl

/-- Keywords of an object with a text, a value of any kind and a choice, for given annotations. -/
def ObjectSchema.contact (annotations : List (String × Json)) (required : List Json) :
    List (String × Json) :=
  [("required", .array required),
    ("properties", .object [
      ("name", .object (annotations ++ [("type", .string "string")])),
      ("extra", .object []),
      ("reach", .object [("oneOf", .array [
        .object [("type", .string "string")],
        .object (("type", .string "number") :: annotations)])])])]

/-- Annotations make no difference to a message, nor does a requirement that says nothing, but a
required name does. -/
theorem ObjectSchema.message_faithful_contact :
    ∃ message annotated lenient,
      ((ofMembers (contact [] [.string "name"])).message "User").result = .ok message ∧
      ((ofMembers (contact [("title", .null)]
        [.string "extra", .null, .string "name"])).message "User").result = .ok annotated ∧
      ((ofMembers (contact [] [])).message "User").result = .ok lenient ∧
      message = annotated ∧ message ≠ lenient := by
  refine ⟨_, _, _, rfl, rfl, rfl, ?_, ?_⟩
  · obtain ⟨outlines, outlines', houtlines, houtlines', hiff⟩ :=
      message_faithful (contact [] [.string "name"])
        (contact [("title", .null)] [.string "extra", .null, .string "name"]) "User" rfl rfl
    refine hiff.mpr (Option.some.inj ?_)
    rw [← houtlines, ← houtlines']
    rfl
  · obtain ⟨outlines, outlines', houtlines, houtlines', hiff⟩ :=
      message_faithful (contact [] [.string "name"]) (contact [] []) "User" rfl rfl
    refine mt hiff.mp fun heq => ?_
    have hsome : (ofMembers (contact [] [.string "name"])).outline? =
        (ofMembers (contact [] [])).outline? := by
      rw [houtlines, houtlines', heq]
    cases hsome

end RouteIdl
