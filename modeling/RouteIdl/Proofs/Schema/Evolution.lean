import RouteIdl.Proofs.Schema.Translation

/-!
# Evolution of object schemas

What becomes of a message when its schema grows. Properties are taken up one after the other, and of
the required names each sees only its own, so that further properties leave the items before them as
they are and come too late to change the first error.
-/

namespace RouteIdl

open Idl
open Traced (result_bind_eq_ok result_bind_eq_error result_report_bind)

namespace Schema

variable {names others : NameSet} {properties rest : List (String × Schema)} {error : CompileError}

/-- Of the required names, those that are no property do not matter. -/
theorem propertyItems_congr {index : Nat}
    (h : ∀ property ∈ properties, (property.1 ∈ names ↔ property.1 ∈ others)) :
    propertyItems names index properties = propertyItems others index properties := by
  induction properties generalizing index with
  | nil => rfl
  | cons property rest ih =>
      obtain ⟨hfirst, hrest⟩ := List.forall_mem_cons.mp h
      simp only [propertyItems, decide_eq_decide.mpr hfirst, ih hrest]

/-- Further properties are taken up after the others, with the positions that come next. -/
theorem propertyItems_append {index : Nat} :
    propertyItems names index (properties ++ rest) =
      propertyItems names index properties >>= fun body =>
        propertyItems names (index + properties.length) rest >>= fun others =>
          pure (body ++ others) := by
  induction properties generalizing index with
  | nil => simp [propertyItems]
  | cons property properties ih =>
      have hposition : index + (properties.length + 1) = index + 1 + properties.length := by omega
      simp only [List.cons_append, propertyItems, ih, bind_assoc, pure_bind, List.append_assoc,
        List.length_cons, hposition]

/-! ## Errors -/

/-- Nothing but a refused property ends a computation. -/
def RefusesProperties {α : Type} (computation : Traced α) : Prop :=
  ∀ error, computation.result = .error error → ∃ field node, error = .invalidProperty field node

theorem refusesProperties_pure {α : Type} (value : α) :
    RefusesProperties (pure value : Traced α) :=
  fun _ h => by cases h

theorem refusesProperties_fail {α : Type} (field : String) (node : Json) :
    RefusesProperties (Traced.fail (.invalidProperty field node) : Traced α) := by
  intro error h
  cases h
  exact ⟨field, node, rfl⟩

theorem refusesProperties_report (event : Event) : RefusesProperties (Traced.report event) :=
  fun _ h => by cases h

theorem RefusesProperties.bind {α β : Type} {first : Traced α} {next : α → Traced β}
    (hfirst : RefusesProperties first) (hnext : ∀ value, RefusesProperties (next value)) :
    RefusesProperties (first >>= next) := by
  intro error h
  rcases result_bind_eq_error.mp h with h | ⟨value, -, h⟩
  · exact hfirst error h
  · exact hnext value error h

theorem refusesProperties_scalarType (name kind : String) (source : Json) :
    RefusesProperties (scalarType name kind source) := by
  unfold scalarType
  split
  · exact refusesProperties_pure _
  · exact refusesProperties_fail name source

theorem refusesProperties_propertyItems
    (h : ∀ property ∈ properties, ∀ name index required,
      RefusesProperties (items name index required property.2)) (index : Nat) :
    RefusesProperties (propertyItems names index properties) := by
  induction properties generalizing index with
  | nil => exact refusesProperties_pure []
  | cons property rest ih =>
      obtain ⟨hfirst, hrest⟩ := List.forall_mem_cons.mp h
      rw [propertyItems]
      refine (hfirst _ _ _).bind fun first => ?_
      exact (ih hrest _).bind fun others => refusesProperties_pure (first ++ others)

theorem refusesProperties_choiceItems {variants : List Schema}
    (h : ∀ variant ∈ variants, ∀ name index required,
      RefusesProperties (items name index required variant)) (position : Nat) :
    RefusesProperties (choiceItems position variants) := by
  induction variants generalizing position with
  | nil => exact refusesProperties_pure []
  | cons variant rest ih =>
      obtain ⟨hfirst, hrest⟩ := List.forall_mem_cons.mp h
      rw [choiceItems]
      refine (hfirst _ _ _).bind fun first => ?_
      exact (ih hrest _).bind fun others => refusesProperties_pure (first ++ others)

theorem refusesProperties_items (schema : Schema) :
    ∀ name index required, RefusesProperties (items name index required schema) := by
  induction schema with
  | primitive kind source =>
      intro name index required
      rw [items]
      refine (refusesProperties_report _).bind fun _ => ?_
      exact (refusesProperties_scalarType name kind source).bind fun _ => refusesProperties_pure _
  | object properties names ih =>
      intro name index required
      rw [items]
      refine (refusesProperties_report _).bind fun _ => ?_
      exact (refusesProperties_propertyItems ih 0).bind fun _ => refusesProperties_pure _
  | array inner source ih =>
      intro name index required
      cases inner with
      | object properties names =>
          -- The items of a list are translated as those of an object of that name are.
          have hbody : RefusesProperties (propertyItems names 0 properties) := by
            intro error h
            apply ih name index required error
            rw [items, result_report_bind]
            exact result_bind_eq_error.mpr (.inl h)
          rw [items]
          refine (refusesProperties_report _).bind fun _ => ?_
          exact hbody.bind fun _ => refusesProperties_pure _
      | primitive kind inner =>
          rw [items]
          refine (refusesProperties_report _).bind fun _ => ?_
          exact (refusesProperties_scalarType name kind source).bind fun _ =>
            refusesProperties_pure _
      | _ =>
          rw [items]
          · exact (refusesProperties_report _).bind fun _ => refusesProperties_fail name source
          all_goals simp
  | union variants ih =>
      intro name index required
      rw [items]
      refine (refusesProperties_report _).bind fun _ => ?_
      exact (refusesProperties_choiceItems ih 0).bind fun _ => refusesProperties_pure _
  | any =>
      intro name index required
      rw [items]
      exact (refusesProperties_report _).bind fun _ => refusesProperties_pure _
  | unrecognized source =>
      intro name index required
      rw [items]
      exact (refusesProperties_report _).bind fun _ => refusesProperties_fail name source

end Schema

/-! ## Growing shapes -/

namespace ObjectSchema

/-- A shape goes on where another one ends: with further properties, and with further required names
of which none is a property of the other. -/
structure Extends (later earlier : ObjectSchema) : Prop where
  properties : earlier.properties <+: later.properties
  kept : ∀ name ∈ earlier.required, name ∈ later.required
  added : ∀ name ∈ later.required, name ∈ earlier.required ∨
    name ∉ earlier.properties.map Prod.fst

variable {later earlier : ObjectSchema}

theorem Extends.required_iff (h : later.Extends earlier) :
    ∀ property ∈ earlier.properties,
      (property.1 ∈ later.required ↔ property.1 ∈ earlier.required) := by
  intro property hproperty
  refine ⟨fun hlater => ?_, h.kept property.1⟩
  apply (h.added property.1 hlater).resolve_right
  exact fun hfresh => hfresh (List.mem_map_of_mem hproperty)

theorem refusesProperties_message (shape : ObjectSchema) (name : String) :
    Schema.RefusesProperties (shape.message name) := by
  unfold message
  refine (Schema.refusesProperties_propertyItems ?_ 0).bind fun _ =>
    Schema.refusesProperties_pure _
  exact fun property _ => Schema.refusesProperties_items property.2

/-- The items of the later shape are those of the earlier one, as that has them, and then its
own. -/
theorem Extends.message_eq (h : later.Extends earlier) (name : String) :
    ∃ rest, later.message name =
      earlier.message name >>= fun kept =>
        Schema.propertyItems later.required earlier.properties.length rest >>= fun others =>
          pure ⟨name, kept.items ++ others⟩ := by
  obtain ⟨rest, hrest⟩ := h.properties
  refine ⟨rest, ?_⟩
  rw [message, message, ← hrest, Schema.propertyItems_append,
    Schema.propertyItems_congr h.required_iff, Nat.zero_add]
  simp only [bind_assoc, pure_bind]

/-- A message only grows at its end when its schema does. If the later schema has a message, so has
the earlier one, and that is where the items of the later one begin; what refuses the earlier schema
refuses the later one as well. -/
theorem message_append_only (h : later.Extends earlier) (name : String) :
    (∀ message, (later.message name).result = .ok message →
      ∃ kept, (earlier.message name).result = .ok kept ∧ kept.items <+: message.items) ∧
    ∀ error, (earlier.message name).result = .error error →
      (∃ field node, error = .invalidProperty field node) ∧
        (later.message name).result = .error error := by
  obtain ⟨rest, hlater⟩ := h.message_eq name
  rw [hlater]
  constructor
  · intro message hmessage
    obtain ⟨kept, hkept, hmessage⟩ := result_bind_eq_ok.mp hmessage
    obtain ⟨others, -, hmessage⟩ := result_bind_eq_ok.mp hmessage
    cases hmessage
    exact ⟨kept, hkept, List.prefix_append kept.items others⟩
  · intro error herror
    exact ⟨refusesProperties_message earlier name error herror,
      result_bind_eq_error.mpr (.inl herror)⟩

/-- A part with a number that it requires and a property of a given shape. -/
def part (shape : Schema) : ObjectSchema :=
  ⟨[("number", .primitive "number" .null), ("state", shape)], NameSet.ofList ["number"]⟩

/-- The same part with a list of tags, which it requires, as it does a name that is no property. -/
def taggedPart (shape : Schema) : ObjectSchema :=
  ⟨(part shape).properties ++ [("tags", .array (.primitive "string" .null) .null)],
    NameSet.ofList ["tags", "number", "owner"]⟩

theorem taggedPart_extends (shape : Schema) : (taggedPart shape).Extends (part shape) where
  properties := List.prefix_append _ _
  kept name hname := by
    rw [part, NameSet.mem_ofList] at hname
    rw [taggedPart, NameSet.mem_ofList]
    simp_all
  added name hname := by
    rw [taggedPart, NameSet.mem_ofList] at hname
    rw [part, NameSet.mem_ofList]
    simp only [List.mem_cons, List.map_cons] at hname ⊢
    rcases hname with rfl | rfl | rfl | hname <;> simp_all

/-- Tags come after the items that a part had before, and a part that is refused for its state stays
refused for it. -/
theorem message_append_only_tagged :
    (taggedPart (.object [] ∅)).Extends (part (.object [] ∅)) ∧
      (taggedPart (.unrecognized .null)).Extends (part (.unrecognized .null)) ∧
      (∃ kept message, ((part (.object [] ∅)).message "Part").result = .ok kept ∧
        ((taggedPart (.object [] ∅)).message "Part").result = .ok message ∧
        kept.items <+: message.items ∧ kept.items.length = 3 ∧ message.items.length = 4) ∧
      ((taggedPart (.unrecognized .null)).message "Part").result =
        .error (.invalidProperty "state" .null) := by
  have hgrown := taggedPart_extends (.object [] ∅)
  have hrefused := taggedPart_extends (.unrecognized .null)
  refine ⟨hgrown, hrefused, ?_, ?_⟩
  · obtain ⟨message, hmessage⟩ : ∃ message,
        ((taggedPart (.object [] ∅)).message "Part").result = .ok message := ⟨_, rfl⟩
    obtain ⟨kept, hkept, hprefix⟩ := (message_append_only hgrown "Part").1 message hmessage
    refine ⟨kept, message, hkept, hmessage, hprefix, ?_, ?_⟩
    · cases hkept
      rfl
    · cases hmessage
      rfl
  · exact ((message_append_only hrefused "Part").2 _ rfl).2

end ObjectSchema

end RouteIdl
