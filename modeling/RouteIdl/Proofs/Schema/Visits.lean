import RouteIdl.Proofs.Schema.Classification
import RouteIdl.Schema.Items

/-!
# Visited schema nodes

The nodes of a schema that compilation takes up: a node before those below it, properties and
alternatives in the order in which they are listed. The visits are read off the schema as written,
without its classified form.
-/

namespace RouteIdl

/-- A schema node that compilation takes up: the field that it is to become, its number, whether it
is required, and the schema as written. -/
structure Visit where
  /-- The name of the field. -/
  field : String
  /-- The position among the properties or alternatives. -/
  index : Nat
  /-- Whether the enclosing object requires the field. -/
  required : Bool
  /-- The schema. -/
  node : Json

namespace Visit

open Schema

/-- The report that a node is taken up. -/
def event (visit : Visit) : Event :=
  .propertyStarted visit.field visit.index visit.required (ofJson visit.node).toJson

/-- The refusal of a node. It shows the schema as written. -/
def error (visit : Visit) : CompileError :=
  .invalidProperty visit.field visit.node

/-- The items that a node contributes. -/
def items (visit : Visit) : Traced (List Idl.Item) :=
  Schema.items visit.field visit.index visit.required (ofJson visit.node)

/-- The properties of an object, the first of them at a given position. -/
def ofProperties (required : NameSet) (index : Nat) : List (String × Json) → List Visit
  | [] => []
  | (name, node) :: rest =>
      ⟨name, index, decide (name ∈ required), node⟩ :: ofProperties required (index + 1) rest

/-- The alternatives of a union, the first of them at a given position. -/
def ofVariants (position : Nat) : List Json → List Visit
  | [] => []
  | node :: rest =>
      ⟨choiceName position (ofJson node), position, false, node⟩ :: ofVariants (position + 1) rest

/-- The properties that the keywords of an object schema declare. -/
def ofKeywords (members : List (String × Json)) : List Visit :=
  ofProperties (NameSet.ofList (requiredNames (members.lookup "required"))) 0
    (propertyNodes members)

/-- The visits right below a node. The items of an array are not visited themselves; if they are
objects, their properties are. -/
def below : Json → List Visit
  | .object members =>
      match typeKeyword? members with
      | some "object" => ofKeywords members
      | some "array" =>
          match members.lookup "items" with
          | some (.object inner) =>
              if typeKeyword? inner = some "object" then ofKeywords inner else []
          | _ => []
      | _ => ofVariants 0 ((variantNodes? members).getD [])
  | _ => []

theorem below_of_type_object {members : List (String × Json)}
    (h : typeKeyword? members = some "object") : below (.object members) = ofKeywords members := by
  simp only [below, h]

section Items

variable {members : List (String × Json)} {node : Json}

theorem below_of_items_object {inner : List (String × Json)}
    (h : typeKeyword? members = some "array")
    (hitems : members.lookup "items" = some (.object inner))
    (hinner : typeKeyword? inner = some "object") :
    below (.object members) = ofKeywords inner := by
  simp only [below, h, hitems, hinner, if_true]

theorem below_of_items_other (h : typeKeyword? members = some "array")
    (hitems : members.lookup "items" = some node)
    (hnode : ∀ inner, node = .object inner → typeKeyword? inner ≠ some "object") :
    below (.object members) = [] := by
  simp only [below, h, hitems]
  split
  next inner hinner => exact if_neg (hnode inner (Option.some.inj hinner))
  next => rfl

end Items

theorem below_of_type_other {members : List (String × Json)}
    (hobject : typeKeyword? members ≠ some "object")
    (harray : typeKeyword? members ≠ some "array") :
    below (.object members) = ofVariants 0 ((variantNodes? members).getD []) := by
  simp only [below]

theorem mem_of_mem_ofProperties {required : NameSet} {index : Nat}
    {properties : List (String × Json)} {visit : Visit}
    (h : visit ∈ ofProperties required index properties) :
    (visit.field, visit.node) ∈ properties := by
  induction properties generalizing index with
  | nil => simp [ofProperties] at h
  | cons property rest ih =>
      rcases List.mem_cons.mp h with rfl | hrest
      · exact List.mem_cons_self
      · exact List.mem_cons_of_mem _ (ih hrest)

theorem mem_of_mem_ofVariants {position : Nat} {variants : List Json} {visit : Visit}
    (h : visit ∈ ofVariants position variants) : visit.node ∈ variants := by
  induction variants generalizing position with
  | nil => simp [ofVariants] at h
  | cons variant rest ih =>
      rcases List.mem_cons.mp h with rfl | hrest
      · exact List.mem_cons_self
      · exact List.mem_cons_of_mem _ (ih hrest)

section Size

variable {members : List (String × Json)} {key : String} {value : Json}

theorem sizeOf_value_lt (h : (key, value) ∈ members) : sizeOf value < sizeOf members := by
  have hmember := List.sizeOf_lt_of_mem h
  simp only [Prod.mk.sizeOf_spec] at hmember
  omega

theorem sizeOf_lookup_lt (h : members.lookup key = some value) :
    sizeOf value < sizeOf members := by
  obtain ⟨before, after, rfl, _⟩ := List.lookup_eq_some_iff.mp h
  have hmem : (key, value) ∈ before ++ (key, value) :: after :=
    List.mem_append_right before List.mem_cons_self
  exact sizeOf_value_lt hmem

theorem sizeOf_lt_of_mem_propertyNodes (h : (key, value) ∈ propertyNodes members) :
    sizeOf value < sizeOf members := by
  unfold propertyNodes at h
  cases hlookup : members.lookup "properties" with
  | none => simp [hlookup] at h
  | some keyword =>
      have hkeyword := sizeOf_lookup_lt hlookup
      cases keyword with
      | object inner =>
          have hinner := sizeOf_value_lt (by simpa [hlookup, Json.members?] using h)
          simp only [Json.object.sizeOf_spec] at hkeyword
          omega
      | _ => simp [hlookup, Json.members?] at h

theorem sizeOf_lt_of_mem_variantNodes (h : value ∈ (variantNodes? members).getD []) :
    sizeOf value < sizeOf members := by
  unfold variantNodes? at h
  cases hlookup : members.lookup "oneOf" with
  | none => simp [hlookup] at h
  | some keyword =>
      have hkeyword := sizeOf_lookup_lt hlookup
      cases keyword with
      | array elements =>
          have hinner := List.sizeOf_lt_of_mem
            (by simpa [hlookup, Json.elements?] using h : value ∈ elements)
          simp only [Json.array.sizeOf_spec] at hkeyword
          omega
      | _ => simp [hlookup, Json.elements?] at h

theorem sizeOf_lt_of_mem_ofKeywords {visit : Visit} (h : visit ∈ ofKeywords members) :
    sizeOf visit.node < sizeOf members :=
  sizeOf_lt_of_mem_propertyNodes (mem_of_mem_ofProperties h)

theorem sizeOf_lt_of_mem_ofVariants {visit : Visit} {position : Nat}
    (h : visit ∈ ofVariants position ((variantNodes? members).getD [])) :
    sizeOf visit.node < sizeOf members :=
  sizeOf_lt_of_mem_variantNodes (mem_of_mem_ofVariants h)

theorem sizeOf_lt_of_mem_below {node : Json} {visit : Visit} (h : visit ∈ below node) :
    sizeOf visit.node < sizeOf node := by
  unfold below at h
  split at h
  next members =>
    simp only [Json.object.sizeOf_spec]
    split at h
    · have := sizeOf_lt_of_mem_ofKeywords h
      omega
    · split at h
      -- The visits below an array are two levels down, in the items.
      next inner hitems =>
        have hinner := sizeOf_lookup_lt hitems
        simp only [Json.object.sizeOf_spec] at hinner
        split at h
        · have := sizeOf_lt_of_mem_ofKeywords h
          omega
        · simp at h
      next => simp at h
    · have := sizeOf_lt_of_mem_ofVariants h
      omega
  next => simp at h

end Size

/-- The visits that a node gives rise to: the node itself and then, one after the other, all that
the nodes right below it give rise to. -/
def all (visit : Visit) : List Visit :=
  visit :: (below visit.node).attach.flatMap fun child => all child.1
termination_by sizeOf visit.node
decreasing_by exact sizeOf_lt_of_mem_below child.2

theorem all_eq (visit : Visit) : visit.all = visit :: (below visit.node).flatMap all := by
  rw [all, List.flatMap_subtype (g := all) (fun _ _ => rfl), List.unattach_attach]

end Visit

namespace Schema

/-- The schemas that the keywords of a schema object hold. -/
def subschemas (members : List (String × Json)) : List Json :=
  (propertyNodes members).map Prod.snd ++ (members.lookup "items").toList ++
    (variantNodes? members).getD []

section Subschemas

variable {members : List (String × Json)}

theorem mem_subschemas_of_property {property : String × Json}
    (h : property ∈ propertyNodes members) : property.2 ∈ subschemas members := by
  simp only [subschemas, List.mem_append]
  exact .inl (.inl (List.mem_map_of_mem h))

theorem mem_subschemas_of_items {node : Json} (h : members.lookup "items" = some node) :
    node ∈ subschemas members := by
  simp [subschemas, h]

theorem mem_subschemas_of_variant {variants : List Json} {node : Json}
    (hvariants : variantNodes? members = some variants) (h : node ∈ variants) :
    node ∈ subschemas members := by
  simp [subschemas, hvariants, h]

theorem sizeOf_lt_of_mem_subschemas {child : Json} (h : child ∈ subschemas members) :
    sizeOf child < sizeOf members := by
  simp only [subschemas, List.mem_append, List.mem_map, Option.mem_toList] at h
  rcases h with (⟨property, hproperty, rfl⟩ | hitems) | hvariant
  · exact Visit.sizeOf_lt_of_mem_propertyNodes hproperty
  · exact Visit.sizeOf_lookup_lt hitems
  · exact Visit.sizeOf_lt_of_mem_variantNodes hvariant

end Subschemas

/-- Induction over schemas as they are written, with a hypothesis for every schema that a keyword
holds. -/
@[elab_as_elim]
theorem node_induct {motive : Json → Prop}
    (object : ∀ members, (∀ child ∈ subschemas members, motive child) →
      motive (.object members))
    (other : ∀ node, (∀ members, node ≠ .object members) → motive node) (node : Json) :
    motive node :=
  match node with
  | .object members => object members fun child hchild =>
      have := sizeOf_lt_of_mem_subschemas hchild
      node_induct object other child
  | .null => other _ nofun
  | .bool _ => other _ nofun
  | .integer _ => other _ nofun
  | .float _ => other _ nofun
  | .string _ => other _ nofun
  | .array _ => other _ nofun
termination_by sizeOf node
decreasing_by simp only [Json.object.sizeOf_spec]; omega

end Schema

end RouteIdl
