import RouteIdl.Proofs.Json.Members
import RouteIdl.Proofs.Schema.Outline
import RouteIdl.Proofs.Schema.Visits

/-!
# Outlines by keywords

The outline of a schema as it is written. Five keywords count, each at its first occurrence:
the type, the properties, the required names, the items and the alternatives. Beyond them it only
matters whether there is any keyword at all.
-/

namespace RouteIdl

open Idl Schema

mutual

/-- A schema, as written, has an outline. -/
inductive Outlined : Json → Outline → Prop where
  /-- Without keywords, every value is accepted. -/
  | any : Outlined (.object []) .any
  | scalar {members : List (String × Json)} {scalar : Scalar}
      (htype : typeKeyword? members = some scalar.kind) (hvariants : variantNodes? members = none) :
      Outlined (.object members) (.scalar false scalar)
  | object {members : List (String × Json)} {outlines : List (String × Bool × Outline)}
      (htype : typeKeyword? members = some "object")
      (hproperties : PropertiesOutlined (requiredNames (members.lookup "required"))
        (propertyNodes members) outlines) :
      Outlined (.object members) (.object false outlines)
  | list {members : List (String × Json)} {node : Json} {item outline : Outline}
      (htype : typeKeyword? members = some "array") (hitems : members.lookup "items" = some node)
      (hnode : Outlined node item) (hlisted : item.listed? = some outline) :
      Outlined (.object members) outline
  /-- Alternatives count for every type but those of objects and lists. -/
  | union {members : List (String × Json)} {nodes : List Json} {outlines : List Outline}
      (hobject : typeKeyword? members ≠ some "object")
      (harray : typeKeyword? members ≠ some "array")
      (hnodes : variantNodes? members = some nodes) (hvariants : VariantsOutlined nodes outlines) :
      Outlined (.object members) (.union outlines)

/-- Properties, as written, have outlines. Of the required names only those count that are names of
properties, and only for properties that do not accept every value. -/
inductive PropertiesOutlined :
    List String → List (String × Json) → List (String × Bool × Outline) → Prop where
  | nil {required : List String} : PropertiesOutlined required [] []
  | cons {required : List String} {name : String} {node : Json} {rest : List (String × Json)}
      {outline : Outline} {others : List (String × Bool × Outline)}
      (hnode : Outlined node outline) (hrest : PropertiesOutlined required rest others) :
      PropertiesOutlined required ((name, node) :: rest)
        ((name, outline.marks (name ∈ required), outline) :: others)

/-- Alternatives, as written, have outlines. -/
inductive VariantsOutlined : List Json → List Outline → Prop where
  | nil : VariantsOutlined [] []
  | cons {node : Json} {rest : List Json} {outline : Outline} {others : List Outline}
      (hnode : Outlined node outline) (hrest : VariantsOutlined rest others) :
      VariantsOutlined (node :: rest) (outline :: others)

end

theorem propertiesOutlined_iff {required : List String} {names : NameSet}
    {nodes : List (String × Json)} {outlines : List (String × Bool × Outline)}
    (hnames : ∀ name, name ∈ required ↔ name ∈ names)
    (hnodes : ∀ property ∈ nodes, ∀ outline,
      Outlined property.2 outline ↔ (ofJson property.2).outline? = some outline) :
    PropertiesOutlined required nodes outlines ↔
      propertyOutlines? names (nodes.map fun property => (property.1, ofJson property.2)) =
        some outlines := by
  induction nodes generalizing outlines with
  | nil =>
      simp only [List.map_nil, propertyOutlines?, Option.some.injEq]
      constructor
      · rintro ⟨⟩
        rfl
      · rintro rfl
        exact .nil
  | cons property rest ih =>
      obtain ⟨name, node⟩ := property
      obtain ⟨hnode, hrest⟩ := List.forall_mem_cons.mp hnodes
      rw [List.map_cons, propertyOutlines?_cons_eq_some_iff]
      simp only [← hnode, ← ih hrest, ← hnames]
      constructor
      · rintro ⟨⟩
        exact ⟨_, _, ‹_›, ‹_›, rfl⟩
      · rintro ⟨outline, others, houtline, hothers, rfl⟩
        exact .cons houtline hothers

theorem variantsOutlined_iff {nodes : List Json} {outlines : List Outline}
    (hnodes : ∀ node ∈ nodes, ∀ outline,
      Outlined node outline ↔ (ofJson node).outline? = some outline) :
    VariantsOutlined nodes outlines ↔ variantOutlines? (nodes.map ofJson) = some outlines := by
  induction nodes generalizing outlines with
  | nil =>
      simp only [List.map_nil, variantOutlines?, Option.some.injEq]
      constructor
      · rintro ⟨⟩
        rfl
      · rintro rfl
        exact .nil
  | cons node rest ih =>
      obtain ⟨hnode, hrest⟩ := List.forall_mem_cons.mp hnodes
      rw [List.map_cons, variantOutlines?_cons_eq_some_iff]
      simp only [← hnode, ← ih hrest]
      constructor
      · rintro ⟨⟩
        exact ⟨_, _, ‹_›, ‹_›, rfl⟩
      · rintro ⟨outline, others, houtline, hothers, rfl⟩
        exact .cons houtline hothers

section Object

variable {members : List (String × Json)} {outline : Outline}
  (ih : ∀ child ∈ subschemas members, ∀ outline,
    Outlined child outline ↔ (ofJson child).outline? = some outline)

include ih

theorem propertiesOutlined_iff_of_subschemas {outlines : List (String × Bool × Outline)} :
    PropertiesOutlined (requiredNames (members.lookup "required")) (propertyNodes members)
        outlines ↔
      propertyOutlines? (NameSet.ofList (requiredNames (members.lookup "required")))
        ((propertyNodes members).map fun property => (property.1, ofJson property.2)) =
          some outlines := by
  refine propertiesOutlined_iff (fun name => NameSet.mem_ofList.symm) ?_
  intro property hproperty
  exact ih _ (mem_subschemas_of_property hproperty)

theorem outline?_of_outlined (h : Outlined (.object members) outline) :
    (ofJson (.object members)).outline? = some outline := by
  cases h with
  | any => rfl
  | @scalar _ scalar htype hvariants =>
      rw [ofJson_of_type_other (by cases scalar <;> simp [htype, Scalar.kind])
        (by cases scalar <;> simp [htype, Scalar.kind]), hvariants, htype]
      simp [outline?, Scalar.ofKind?_eq_some_iff.mpr rfl]
  | object htype hproperties =>
      rw [ofJson_of_type_object htype, outline?,
        (propertiesOutlined_iff_of_subschemas ih).mp hproperties, Option.map_some]
  | list htype hitems hnode hlisted =>
      have hinner := (ih _ (mem_subschemas_of_items hitems) _).mp hnode
      rw [ofJson_of_type_array htype, hitems]
      simp [outline?, hinner, hlisted]
  | union hobject harray hnodes hvariants =>
      have houtlines := (variantsOutlined_iff fun node hnode =>
        ih node (mem_subschemas_of_variant hnodes hnode)).mp hvariants
      rw [ofJson_of_type_other hobject harray, hnodes]
      simp [outline?, houtlines]

theorem outlined_of_outline? (h : (ofJson (.object members)).outline? = some outline) :
    Outlined (.object members) outline := by
  by_cases hobject : typeKeyword? members = some "object"
  · rw [ofJson_of_type_object hobject] at h
    obtain ⟨outlines, houtlines, rfl⟩ := Option.map_eq_some_iff.mp h
    exact .object hobject ((propertiesOutlined_iff_of_subschemas ih).mpr houtlines)
  by_cases harray : typeKeyword? members = some "array"
  · rw [ofJson_of_type_array harray] at h
    cases hitems : members.lookup "items" with
    | none => simp [hitems, outline?] at h
    | some node =>
        simp only [hitems] at h
        obtain ⟨item, hitem, hlisted⟩ := Option.bind_eq_some_iff.mp h
        have hnode := (ih _ (mem_subschemas_of_items hitems) _).mpr hitem
        exact .list harray hitems hnode hlisted
  rw [ofJson_of_type_other hobject harray] at h
  cases hnodes : variantNodes? members with
  | some nodes =>
      simp only [hnodes] at h
      obtain ⟨outlines, houtlines, rfl⟩ := Option.map_eq_some_iff.mp h
      refine .union hobject harray hnodes ?_
      exact (variantsOutlined_iff fun node hnode =>
        ih node (mem_subschemas_of_variant hnodes hnode)).mpr houtlines
  | none =>
      cases htype : typeKeyword? members with
      | some kind =>
          simp only [hnodes, htype] at h
          obtain ⟨scalar, hkind, rfl⟩ := Option.map_eq_some_iff.mp h
          rw [Scalar.ofKind?_eq_some_iff.mp hkind] at htype
          exact .scalar htype hnodes
      | none =>
          simp only [hnodes, htype] at h
          split at h
          next hempty =>
            subst hempty
            cases h
            exact .any
          next => cases h

end Object

/-- The keywords tell the outline that the classified schema has. -/
theorem outlined_iff (node : Json) (outline : Outline) :
    Outlined node outline ↔ (ofJson node).outline? = some outline := by
  induction node using node_induct generalizing outline with
  | object members ih => exact ⟨outline?_of_outlined ih, outlined_of_outline? ih⟩
  | other node hnode =>
      rw [ofJson_of_not_object hnode]
      constructor
      · intro h
        cases h <;> exact absurd rfl (hnode _)
      · rintro ⟨⟩

/-- Two schemas, as written, have the same outline or both have none. -/
def SameOutline (node other : Json) : Prop :=
  ∀ outline, Outlined node outline ↔ Outlined other outline

theorem SameOutline.symm {node other : Json} (h : SameOutline node other) :
    SameOutline other node :=
  fun outline => (h outline).symm

theorem rel_symm {α : Type} {related : α → α → Prop} (hsymm : ∀ x y, related x y → related y x)
    {a b : Option α} (h : Option.Rel related a b) : Option.Rel related b a := by
  cases h with
  | some hrelated => exact .some (hsymm _ _ hrelated)
  | none => exact .none

/-- Two schema objects differ at most in what has no place in an outline: in keywords without
meaning, in the order of keywords, in required names without a property, and within the schemas
that keywords hold. -/
structure SameKeywords (members others : List (String × Json)) : Prop where
  empty : members = [] ↔ others = []
  type : typeKeyword? members = typeKeyword? others
  properties : Json.Matching SameOutline (propertyNodes members) (propertyNodes others)
  required : ∀ name ∈ (propertyNodes members).map Prod.fst,
    (name ∈ requiredNames (members.lookup "required") ↔
      name ∈ requiredNames (others.lookup "required"))
  items : Option.Rel SameOutline (members.lookup "items") (others.lookup "items")
  variants : Option.Rel (List.Forall₂ SameOutline) (variantNodes? members) (variantNodes? others)

namespace SameKeywords

variable {members others : List (String × Json)}

theorem symm (h : SameKeywords members others) : SameKeywords others members where
  empty := h.empty.symm
  type := h.type.symm
  properties := h.properties.symm fun _ _ => SameOutline.symm
  required name hname := (h.required name (h.properties.keys_eq ▸ hname)).symm
  items := rel_symm (fun _ _ => SameOutline.symm) h.items
  variants := rel_symm (fun _ _ hsame => (hsame.imp fun _ _ => SameOutline.symm).flip) h.variants

end SameKeywords

theorem PropertiesOutlined.congr {required required' : List String}
    {nodes nodes' : List (String × Json)} {outlines : List (String × Bool × Outline)}
    (hnodes : Json.Matching SameOutline nodes nodes')
    (hrequired : ∀ name ∈ nodes.map Prod.fst, (name ∈ required ↔ name ∈ required'))
    (h : PropertiesOutlined required nodes outlines) :
    PropertiesOutlined required' nodes' outlines := by
  unfold Json.Matching at hnodes
  induction hnodes generalizing outlines with
  | nil =>
      cases h
      exact .nil
  | @cons property other rest others hfirst _ ih =>
      obtain ⟨name, node⟩ := property
      obtain ⟨name', node'⟩ := other
      obtain ⟨rfl, hsame⟩ := hfirst
      obtain ⟨hname, hrest⟩ := List.forall_mem_cons.mp hrequired
      cases h with
      | @cons _ _ _ _ outline _ hnode hothers =>
          simp only [hname]
          exact .cons ((hsame outline).mp hnode) (ih hrest hothers)

theorem VariantsOutlined.congr {nodes nodes' : List Json} {outlines : List Outline}
    (hnodes : List.Forall₂ SameOutline nodes nodes') (h : VariantsOutlined nodes outlines) :
    VariantsOutlined nodes' outlines := by
  induction hnodes generalizing outlines with
  | nil =>
      cases h
      exact .nil
  | cons hsame _ ih =>
      cases h with
      | cons hnode hothers => exact .cons ((hsame _).mp hnode) (ih hothers)

theorem SameKeywords.outlined {members others : List (String × Json)}
    (hsame : SameKeywords members others) {outline : Outline}
    (h : Outlined (.object members) outline) : Outlined (.object others) outline := by
  cases h with
  | any =>
      rw [hsame.empty.mp rfl]
      exact .any
  | scalar htype hvariants =>
      refine .scalar (hsame.type ▸ htype) ?_
      have hnone := hsame.variants
      rw [hvariants] at hnone
      generalize variantNodes? others = nodes at hnone
      cases hnone
      rfl
  | object htype hproperties =>
      exact .object (hsame.type ▸ htype) (hproperties.congr hsame.properties hsame.required)
  | list htype hitems hnode hlisted =>
      have hother := hsame.items
      rw [hitems] at hother
      generalize hlookup : others.lookup "items" = item at hother
      cases hother with
      | some hsame' => exact .list (hsame.type ▸ htype) hlookup ((hsame' _).mp hnode) hlisted
  | union hobject harray hnodes hvariants =>
      have hother := hsame.variants
      rw [hnodes] at hother
      generalize hlookup : variantNodes? others = nodes at hother
      cases hother with
      | some hsame' =>
          exact .union (hsame.type ▸ hobject) (hsame.type ▸ harray) hlookup
            (hvariants.congr hsame')

/-- What has no place in an outline makes no difference to it, at whatever depth. -/
theorem SameKeywords.sameOutline {members others : List (String × Json)}
    (h : SameKeywords members others) : SameOutline (.object members) (.object others) :=
  fun _ => ⟨h.outlined, h.symm.outlined⟩

end RouteIdl
