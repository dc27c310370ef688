import RouteIdl.Proofs.Compilation.Pass
import RouteIdl.Proofs.Idl.ReadBack

/-!
# Presence styles

What the style of a document decides: how the lines of required fields are marked, and nothing else.
A line comes from a row, and rows know no style, so that two styles are compared line by line.
-/

namespace RouteIdl

open Idl

namespace PresenceStyle

/-- What marks a required field. -/
def qualifier : PresenceStyle → String
  | label => "required "
  | fieldOption => " [(msp.field).required = true]"
  | comment => " // required"

/-- A line at a depth without its qualifier, if that stands in its place: right after the
indentation, right before the semicolon at the end, or right after it. -/
def unqualified? (style : PresenceStyle) (depth : Nat) (line : String) : Option String :=
  match style with
  | label => (line.toList.dropPrefix? (indent depth ++ label.qualifier).toList).map
      fun rest => indent depth ++ String.ofList rest
  | fieldOption => (line.toList.dropSuffix? (fieldOption.qualifier ++ ";").toList).map
      fun front => String.ofList front ++ ";"
  | comment => (line.toList.dropSuffix? (";" ++ comment.qualifier).toList).map
      fun front => String.ofList front ++ ";"

theorem unqualified?_label (depth : Nat) (rest : String) :
    label.unqualified? depth (indent depth ++ (label.qualifier ++ rest)) =
      some (indent depth ++ rest) := by
  have hdrop : (indent depth ++ (label.qualifier ++ rest)).toList.dropPrefix?
      (indent depth ++ label.qualifier).toList = some rest.toList := by
    apply List.dropPrefix?_eq_some_iff.mpr
    exact ⟨_, by simp, beq_self_eq_true _⟩
  rw [unqualified?, hdrop, Option.map_some, String.ofList_toList]

theorem dropSuffix?_append (front ending : String) :
    (front ++ ending).toList.dropSuffix? ending.toList = some front.toList := by
  apply List.dropSuffix?_eq_some_iff.mpr
  exact ⟨_, String.toList_append, beq_self_eq_true _⟩

theorem unqualified?_fieldOption (depth : Nat) (front : String) :
    fieldOption.unqualified? depth (front ++ (fieldOption.qualifier ++ ";")) =
      some (front ++ ";") := by
  rw [unqualified?, dropSuffix?_append, Option.map_some, String.ofList_toList]

theorem unqualified?_comment (depth : Nat) (front : String) :
    comment.unqualified? depth (front ++ (";" ++ comment.qualifier)) = some (front ++ ";") := by
  rw [unqualified?, dropSuffix?_append, Option.map_some, String.ofList_toList]

end PresenceStyle

namespace Idl

/-! ## Fields -/

namespace Field

/-- The same field, not required. -/
def optional (field : Field) : Field :=
  { field with required := false }

/-- A field up to its semicolon, without a qualifier. -/
def declaration (field : Field) : String :=
  (if field.repeated then "repeated " else "") ++
    field.type ++ " " ++ field.name ++ " = " ++ toString field.number

theorem text_optional (style : PresenceStyle) (field : Field) :
    field.optional.text style = field.declaration ++ ";" := by
  obtain ⟨name, number, type, repeated, required⟩ := field
  cases repeated <;> simp [text, optional, declaration]

theorem optional_of_not_required {field : Field} (h : field.required = false) :
    field.optional = field := by
  rw [optional, ← h]

theorem text_label {field : Field} (h : field.required = true) :
    field.text .label = PresenceStyle.label.qualifier ++ (field.declaration ++ ";") := by
  simp [text, h, declaration, PresenceStyle.qualifier, ← String.toList_inj]

theorem text_fieldOption {field : Field} (h : field.required = true) :
    field.text .fieldOption =
      field.declaration ++ (PresenceStyle.fieldOption.qualifier ++ ";") := by
  simp [text, h, declaration, PresenceStyle.qualifier, ← String.toList_inj]

theorem text_comment {field : Field} (h : field.required = true) :
    field.text .comment = field.declaration ++ (";" ++ PresenceStyle.comment.qualifier) := by
  simp [text, h, declaration, PresenceStyle.qualifier, ← String.toList_inj]

/-- Without its qualifier, a required field is written as if it were not required. -/
theorem unqualified?_text {field : Field} (h : field.required = true) (style : PresenceStyle)
    (depth : Nat) :
    style.unqualified? depth (indent depth ++ field.text style) =
      some (indent depth ++ (field.declaration ++ ";")) := by
  cases style with
  | label => rw [text_label h, PresenceStyle.unqualified?_label]
  | fieldOption =>
      rw [text_fieldOption h, ← String.append_assoc, PresenceStyle.unqualified?_fieldOption,
        String.append_assoc]
  | comment =>
      rw [text_comment h, ← String.append_assoc, PresenceStyle.unqualified?_comment,
        String.append_assoc]

end Field

/-! ## Lines -/

namespace Line

/-- The field that a line declares. -/
def field? : Line → Option Field
  | field declared => some declared
  | _ => none

/-- Whether a line declares a required field. -/
def isRequired (line : Line) : Bool :=
  line.field?.any (·.required)

/-- The same line with a field that is not required. -/
def optional : Line → Line
  | field declared => field declared.optional
  | line => line

theorem text_field (style : PresenceStyle) (depth : Nat) (declared : Field) :
    (field declared).text style depth = indent depth ++ declared.text style := by
  rw [text, words, Field.text_eq_intercalate]

/-- What is not required is written in one way. -/
theorem text_optional (style style' : PresenceStyle) (depth : Nat) (line : Line) :
    line.optional.text style depth = line.optional.text style' depth := by
  cases line with
  | field declared => rw [optional, text_field, text_field, Field.text_optional,
      Field.text_optional]
  | _ => rfl

theorem optional_of_not_required {line : Line} (h : line.isRequired = false) :
    line.optional = line := by
  cases line with
  | field declared => exact congrArg field (Field.optional_of_not_required h)
  | _ => rfl

theorem unqualified?_text {line : Line} (h : line.isRequired = true) (style : PresenceStyle)
    (depth : Nat) :
    style.unqualified? depth (line.text style depth) = some (line.optional.text style depth) := by
  cases line with
  | field declared =>
      rw [optional, text_field, text_field, Field.text_optional]
      exact Field.unqualified?_text h style depth
  | _ => cases h

end Line

/-! ## Items -/

mutual

/-- The same item with none of its fields required. -/
def Item.optional : Item → Item
  | .field field => .field field.optional
  | .message name items => .message name (optionalItems items)
  | .oneOf name items => .oneOf name (optionalItems items)

/-- The same items with none of their fields required. -/
def optionalItems : List Item → List Item
  | [] => []
  | item :: rest => item.optional :: optionalItems rest

end

theorem map_blockRows {kind : Kind} {name : String} {depth : Nat} {body : List (Nat × Line)} :
    (blockRows depth kind name body).map (fun row => (row.1, row.2.optional)) =
      blockRows depth kind name (body.map fun row => (row.1, row.2.optional)) := by
  cases body <;> simp [blockRows, Line.optional]

theorem filterMap_blockRows {kind : Kind} {name : String} {depth : Nat}
    {body : List (Nat × Line)} :
    (blockRows depth kind name body).filterMap (·.2.field?) = body.filterMap (·.2.field?) := by
  cases body with
  | nil => rfl
  | cons row rest =>
      have hclosing : [(depth, Line.closing)].filterMap (·.2.field?) = [] := rfl
      change (row :: rest ++ [(depth, Line.closing)]).filterMap (·.2.field?) = _
      rw [List.filterMap_append, hclosing, List.append_nil]

mutual

/-- Whether fields are required changes nothing about the rows of an item but those of its
fields. -/
theorem Item.rows_optional (depth : Nat) : ∀ item : Item,
    item.optional.rows depth = (item.rows depth).map fun row => (row.1, row.2.optional)
  | .field _ => rfl
  | .message _ items => by
      rw [Item.optional, Item.rows, Item.rows, map_blockRows, itemRows_optional]
  | .oneOf _ items => by
      rw [Item.optional, Item.rows, Item.rows, map_blockRows, itemRows_optional]

theorem itemRows_optional (depth : Nat) : ∀ items : List Item,
    itemRows depth (optionalItems items) =
      (itemRows depth items).map fun row => (row.1, row.2.optional)
  | [] => rfl
  | item :: rest => by
      rw [optionalItems, itemRows, itemRows, List.map_append, item.rows_optional,
        itemRows_optional]

end

mutual

/-- The rows of fields are those of the fields at every depth. -/
theorem Item.filterMap_rows (depth : Nat) : ∀ item : Item,
    (item.rows depth).filterMap (·.2.field?) = item.fields
  | .field _ => rfl
  | .message _ items => by rw [Item.rows, filterMap_blockRows, filterMap_itemRows, Item.fields]
  | .oneOf _ items => by rw [Item.rows, filterMap_blockRows, filterMap_itemRows, Item.fields]

theorem filterMap_itemRows (depth : Nat) : ∀ items : List Item,
    (itemRows depth items).filterMap (·.2.field?) = itemFields items
  | [] => rfl
  | item :: rest => by
      rw [itemRows, List.filterMap_append, item.filterMap_rows, filterMap_itemRows, itemFields]

end

/-- How the lines of an item compare in two styles. A row of the item tells where the line in its
place comes from and at which depth it stands. -/
structure Item.SameLines (item : Item) (depth : Nat) (style style' : PresenceStyle) : Prop where
  /-- There are as many lines in one style as in the other, and as many as there are rows. -/
  length : (item.lines style depth).length = (item.rows depth).length ∧
    (item.lines style' depth).length = (item.rows depth).length
  /-- Every field has a row, at whatever depth it stands, and these are all rows of fields. -/
  fields : (item.rows depth).filterMap (·.2.field?) = item.fields
  /-- If no field were required, the two styles would give the same lines. -/
  optional : item.optional.lines style depth = item.optional.lines style' depth
  /-- Headers, closing lines and fields that are not required have no qualifier. -/
  unmarked (k : Nat) (row : Nat × Line) (hrow : (item.rows depth)[k]? = some row)
    (hoptional : row.2.isRequired = false) :
    ∃ line, (item.optional.lines style depth)[k]? = some line ∧
      (item.lines style depth)[k]? = some line ∧ (item.lines style' depth)[k]? = some line
  /-- Required fields have the qualifier of the style and nothing else that others have not. -/
  marked (k : Nat) (row : Nat × Line) (hrow : (item.rows depth)[k]? = some row)
    (hrequired : row.2.isRequired = true) :
    ∃ plain line line', (item.optional.lines style depth)[k]? = some plain ∧
      (item.lines style depth)[k]? = some line ∧ (item.lines style' depth)[k]? = some line' ∧
      style.unqualified? row.1 line = some plain ∧ style'.unqualified? row.1 line' = some plain

theorem Item.getElem?_lines {item : Item} {depth k : Nat} {row : Nat × Line}
    (h : (item.rows depth)[k]? = some row) (style : PresenceStyle) :
    (item.lines style depth)[k]? = some (row.2.text style row.1) := by
  rw [Item.lines_eq_map_rows, List.getElem?_map, h, Option.map_some]

theorem Item.getElem?_lines_optional {item : Item} {depth k : Nat} {row : Nat × Line}
    (h : (item.rows depth)[k]? = some row) (style : PresenceStyle) :
    (item.optional.lines style depth)[k]? = some (row.2.optional.text style row.1) := by
  have hrow : (item.optional.rows depth)[k]? = some (row.1, row.2.optional) := by
    rw [Item.rows_optional, List.getElem?_map, h, Option.map_some]
  exact Item.getElem?_lines hrow style

theorem Item.sameLines (item : Item) (depth : Nat) (style style' : PresenceStyle) :
    item.SameLines depth style style' where
  length := by simp only [Item.lines_eq_map_rows, List.length_map, and_self]
  fields := item.filterMap_rows depth
  optional := by
    simp only [Item.lines_eq_map_rows, Item.rows_optional, List.map_map]
    apply List.map_congr_left
    intro row _
    exact Line.text_optional style style' row.1 row.2
  unmarked k row hrow hoptional := by
    have hsame := Line.text_optional style style' row.1 row.2
    have hplain := Item.getElem?_lines_optional hrow style
    rw [Line.optional_of_not_required hoptional] at hsame hplain
    have hline' := Item.getElem?_lines hrow style'
    rw [← hsame] at hline'
    exact ⟨_, hplain, Item.getElem?_lines hrow style, hline'⟩
  marked k row hrow hrequired := by
    have hremoved' := Line.unqualified?_text hrequired style' row.1
    rw [Line.text_optional style' style] at hremoved'
    exact ⟨_, _, _, Item.getElem?_lines_optional hrow style, Item.getElem?_lines hrow style,
      Item.getElem?_lines hrow style', Line.unqualified?_text hrequired style row.1, hremoved'⟩

end Idl

/-! ## Passes -/

/-- The same settings with another presence style. -/
def Settings.withPresence (settings : Settings) (style : PresenceStyle) : Settings :=
  { settings with presence := style }

section Passes

variable {routes : List Route} {name : ServiceName} {settings : Settings} {style : PresenceStyle}

theorem Route.compileAll_withPresence {service : String} {seen : List String} :
    Route.compileAll service (settings.withPresence style) seen routes =
      Route.compileAll service settings seen routes := by
  induction routes generalizing seen with
  | nil => rfl
  | cons route rest ih =>
      have hroute : route.compile seen service (settings.withPresence style) =
          route.compile seen service settings := rfl
      simp only [Route.compileAll, hroute, ih]

/-- No style is looked at before the document is written. -/
theorem compile_withPresence :
    compile routes name (settings.withPresence style) = compile routes name settings := by
  simp only [compile, Route.compileAll_withPresence]

theorem compileText_withPresence_eq_error_iff {error : CompileError} :
    (compileText routes name (settings.withPresence style)).result = .error error ↔
      (compileText routes name settings).result = .error error := by
  rw [compileText_eq_error_iff, compileText_eq_error_iff, compile_withPresence]

theorem exists_compileText_withPresence_iff :
    (∃ text, (compileText routes name (settings.withPresence style)).result = .ok text) ↔
      ∃ text, (compileText routes name settings).result = .ok text := by
  simp only [compileText_eq_ok_iff, compile_withPresence]
  constructor
  · rintro ⟨_, document, hdocument, _⟩
    exact ⟨_, document, hdocument, rfl⟩
  · rintro ⟨_, document, hdocument, _⟩
    exact ⟨_, document, hdocument, rfl⟩

end Passes

/-- In any two styles an item, and so every message, has the same lines up to the qualifiers of its
required fields, each of which has one. A style decides neither whether routes are compiled nor with
which error they are refused, and all styles write the same document. -/
theorem presence_presentational (style style' : PresenceStyle) :
    (∀ (item : Item) (depth : Nat), item.SameLines depth style style') ∧
    ∀ routes name (settings : Settings),
      compile routes name (settings.withPresence style) =
        compile routes name (settings.withPresence style') ∧
      ((∃ text, (compileText routes name (settings.withPresence style)).result = .ok text) ↔
        ∃ text, (compileText routes name (settings.withPresence style')).result = .ok text) ∧
      ∀ error, (compileText routes name (settings.withPresence style)).result = .error error ↔
        (compileText routes name (settings.withPresence style')).result = .error error := by
  refine ⟨fun item depth => item.sameLines depth style style', fun routes name settings => ?_⟩
  refine ⟨?_, ?_, fun error => ?_⟩
  · rw [compile_withPresence, compile_withPresence]
  · rw [exists_compileText_withPresence_iff, exists_compileText_withPresence_iff]
  · rw [compileText_withPresence_eq_error_iff, compileText_withPresence_eq_error_iff]

/-- A message with a required list of texts inside a message of its own. -/
def crate : Idl.Item :=
  .message "Crate" [.message "tagsObject" [.field ⟨"tags", 0, "string", true, true⟩],
    .field ⟨"tags", 0, "tagsObject", false, false⟩]

/-- The only required field of a crate stands in its third line. -/
theorem presence_presentational_crate :
    crate.lines .label 0 = ["message Crate \x7b", "  message tagsObject \x7b",
        "    required repeated string tags = 0;", "  \x7d", "  tagsObject tags = 0;", "\x7d"] ∧
      crate.lines .comment 0 = ["message Crate \x7b", "  message tagsObject \x7b",
        "    repeated string tags = 0; // required", "  \x7d", "  tagsObject tags = 0;", "\x7d"] ∧
      ∃ plain line line', (crate.optional.lines .label 0)[2]? = some plain ∧
        (crate.lines .label 0)[2]? = some line ∧ (crate.lines .comment 0)[2]? = some line' ∧
        PresenceStyle.label.unqualified? 2 line = some plain ∧
        PresenceStyle.comment.unqualified? 2 line' = some plain := by
  have hsame := (presence_presentational .label .comment).1 crate 0
  have hrow : (crate.rows 0)[2]? = some (2, .field ⟨"tags", 0, "string", true, true⟩) := rfl
  have hmarked := hsame.marked 2 _ hrow rfl
  exact ⟨by decide, by decide, hmarked⟩

end RouteIdl
