import RouteIdl.Proofs.Idl.Reader

/-!
# Reading back what is written

The text of a message determines the message, whatever words its names are. Lines are cut at line
feeds and words at blanks, so names must not hold these; of a field, the number of words and the
first one tell which marks it has, also if a name reads like a mark.
-/

namespace RouteIdl.Idl

/-! ## Words -/

/-- A text that can stand as one word in a line. -/
def IsWord (word : String) : Prop :=
  word ≠ "" ∧ ' ' ∉ word.toList ∧ '\n' ∉ word.toList

instance (word : String) : Decidable (IsWord word) :=
  inferInstanceAs (Decidable (_ ∧ _))

theorem isDigit_of_mem_repr {n : Nat} {c : Char} (h : c ∈ n.repr.toList) : c.isDigit = true := by
  rw [Nat.toList_repr] at h
  exact Nat.isDigit_of_mem_toDigits (by decide) (by decide) h

theorem isWord_repr (n : Nat) : IsWord n.repr := by
  refine ⟨by simp, fun h => ?_, fun h => ?_⟩
  · have hdigit := isDigit_of_mem_repr h
    revert hdigit
    decide
  · have hdigit := isDigit_of_mem_repr h
    revert hdigit
    decide

theorem IsWord.append {word rest : String} (hword : IsWord word) (hrest : IsWord rest) :
    IsWord (word ++ rest) := by
  obtain ⟨hne, hblank, hfeed⟩ := hword
  obtain ⟨_, hblank', hfeed'⟩ := hrest
  refine ⟨fun h => hne (String.append_eq_empty_iff.mp h).1, ?_, ?_⟩
  · rw [String.toList_append, List.mem_append]
    exact fun h => h.elim hblank hblank'
  · rw [String.toList_append, List.mem_append]
    exact fun h => h.elim hfeed hfeed'

theorem numberOf_repr_append {n : Nat} {rest : String}
    (h : rest.toList.takeWhile Char.isDigit = []) : numberOf (n.repr ++ rest) = n := by
  rw [numberOf, String.toList_append,
    List.takeWhile_append_of_pos fun c hc => isDigit_of_mem_repr hc, h, List.append_nil,
    Nat.toList_repr, Nat.ofDigitChars_ten_toDigits]

@[simp] theorem numberOf_repr (n : Nat) : numberOf n.repr = n := by
  have h : numberOf (n.repr ++ "") = n := numberOf_repr_append rfl
  rwa [String.append_empty] at h

@[simp] theorem numberOf_repr_semicolon (n : Nat) : numberOf (n.repr ++ ";") = n :=
  numberOf_repr_append rfl

theorem filter_splitOn_replicate (count : Nat) (text : List Char) :
    ((List.replicate count ' ' ++ text).splitOn ' ').filter (!·.isEmpty) =
      (text.splitOn ' ').filter (!·.isEmpty) := by
  induction count with
  | zero => rfl
  | succ count ih =>
      have hblank : (' ' :: (List.replicate count ' ' ++ text)).splitOnP (· == ' ') =
          ([] : List Char).splitOnP (· == ' ') ++
            (List.replicate count ' ' ++ text).splitOnP (· == ' ') :=
        List.splitOnP_append_cons [] _ rfl
      rw [List.replicate_succ, List.cons_append, ← ih, List.splitOn_eq_splitOnP, hblank,
        List.splitOnP_nil, List.splitOn_eq_splitOnP]
      rfl

theorem feed_not_mem_intercalate {words : List String} (h : ∀ word ∈ words, '\n' ∉ word.toList) :
    '\n' ∉ (" ".intercalate words).toList := by
  induction words with
  | nil => simp
  | cons word rest ih =>
      obtain ⟨hword, hrest⟩ := List.forall_mem_cons.mp h
      cases rest with
      | nil => simpa using hword
      | cons next rest =>
          have hothers := ih hrest
          simp only [String.intercalate_cons_cons, String.toList_append, List.mem_append, not_or]
          exact ⟨⟨hword, by decide⟩, hothers⟩

/-- The words of a line are those that it is made of, at any depth. -/
theorem wordsOf_indent_append {words : List String} (depth : Nat)
    (h : ∀ word ∈ words, IsWord word) :
    wordsOf (indent depth ++ " ".intercalate words) = words := by
  have hblank : ∀ word ∈ words.map String.toList, ' ' ∉ word := by
    intro word hword
    obtain ⟨source, hsource, rfl⟩ := List.mem_map.mp hword
    exact (h source hsource).2.1
  have hfull : ∀ word ∈ words.map String.toList, (!word.isEmpty) = true := by
    intro word hword
    obtain ⟨source, hsource, rfl⟩ := List.mem_map.mp hword
    simpa using (h source hsource).1
  have hcut : ((" ".intercalate words).toList.splitOn ' ').filter (!·.isEmpty) =
      words.map String.toList := by
    rw [String.toList_intercalate]
    cases words with
    | nil => rfl
    | cons word rest =>
        have hsplit := List.splitOn_intercalate ' ' hblank (by simp)
        exact (congrArg _ hsplit).trans (List.filter_eq_self.mpr hfull)
  rw [wordsOf, indent, String.toList_append, String.toList_ofList, filter_splitOn_replicate, hcut]
  simp

/-- The lines of a text are those that it is made of. -/
theorem linesOf_intercalate {lines : List String} (hne : lines ≠ [])
    (h : ∀ line ∈ lines, '\n' ∉ line.toList) : linesOf ("\n".intercalate lines) = lines := by
  have hfeed : ∀ line ∈ lines.map String.toList, '\n' ∉ line := by
    intro line hline
    obtain ⟨source, hsource, rfl⟩ := List.mem_map.mp hline
    exact h source hsource
  have hsplit := List.splitOn_intercalate '\n' hfeed (by simpa using hne)
  rw [linesOf, String.toList_intercalate]
  refine (congrArg _ hsplit).trans ?_
  simp

/-! ## Lines -/

namespace Field

theorem text_eq_intercalate (style : PresenceStyle) (field : Field) :
    field.text style = " ".intercalate (field.words style) := by
  obtain ⟨name, number, type, repeated, required⟩ := field
  rw [← String.toList_inj]
  cases style <;> cases repeated <;> cases required <;> simp [text, words]

/-- The number of words and the first one tell the marks of a field. -/
theorem ofWords?_words (style : PresenceStyle) (field : Field) :
    ofWords? style (field.words style) = some field := by
  obtain ⟨name, number, type, repeated, required⟩ := field
  have hlikely : likely? style (words style ⟨name, number, type, repeated, required⟩) =
      some ⟨name, number, type, repeated, required⟩ := by
    cases style <;> cases repeated <;> cases required <;> simp [words, likely?]
  rw [ofWords?, hlikely]
  simp

theorem isWord_of_mem_words {style : PresenceStyle} {field : Field} (htype : IsWord field.type)
    (hname : IsWord field.name) : ∀ word ∈ field.words style, IsWord word := by
  have hnumber := isWord_repr field.number
  have hsemicolon : IsWord ";" := by decide
  have hend := hnumber.append hsemicolon
  obtain ⟨name, number, type, repeated, required⟩ := field
  have hmarks : IsWord "required" ∧ IsWord "repeated" ∧ IsWord "=" ∧ IsWord "//" ∧
      IsWord "[(msp.field).required" ∧ IsWord "true];" := by decide
  cases style <;> cases repeated <;> cases required <;> simp_all [words]

end Field

theorem Kind.isWord_keyword (kind : Kind) : IsWord kind.keyword := by
  cases kind <;> decide

theorem Kind.ofKeyword?_keyword (kind : Kind) : ofKeyword? kind.keyword = some kind := by
  cases kind <;> rfl

namespace Line

/-- The names that a line holds. -/
def names : Line → List String
  | .field declared => [declared.type, declared.name]
  | .empty _ name => [name]
  | .opening _ name => [name]
  | .closing => []

theorem isWord_of_mem_words {style : PresenceStyle} {line : Line}
    (h : ∀ name ∈ line.names, IsWord name) : ∀ word ∈ line.words style, IsWord word := by
  have hbraces : IsWord "\x7b\x7d" ∧ IsWord "\x7b" ∧ IsWord "\x7d" := by decide
  cases line with
  | field declared =>
      obtain ⟨htype, hrest⟩ := List.forall_mem_cons.mp h
      exact Field.isWord_of_mem_words htype (List.forall_mem_singleton.mp hrest)
  | empty kind name => simp_all [names, words, kind.isWord_keyword]
  | opening kind name => simp_all [names, words, kind.isWord_keyword]
  | closing => simp_all [words]

theorem feed_not_mem_words {style : PresenceStyle} {line : Line}
    (h : ∀ name ∈ line.names, '\n' ∉ name.toList) :
    ∀ word ∈ line.words style, '\n' ∉ word.toList := by
  have hkeyword (kind : Kind) : '\n' ∉ kind.keyword.toList := kind.isWord_keyword.2.2
  cases line with
  | field declared =>
      have hnumber := (isWord_repr declared.number).2.2
      obtain ⟨name, number, type, repeated, required⟩ := declared
      cases style <;> cases repeated <;> cases required <;>
        simp_all [names, words, Field.words]
  | empty kind name => simp_all [names, words]
  | opening kind name => simp_all [names, words]
  | closing => simp [words]

theorem feed_not_mem_text {style : PresenceStyle} {depth : Nat} {line : Line}
    (h : ∀ name ∈ line.names, '\n' ∉ name.toList) : '\n' ∉ (line.text style depth).toList := by
  rw [text, indent, String.toList_append, String.toList_ofList, List.mem_append]
  rintro (hindent | htext)
  · cases List.eq_of_mem_replicate hindent
  · exact feed_not_mem_intercalate (feed_not_mem_words h) htext

theorem ofWords?_words (style : PresenceStyle) (line : Line) :
    ofWords? style (line.words style) = some line := by
  cases line with
  | field declared =>
      -- A field has at least four words, so it is not mistaken for part of a block.
      obtain ⟨type, name, equals, number, rest, hwords⟩ :
          ∃ a b c d rest, declared.words style = a :: b :: c :: d :: rest := by
        obtain ⟨name, number, type, repeated, required⟩ := declared
        cases style <;> cases repeated <;> cases required <;> simp [Field.words]
      have hfield := declared.ofWords?_words style
      rw [words, hwords] at *
      simp [ofWords?, hfield]
  | empty kind name => simp [words, ofWords?, kind.ofKeyword?_keyword]
  | opening kind name => simp [words, ofWords?, kind.ofKeyword?_keyword]
  | closing => simp [words, ofWords?]

end Line

/-! ## Rows -/

/-- A block is written as its rows are. -/
theorem block_eq_map_rows (style : PresenceStyle) (depth : Nat) (kind : Kind) (name : String)
    (body : List (Nat × Line)) :
    block depth (kind.keyword ++ " " ++ name) (body.map fun row => row.2.text style row.1) =
      (blockRows depth kind name body).map fun row => row.2.text style row.1 := by
  have hempty : indent depth ++ (kind.keyword ++ " " ++ name) ++ " \x7b\x7d" =
      (Line.empty kind name).text style depth := by
    rw [← String.toList_inj]
    simp [Line.text, Line.words]
  have hopening : indent depth ++ (kind.keyword ++ " " ++ name) ++ " \x7b" =
      (Line.opening kind name).text style depth := by
    rw [← String.toList_inj]
    simp [Line.text, Line.words]
  have hclosing : indent depth ++ "\x7d" = Line.closing.text style depth := by
    rw [← String.toList_inj]
    simp [Line.text, Line.words]
  cases body with
  | nil => simp [block, blockRows, hempty]
  | cons row rest => simp [block, blockRows, hopening, hclosing]

mutual

/-- An item is written row by row. -/
theorem Item.lines_eq_map_rows (style : PresenceStyle) (depth : Nat) :
    ∀ item : Item, item.lines style depth = (item.rows depth).map fun row => row.2.text style row.1
  | .field field => by
      simp [Item.lines, Item.rows, Line.text, Line.words, field.text_eq_intercalate]
  | .message name items => by
      rw [Item.lines, Item.rows, itemLines_eq_map_rows style (depth + 1) items]
      exact block_eq_map_rows style depth .message name _
  | .oneOf name items => by
      rw [Item.lines, Item.rows, itemLines_eq_map_rows style (depth + 1) items]
      exact block_eq_map_rows style depth .oneOf name _

theorem itemLines_eq_map_rows (style : PresenceStyle) (depth : Nat) :
    ∀ items : List Item,
      itemLines style depth items = (itemRows depth items).map fun row => row.2.text style row.1
  | [] => rfl
  | item :: rest => by
      rw [itemLines, itemRows, List.map_append, item.lines_eq_map_rows, itemLines_eq_map_rows]

end

/-- Rows hold no other names than what they are made of. -/
theorem names_of_mem_blockRows {depth : Nat} {kind : Kind} {name : String}
    {body : List (Nat × Line)} {names : List String}
    (hbody : ∀ row ∈ body, ∀ inner ∈ row.2.names, inner ∈ names) :
    ∀ row ∈ blockRows depth kind name body, ∀ inner ∈ row.2.names, inner ∈ name :: names := by
  intro row hrow inner hinner
  unfold blockRows at hrow
  split at hrow
  · cases List.mem_singleton.mp hrow
    exact List.mem_cons.mpr (.inl (List.mem_singleton.mp hinner))
  · rcases List.mem_append.mp hrow with hrow | hclosing
    · rcases List.mem_cons.mp hrow with rfl | hmem
      · exact List.mem_cons.mpr (.inl (List.mem_singleton.mp hinner))
      · exact List.mem_cons_of_mem _ (hbody row hmem inner hinner)
    · cases List.mem_singleton.mp hclosing
      cases hinner

mutual

/-- The names of blocks and fields in an item, and the types of its fields. -/
def Item.names : Item → List String
  | .field field => [field.type, field.name]
  | .message name items => name :: itemNames items
  | .oneOf name items => name :: itemNames items

/-- The names of blocks and fields in several items, and the types of their fields. -/
def itemNames : List Item → List String
  | [] => []
  | item :: rest => item.names ++ itemNames rest

end

/-- The names of blocks and fields in a message, its own first, and the types of its fields. -/
def Message.names (message : Message) : List String :=
  message.toItem.names

mutual

/-- The fields of an item, at every depth. -/
def Item.fields : Item → List Field
  | .field field => [field]
  | .message _ items => itemFields items
  | .oneOf _ items => itemFields items

/-- The fields of several items, at every depth. -/
def itemFields : List Item → List Field
  | [] => []
  | item :: rest => item.fields ++ itemFields rest

end

/-- The fields of a message, at every depth. -/
def Message.fields (message : Message) : List Field :=
  message.toItem.fields

mutual

theorem Item.names_of_mem_rows (depth : Nat) :
    ∀ item : Item, ∀ row ∈ item.rows depth, ∀ name ∈ row.2.names, name ∈ item.names
  | .field field => by simp [Item.rows, Item.names, Line.names]
  | .message _ items => names_of_mem_blockRows (names_of_mem_itemRows (depth + 1) items)
  | .oneOf _ items => names_of_mem_blockRows (names_of_mem_itemRows (depth + 1) items)

theorem names_of_mem_itemRows (depth : Nat) :
    ∀ items : List Item, ∀ row ∈ itemRows depth items, ∀ name ∈ row.2.names,
      name ∈ itemNames items
  | [] => by simp [itemRows]
  | item :: rest => by
      intro row hrow name hname
      apply List.mem_append.mpr
      rcases List.mem_append.mp hrow with hitem | hrest
      · exact .inl (item.names_of_mem_rows depth row hitem name hname)
      · exact .inr (names_of_mem_itemRows depth rest row hrest name hname)

end

/-! ## Blocks -/

theorem blockRows_ne_nil (depth : Nat) (kind : Kind) (name : String) (body : List (Nat × Line)) :
    blockRows depth kind name body ≠ [] := by
  unfold blockRows
  split <;> simp

theorem Item.rows_ne_nil (depth : Nat) (item : Item) : item.rows depth ≠ [] := by
  cases item with
  | field field => simp [rows]
  | message name items => exact blockRows_ne_nil _ _ _ _
  | oneOf name items => exact blockRows_ne_nil _ _ _ _

theorem itemRows_eq_nil_iff {depth : Nat} {items : List Item} :
    itemRows depth items = [] ↔ items = [] := by
  cases items with
  | nil => simp [itemRows]
  | cons item rest => simp [itemRows, item.rows_ne_nil]

namespace Reading

/-- Add items to the innermost open block, one after the other. -/
def addAll (state : Reading) (items : List Item) : Reading :=
  { state with items := items.reverse ++ state.items }

/-- A block is read as an item if its body is read as its items. -/
theorem foldlM_blockRows {depth : Nat} {kind : Kind} {name : String} {body : List (Nat × Line)}
    {items : List Item} (hempty : body = [] ↔ items = [])
    (hbody : ∀ state : Reading, (body.map (·.2)).foldlM step state = some (state.addAll items))
    (state : Reading) :
    ((blockRows depth kind name body).map (·.2)).foldlM step state =
      some (state.add (kind.item name items)) := by
  unfold blockRows
  split
  next hnone =>
    have hitems := hempty.mp (List.isEmpty_iff.mp hnone)
    simp [step, hitems]
  next =>
    have hinner := hbody ⟨[], ⟨kind, name, state.items⟩ :: state.around⟩
    rw [addAll, List.append_nil] at hinner
    simp [step, hinner, add]

mutual

/-- The rows of an item are read as that item, whatever blocks are open. -/
theorem foldlM_rows (depth : Nat) : ∀ (item : Item) (state : Reading),
    ((item.rows depth).map (·.2)).foldlM step state = some (state.add item)
  | .field _, _ => by simp [Item.rows, step]
  | .message _ items, state =>
      foldlM_blockRows itemRows_eq_nil_iff (foldlM_itemRows (depth + 1) items) state
  | .oneOf _ items, state =>
      foldlM_blockRows itemRows_eq_nil_iff (foldlM_itemRows (depth + 1) items) state

theorem foldlM_itemRows (depth : Nat) : ∀ (items : List Item) (state : Reading),
    ((itemRows depth items).map (·.2)).foldlM step state = some (state.addAll items)
  | [], _ => by simp [itemRows, addAll]
  | item :: rest, state => by
      have hrest := foldlM_itemRows depth rest (state.add item)
      rw [itemRows, List.map_append, List.foldlM_append, foldlM_rows depth item state]
      simpa [addAll, add] using hrest

end

end Reading

/-! ## Messages -/

theorem mapM_eq_some_map {α β : Type} {f : α → Option β} {g : α → β} {xs : List α}
    (h : ∀ x ∈ xs, f x = some (g x)) : xs.mapM f = some (xs.map g) := by
  induction xs with
  | nil => rfl
  | cons x xs ih =>
      obtain ⟨hx, hxs⟩ := List.forall_mem_cons.mp h
      simp [List.mapM_cons, hx, ih hxs]

/-- Without line feeds in its names, the lines of a message are those of its text. -/
theorem Message.linesOf_text (style : PresenceStyle) {message : Message}
    (h : ∀ name ∈ message.names, '\n' ∉ name.toList) :
    linesOf (message.text style) = message.lines style := by
  rw [text, lines, Item.lines_eq_map_rows]
  apply linesOf_intercalate
  · simpa using message.toItem.rows_ne_nil 0
  · intro line hline
    obtain ⟨row, hrow, rfl⟩ := List.mem_map.mp hline
    apply Line.feed_not_mem_text
    intro name hname
    exact h name (message.toItem.names_of_mem_rows 0 row hrow name hname)

/-- The text of a message is read as that message. -/
theorem Message.ofText?_text (style : PresenceStyle) {message : Message}
    (h : ∀ name ∈ message.names, IsWord name) :
    ofText? style (message.text style) = some message := by
  have hrows : ∀ row ∈ message.toItem.rows 0, ∀ name ∈ row.2.names, IsWord name :=
    fun row hrow name hname => h name (message.toItem.names_of_mem_rows 0 row hrow name hname)
  have hlines : linesOf (message.text style) =
      (message.toItem.rows 0).map fun row => row.2.text style row.1 := by
    rw [linesOf_text style fun name hname => (h name hname).2.2, lines, Item.lines_eq_map_rows]
  have hread : ((message.toItem.rows 0).map fun row => row.2.text style row.1).mapM
      (fun line => Line.ofWords? style (wordsOf line)) =
        some ((message.toItem.rows 0).map (·.2)) := by
    rw [List.mapM_map]
    apply mapM_eq_some_map
    intro row hrow
    have hwords : ∀ word ∈ row.2.words style, IsWord word :=
      Line.isWord_of_mem_words (hrows row hrow)
    rw [Function.comp_apply, Line.text, wordsOf_indent_append row.1 hwords, Line.ofWords?_words]
  rw [ofText?, hlines, hread]
  simp [Reading.foldlM_rows, Reading.add, Reading.message?, toItem]

/-- In every style, a message can be read back from its text, and no other message has that text,
whatever words the names in them are. -/
theorem Message.read_back (style : PresenceStyle) (message other : Message)
    (h : ∀ name ∈ message.names, IsWord name) (hother : ∀ name ∈ other.names, IsWord name) :
    ofText? style (message.text style) = some message ∧
      (message.text style = other.text style → message = other) := by
  have hread := ofText?_text style h
  have hread' := ofText?_text style hother
  refine ⟨hread, fun htext => ?_⟩
  rw [htext, hread'] at hread
  exact (Option.some.inj hread).symm

/-- A message with marks and braces for names. -/
def Message.ofMarks : Message :=
  ⟨"message", [.field ⟨"repeated", 0, "required", false, true⟩, .message "\x7b" [],
    .oneOf "oneof" [.field ⟨"=", 7, "\x7d", true, false⟩,
      .field ⟨"x", 10, "repeated", false, true⟩]]⟩

/-- The same message without its marks. -/
def Message.ofUnmarked : Message :=
  ⟨"message", [.field ⟨"repeated", 0, "required", false, false⟩, .message "\x7b" [],
    .oneOf "oneof" [.field ⟨"=", 7, "\x7d", false, false⟩,
      .field ⟨"x", 10, "repeated", false, false⟩]]⟩

example :
    Message.ofMarks.text .label =
      "message message \x7b\n  required required repeated = 0;\n  message \x7b \x7b\x7d\n" ++
        "  oneof oneof \x7b\n    repeated \x7d = = 7;\n" ++
        "    required repeated x = 10;\n  \x7d\n\x7d" := by
  decide

/-- Marks and braces are read back as the names that they are. -/
theorem Message.read_back_ofMarks :
    (∀ name ∈ ofMarks.names, IsWord name) ∧ (∀ name ∈ ofUnmarked.names, IsWord name) ∧
      ofText? .label (ofMarks.text .label) = some ofMarks ∧
        (ofMarks.text .label = ofUnmarked.text .label → ofMarks = ofUnmarked) := by
  have hmarks : ∀ name ∈ ofMarks.names, IsWord name := by decide
  have hunmarked : ∀ name ∈ ofUnmarked.names, IsWord name := by decide
  exact ⟨hmarks, hunmarked, read_back .label ofMarks ofUnmarked hmarks hunmarked⟩

end RouteIdl.Idl
