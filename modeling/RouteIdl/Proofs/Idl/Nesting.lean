import RouteIdl.Proofs.Idl.Procedures
import RouteIdl.Proofs.Idl.ReadBack

/-!
# Nesting of blocks

The text of a block read line by line, with nothing but braces at the ends of lines to tell how deep
a line stands. The depth so found is the one by which the line is indented. What stands inside a
block is balanced: it never comes back above the depth at which it begins, and it ends there.
-/

namespace RouteIdl.Idl

/-! ## Depths -/

/-- How many blanks a line begins with. -/
def indentation (line : String) : Nat :=
  (line.toList.takeWhile (· == ' ')).length

/-- Whether a line is a closing brace after its indentation. -/
def closes (line : String) : Bool :=
  line.toList.dropWhile (· == ' ') == ['\x7d']

/-- Whether a line ends in a blank and an opening brace. -/
def opens (line : String) : Bool :=
  [' ', '\x7b'].isSuffixOf line.toList

/-- The depth at which a line stands, after lines that end at a given depth. -/
def depthOf (depth : Int) (line : String) : Int :=
  if closes line then depth - 1 else depth

/-- The depth after a line. -/
def depthAfter (depth : Int) (line : String) : Int :=
  if opens line then depthOf depth line + 1 else depthOf depth line

/-- A line, the depth at which it stands, and the depth after it. -/
structure Standing where
  line : String
  depth : Int
  after : Int

/-- The lines that are read from a depth on, each with its depths. -/
def standings (depth : Int) : List String → List Standing
  | [] => []
  | line :: rest =>
      ⟨line, depthOf depth line, depthAfter depth line⟩ :: standings (depthAfter depth line) rest

/-- Blocks are nested as the indentation of lines has it, and the outermost one ends with the last
line. -/
structure WellNested (lines : List String) : Prop where
  /-- Every line but an empty one is indented by two blanks for each level. -/
  indented : ∀ standing ∈ standings 0 lines, standing.line ≠ "" →
    (indentation standing.line : Int) = 2 * standing.depth
  /-- No block ends that has not begun. -/
  nonneg : ∀ standing ∈ standings 0 lines, 0 ≤ standing.depth ∧ 0 ≤ standing.after
  /-- After the last line, and after no other, all blocks have ended. -/
  closed : ∃ inner last, standings 0 lines = inner ++ [last] ∧ last.after = 0 ∧
    ∀ standing ∈ inner, standing.after ≠ 0

/-- A line on which nothing can be seen. -/
def IsBlank (line : String) : Prop :=
  ∀ c ∈ line.toList, c.isWhitespace = true

/-- A text that begins with something else than a blank. -/
def IsFlush (text : String) : Prop :=
  text ≠ "" ∧ text.toList.head? ≠ some ' '

instance (line : String) : Decidable (IsBlank line) :=
  List.decidableBAll _ _

instance (text : String) : Decidable (IsFlush text) :=
  inferInstanceAs (Decidable (_ ∧ _))

/-! ## Lines -/

variable {text header : String} {depth : Nat}

theorem IsFlush.exists_cons (h : IsFlush text) : ∃ c rest, text.toList = c :: rest ∧ c ≠ ' ' := by
  obtain ⟨hne, hhead⟩ := h
  cases htext : text.toList with
  | nil => exact absurd (String.toList_eq_nil_iff.mp htext) hne
  | cons c rest =>
      rw [htext] at hhead
      exact ⟨c, rest, rfl, by simpa using hhead⟩

theorem IsFlush.append (h : IsFlush text) (rest : String) : IsFlush (text ++ rest) := by
  obtain ⟨c, others, htext, hc⟩ := h.exists_cons
  refine ⟨fun hempty => h.1 (String.append_eq_empty_iff.mp hempty).1, ?_⟩
  rw [String.toList_append, htext]
  simpa using hc

theorem getLast?_append (front : String) {rest : String} (h : rest ≠ "") :
    (front ++ rest).toList.getLast? = rest.toList.getLast? := by
  rw [String.toList_append]
  exact List.getLast?_append_of_ne_nil _ (mt String.toList_eq_nil_iff.mp h)

/-- Nothing that begins with a text and goes on is a closing brace. -/
theorem IsFlush.append_ne_brace (h : IsFlush text) {rest : String} (hrest : rest ≠ "") :
    text ++ rest ≠ "\x7d" := by
  obtain ⟨c, others, htext, -⟩ := h.exists_cons
  intro hbrace
  have hchars : c :: (others ++ rest.toList) = ['\x7d'] := by
    rw [← List.cons_append, ← htext, ← String.toList_append, hbrace]
    rfl
  have htail := (List.append_eq_nil_iff.mp (List.cons.inj hchars).2).2
  exact hrest (String.toList_eq_nil_iff.mp htail)

theorem indentation_indent_append (h : IsFlush text) :
    indentation (indent depth ++ text) = 2 * depth := by
  obtain ⟨c, rest, htext, hc⟩ := h.exists_cons
  rw [indentation, indent, String.toList_append, String.toList_ofList,
    List.takeWhile_append_of_pos (by simp), htext]
  simp [hc]

theorem closes_indent_append (h : IsFlush text) :
    closes (indent depth ++ text) = true ↔ text = "\x7d" := by
  obtain ⟨c, rest, htext, hc⟩ := h.exists_cons
  rw [closes, indent, String.toList_append, String.toList_ofList,
    List.dropWhile_append_of_pos (by simp), htext, List.dropWhile_cons_of_neg (by simpa using hc),
    ← htext, beq_iff_eq, ← String.toList_inj]
  rfl

theorem opens_append_brace (front : String) : opens (front ++ " \x7b") = true := by
  simp [opens, List.isSuffixOf_iff_suffix]

/-- A line that ends in any other character opens no block. -/
theorem opens_eq_false {line : String} (h : line.toList.getLast? ≠ some '\x7b') :
    opens line = false := by
  rw [opens, ← Bool.not_eq_true, List.isSuffixOf_iff_suffix]
  rintro ⟨front, hfront⟩
  apply h
  rw [← hfront]
  simp

/-! ## Balanced lines -/

theorem standings_append (depth : Int) (lines rest : List String) :
    standings depth (lines ++ rest) =
      standings depth lines ++ standings (lines.foldl depthAfter depth) rest := by
  induction lines generalizing depth with
  | nil => rfl
  | cons line lines ih => rw [List.cons_append, standings, ih, standings]; rfl

/-- Lines that are read from a depth on do not come back above it and end at it. -/
structure Balanced (depth : Nat) (lines : List String) : Prop where
  after : lines.foldl depthAfter depth = depth
  indented : ∀ standing ∈ standings depth lines, standing.line ≠ "" →
    (indentation standing.line : Int) = 2 * standing.depth
  within : ∀ standing ∈ standings depth lines, depth ≤ standing.depth ∧ depth ≤ standing.after

variable {lines rest body : List String}

theorem balanced_nil : Balanced depth [] :=
  ⟨rfl, List.forall_mem_nil _, List.forall_mem_nil _⟩

theorem Balanced.append (h : Balanced depth lines) (hrest : Balanced depth rest) :
    Balanced depth (lines ++ rest) where
  after := by rw [List.foldl_append, h.after, hrest.after]
  indented := by
    rw [standings_append, h.after]
    exact List.forall_mem_append.mpr ⟨h.indented, hrest.indented⟩
  within := by
    rw [standings_append, h.after]
    exact List.forall_mem_append.mpr ⟨h.within, hrest.within⟩

/-- A line that neither opens nor closes a block. -/
theorem balanced_singleton {line : String} (hopens : opens line = false)
    (hcloses : closes line = false) (hindent : line ≠ "" → indentation line = 2 * depth) :
    Balanced depth [line] := by
  have hdepth : depthOf depth line = depth := by simp [depthOf, hcloses]
  have hafter : depthAfter depth line = depth := by simp [depthAfter, hopens, hdepth]
  refine ⟨hafter, ?_, ?_⟩
  · simp only [standings, List.forall_mem_singleton, hdepth]
    intro hline
    exact_mod_cast hindent hline
  · simp [standings, hdepth, hafter]

/-- The blank line before a procedure stands at any depth. -/
theorem balanced_blank : Balanced depth [""] :=
  balanced_singleton (by decide) (by decide) fun hne => absurd rfl hne

theorem balanced_line (hflush : IsFlush text) (hbrace : text ≠ "\x7d")
    (hlast : text.toList.getLast? ≠ some '\x7b') : Balanced depth [indent depth ++ text] := by
  apply balanced_singleton
  · apply opens_eq_false
    rwa [getLast?_append _ hflush.1]
  · rw [← Bool.not_eq_true, closes_indent_append hflush]
    exact hbrace
  · exact fun _ => indentation_indent_append hflush

/-! ## Blocks -/

theorem balanced_collapsed (hheader : IsFlush header) :
    Balanced depth [indent depth ++ header ++ " \x7b\x7d"] := by
  rw [String.append_assoc]
  exact balanced_line (hheader.append _) (hheader.append_ne_brace (by decide)) (by simp)

theorem depthAfter_opening (depth : Nat) (hheader : IsFlush header) :
    depthOf depth (indent depth ++ header ++ " \x7b") = depth ∧
      depthAfter depth (indent depth ++ header ++ " \x7b") = depth + 1 := by
  have hcloses : closes (indent depth ++ header ++ " \x7b") = false := by
    rw [String.append_assoc, ← Bool.not_eq_true, closes_indent_append (hheader.append _)]
    exact hheader.append_ne_brace (by decide)
  have hdepth : depthOf depth (indent depth ++ header ++ " \x7b") = depth := by
    simp [depthOf, hcloses]
  exact ⟨hdepth, by rw [depthAfter, opens_append_brace, if_pos rfl, hdepth]⟩

theorem depthAfter_closing (depth : Nat) :
    depthOf (depth + 1) (indent depth ++ "\x7d") = depth ∧
      depthAfter (depth + 1) (indent depth ++ "\x7d") = depth := by
  have hcloses : closes (indent depth ++ "\x7d") = true :=
    (closes_indent_append (by decide)).mpr rfl
  have hopens : opens (indent depth ++ "\x7d") = false := opens_eq_false (by simp)
  have hdepth : depthOf (depth + 1) (indent depth ++ "\x7d") = depth := by
    rw [depthOf, if_pos hcloses]
    omega
  exact ⟨hdepth, by simp [depthAfter, hopens, hdepth]⟩

/-- A block with content is a line that opens it, its body one level deeper, and a line that closes
it. -/
theorem standings_block (hheader : IsFlush header) (hne : body ≠ [])
    (hbody : Balanced (depth + 1) body) :
    standings depth (block depth header body) =
      ⟨indent depth ++ header ++ " \x7b", depth, depth + 1⟩ ::
        (standings (depth + 1) body ++ [⟨indent depth ++ "\x7d", depth, depth⟩]) := by
  obtain ⟨hopening, hinside⟩ := depthAfter_opening depth hheader
  obtain ⟨hclosing, houtside⟩ := depthAfter_closing depth
  have hafter : body.foldl depthAfter ((depth : Int) + 1) = depth + 1 := hbody.after
  rw [block, if_neg (by simpa using hne), List.cons_append, standings, standings_append, hopening,
    hinside, hafter, standings, standings, hclosing, houtside]

theorem balanced_block (hheader : IsFlush header) (hbody : Balanced (depth + 1) body) :
    Balanced depth (block depth header body) := by
  by_cases hne : body = []
  · subst hne
    exact balanced_collapsed hheader
  have hstandings := standings_block hheader hne hbody
  have hindent : indentation (indent depth ++ header ++ " \x7b") = 2 * depth := by
    rw [String.append_assoc]
    exact indentation_indent_append (hheader.append _)
  have hindent' : indentation (indent depth ++ "\x7d") = 2 * depth :=
    indentation_indent_append (by decide)
  refine ⟨?_, ?_, ?_⟩
  · have hafter : body.foldl depthAfter ((depth : Int) + 1) = depth + 1 := hbody.after
    rw [block, if_neg (by simpa using hne), List.cons_append, List.foldl_cons,
      (depthAfter_opening depth hheader).2, List.foldl_append, hafter, List.foldl_cons,
      List.foldl_nil, (depthAfter_closing depth).2]
  · rw [hstandings]
    simp only [List.forall_mem_cons, List.forall_mem_append]
    refine ⟨fun _ => by exact_mod_cast hindent, hbody.indented, fun _ => ?_, List.forall_mem_nil _⟩
    exact_mod_cast hindent'
  · rw [hstandings]
    simp only [List.forall_mem_cons, List.forall_mem_append]
    refine ⟨by omega, fun standing hmem => ?_, by omega, List.forall_mem_nil _⟩
    have hwithin := hbody.within standing hmem
    omega

/-- At the top level, the line that closes a block is the last one, and the first one that comes
back to depth zero. -/
theorem wellNested_block (hheader : IsFlush header) (hbody : Balanced 1 body) :
    WellNested (block 0 header body) := by
  have hbalanced : Balanced 0 (block 0 header body) := balanced_block hheader hbody
  refine ⟨hbalanced.indented, hbalanced.within, ?_⟩
  by_cases hne : body = []
  · subst hne
    exact ⟨[], _, rfl, hbalanced.after, List.forall_mem_nil _⟩
  · have hstandings : standings 0 (block 0 header body) =
        ⟨indent 0 ++ header ++ " \x7b", 0, 1⟩ ::
          (standings 1 body ++ [⟨indent 0 ++ "\x7d", 0, 0⟩]) := standings_block hheader hne hbody
    refine ⟨_ :: standings 1 body, ⟨indent 0 ++ "\x7d", 0, 0⟩, hstandings, rfl, ?_⟩
    simp only [List.forall_mem_cons]
    refine ⟨by simp, fun standing hmem => ?_⟩
    have hwithin := hbody.within standing hmem
    omega

/-! ## Messages -/

theorem IsFlush.prepend {mark : String} (h : IsFlush text) (hmark : mark = "" ∨ IsFlush mark) :
    IsFlush (mark ++ text) := by
  rcases hmark with rfl | hmark
  · rwa [String.empty_append]
  · exact hmark.append text

namespace Field

variable {field : Field}

theorem isFlush_text (style : PresenceStyle) (h : IsFlush field.type) :
    IsFlush (field.text style) := by
  have hrequired : (if field.required && style == .label then "required " else "") = "" ∨
      IsFlush (if field.required && style == .label then "required " else "") := by
    split <;> decide
  have hrepeated : (if field.repeated then "repeated " else "") = "" ∨
      IsFlush (if field.repeated then "repeated " else "") := by
    split <;> decide
  simp only [text, String.append_assoc]
  exact ((h.append _).prepend hrepeated).prepend hrequired

/-- A field ends with its semicolon or with the comment after it. -/
theorem getLast?_text (style : PresenceStyle) (field : Field) :
    (field.text style).toList.getLast? = some ';' ∨
      (field.text style).toList.getLast? = some 'd' := by
  unfold text
  by_cases hcomment : (field.required && style == .comment) = true
  · right
    rw [if_pos hcomment, getLast?_append _ (by decide)]
    decide
  · left
    rw [if_neg hcomment, String.append_empty, getLast?_append _ (by decide)]
    decide

theorem balanced_text (style : PresenceStyle) (h : IsFlush field.type) :
    Balanced depth [indent depth ++ field.text style] := by
  have hlast := field.getLast?_text style
  apply balanced_line (field.isFlush_text style h)
  · intro hbrace
    rw [hbrace] at hlast
    revert hlast
    decide
  · rcases hlast with hlast | hlast <;> simp [hlast]

end Field

mutual

theorem Item.balanced_lines (style : PresenceStyle) : ∀ (item : Item) (depth : Nat),
    (∀ field ∈ item.fields, IsFlush field.type) → Balanced depth (item.lines style depth)
  | .field field, _, h => field.balanced_text style (h field (List.mem_singleton_self field))
  | .message name items, depth, h =>
      balanced_block (IsFlush.append (by decide) name)
        (balanced_itemLines style items (depth + 1) h)
  | .oneOf name items, depth, h =>
      balanced_block (IsFlush.append (by decide) name)
        (balanced_itemLines style items (depth + 1) h)

theorem balanced_itemLines (style : PresenceStyle) : ∀ (items : List Item) (depth : Nat),
    (∀ field ∈ itemFields items, IsFlush field.type) → Balanced depth (itemLines style depth items)
  | [], _, _ => balanced_nil
  | item :: rest, depth, h => by
      obtain ⟨hitem, hrest⟩ := List.forall_mem_append.mp h
      exact (item.balanced_lines style depth hitem).append
        (balanced_itemLines style rest depth hrest)

end

theorem Message.wellNested_lines (style : PresenceStyle) {message : Message}
    (h : ∀ field ∈ message.fields, IsFlush field.type) : WellNested (message.lines style) :=
  wellNested_block (IsFlush.append (by decide) message.name)
    (balanced_itemLines style message.items 1 h)

theorem not_isBlank_append (front : String) {rest : String} (h : ¬ IsBlank rest) :
    ¬ IsBlank (front ++ rest) := by
  refine fun hblank => h fun c hc => hblank c ?_
  rw [String.toList_append]
  exact List.mem_append_right _ hc

theorem Field.not_isBlank_text (style : PresenceStyle) (field : Field) :
    ¬ IsBlank (field.text style) := by
  intro hblank
  rcases field.getLast?_text style with hlast | hlast
  · exact absurd (hblank _ (List.mem_of_getLast? hlast)) (by decide)
  · exact absurd (hblank _ (List.mem_of_getLast? hlast)) (by decide)

/-- On every line there is a field or a brace to be seen. -/
theorem Line.not_isBlank_text (style : PresenceStyle) (depth : Nat) (line : Line) :
    ¬ IsBlank (line.text style depth) := by
  apply not_isBlank_append
  cases line with
  | field declared =>
      rw [words, ← Field.text_eq_intercalate]
      exact declared.not_isBlank_text style
  | empty kind name =>
      rw [words, String.intercalate_cons_cons, String.intercalate_cons_cons]
      exact not_isBlank_append _ (not_isBlank_append _ (by decide))
  | opening kind name =>
      rw [words, String.intercalate_cons_cons, String.intercalate_cons_cons]
      exact not_isBlank_append _ (not_isBlank_append _ (by decide))
  | closing =>
      rw [words]
      decide

theorem Message.not_isBlank_of_mem_lines {style : PresenceStyle} {message : Message} :
    ∀ line ∈ message.lines style, ¬ IsBlank line := by
  intro line hline
  rw [lines, Item.lines_eq_map_rows] at hline
  obtain ⟨row, -, rfl⟩ := List.mem_map.mp hline
  exact row.2.not_isBlank_text style row.1

/-! ## Services -/

/-- The texts that a procedure is made of. -/
def Rpc.texts (rpc : Rpc) : List String :=
  [rpc.name, rpc.request, rpc.response, rpc.url, rpc.method, rpc.visibility] ++ rpc.body.toList

/-- The texts that a service is made of. -/
def Service.texts (service : Service) : List String :=
  service.name :: service.knownAs :: service.rpcs.flatMap Rpc.texts

theorem balanced_of_forall (h : ∀ line ∈ lines, Balanced depth [line]) : Balanced depth lines := by
  induction lines with
  | nil => exact balanced_nil
  | cons line rest ih =>
      obtain ⟨hline, hrest⟩ := List.forall_mem_cons.mp h
      exact hline.append (ih hrest)

/-- A line that begins with a fixed word and ends with a semicolon. -/
theorem balanced_option {front rest : String} (hfront : IsFlush front)
    (hrest : rest.toList.getLast? = some ';') :
    Balanced depth [indent depth ++ (front ++ rest)] := by
  have hne : rest ≠ "" := by
    rintro rfl
    cases hrest
  apply balanced_line (hfront.append rest) (hfront.append_ne_brace hne)
  rw [getLast?_append _ hne, hrest]
  decide

theorem Rpc.balanced_lines (rpc : Rpc) : Balanced depth (rpc.lines depth) := by
  have hoption (name value : String) : Balanced (depth + 1)
      [indent (depth + 1) ++ "option (msp.http)." ++ name ++ " = " ++ value ++ ";"] := by
    have hline : Balanced (depth + 1) [indent (depth + 1) ++
        ("option (msp.http)." ++ (name ++ " = " ++ value ++ ";"))] :=
      balanced_option (by decide) (getLast?_append _ (by decide))
    simpa only [String.append_assoc] using hline
  have hheader : IsFlush ("rpc " ++ rpc.name ++ "( " ++ rpc.request ++ " ) returns( " ++
      rpc.response ++ " )") := by
    simp only [String.append_assoc]
    exact IsFlush.append (by decide) _
  apply balanced_block hheader
  apply balanced_of_forall
  cases rpc.body <;> simp [hoption]

theorem Service.wellNested_lines (service : Service) : WellNested service.lines := by
  have halias : Balanced 1
      [indent 1 ++ "option (msp.net).alias = \"" ++ service.knownAs ++ "\";"] := by
    rw [String.append_assoc, String.append_assoc]
    exact balanced_option (by decide) (getLast?_append _ (by decide))
  have hrpcs (rpcs : List Rpc) : Balanced 1 (rpcs.flatMap fun rpc => "" :: rpc.lines 1) := by
    induction rpcs with
    | nil => exact balanced_nil
    | cons rpc rest ih => exact (balanced_blank.append rpc.balanced_lines).append ih
  exact wellNested_block (IsFlush.append (by decide) service.name) (halias.append (hrpcs _))

theorem Rpc.feed_not_mem_lines {rpc : Rpc} (h : ∀ text ∈ rpc.texts, '\n' ∉ text.toList) :
    ∀ line ∈ rpc.lines 1, '\n' ∉ line.toList := by
  have htimeout : '\n' ∉ (toString rpc.timeout).toList := (isWord_repr rpc.timeout).2.2
  rw [lines_eq]
  cases hbody : rpc.body <;> simp_all [texts]

theorem Service.linesOf_text {service : Service}
    (h : ∀ text ∈ service.texts, '\n' ∉ text.toList) : linesOf service.text = service.lines := by
  simp only [texts, List.forall_mem_cons, List.forall_mem_flatMap] at h
  obtain ⟨hname, halias, hrpcs⟩ := h
  apply linesOf_intercalate
  · simp [lines, block]
  · have hindent : indent 0 = "" ∧ indent 1 = "  " := by decide
    simp only [lines, block, List.isEmpty_cons, Bool.false_eq_true, if_false, hindent]
    simp only [List.forall_mem_append, List.forall_mem_cons, List.forall_mem_flatMap]
    refine ⟨⟨by simpa using hname, by simpa using halias, fun rpc hrpc => ⟨by simp, ?_⟩⟩, by simp,
      List.forall_mem_nil _⟩
    exact Rpc.feed_not_mem_lines (hrpcs rpc hrpc)

/-- Blocks are nested as they are indented, with one outermost block, in the text of every message
in every style and in the text of every service, as long as nothing in them breaks a line and no
type begins with a blank. There is something to be seen on every line of a message. -/
theorem text_wellNested :
    (∀ (style : PresenceStyle) (message : Message),
      (∀ name ∈ message.names, '\n' ∉ name.toList) →
      (∀ field ∈ message.fields, IsFlush field.type) →
        WellNested (linesOf (message.text style)) ∧
          ∀ line ∈ linesOf (message.text style), ¬ IsBlank line) ∧
    ∀ service : Service, (∀ text ∈ service.texts, '\n' ∉ text.toList) →
      WellNested (linesOf service.text) := by
  constructor
  · intro style message hnames htypes
    rw [Message.linesOf_text style hnames]
    exact ⟨Message.wellNested_lines style htypes, Message.not_isBlank_of_mem_lines⟩
  · intro service htexts
    rw [Service.linesOf_text htexts]
    exact service.wellNested_lines

/-- A service with a procedure whose names are braces. -/
def Service.ofBraces : Service :=
  .sole "\x7b" [⟨"\x7d", "\x7b", " \x7b", "/ \x7b", "\x7d", 5000, " \x7b", some "\x7d"⟩]

/-- Braces that are names neither open nor close a block. -/
theorem text_wellNested_ofBraces :
    (∀ name ∈ Message.ofMarks.names, '\n' ∉ name.toList) ∧
      (∀ field ∈ Message.ofMarks.fields, IsFlush field.type) ∧
      (∀ text ∈ Service.ofBraces.texts, '\n' ∉ text.toList) ∧
      WellNested (linesOf (Message.ofMarks.text .label)) ∧
      (standings 0 (linesOf (Message.ofMarks.text .label))).map (·.after) =
        [1, 1, 1, 2, 2, 2, 1, 0] ∧
      WellNested (linesOf Service.ofBraces.text) ∧
      (standings 0 (linesOf Service.ofBraces.text)).map (·.after) =
        [1, 1, 1, 2, 2, 2, 2, 2, 2, 1, 0] := by
  have hnames : ∀ name ∈ Message.ofMarks.names, '\n' ∉ name.toList := by decide
  have htypes : ∀ field ∈ Message.ofMarks.fields, IsFlush field.type := by decide
  have htexts : ∀ text ∈ Service.ofBraces.texts, '\n' ∉ text.toList := by decide
  refine ⟨hnames, htypes, htexts, (text_wellNested.1 .label _ hnames htypes).1, ?_,
    text_wellNested.2 _ htexts, ?_⟩
  · rw [Message.linesOf_text _ hnames]
    decide
  · rw [Service.linesOf_text htexts]
    decide

end RouteIdl.Idl
