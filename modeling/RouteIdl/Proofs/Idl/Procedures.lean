import Mathlib.Data.List.Infix
import RouteIdl.Idl.Layout

/-!
# The text of procedures

The text of a service as a list of characters, with the names and quoted values of its procedures
set apart. What stands between them is fixed, so two such texts are compared piece by piece: a piece
without the characters that end it is determined by the text.
-/

namespace RouteIdl.Idl

/-! ## Delimiters -/

/-- No end of a delimiter is also the beginning of it, so two occurrences do not overlap. -/
def IsDelimiter (delimiter : List Char) : Prop :=
  ∀ count < delimiter.length, 0 < count → ¬ delimiter.drop count <+: delimiter

instance (delimiter : List Char) : Decidable (IsDelimiter delimiter) :=
  inferInstanceAs (Decidable (∀ count < delimiter.length, _))

section Delimiter

variable {delimiter piece other rest rest' : List Char}

/-- A piece that goes on where another one ends has the delimiter in it. -/
theorem IsDelimiter.eq_nil (hdelimiter : IsDelimiter delimiter) {more : List Char}
    (hpiece : ¬ delimiter <:+: piece ++ more)
    (h : delimiter ++ rest = more ++ (delimiter ++ rest')) : more = [] := by
  by_contra hmore
  have hstart : more <+: delimiter ++ rest := ⟨_, h.symm⟩
  rcases List.prefix_or_prefix_of_prefix hstart (List.prefix_append delimiter rest) with
    hshort | hlong
  · obtain ⟨tail, rfl⟩ := hshort
    rw [List.append_assoc, List.append_cancel_left_eq] at h
    have htail : tail <+: more ++ tail := by
      apply List.prefix_of_prefix_length_le ⟨rest, h⟩ (List.prefix_append _ rest')
      simp
    cases tail with
    | nil => exact hpiece (by simpa using List.infix_append_right)
    | cons c tail =>
        refine hdelimiter more.length (by simp) (List.length_pos_iff.mpr hmore) ?_
        rwa [List.drop_left]
  · exact hpiece (hlong.isInfix.trans List.infix_append_right)

/-- Pieces without the delimiter that ends them can be told from what follows. -/
theorem IsDelimiter.cancel (hdelimiter : IsDelimiter delimiter) (hpiece : ¬ delimiter <:+: piece)
    (hother : ¬ delimiter <:+: other)
    (h : piece ++ (delimiter ++ rest) = other ++ (delimiter ++ rest')) :
    piece = other ∧ rest = rest' := by
  suffices heq : piece = other by
    subst heq
    exact ⟨rfl, by simpa using h⟩
  rcases List.append_eq_append_iff.mp h with ⟨more, rfl, hmore⟩ | ⟨more, rfl, hmore⟩
  · rw [hdelimiter.eq_nil hother hmore, List.append_nil]
  · rw [hdelimiter.eq_nil hpiece hmore, List.append_nil]

/-- A piece is determined by the character that ends it and how many of these are in it. -/
theorem eq_of_count_eq {ending : Char} (hcount : piece.count ending = other.count ending)
    (h : piece ++ ending :: rest = other ++ ending :: rest') : piece = other := by
  rcases List.append_eq_append_iff.mp h with ⟨more, rfl, hmore⟩ | ⟨more, rfl, hmore⟩
  all_goals
    cases more with
    | nil => simp
    | cons c more =>
        obtain ⟨rfl, -⟩ := List.cons.inj hmore
        simp at hcount

end Delimiter

/-! ## Procedures -/

namespace Rpc

/-- The blank line before a procedure and its lines, each with its line feed. -/
def chars (rpc : Rpc) : List Char :=
  ("" :: rpc.lines 1).flatMap fun line => line.toList ++ ['\n']

/-- What stands between the name and the URL. -/
def beforeUrl (rpc : Rpc) : List Char :=
  ("( " ++ rpc.request ++ " ) returns( " ++ rpc.response ++
    " ) \x7b\n    option (msp.http).templatedUrl = \"").toList

/-- What stands between the URL and the quote before the method. -/
def afterUrl : List Char :=
  "\";\n    option (msp.http).method = ".toList

/-- What stands between the quote after the method and the visibility. -/
def afterMethod (rpc : Rpc) : List Char :=
  (";\n    option (msp.http).timeout = " ++ toString rpc.timeout ++
    ";\n    option (msp.http).visibility = \"").toList

/-- What ends an option and, with it, a procedure. -/
def lastEnd : List Char :=
  "\";\n  \x7d\n".toList

/-- What stands after the visibility. -/
def ending (rpc : Rpc) : List Char :=
  (rpc.body.elim "" fun source => "\";\n    option (msp.http).body = \"" ++ source).toList ++ lastEnd

theorem isDelimiter_afterUrl : IsDelimiter afterUrl := by
  decide +kernel

theorem lines_eq (rpc : Rpc) :
    rpc.lines 1 =
      ["  rpc " ++ rpc.name ++ "( " ++ rpc.request ++ " ) returns( " ++ rpc.response ++ " ) \x7b",
        "    option (msp.http).templatedUrl = \"" ++ rpc.url ++ "\";",
        "    option (msp.http).method = \"" ++ rpc.method ++ "\";",
        "    option (msp.http).timeout = " ++ toString rpc.timeout ++ ";",
        "    option (msp.http).visibility = \"" ++ rpc.visibility ++ "\";"] ++
      (rpc.body.map fun source => "    option (msp.http).body = \"" ++ source ++ "\";").toList ++
      ["  \x7d"] := by
  have houter : indent 1 = "  " := by decide
  have hinner : indent 2 = "    " := by decide
  simp only [lines, block, houter, hinner]
  cases rpc.body <;> simp [← String.toList_inj]

/-- The text of a procedure, piece by piece. -/
theorem chars_eq (rpc : Rpc) :
    rpc.chars = "\n  rpc ".toList ++ (rpc.name.toList ++ (rpc.beforeUrl ++ (rpc.url.toList ++
      (afterUrl ++ '"' :: (rpc.method.toList ++ '"' :: (rpc.afterMethod ++
        (rpc.visibility.toList ++ rpc.ending))))))) := by
  rw [chars, lines_eq]
  unfold beforeUrl afterUrl afterMethod ending lastEnd
  cases rpc.body <;>
    (simp only [List.flatMap_cons, List.cons_append, String.toList_append, List.append_assoc,
      Option.map_none, Option.map_some, Option.toList_none, Option.toList_some, Option.elim_none,
      Option.elim_some]
     simp)

end Rpc

/-- A text is its lines, each but the last with its line feed. -/
theorem toList_intercalate_lines (lines : List String) (last : String) :
    ("\n".intercalate (lines ++ [last])).toList =
      (lines.flatMap fun line => line.toList ++ ['\n']) ++ last.toList := by
  induction lines with
  | nil => simp
  | cons line rest ih =>
      obtain ⟨next, others, hrest⟩ := List.exists_cons_of_ne_nil (l := rest ++ [last]) (by simp)
      rw [List.cons_append, hrest, String.intercalate_cons_cons, ← hrest]
      simp [ih]

/-- The text of a service up to its first procedure. -/
def Service.opening (service : Service) : List Char :=
  ("service " ++ service.name ++ " \x7b\n  option (msp.net).alias = \"" ++ service.knownAs ++
    "\";\n").toList

theorem Service.toList_text (service : Service) :
    service.text.toList = service.opening ++ (service.rpcs.flatMap Rpc.chars ++ ['\x7d']) := by
  have hrpcs : (service.rpcs.flatMap fun rpc => "" :: rpc.lines 1).flatMap
      (fun line => line.toList ++ ['\n']) = service.rpcs.flatMap Rpc.chars := by
    rw [List.flatMap_assoc]
    rfl
  have hlines : service.lines = (("service " ++ service.name ++ " \x7b") ::
      ("  option (msp.net).alias = \"" ++ service.knownAs ++ "\";") ::
        service.rpcs.flatMap fun rpc => "" :: rpc.lines 1) ++ ["\x7d"] := by
    simp [lines, block, indent]
  rw [text, hlines, toList_intercalate_lines, List.flatMap_cons, List.flatMap_cons, hrpcs]
  simp [opening]

end RouteIdl.Idl
