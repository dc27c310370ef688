import Mathlib.Data.List.Basic
import RouteIdl.Text.Case

/-!
# Images of case mappings

Which ASCII characters a case mapping can give. The tables move characters beyond ASCII to one
another or to ASCII letters of the case asked for, so a character without case comes from itself
only, and a text keeps every one of them.
-/

namespace RouteIdl.Text

/-! ## The tables -/

/-- Whether a code point is a character beyond ASCII or one that passes a test. -/
def codeLands (letter : Char → Bool) (code : Nat) : Bool :=
  decide (128 ≤ (Char.ofNat code).toNat) || letter (Char.ofNat code)

/-- Whether a run moves its code points past ASCII, or its only one to a character that passes a
test. -/
def CaseRun.lands (letter : Char → Bool) (run : CaseRun) : Bool :=
  (decide (128 ≤ run.first + run.offset) &&
      (decide (run.last + run.offset < 0xD800) ||
        decide (0xDFFF < run.first + run.offset) && decide (run.last + run.offset < 0x110000))) ||
    (run.first == run.last && codeLands letter (run.first + run.offset).toNat)

/-- A case mapping, by table beyond ASCII, that moves ASCII letters of one case and gives none but
ASCII letters of the other one, apart from characters that it keeps. -/
structure MapsCase (moved given : Char → Bool) (ascii : Char → Char)
    (sequences : List (Nat × List Nat)) (runs : List CaseRun) : Prop where
  sequences_land : ∀ entry ∈ sequences, ∀ code ∈ entry.2, codeLands given code
  runs_land : ∀ run ∈ runs, run.lands given
  ascii_lands : ∀ code < 128, let c := Char.ofNat code
    moved c ∧ given (ascii c) ∨ ascii c = c ∧ ¬ moved c

theorem mapsCase_lower :
    MapsCase Char.isUpper Char.isLower Char.toLower lowerSequences lowerRuns where
  sequences_land := by decide
  runs_land := by decide +kernel
  ascii_lands := by decide

theorem mapsCase_upper :
    MapsCase Char.isLower Char.isUpper Char.toUpper upperSequences upperRuns where
  sequences_land := by decide
  runs_land := by decide +kernel
  ascii_lands := by decide

theorem toNat_ofNat_of_isValidChar {code : Nat} (h : code.isValidChar) :
    (Char.ofNat code).toNat = code := by
  rw [Char.ofNat, dif_pos h]
  rfl

theorem codeLands_of_lands {letter : Char → Bool} {run : CaseRun} {code : Nat}
    (hlands : run.lands letter) (hcovers : run.covers code) :
    codeLands letter (code + run.offset).toNat := by
  simp only [CaseRun.lands, CaseRun.covers, Bool.or_eq_true, Bool.and_eq_true, decide_eq_true_eq,
    beq_iff_eq] at hlands hcovers
  rcases hlands with ⟨hlow, hvalid⟩ | ⟨hsingle, hlands⟩
  · have hchar : (code + run.offset).toNat.isValidChar := by
      unfold Nat.isValidChar
      omega
    simp only [codeLands, toNat_ofNat_of_isValidChar hchar, Bool.or_eq_true, decide_eq_true_eq]
    exact .inl (by omega)
  · have hcode : code = run.first := by omega
    rwa [hcode]

/-! ## Characters -/

namespace MapsCase

variable {moved given : Char → Bool} {ascii : Char → Char} {sequences : List (Nat × List Nat)}
  {runs : List CaseRun} {c x : Char}

theorem of_ascii (h : MapsCase moved given ascii sequences runs) (hc : c.toNat < 128) :
    moved c ∧ given (ascii c) ∨ ascii c = c ∧ ¬ moved c := by
  simpa using h.ascii_lands c.toNat hc

theorem given_of_mem_otherCase (h : MapsCase moved given ascii sequences runs)
    (hc : 128 ≤ c.toNat) (hmem : x ∈ otherCase sequences runs c) (hx : x.toNat < 128) :
    given x := by
  -- Whatever the tables give, it is an image that lands.
  suffices hland : x = c ∨ ∃ code, x = Char.ofNat code ∧ codeLands given code by
    rcases hland with rfl | ⟨code, rfl, hland⟩
    · omega
    · simpa [codeLands, Nat.not_le.mpr hx] using hland
  unfold otherCase at hmem
  split at hmem
  next codes hlookup =>
    obtain ⟨before, after, heq, _⟩ := List.lookup_eq_some_iff.mp hlookup
    obtain ⟨code, hcode, rfl⟩ := List.mem_map.mp hmem
    exact .inr ⟨code, rfl, h.sequences_land (c.toNat, codes) (by simp [heq]) code hcode⟩
  next =>
    split at hmem
    next run hrun =>
      have hlands := h.runs_land run (List.mem_of_find?_eq_some hrun)
      have hcovers : run.covers c.toNat := by simpa using List.find?_some hrun
      exact .inr ⟨_, List.mem_singleton.mp hmem, codeLands_of_lands hlands hcovers⟩
    next => exact .inl (List.mem_singleton.mp hmem)

/-- An ASCII character in an image is a letter of the case that is given, or its own image. -/
theorem of_mem_image (h : MapsCase moved given ascii sequences runs)
    (hmem : x ∈ if c.toNat < 128 then [ascii c] else otherCase sequences runs c)
    (hx : x.toNat < 128) : given x ∨ x = c ∧ ¬ moved c := by
  split at hmem
  next hc =>
    obtain rfl := List.mem_singleton.mp hmem
    exact (h.of_ascii hc).imp_left And.right
  next hc => exact .inl (h.given_of_mem_otherCase (Nat.not_lt.mp hc) hmem hx)

/-- A character of ASCII that is no letter occurs in the image of itself only. -/
theorem count_image (h : MapsCase moved given ascii sequences runs) (hx : x.toNat < 128)
    (hmoved : moved x = false) (hgiven : given x = false) (c : Char) :
    (if c.toNat < 128 then [ascii c] else otherCase sequences runs c).count x =
      [c].count x := by
  by_cases heq : x = c
  · subst heq
    have hself : ascii x = x := by simpa [hmoved] using h.of_ascii hx
    rw [if_pos hx, hself]
  · have himage : x ∉ if c.toNat < 128 then [ascii c] else otherCase sequences runs c := by
      intro hmem
      exact heq ((h.of_mem_image hmem hx).resolve_left (by simp [hgiven])).1
    rw [List.count_eq_zero_of_not_mem himage, List.count_eq_zero_of_not_mem]
    simpa using heq

end MapsCase

/-! ## Characters without case -/

/-- Whether a character is in ASCII and no letter there. -/
def isCaseless (x : Char) : Bool :=
  decide (x.toNat < 128) && !x.isUpper && !x.isLower

theorem isCaseless_iff {x : Char} :
    isCaseless x ↔ x.toNat < 128 ∧ x.isUpper = false ∧ x.isLower = false := by
  simp [isCaseless, and_assoc]

theorem count_cons_split (x c : Char) (rest : List Char) :
    (c :: rest).count x = [c].count x + rest.count x := by
  rw [← List.count_append, List.singleton_append]

section Count

variable {x : Char} (hx : isCaseless x)
include hx

theorem count_lowerChar (c : Char) : (lowerChar c).count x = [c].count x := by
  obtain ⟨hascii, hupper, hlower⟩ := isCaseless_iff.mp hx
  exact mapsCase_lower.count_image hascii hupper hlower c

theorem count_upperChar (c : Char) : (upperChar c).count x = [c].count x := by
  obtain ⟨hascii, hupper, hlower⟩ := isCaseless_iff.mp hx
  exact mapsCase_upper.count_image hascii hlower hupper c

theorem count_sigma (before after : List Char) :
    [lowerSigma before after].count x = ['Σ'].count x := by
  obtain ⟨hascii, -⟩ := isCaseless_iff.mp hx
  have hbeyond {c : Char} (hc : 128 ≤ c.toNat) : [c].count x = 0 := by
    apply List.count_eq_zero_of_not_mem
    rw [List.mem_singleton]
    rintro rfl
    omega
  rw [hbeyond (c := 'Σ') (by decide), hbeyond]
  unfold lowerSigma
  split <;> decide

theorem count_lowerAfter (before text : List Char) :
    (lowerAfter before text).count x = text.count x := by
  induction text generalizing before with
  | nil => rfl
  | cons c rest ih =>
      rw [lowerAfter, List.count_append, ih, count_cons_split]
      split
      next hsigma => rw [count_sigma hx, hsigma]
      next => rw [count_lowerChar hx]

/-- In lower case, a text has as many of a character without case as before. -/
theorem count_lower (text : List Char) : (lower text).count x = text.count x :=
  count_lowerAfter hx [] text

theorem count_capitalize (text : List Char) : (capitalize text).count x = text.count x := by
  cases text with
  | nil => rfl
  | cons c rest =>
      rw [capitalize, List.count_append, count_upperChar hx, ← count_cons_split]

end Count

/-! ## Capital letters -/

/-- No capital letter of ASCII is left in lower case. -/
theorem not_mem_lower_of_isUpper {x : Char} (hx : x.toNat < 128) (hupper : x.isUpper)
    (text : List Char) : x ∉ lower text := by
  suffices h : ∀ before, x ∉ lowerAfter before text from h []
  have hlower : ¬ x.isLower := by
    have htable : ∀ code < 128, (Char.ofNat code).isUpper → ¬ (Char.ofNat code).isLower := by
      decide
    simpa using htable x.toNat hx (by simpa using hupper)
  induction text with
  | nil => simp [lowerAfter]
  | cons c rest ih =>
      intro before hmem
      rcases List.mem_append.mp hmem with hmem | hmem
      · split at hmem
        · obtain rfl := List.mem_singleton.mp hmem
          unfold lowerSigma at hx
          split at hx <;> exact absurd hx (by decide)
        · obtain ⟨rfl, hnot⟩ := (mapsCase_lower.of_mem_image hmem hx).resolve_left hlower
          exact hnot hupper
      · exact ih (c :: before) hmem

/-- After the first character of an upper case, no `E` comes. -/
theorem not_mem_tail_upperChar (c : Char) : 'E' ∉ (upperChar c).tail := by
  unfold upperChar otherCase
  split
  next => simp
  next =>
    split
    next codes hlookup =>
      obtain ⟨before, after, heq, _⟩ := List.lookup_eq_some_iff.mp hlookup
      have htable : ∀ entry ∈ upperSequences, 'E' ∉ (entry.2.map Char.ofNat).tail := by
        decide
      exact htable (c.toNat, codes) (by simp [heq])
    next => split <;> simp

end RouteIdl.Text
