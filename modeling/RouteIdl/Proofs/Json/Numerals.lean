import RouteIdl.Proofs.Json.Digits
import RouteIdl.Proofs.Json.Fits

/-!
# Numbers in a text

The numbers of a text, found by a scan that tells them from what stands in strings. If all of them
are written as integers within 64 bits, then every number that is read is such an integer.
-/

namespace RouteIdl.Json

/-! ## The scan -/

/-- Whether a symbol begins a number, outside of strings. -/
def Symbol.beginsNumber : Symbol → Bool
  | char c => c == '-' || c.isDigit
  | stray _ => false

/-- Where a scan stands. -/
inductive Stage where
  /-- Between lexemes. -/
  | between
  /-- In a number. -/
  | number
  /-- In a string. -/
  | string
  /-- In a string, after a backslash. -/
  | escape

/-- The stage after a symbol that does not belong to a number. -/
def Stage.after (symbol : Symbol) : Stage :=
  if symbol = .char '"' then .string else .between

/-- The numbers from a stage on. -/
def numeralsFrom : Stage → List Symbol → List (List Symbol)
  | _, [] => []
  | .between, symbol :: rest =>
      if symbol.beginsNumber then
        (symbol :: rest.takeWhile Symbol.isNumeric) :: numeralsFrom .number rest
      else numeralsFrom (.after symbol) rest
  | .number, symbol :: rest =>
      numeralsFrom (if symbol.isNumeric then .number else .after symbol) rest
  | .string, symbol :: rest =>
      numeralsFrom
        (if symbol = .char '"' then .between
          else if symbol = .char '\\' then .escape else .string) rest
  | .escape, _ :: rest => numeralsFrom .string rest

/-- The numbers of a text, as they are written. -/
def numerals (input : List Symbol) : List (List Symbol) :=
  numeralsFrom .between input

/-- The number that symbols stand for that are all decimal digits. -/
def decimal? (symbols : List Symbol) : Option Nat :=
  (symbols.mapM Symbol.digit?).map ofDecimal

/-- Whether a number is written as an integer within 64 bits, signed or unsigned, and not as a
negative zero. -/
def isIntegral : List Symbol → Bool
  | .char '-' :: magnitude => (decimal? magnitude).any fun n => 0 < n && n ≤ Nat.pow 2 63
  | magnitude => (decimal? magnitude).any (· < Nat.pow 2 64)

/-- All numbers of a text are written as integers within 64 bits. -/
def IntegersOnly (input : List Symbol) : Prop :=
  ∀ numeral ∈ numerals input, isIntegral numeral

instance (input : List Symbol) : Decidable (IntegersOnly input) :=
  List.decidableBAll _ _

/-- An integer that is kept with its digits. -/
def IsExact (json : Json) : Prop :=
  ∃ n : Int, json = .integer n ∧ -(2 ^ 63) ≤ n ∧ n < 2 ^ 64

example : numerals (Symbol.ofText "[-12,\"3\\\"4\",\x7b\"5\":1.5e+3\x7d]") =
    [Symbol.ofText "-12", Symbol.ofText "1.5e+3"] := by decide

section Scan

variable {symbol : Symbol} {input rest : List Symbol}

theorem Symbol.isNumeric_of_beginsNumber (h : symbol.beginsNumber) : symbol.isNumeric := by
  cases symbol with
  | stray byte => cases h
  | char c =>
      simp only [beginsNumber, Bool.or_eq_true, beq_iff_eq] at h
      rcases h with rfl | h
      · rfl
      · simp [isNumeric, h]

/-- A number ends before the first symbol that it cannot go on with. -/
theorem numeralsFrom_number : numeralsFrom .number input =
    numerals (input.dropWhile Symbol.isNumeric) := by
  induction input with
  | nil => rfl
  | cons symbol rest ih =>
      rw [numeralsFrom, List.dropWhile_cons]
      split
      next => exact ih
      next hnumeric =>
        have hbegins : ¬ symbol.beginsNumber := fun h =>
          hnumeric (Symbol.isNumeric_of_beginsNumber h)
        rw [numerals, numeralsFrom, if_neg hbegins]

theorem numerals_of_beginsNumber (h : symbol.beginsNumber) : numerals (symbol :: rest) =
    (symbol :: rest.takeWhile Symbol.isNumeric) ::
      numerals (rest.dropWhile Symbol.isNumeric) := by
  rw [numerals, numeralsFrom, if_pos h, numeralsFrom_number]

theorem numerals_of_mark (h : symbol.beginsLexeme = false) :
    numerals (symbol :: rest) = numerals rest := by
  have hother : symbol.beginsNumber = false ∧ symbol ≠ .char '"' := by
    cases symbol with
    | stray byte => exact ⟨rfl, nofun⟩
    | char c =>
        simp only [Symbol.beginsLexeme, Bool.or_eq_false_iff, beq_eq_false_iff_ne] at h
        refine ⟨by simp [Symbol.beginsNumber, h], ?_⟩
        rintro ⟨⟩
        exact h.1.1 rfl
  rw [numerals, numeralsFrom, hother.1, if_neg Bool.false_ne_true, Stage.after, if_neg hother.2]
  rfl

theorem numeralsFrom_string (hquote : symbol ≠ .char '"') (hbackslash : symbol ≠ .char '\\') :
    numeralsFrom .string (symbol :: rest) = numeralsFrom .string rest := by
  rw [numeralsFrom, if_neg hquote, if_neg hbackslash]

end Scan

/-! ## Strings -/

/-- A word is left off exactly if the text begins with it. -/
theorem word_eq_ok_iff {text : List Char} {input rest : List Symbol} :
    word text input = .ok rest ↔ input = text.map Symbol.char ++ rest := by
  induction text generalizing input with
  | nil => simp [word]
  | cons c others ih =>
      cases input with
      | nil => simp [word]
      | cons symbol input =>
          rw [word]
          split
          next h => rw [ih, h, List.map_cons, List.cons_append, List.cons.injEq, eq_self,
            true_and]
          next h => simp [h]

section Strings

variable {input rest : List Symbol} {c : Char}

theorem mapM_eq_some_iff {α β : Type} {f : α → Option β} {xs : List α} {ys : List β} :
    xs.mapM f = some ys ↔ List.Forall₂ (fun x y => f x = some y) xs ys := by
  induction xs generalizing ys with
  | nil => simp [List.forall₂_nil_left_iff, eq_comm]
  | cons x xs ih =>
      rw [List.mapM_cons, List.forall₂_cons_left_iff]
      constructor
      · intro h
        obtain ⟨y, hy, h⟩ := Option.bind_eq_some_iff.mp h
        obtain ⟨ys, hys, h⟩ := Option.bind_eq_some_iff.mp h
        cases h
        exact ⟨y, ys, hy, ih.mp hys, rfl⟩
      · rintro ⟨y, ys, hy, hys, rfl⟩
        rw [hy, ih.mpr hys]
        rfl

/-- Four hexadecimal digits are no end of a string. -/
theorem numeralsFrom_of_hexUnit {unit : Nat} (h : hexUnit input = .ok (unit, rest)) :
    numeralsFrom .string input = numeralsFrom .string rest := by
  have hplain {symbol : Symbol} {digit : Nat} {rest : List Symbol}
      (h : symbol.hexDigit? = some digit) :
      numeralsFrom .string (symbol :: rest) = numeralsFrom .string rest := by
    refine numeralsFrom_string ?_ ?_ <;> (rintro rfl; cases h)
  unfold hexUnit at h
  split at h
  next a b c d hdigits =>
    cases h
    obtain ⟨first, hfirst⟩ : ∃ first, input.take 4 = first := ⟨_, rfl⟩
    conv_lhs => rw [← List.take_append_drop 4 input]
    rw [hfirst] at hdigits ⊢
    obtain _ | ⟨ha, _ | ⟨hb, _ | ⟨hc, _ | ⟨hd, _ | _⟩⟩⟩⟩ := mapM_eq_some_iff.mp hdigits
    simp only [List.cons_append, List.nil_append]
    rw [hplain ha, hplain hb, hplain hc, hplain hd]
  next => split at h <;> cases h

theorem numeralsFrom_of_numericEscape (h : numericEscape input = .ok (c, rest)) :
    numeralsFrom .string input = numeralsFrom .string rest := by
  obtain ⟨⟨unit, middle⟩, hunit, h⟩ := bind_eq_ok_iff.mp h
  rw [numeralsFrom_of_hexUnit hunit]
  simp only at h
  split at h
  next => cases h
  next =>
    split at h
    next =>
      -- A trailing unit comes after a backslash of its own.
      obtain ⟨after, hword, h⟩ := bind_eq_ok_iff.mp h
      obtain ⟨⟨second, last⟩, hsecond, h⟩ := bind_eq_ok_iff.mp h
      have hmiddle : numeralsFrom .string middle = numeralsFrom .string after := by
        obtain rfl := word_eq_ok_iff.mp hword
        rfl
      simp only at h
      split at h
      next =>
        obtain ⟨-, rfl⟩ := Prod.mk.inj (Except.ok.inj h)
        exact hmiddle.trans (numeralsFrom_of_hexUnit hsecond)
      next => cases h
    next =>
      cases h
      rfl

theorem numeralsFrom_of_escape (h : escape input = .ok (c, rest)) :
    numeralsFrom .escape input = numeralsFrom .string rest := by
  unfold escape at h
  split at h
  next => cases h
  next => exact numeralsFrom_of_numericEscape h
  next =>
    split at h
    next =>
      cases h
      rfl
    next => cases h
  next => cases h

theorem numeralsFrom_of_looseEscape (h : looseEscape input = .ok (c, rest)) :
    numeralsFrom .escape input = numeralsFrom .string rest := by
  unfold looseEscape at h
  split at h
  next =>
    obtain ⟨⟨_, remaining⟩, hunit, h⟩ := bind_eq_ok_iff.mp h
    cases h
    exact numeralsFrom_of_hexUnit hunit
  next => exact numeralsFrom_of_escape h

/-- A string ends where the scan says that it ends. -/
theorem numeralsFrom_of_stringBody {escape : Reader Char} {fuel : Nat} {body : List Symbol}
    (hescape : ∀ {input : List Symbol} {c : Char} {rest : List Symbol},
      escape input = .ok (c, rest) → numeralsFrom .escape input = numeralsFrom .string rest)
    (h : stringBody escape fuel input = .ok (body, rest)) :
    numeralsFrom .string input = numerals rest := by
  fun_induction stringBody escape fuel input generalizing body with
  | case1 => cases h
  | case2 => cases h
  | case3 fuel after =>
      cases h
      rfl
  | case4 fuel after ih =>
      obtain ⟨⟨_, remaining⟩, hmeant, h⟩ := bind_eq_ok_iff.mp h
      obtain ⟨⟨_, remaining⟩, hbody, h⟩ := bind_eq_ok_iff.mp h
      cases h
      exact (hescape hmeant).trans (ih _ hbody)
  | case5 => cases h
  | case6 fuel after c _ hquote hbackslash ih =>
      obtain ⟨⟨_, remaining⟩, hbody, h⟩ := bind_eq_ok_iff.mp h
      cases h
      exact (numeralsFrom_string hquote hbackslash).trans (ih hbody)
  | case7 fuel after byte hquote hbackslash ih =>
      obtain ⟨⟨_, remaining⟩, hbody, h⟩ := bind_eq_ok_iff.mp h
      cases h
      exact (numeralsFrom_string hquote hbackslash).trans (ih hbody)

end Strings

/-! ## Digits -/

section Digits

theorem decimal?_eq_some_iff {symbols : List Symbol} {n : Nat} :
    decimal? symbols = some n ↔
      ∃ ds, List.Forall₂ (fun symbol d => symbol.digit? = some d) symbols ds ∧
        ofDecimal ds = n := by
  simp only [decimal?, Option.map_eq_some_iff, mapM_eq_some_iff]

theorem exists_of_any_decimal? {symbols : List Symbol} {p : Nat → Bool}
    (h : (decimal? symbols).any p) :
    ∃ ds, List.Forall₂ (fun symbol d => symbol.digit? = some d) symbols ds ∧ p (ofDecimal ds) := by
  obtain ⟨n, hn, hp⟩ := (Option.any_eq_true p _).mp h
  obtain ⟨ds, hds, rfl⟩ := decimal?_eq_some_iff.mp hn
  exact ⟨ds, hds, hp⟩

/-- In a text with integers only, digits begin a number, perhaps after a minus sign, and end it. -/
theorem exists_digits {symbol : Symbol} {rest : List Symbol}
    (hinput : IntegersOnly (symbol :: rest)) (h : symbol.beginsNumber) :
    ∃ run ds tail, List.Forall₂ (fun symbol d => symbol.digit? = some d) run ds ∧
      EndsNumber tail ∧ IntegersOnly tail ∧
      ((symbol = .char '-' ∧ rest = run ++ tail ∧ 0 < ofDecimal ds ∧
          ofDecimal ds ≤ Nat.pow 2 63) ∨
        (symbol ≠ .char '-' ∧ symbol :: rest = run ++ tail ∧ ofDecimal ds < Nat.pow 2 64)) := by
  rw [IntegersOnly, numerals_of_beginsNumber h, List.forall_mem_cons] at hinput
  obtain ⟨hnumeral, htail⟩ := hinput
  have hends := endsNumber_dropWhile rest
  have hrest : rest.takeWhile Symbol.isNumeric ++ rest.dropWhile Symbol.isNumeric = rest :=
    List.takeWhile_append_dropWhile
  by_cases hminus : symbol = .char '-'
  · subst hminus
    obtain ⟨ds, hds, hrange⟩ := exists_of_any_decimal? hnumeral
    rw [Bool.and_eq_true, decide_eq_true_eq, decide_eq_true_eq] at hrange
    exact ⟨_, ds, _, hds, hends, htail, .inl ⟨rfl, hrest.symm, hrange⟩⟩
  · unfold isIntegral at hnumeral
    split at hnumeral
    next heq => exact absurd (List.cons.inj heq).1 hminus
    next =>
      obtain ⟨ds, hds, hrange⟩ := exists_of_any_decimal? hnumeral
      refine ⟨_, ds, _, hds, hends, htail, .inr ⟨hminus, ?_, of_decide_eq_true hrange⟩⟩
      rw [List.cons_append, hrest]

/-- Where digits are read, a number begins. -/
theorem beginsNumber_of_digits {symbol : Symbol} (rest : List Symbol)
    (h : (digits (symbol :: rest)).1 ≠ []) : symbol.beginsNumber := by
  have hdigit : symbol.digit? ≠ none := by
    intro hnone
    rw [digits, hnone] at h
    exact h rfl
  cases symbol with
  | stray byte => exact absurd rfl hdigit
  | char c =>
      have hc : c.isDigit := by
        by_contra hc
        exact hdigit (if_neg hc)
      simp [Symbol.beginsNumber, hc]

end Digits

/-! ## Numbers -/

section Numbers

variable {input rest : List Symbol}

theorem number_of_integersOnly {found : Json} (hinput : IntegersOnly input)
    (h : number input = .ok (found, rest)) : IsExact found ∧ IntegersOnly rest := by
  have hpow : Nat.pow 2 63 = 2 ^ 63 ∧ Nat.pow 2 64 = 2 ^ 64 := ⟨rfl, rfl⟩
  unfold number at h
  split at h
  next =>
    obtain ⟨run, ds, tail, hds, hends, htail, ⟨-, rfl, hrange⟩ | ⟨hminus, -⟩⟩ :=
      exists_digits hinput rfl
    · have hlt : ofDecimal ds < Nat.pow 2 64 := Nat.lt_of_le_of_lt hrange.2 (by decide)
      obtain ⟨rfl, rfl⟩ := eq_of_unsignedNumber_append hds hends hlt (fun _ => hrange) h
      rw [hpow.1] at hrange
      exact ⟨⟨-(ofDecimal ds), rfl, by omega, by omega⟩, htail⟩
    · exact absurd rfl hminus
  next hplain =>
    cases input with
    | nil => cases h
    | cons symbol after =>
        have hbegins : symbol.beginsNumber := by
          refine beginsNumber_of_digits after fun hnone => ?_
          unfold unsignedNumber at h
          split at h <;> simp_all
        obtain ⟨run, ds, tail, hds, hends, htail, ⟨rfl, -⟩ | ⟨-, hrun, hlt⟩⟩ :=
          exists_digits hinput hbegins
        · exact absurd rfl (hplain after)
        · rw [hrun] at h
          have hunsigned : false → 0 < ofDecimal ds ∧ ofDecimal ds ≤ Nat.pow 2 63 := nofun
          obtain ⟨rfl, rfl⟩ := eq_of_unsignedNumber_append hds hends hlt hunsigned h
          rw [hpow.2] at hlt
          exact ⟨⟨ofDecimal ds, rfl, by omega, by omega⟩, htail⟩

/-- Nothing but digits comes after the sign of a number. -/
theorem digits_of_integersOnly {ds : List Nat} {tail : List Symbol} (hne : ds ≠ [])
    (h : digits (match input with
      | .char '-' :: magnitude => magnitude
      | _ => input) = (ds, tail)) (hinput : IntegersOnly input) :
    EndsNumber tail ∧ IntegersOnly tail := by
  split at h
  next =>
    obtain ⟨run, ds, tail, hds, hends, htail, ⟨-, rfl, -⟩ | ⟨hminus, -⟩⟩ :=
      exists_digits hinput rfl
    · rw [digits_append hds hends] at h
      cases h
      exact ⟨hends, htail⟩
    · exact absurd rfl hminus
  next hplain =>
    cases input with
    | nil =>
        cases h
        exact absurd rfl hne
    | cons symbol after =>
        have hbegins : symbol.beginsNumber := beginsNumber_of_digits after (by rwa [h])
        obtain ⟨run, ds, tail, hds, hends, htail, ⟨rfl, -⟩ | ⟨-, hrun, -⟩⟩ :=
          exists_digits hinput hbegins
        · exact absurd rfl (hplain after)
        · rw [hrun, digits_append hds hends] at h
          cases h
          exact ⟨hends, htail⟩

theorem numberSkipped_of_integersOnly (hinput : IntegersOnly input)
    (h : numberSkipped input = .ok rest) : IntegersOnly rest := by
  unfold numberSkipped at h
  dsimp only at h
  split at h
  next => cases h
  next => cases h
  next hne _ heq => exact absurd rfl ((digits_of_integersOnly hne heq hinput).1.ne_cons rfl)
  next hne _ _ heq =>
    obtain ⟨hends, htail⟩ := digits_of_integersOnly hne heq hinput
    split at h
    next => exact absurd rfl (hends.ne_cons rfl)
    next => exact absurd rfl (hends.ne_cons rfl)
    next =>
      cases h
      exact htail

theorem integersOnly_of_string (h : IntegersOnly (.char '"' :: input))
    (hnumerals : numeralsFrom .string input = numerals rest) : IntegersOnly rest := by
  rw [IntegersOnly, ← hnumerals]
  exact h

/-- Texts with integers only stay so while they are read, and all their numbers are integers that
keep their digits. -/
theorem lasts_integersOnly : Lasts IntegersOnly IsExact where
  symbol hsymbol h := by
    rw [IntegersOnly, numerals_of_mark hsymbol] at h
    exact h
  string h hstring := by
    obtain ⟨⟨body, remaining⟩, hbody, hstring⟩ := bind_eq_ok_iff.mp hstring
    simp only at hstring
    split at hstring
    next =>
      cases hstring
      exact integersOnly_of_string h (numeralsFrom_of_stringBody numeralsFrom_of_escape hbody)
    next => cases hstring
  stringSkipped h hstring := by
    obtain ⟨⟨body, remaining⟩, hbody, hstring⟩ := bind_eq_ok_iff.mp hstring
    cases hstring
    exact integersOnly_of_string h (numeralsFrom_of_stringBody numeralsFrom_of_looseEscape hbody)
  number := number_of_integersOnly
  numberSkipped := numberSkipped_of_integersOnly

end Numbers

end RouteIdl.Json
