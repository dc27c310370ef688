import RouteIdl.Json.Record

/-!
# What readers leave

Properties of a text that last while values are read off its front or skipped. They have to survive
single symbols that stand between lexemes, and each lexeme as a whole.
-/

namespace RouteIdl.Json

theorem bind_eq_ok_iff {ε α β : Type} {first : Except ε α} {next : α → Except ε β} {value : β} :
    (first >>= next) = .ok value ↔ ∃ middle, first = .ok middle ∧ next middle = .ok value := by
  cases first <;> simp [bind, Except.bind]

/-- Whether a symbol begins a string or a number. -/
def Symbol.beginsLexeme : Symbol → Bool
  | char c => c == '"' || c == '-' || c.isDigit
  | stray _ => false

/-- A property of texts that is not lost while they are read, and one of the numbers in them: any
other symbol may be passed over, and so may strings and numbers as a whole. -/
structure Lasts (clean : List Symbol → Prop) (numeric : Json → Prop) : Prop where
  symbol : ∀ {symbol : Symbol} {rest : List Symbol}, symbol.beginsLexeme = false →
    clean (symbol :: rest) → clean rest
  string : ∀ {input rest : List Symbol} {text : String}, clean (.char '"' :: input) →
    stringRest input = .ok (text, rest) → clean rest
  stringSkipped : ∀ {input rest : List Symbol}, clean (.char '"' :: input) →
    Json.stringSkipped input = .ok rest → clean rest
  number : ∀ {input rest : List Symbol} {found : Json}, clean input →
    Json.number input = .ok (found, rest) → numeric found ∧ clean rest
  numberSkipped : ∀ {input rest : List Symbol}, clean input →
    Json.numberSkipped input = .ok rest → clean rest

theorem Symbol.beginsLexeme_of_isBlank {symbol : Symbol} (h : symbol.isBlank) :
    symbol.beginsLexeme = false := by
  cases symbol with
  | stray byte => rfl
  | char c =>
      simp only [isBlank, Bool.or_eq_true, beq_iff_eq] at h
      rcases h with ((rfl | rfl) | rfl) | rfl <;> rfl

namespace Lasts

variable {clean : List Symbol → Prop} {numeric : Json → Prop} (hlasts : Lasts clean numeric)
variable {input rest : List Symbol}
include hlasts

theorem skipBlanks (h : clean input) : clean (Json.skipBlanks input) := by
  unfold Json.skipBlanks
  induction input with
  | nil => exact h
  | cons symbol rest ih =>
      rw [List.dropWhile_cons]
      split
      next hblank => exact ih (hlasts.symbol (Symbol.beginsLexeme_of_isBlank hblank) h)
      next => exact h

/-- A mark between values, after blanks. -/
theorem mark {c : Char} (h : clean input) (hmark : Json.skipBlanks input = .char c :: rest)
    (hc : (Symbol.char c).beginsLexeme = false) : clean rest :=
  hlasts.symbol hc (hmark ▸ hlasts.skipBlanks h)

theorem word {text : List Char} (htext : (text.any fun c => (Symbol.char c).beginsLexeme) = false)
    (h : clean input) (hword : Json.word text input = .ok rest) : clean rest := by
  induction text generalizing input with
  | nil =>
      cases hword
      exact h
  | cons c others ih =>
      rw [List.any_cons, Bool.or_eq_false_iff] at htext
      obtain ⟨hc, hothers⟩ := htext
      cases input with
      | nil => cases hword
      | cons symbol input =>
          unfold Json.word at hword
          split at hword
          next hsymbol =>
            subst hsymbol
            exact ih hothers (hlasts.symbol hc h) hword
          next => cases hword

theorem colon (h : clean input) (hcolon : Json.colon input = .ok rest) : clean rest :=
  hlasts.word rfl (hlasts.skipBlanks h) hcolon

/-- A value that is skipped, from any stage on. -/
theorem skipFrom (fuel : Nat) (stage : SkipStage) (pending : List Bracket) (h : clean input)
    (hskip : Json.skipFrom fuel stage pending input = .ok rest) : clean rest := by
  induction fuel generalizing stage pending input with
  | zero => cases hskip
  | succ fuel ih =>
      unfold Json.skipFrom at hskip
      dsimp only at hskip
      split at hskip
      next =>
        cases hskip
        exact h
      next =>
        split at hskip
        next => cases hskip
        next hmark => exact ih _ _ (hlasts.mark h hmark rfl) hskip
        next hmark => exact ih _ _ (hlasts.mark h hmark rfl) hskip
        next hmark => exact ih _ _ (hlasts.mark h hmark rfl) hskip
        next hmark => exact ih _ _ (hlasts.mark h hmark rfl) hskip
        next => cases hskip
      next =>
        split at hskip
        next hmark => exact ih _ _ (hlasts.mark h hmark rfl) hskip
        next => exact ih _ _ (hlasts.skipBlanks h) hskip
      next =>
        split at hskip
        next hmark => exact ih _ _ (hlasts.mark h hmark rfl) hskip
        next => exact ih _ _ (hlasts.skipBlanks h) hskip
      next => exact ih _ _ h hskip
      next =>
        split at hskip
        next => cases hskip
        next hquote =>
          obtain ⟨_, hstring, hskip⟩ := bind_eq_ok_iff.mp hskip
          obtain ⟨_, hword, hskip⟩ := bind_eq_ok_iff.mp hskip
          have hkey := hlasts.stringSkipped (hquote ▸ hlasts.skipBlanks h) hstring
          exact ih _ _ (hlasts.colon hkey hword) hskip
        next => cases hskip
      next =>
        have hword {c : Char} {text : List Char} {remaining : List Symbol}
            (hmark : Json.skipBlanks input = .char c :: remaining)
            (hc : (Symbol.char c).beginsLexeme = false)
            (htext : (text.any fun c' => (Symbol.char c').beginsLexeme) = false)
            (hskip : (do
              let after ← Json.word text remaining
              Json.skipFrom fuel .ended pending after) = .ok rest) : clean rest := by
          obtain ⟨_, hword, hskip⟩ := bind_eq_ok_iff.mp hskip
          exact ih _ _ (hlasts.word htext (hlasts.mark h hmark hc) hword) hskip
        split at hskip
        next => cases hskip
        next hmark => exact ih _ _ (hlasts.mark h hmark rfl) hskip
        next hmark => exact ih _ _ (hlasts.mark h hmark rfl) hskip
        next hquote =>
          obtain ⟨_, hstring, hskip⟩ := bind_eq_ok_iff.mp hskip
          have hskipped := hlasts.stringSkipped (hquote ▸ hlasts.skipBlanks h) hstring
          exact ih _ _ hskipped hskip
        next hmark => exact hword hmark rfl rfl hskip
        next hmark => exact hword hmark rfl rfl hskip
        next hmark => exact hword hmark rfl rfl hskip
        next hfirst =>
          split at hskip
          next =>
            obtain ⟨_, hnumber, hskip⟩ := bind_eq_ok_iff.mp hskip
            have hskipped := hlasts.numberSkipped (hfirst ▸ hlasts.skipBlanks h) hnumber
            exact ih _ _ hskipped hskip
          next => cases hskip

theorem skipValue (h : clean input) (hskip : Json.skipValue input = .ok rest) : clean rest :=
  hlasts.skipFrom _ _ _ h hskip

end Lasts

end RouteIdl.Json
