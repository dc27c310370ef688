import Mathlib.Algebra.Group.Int.Defs
import Mathlib.Data.List.Forall2
import RouteIdl.Json.Lexeme
import RouteIdl.Json.Printer

/-!
# Digits

What is read off the digits of an integer. As long as the number that they stand for fits into 64
bits, it is kept, and it is written with the same digits again.
-/

namespace RouteIdl.Json

/-- Whether a number may go on with a symbol. -/
def Symbol.isNumeric : Symbol → Bool
  | char c => c.isDigit || ['+', '-', '.', 'e', 'E'].contains c
  | stray _ => false

/-- The number that decimal digits stand for. -/
def ofDecimal (ds : List Nat) : Nat :=
  ds.foldl (fun n d => n * 10 + d) 0

theorem Symbol.isNumeric_of_digit? {symbol : Symbol} {d : Nat} (h : symbol.digit? = some d) :
    symbol.isNumeric := by
  cases symbol with
  | stray byte => cases h
  | char c =>
      have hc : c.isDigit := by
        by_contra hc
        simp [digit?, hc] at h
      simp [isNumeric, hc]

/-- A text does not go on with what a number could go on with. -/
def EndsNumber (rest : List Symbol) : Prop :=
  ∀ symbol ∈ rest.head?, symbol.isNumeric = false

theorem endsNumber_dropWhile (input : List Symbol) :
    EndsNumber (input.dropWhile Symbol.isNumeric) := by
  intro symbol hsymbol
  have hhead := List.head?_dropWhile_not Symbol.isNumeric input
  rw [hsymbol] at hhead
  exact hhead

section Digits

variable {run tail : List Symbol} {ds : List Nat}

theorem EndsNumber.ne_cons {symbol : Symbol} {after : List Symbol} (h : EndsNumber tail)
    (hsymbol : symbol.isNumeric) : tail ≠ symbol :: after := by
  rintro rfl
  exact absurd hsymbol (by simpa using h symbol rfl)

theorem digits_append (hrun : List.Forall₂ (fun symbol d => symbol.digit? = some d) run ds)
    (htail : EndsNumber tail) : digits (run ++ tail) = (ds, tail) := by
  induction hrun with
  | nil =>
      cases tail with
      | nil => rfl
      | cons symbol rest =>
          have hdigit : symbol.digit? = none := by
            by_contra hsome
            obtain ⟨d, hd⟩ := Option.ne_none_iff_exists'.mp hsome
            exact htail.ne_cons (Symbol.isNumeric_of_digit? hd) rfl
          simp [digits, hdigit]
  | cons hfirst _ ih => simp [digits, hfirst, ih]

theorem le_foldl_digits (n : Nat) (ds : List Nat) :
    n ≤ ds.foldl (fun n d => n * 10 + d) n := by
  induction ds generalizing n with
  | nil => exact Nat.le_refl n
  | cons d rest ih =>
      rw [List.foldl_cons]
      exact Nat.le_trans (by omega) (ih _)

/-- Digits are gathered as long as they stand for a number that fits. -/
theorem gather_eq (n : Nat) (h : ds.foldl (fun n d => n * 10 + d) n < Nat.pow 2 64) :
    gather n ds = (ds.foldl (fun n d => n * 10 + d) n, 0) := by
  induction ds generalizing n with
  | nil => rfl
  | cons d rest ih =>
      rw [List.foldl_cons] at h ⊢
      rw [gather, if_pos (Nat.lt_of_le_of_lt (le_foldl_digits _ rest) h), ih _ h]

/-- An integer is read off its digits. -/
theorem unsignedNumber_append {negative : Bool}
    (hrun : List.Forall₂ (fun symbol d => symbol.digit? = some d) run ds) (htail : EndsNumber tail)
    (hne : ds ≠ []) (hzero : ∀ d others, ds ≠ 0 :: d :: others) (hlt : ofDecimal ds < Nat.pow 2 64)
    (hnegative : negative → 0 < ofDecimal ds ∧ ofDecimal ds ≤ Nat.pow 2 63) :
    unsignedNumber negative (run ++ tail) =
      .ok (.integer (if negative then -(ofDecimal ds : Int) else ofDecimal ds), tail) := by
  unfold unsignedNumber
  rw [digits_append hrun htail]
  split
  next h => exact absurd (congrArg Prod.fst h) hne
  next h => exact absurd (congrArg Prod.fst h) hne
  next h => exact absurd (congrArg Prod.fst h) (hzero _ _)
  next heq =>
    cases heq
    have hgather : gather 0 ds = (ofDecimal ds, 0) := gather_eq 0 hlt
    simp only [hgather]
    rw [if_pos]
    split
    next => exact absurd rfl (htail.ne_cons rfl)
    next => exact absurd rfl (htail.ne_cons rfl)
    next => exact absurd rfl (htail.ne_cons rfl)
    next => cases negative <;> simp_all

/-- What is read off digits, if anything is, is the number that they stand for. -/
theorem eq_of_unsignedNumber_append {negative : Bool} {found : Json} {rest : List Symbol}
    (hrun : List.Forall₂ (fun symbol d => symbol.digit? = some d) run ds) (htail : EndsNumber tail)
    (hlt : ofDecimal ds < Nat.pow 2 64)
    (hnegative : negative → 0 < ofDecimal ds ∧ ofDecimal ds ≤ Nat.pow 2 63)
    (h : unsignedNumber negative (run ++ tail) = .ok (found, rest)) :
    found = .integer (if negative then -(ofDecimal ds : Int) else ofDecimal ds) ∧ rest = tail := by
  have hread := h
  unfold unsignedNumber at hread
  rw [digits_append hrun htail] at hread
  have hne : ds ≠ [] := by
    rintro rfl
    cases tail <;> cases hread
  have hzero : ∀ d others, ds ≠ 0 :: d :: others := by
    rintro d others rfl
    cases hread
  rw [unsignedNumber_append hrun htail hne hzero hlt hnegative] at h
  cases h
  exact ⟨rfl, rfl⟩

end Digits

/-! ## Written integers -/

section Written

variable {n : Nat}

theorem eq_zero_of_toDigits {others : List Char} (h : Nat.toDigits 10 n = '0' :: others) :
    n = 0 := by
  induction n using Nat.strongRecOn generalizing others with
  | ind n ih =>
      have hdigit : ∀ d < 10, Nat.digitChar d = '0' → d = 0 := by decide
      rw [Nat.toDigits_eq_if (by decide)] at h
      split at h
      next hlt => exact hdigit n hlt (List.cons.inj h).1
      next hle =>
        -- The first digit is that of the number without its last digit.
        obtain ⟨c, rest, hfront⟩ : ∃ c rest, Nat.toDigits 10 (n / 10) = c :: rest :=
          List.exists_cons_of_ne_nil Nat.toDigits_ne_nil
        rw [hfront, List.cons_append] at h
        obtain ⟨rfl, -⟩ := List.cons.inj h
        have hzero := ih (n / 10) (by omega) hfront
        omega

/-- The values of the decimal digits of a number. -/
def digitValues (n : Nat) : List Nat :=
  (Nat.toDigits 10 n).map fun c => c.toNat - 48

theorem digit?_toDigits (n : Nat) : List.Forall₂ (fun symbol d => symbol.digit? = some d)
    ((Nat.toDigits 10 n).map Symbol.char) (digitValues n) := by
  rw [digitValues, List.forall₂_map_left_iff, List.forall₂_map_right_iff, List.forall₂_same]
  intro c hc
  exact if_pos (Nat.isDigit_of_mem_toDigits (by decide) (by decide) hc)

theorem ofDecimal_digitValues (n : Nat) : ofDecimal (digitValues n) = n := by
  have hfold := Nat.ofDigitChars_ten_toDigits (n := n)
  rw [Nat.ofDigitChars_eq_foldl] at hfold
  rw [ofDecimal, digitValues, List.foldl_map]
  simp only [Nat.mul_comm 10] at hfold
  exact hfold

theorem digitValues_ne_nil (n : Nat) : digitValues n ≠ [] := by
  simp [digitValues]

/-- No number but zero is written with a zero at its beginning. -/
theorem digitValues_ne_zero_cons (n d : Nat) (others : List Nat) :
    digitValues n ≠ 0 :: d :: others := by
  intro h
  obtain ⟨c, rest, hdigits⟩ : ∃ c rest, Nat.toDigits 10 n = c :: rest :=
    List.exists_cons_of_ne_nil Nat.toDigits_ne_nil
  have hc : c ∈ Nat.toDigits 10 n := by simp [hdigits]
  have hrange := Char.isDigit_iff_toNat.mp
    (Nat.isDigit_of_mem_toDigits (by decide) (by decide) hc)
  rw [digitValues, hdigits, List.map_cons] at h
  obtain ⟨hzero, hrest⟩ := List.cons.inj h
  have hchar : c = '0' := Char.toNat_inj.mp (Nat.le_antisymm (Nat.sub_eq_zero_iff_le.mp hzero)
    hrange.1)
  subst hchar
  rw [eq_zero_of_toDigits hdigits] at hdigits
  cases hdigits
  cases hrest

theorem number_toDigits (n : Nat) (rest : List Symbol) :
    number ((Nat.toDigits 10 n).map Symbol.char ++ rest) =
      unsignedNumber false ((Nat.toDigits 10 n).map Symbol.char ++ rest) := by
  unfold number
  split
  next heq =>
    have hdigit : ∀ c ∈ Nat.toDigits 10 n, c.isDigit :=
      fun c hc => Nat.isDigit_of_mem_toDigits (by decide) (by decide) hc
    obtain ⟨c, others, hdigits⟩ : ∃ c others, Nat.toDigits 10 n = c :: others :=
      List.exists_cons_of_ne_nil Nat.toDigits_ne_nil
    rw [hdigits] at heq hdigit
    cases heq
    exact absurd (hdigit '-' List.mem_cons_self) (by decide)
  next => rfl

/-- An integer within 64 bits is read back. -/
theorem number_integerChars {n : Int} {rest : List Symbol} (hmin : -(2 ^ 63) ≤ n)
    (hmax : n < 2 ^ 64) (hrest : EndsNumber rest) :
    number ((integerChars n).map Symbol.char ++ rest) = .ok (.integer n, rest) := by
  have hdigits := digit?_toDigits n.natAbs
  have hne := digitValues_ne_nil n.natAbs
  have hzero := digitValues_ne_zero_cons n.natAbs
  have hvalue := ofDecimal_digitValues n.natAbs
  have hlt : ofDecimal (digitValues n.natAbs) < Nat.pow 2 64 := by
    rw [hvalue]
    change n.natAbs < 2 ^ 64
    omega
  unfold integerChars
  split
  next hneg =>
    have hrange : true → 0 < ofDecimal (digitValues n.natAbs) ∧
        ofDecimal (digitValues n.natAbs) ≤ Nat.pow 2 63 := by
      intro _
      rw [hvalue]
      change _ ∧ n.natAbs ≤ 2 ^ 63
      omega
    have hread := unsignedNumber_append hdigits hrest hne hzero hlt hrange
    rw [hvalue, if_pos rfl] at hread
    refine hread.trans ?_
    rw [show -(n.natAbs : Int) = n by omega]
  next hpos =>
    have hunsigned : false → 0 < ofDecimal (digitValues n.natAbs) ∧
        ofDecimal (digitValues n.natAbs) ≤ Nat.pow 2 63 := nofun
    have hread := unsignedNumber_append hdigits hrest hne hzero hlt hunsigned
    rw [hvalue, if_neg Bool.false_ne_true] at hread
    rw [List.nil_append, number_toDigits, hread, show (n.natAbs : Int) = n by omega]

end Written

end RouteIdl.Json
