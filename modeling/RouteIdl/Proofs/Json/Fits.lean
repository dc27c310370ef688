import RouteIdl.Proofs.Json.Members
import RouteIdl.Proofs.Json.Reading

/-!
# Values that can be read

The values that fit into a given number of containers: no object has a key twice, and the numbers
are of a given kind. Whatever is read with that many containers left is one of them.
-/

namespace RouteIdl.Json

/-- Whether a value is a number. -/
def isNumber : Json → Bool
  | integer _ => true
  | float _ => true
  | _ => false

/-- A value that fits into so many containers, with unique keys and numbers of a kind. -/
inductive Fits (numeric : Json → Prop) : Nat → Json → Prop where
  | null {room : Nat} : Fits numeric room .null
  | bool {room : Nat} (value : Bool) : Fits numeric room (.bool value)
  | string {room : Nat} (text : String) : Fits numeric room (.string text)
  | number {room : Nat} {found : Json} (hnumber : numeric found) : Fits numeric room found
  | array {room : Nat} {elements : List Json}
      (helements : ∀ element ∈ elements, Fits numeric room element) :
      Fits numeric (room + 1) (.array elements)
  | object {room : Nat} {members : List (String × Json)} (hkeys : (members.map Prod.fst).Nodup)
      (hvalues : ∀ member ∈ members, Fits numeric room member.2) :
      Fits numeric (room + 1) (.object members)

section Values

variable {clean : List Symbol → Prop} {numeric : Json → Prop} (hlasts : Lasts clean numeric)
include hlasts

/-- One more member keeps the keys unique, whether or not its key has occurred. -/
theorem putMember_ensures {value : Reader Json} {room : Nat}
    (hvalue : Reader.Ensures clean value (Fits numeric room)) {collected : List (String × Json)}
    (key : String) (hcollected : (collected.map Prod.fst).Nodup ∧
      ∀ member ∈ collected, member.2.Fits numeric room) :
    Reader.Ensures clean (putMember value collected key) fun members =>
      (members.map Prod.fst).Nodup ∧ ∀ member ∈ members, member.2.Fits numeric room := by
  intro input found rest hinput h
  obtain ⟨_, hcolon, h⟩ := bind_eq_ok_iff.mp h
  obtain ⟨⟨member, remaining⟩, hmember, h⟩ := bind_eq_ok_iff.mp h
  cases h
  obtain ⟨hfits, hrest⟩ := hvalue (hlasts.colon hinput hcolon) hmember
  exact ⟨⟨nodup_keys_put hcollected.1, forall_put hcollected.2 hfits⟩, hrest⟩

/-- A value, with what is known of the values that its containers may hold. -/
theorem valueOver_ensures {inner : Option (Reader Json)} {room : Nat}
    (hinner : ∀ reader, inner = some reader →
      ∃ less, room = less + 1 ∧ Reader.Ensures clean reader (Fits numeric less)) :
    Reader.Ensures clean (valueOver inner) (Fits numeric room) := by
  intro input found rest hinput h
  have hword {c : Char} {text : List Char} {remaining : List Symbol} {value : Json}
      (hmark : skipBlanks input = .char c :: remaining)
      (hc : (Symbol.char c).beginsLexeme = false)
      (htext : (text.any fun c' => (Symbol.char c').beginsLexeme) = false)
      (h : (do
        let after ← word text remaining
        .ok (value, after)) = Except.ok (found, rest)) : value = found ∧ clean rest := by
    obtain ⟨_, hword, h⟩ := bind_eq_ok_iff.mp h
    cases h
    exact ⟨rfl, hlasts.word htext (hlasts.mark hinput hmark hc) hword⟩
  unfold valueOver at h
  split at h
  next => cases h
  next hquote =>
    obtain ⟨_, hstring, h⟩ := bind_eq_ok_iff.mp h
    cases h
    exact ⟨.string _, hlasts.string (hquote ▸ hlasts.skipBlanks hinput) hstring⟩
  next hmark =>
    split at h
    next => cases h
    next reader =>
      obtain ⟨⟨elements, remaining⟩, helements, h⟩ := bind_eq_ok_iff.mp h
      cases h
      obtain ⟨less, rfl, hreader⟩ := hinner reader rfl
      obtain ⟨hfits, hrest⟩ :=
        elements_ensures hlasts hreader (hlasts.mark hinput hmark rfl) helements
      exact ⟨.array hfits, hrest⟩
  next hmark =>
    split at h
    next => cases h
    next reader =>
      obtain ⟨⟨members, remaining⟩, hmembers, h⟩ := bind_eq_ok_iff.mp h
      cases h
      obtain ⟨less, rfl, hreader⟩ := hinner reader rfl
      have hempty : (([] : List (String × Json)).map Prod.fst).Nodup ∧
          ∀ member ∈ ([] : List (String × Json)), member.2.Fits numeric less :=
        ⟨List.nodup_nil, List.forall_mem_nil _⟩
      obtain ⟨⟨hkeys, hvalues⟩, hrest⟩ :=
        members_ensures hlasts (fun _ key => putMember_ensures hlasts hreader key)
          hempty (hlasts.mark hinput hmark rfl) hmembers
      exact ⟨.object hkeys hvalues, hrest⟩
  next hmark =>
    obtain ⟨rfl, hrest⟩ := hword hmark rfl rfl h
    exact ⟨.null, hrest⟩
  next hmark =>
    obtain ⟨rfl, hrest⟩ := hword hmark rfl rfl h
    exact ⟨.bool true, hrest⟩
  next hmark =>
    obtain ⟨rfl, hrest⟩ := hword hmark rfl rfl h
    exact ⟨.bool false, hrest⟩
  next hfirst =>
    split at h
    next =>
      obtain ⟨hnumber, hrest⟩ := hlasts.number (hfirst ▸ hlasts.skipBlanks hinput) h
      exact ⟨.number hnumber, hrest⟩
    next => cases h

/-- Whatever is read as a value fits into the containers that may be opened. -/
theorem value_ensures (room : Nat) : Reader.Ensures clean (value room) (Fits numeric room) := by
  induction room with
  | zero => exact valueOver_ensures hlasts nofun
  | succ room ih =>
      refine valueOver_ensures hlasts ?_
      rintro _ ⟨⟩
      exact ⟨room, rfl, ih⟩

end Values

/-! ## Numbers and null -/

theorem isNumber_of_unsignedNumber {negative : Bool} {input rest : List Symbol} {found : Json}
    (h : unsignedNumber negative input = .ok (found, rest)) : found.isNumber := by
  unfold unsignedNumber at h
  split at h
  next => cases h
  next => cases h
  next => cases h
  next =>
    -- Which of the two forms a number takes does not matter here.
    have heither {integral : Bool} {n : Int} {significand dropped : Nat}
        {remaining : List Symbol}
        (h : (if integral then .ok (integer n, remaining)
          else do
            let read ← fractional significand dropped remaining
            .ok (float (if negative then -read.1 else read.1), read.2)) = Except.ok (found, rest)) :
        found.isNumber := by
      split at h
      next =>
        cases h
        rfl
      next =>
        obtain ⟨_, _, h⟩ := bind_eq_ok_iff.mp h
        cases h
        rfl
    simp only at h
    exact heither h

theorem isNumber_of_number {input rest : List Symbol} {found : Json}
    (h : number input = .ok (found, rest)) : found.isNumber := by
  unfold number at h
  split at h
  next => exact isNumber_of_unsignedNumber h
  next => exact isNumber_of_unsignedNumber h

/-- Nothing need be known of a text for its numbers to be numbers. -/
theorem lasts_true : Lasts (fun _ => True) fun found => found.isNumber where
  symbol _ _ := trivial
  string _ _ := trivial
  stringSkipped _ _ := trivial
  number _ h := ⟨isNumber_of_number h, trivial⟩
  numberSkipped _ _ := trivial

/-- A null is told by its first letter. -/
theorem begins_of_value_null {room : Nat} {input rest : List Symbol}
    (h : value room input = .ok (.null, rest)) : ∃ after, skipBlanks input = .char 'n' :: after := by
  have hover {inner : Option (Reader Json)} (h : valueOver inner input = .ok (.null, rest)) :
      ∃ after, skipBlanks input = .char 'n' :: after := by
    unfold valueOver at h
    split at h
    next => cases h
    next =>
      obtain ⟨_, _, h⟩ := bind_eq_ok_iff.mp h
      cases h
    next =>
      split at h
      next => cases h
      next =>
        obtain ⟨_, _, h⟩ := bind_eq_ok_iff.mp h
        cases h
    next =>
      split at h
      next => cases h
      next =>
        obtain ⟨_, _, h⟩ := bind_eq_ok_iff.mp h
        cases h
    next hmark => exact ⟨_, hmark⟩
    next =>
      obtain ⟨_, _, h⟩ := bind_eq_ok_iff.mp h
      cases h
    next =>
      obtain ⟨_, _, h⟩ := bind_eq_ok_iff.mp h
      cases h
    next =>
      split at h
      next => exact absurd (isNumber_of_number h) (by decide)
      next => cases h
  cases room with
  | zero => exact hover h
  | succ room => exact hover h

/-- A value that may be absent fits if it is there, and it is no null. -/
theorem optional_value_ensures {clean : List Symbol → Prop} {numeric : Json → Prop}
    (hlasts : Lasts clean numeric) (room : Nat) :
    Reader.Ensures clean (optional (value room)) fun found =>
      ∀ json, found = some json → json ≠ .null ∧ json.Fits numeric room := by
  refine optional_ensures hlasts fun input found rest hinput hfirst h => ?_
  obtain ⟨hfits, hrest⟩ := value_ensures hlasts room hinput h
  refine ⟨⟨?_, hfits⟩, hrest⟩
  rintro rfl
  obtain ⟨after, hafter⟩ := begins_of_value_null h
  exact hfirst after hafter

end RouteIdl.Json
