import RouteIdl.Proofs.Json.Numerals

/-!
# Reading back what is written

A value is read back from its compact text, whatever follows it there. Strings are read escape by
escape, lists and objects one part after the other, and records key by key.
-/

namespace RouteIdl.Json

/-! ## Strings -/

theorem hexDigit?_hexDigit {n : Nat} (h : n < 16) :
    (Symbol.char (hexDigit n)).hexDigit? = some n := by
  have hall : ∀ n < 16, (Symbol.char (hexDigit n)).hexDigit? = some n := by decide
  exact hall n h

/-- The character that a numeric escape below 256 stands for. -/
theorem numericEscape_hexDigits {high low : Nat} (hhigh : high < 16) (hlow : low < 16)
    (rest : List Symbol) :
    numericEscape ((['0', '0', hexDigit high, hexDigit low].map Symbol.char) ++ rest) =
      .ok (Char.ofNat (high * 16 + low), rest) := by
  have hzero : (Symbol.char '0').hexDigit? = some 0 := by decide
  have hunit : hexUnit ((['0', '0', hexDigit high, hexDigit low].map Symbol.char) ++ rest) =
      .ok (high * 16 + low, rest) := by
    unfold hexUnit
    simp [hzero, hexDigit?_hexDigit hhigh, hexDigit?_hexDigit hlow]
  unfold numericEscape
  rw [hunit]
  have htrailing : ¬ (0xDC00 ≤ high * 16 + low ∧ high * 16 + low ≤ 0xDFFF) := by omega
  have hleading : ¬ (0xD800 ≤ high * 16 + low ∧ high * 16 + low ≤ 0xDBFF) := by omega
  change (if _ then _ else if _ then _ else _) = _
  rw [if_neg htrailing, if_neg hleading]

/-- A character is written as an escape that stands for it, or it may stand for itself. -/
theorem escapeChar_cases (c : Char) :
    (∃ others, escapeChar c = '\\' :: others ∧
      ∀ rest, escape (others.map Symbol.char ++ rest) = .ok (c, rest)) ∨
    (escapeChar c = [c] ∧ c ≠ '"' ∧ c ≠ '\\' ∧ ¬ c.toNat < 32) := by
  unfold escapeChar
  split
  case h_8 hquote hbackslash _ _ _ _ _ =>
    split
    next hcontrol =>
      refine .inl ⟨_, rfl, fun rest => ?_⟩
      have hhigh : c.toNat / 16 < 16 := by omega
      have hlow : c.toNat % 16 < 16 := by omega
      refine (numericEscape_hexDigits hhigh hlow rest).trans ?_
      rw [Nat.div_add_mod', Char.ofNat_toNat]
    next hcontrol => exact .inr ⟨rfl, hquote, hbackslash, hcontrol⟩
  all_goals exact .inl ⟨_, rfl, fun _ => rfl⟩

theorem stringBody_flatMap_escapeChar {text : List Char} {fuel : Nat}
    (hfuel : (text.flatMap escapeChar).length < fuel) (rest : List Symbol) :
    stringBody escape fuel ((text.flatMap escapeChar ++ ['"']).map Symbol.char ++ rest) =
      .ok (text.map Symbol.char, rest) := by
  induction text generalizing fuel with
  | nil =>
      cases fuel with
      | zero => cases hfuel
      | succ fuel => rfl
  | cons c others ih =>
      cases fuel with
      | zero => cases hfuel
      | succ fuel =>
          rw [List.flatMap_cons, List.length_append] at hfuel
          obtain ⟨escaped, hescaped, hread⟩ | ⟨hplain, hquote, hbackslash, hcontrol⟩ :=
            escapeChar_cases c
          · rw [hescaped, List.length_cons] at hfuel
            have hothers := ih (show _ < fuel by omega)
            rw [List.flatMap_cons, hescaped, List.append_assoc, List.cons_append, List.map_cons,
              List.map_append, List.cons_append, List.append_assoc]
            exact bind_eq_ok_iff.mpr ⟨_, hread _, bind_eq_ok_iff.mpr ⟨_, hothers, rfl⟩⟩
          · rw [hplain, List.length_singleton] at hfuel
            have hothers := ih (show _ < fuel by omega)
            rw [List.flatMap_cons, hplain, List.append_assoc, List.singleton_append, List.map_cons,
              List.cons_append, stringBody, if_neg hcontrol, hothers]
            · rfl
            · simpa using hquote
            · simpa using hbackslash

/-- A string is read back, whatever comes after its closing quote. -/
theorem stringRest_stringChars (text : String) (rest : List Symbol) :
    stringRest ((stringChars text).tail.map Symbol.char ++ rest) = .ok (text, rest) := by
  have hchars : (stringChars text).tail = text.toList.flatMap escapeChar ++ ['"'] := rfl
  have hlength : (text.toList.flatMap escapeChar).length <
      ((text.toList.flatMap escapeChar ++ ['"']).map Symbol.char ++ rest).length := by
    simp only [List.length_append, List.length_map, List.length_singleton]
    omega
  have htext : (text.toList.map Symbol.char).mapM Symbol.char? = some text.toList := by
    rw [mapM_eq_some_iff, List.forall₂_map_left_iff, List.forall₂_same]
    exact fun _ _ => rfl
  rw [hchars, stringRest, stringBody_flatMap_escapeChar hlength]
  simp only [bind, Except.bind, htext, String.ofList_toList]

/-! ## Parts of a text -/

/-- What may come after a value: nothing, a comma or the end of a container. -/
def Closed (rest : List Symbol) : Prop :=
  ∀ symbol ∈ rest.head?, symbol ∈ [.char ',', .char ']', .char '}']

/-- A value is read off the characters with which it is written, whatever may come after it. -/
def Reader.Reads {α : Type} (reader : Reader α) (written : List Char) (found : α) : Prop :=
  ∀ rest, Closed rest → reader (written.map Symbol.char ++ rest) = .ok (found, rest)

/-- Characters begin with one that is neither blank nor a given one. -/
def Opens (barred : Char) (written : List Char) : Prop :=
  ∃ c others, written = c :: others ∧ (Symbol.char c).isBlank = false ∧ c ≠ barred

theorem closed_cons {c : Char} (h : c ∈ [',', ']', '}']) (rest : List Symbol) :
    Closed (.char c :: rest) := by
  rintro _ ⟨⟩
  simpa using h

theorem Closed.endsNumber {rest : List Symbol} (h : Closed rest) : EndsNumber rest := by
  intro symbol hsymbol
  have hmark : ∀ mark ∈ [Symbol.char ',', .char ']', .char '}'], mark.isNumeric = false := by decide
  exact hmark symbol (h symbol hsymbol)

theorem Opens.skipBlanks {barred : Char} {written : List Char} (h : Opens barred written)
    (rest : List Symbol) : skipBlanks (written.map Symbol.char ++ rest) =
      written.map Symbol.char ++ rest := by
  obtain ⟨c, others, rfl, hblank, -⟩ := h
  simp [Json.skipBlanks, hblank]

section Parts

variable {α σ : Type} {rest : List Symbol}

theorem whole_of_reads {reader : Reader α} {written : List Char} {found : α}
    (h : Reader.Reads reader written found) : whole reader (written.map Symbol.char) = .ok found := by
  have hread := h [] nofun
  rw [List.append_nil] at hread
  rw [whole, hread]
  rfl

theorem stringValue_reads (text : String) :
    Reader.Reads stringValue (stringChars text) text :=
  fun rest _ => stringRest_stringChars text rest

theorem optional_reads_null (inner : Reader α) :
    Reader.Reads (optional inner) Json.null.chars none :=
  fun _ _ => rfl

theorem optional_reads {inner : Reader α} {written : List Char} {found : α}
    (h : Reader.Reads inner written found) (hopens : Opens 'n' written) :
    Reader.Reads (optional inner) written (some found) := by
  intro rest hrest
  have hread := h rest hrest
  unfold optional
  rw [hopens.skipBlanks rest]
  obtain ⟨c, others, rfl, -, hc⟩ := hopens
  split
  next heq =>
    cases heq
    exact absurd rfl hc
  next =>
    rw [hread]
    rfl

/-! ## Elements -/

theorem length_le_elementChars (elements : List Json) :
    elements.length ≤ (elementChars [','] elements).length := by
  induction elements with
  | nil => exact Nat.le_refl 0
  | cons element others ih =>
      simp only [elementChars, List.length_cons, List.length_append, List.length_nil]
      omega

theorem elementsRest_reads {item : Reader Json} {first : Json} {others : List Json} {fuel : Nat}
    (hfirst : Reader.Reads item first.chars first)
    (hothers : ∀ element ∈ others, Reader.Reads item element.chars element)
    (hfuel : others.length < fuel) (rest : List Symbol) :
    elementsRest item fuel (first.chars.map Symbol.char ++
      ((elementChars [','] others ++ [']']).map Symbol.char ++ rest)) =
      .ok (first :: others, rest) := by
  induction others generalizing first fuel with
  | nil =>
      cases fuel with
      | zero => cases hfuel
      | succ fuel => exact bind_eq_ok_iff.mpr ⟨_, hfirst _ (closed_cons (by decide) rest), rfl⟩
  | cons second others ih =>
      cases fuel with
      | zero => cases hfuel
      | succ fuel =>
          obtain ⟨hsecond, hothers⟩ := List.forall_mem_cons.mp hothers
          have hread := ih hsecond hothers (Nat.lt_of_succ_lt_succ hfuel)
          have hsplit : (elementChars [','] (second :: others) ++ [']']).map Symbol.char ++ rest =
              .char ',' :: (second.chars.map Symbol.char ++
                ((elementChars [','] others ++ [']']).map Symbol.char ++ rest)) := by
            simp [elementChars]
          rw [hsplit]
          refine bind_eq_ok_iff.mpr ⟨_, hfirst _ (closed_cons (by decide) _), ?_⟩
          exact bind_eq_ok_iff.mpr ⟨_, hread, rfl⟩

/-- A list is read back element by element. -/
theorem elements_reads {item : Reader Json} {found : List Json}
    (hitems : ∀ element ∈ found, Reader.Reads item element.chars element)
    (hopens : ∀ element ∈ found, Opens ']' element.chars) :
    elements item ((elementChars [] found ++ [']']).map Symbol.char ++ rest) =
      .ok (found, rest) := by
  cases found with
  | nil => rfl
  | cons first others =>
      obtain ⟨hfirst, hothers⟩ := List.forall_mem_cons.mp hitems
      have hopens := hopens first List.mem_cons_self
      have hsplit : (elementChars [] (first :: others) ++ [']']).map Symbol.char ++ rest =
          first.chars.map Symbol.char ++
            ((elementChars [','] others ++ [']']).map Symbol.char ++ rest) := by
        simp [elementChars]
      have hfuel : others.length < (first.chars.map Symbol.char ++
          ((elementChars [','] others ++ [']']).map Symbol.char ++ rest)).length := by
        have hlength := length_le_elementChars others
        simp only [List.length_append, List.length_map, List.length_singleton]
        omega
      have hread := elementsRest_reads hfirst hothers hfuel rest
      rw [hsplit, elements, hopens.skipBlanks]
      obtain ⟨c, remaining, hc, -, hne⟩ := hopens
      rw [hc] at hread ⊢
      split
      next heq =>
        cases heq
        exact absurd rfl hne
      next => exact hread

/-! ## Members -/

/-- Members take a state to another one, each read as it is written. -/
inductive Collects (step : σ → String → Reader σ) : σ → List (String × Json) → σ → Prop where
  | nil (state : σ) : Collects step state [] state
  | cons {state next last : σ} {key : String} {value : Json} {others : List (String × Json)}
      (hfirst : Reader.Reads (step state key) (':' :: value.chars) next)
      (hothers : Collects step next others last) :
      Collects step state ((key, value) :: others) last

theorem length_le_memberChars (members : List (String × Json)) :
    members.length ≤ (memberChars [','] members).length := by
  induction members with
  | nil => exact Nat.le_refl 0
  | cons member others ih =>
      simp only [memberChars, List.length_cons, List.length_append, List.length_nil]
      omega

theorem membersRest_reads {step : σ → String → Reader σ} {state last : σ} {key : String}
    {value : Json} {others : List (String × Json)} {fuel : Nat}
    (h : Collects step state ((key, value) :: others) last) (hfuel : others.length < fuel) :
    membersRest step fuel state ((stringChars key).map Symbol.char ++
      ((':' :: value.chars).map Symbol.char ++
        ((memberChars [','] others ++ ['}']).map Symbol.char ++ rest))) = .ok (last, rest) := by
  induction others generalizing state key value fuel with
  | nil =>
      cases fuel with
      | zero => cases hfuel
      | succ fuel =>
          obtain _ | ⟨hfirst, _ | _⟩ := h
          refine bind_eq_ok_iff.mpr ⟨_, stringRest_stringChars key _, ?_⟩
          exact bind_eq_ok_iff.mpr ⟨_, hfirst _ (closed_cons (by decide) rest), rfl⟩
  | cons second others ih =>
      cases fuel with
      | zero => cases hfuel
      | succ fuel =>
          obtain _ | ⟨hfirst, hothers⟩ := h
          obtain ⟨secondKey, secondValue⟩ := second
          have hread := ih hothers (Nat.lt_of_succ_lt_succ hfuel)
          have hsplit :
              (memberChars [','] ((secondKey, secondValue) :: others) ++ ['}']).map Symbol.char ++
                rest =
              .char ',' :: ((stringChars secondKey).map Symbol.char ++
                ((':' :: secondValue.chars).map Symbol.char ++
                  ((memberChars [','] others ++ ['}']).map Symbol.char ++ rest))) := by
            simp [memberChars]
          rw [hsplit]
          refine bind_eq_ok_iff.mpr ⟨_, stringRest_stringChars key _, ?_⟩
          refine bind_eq_ok_iff.mpr ⟨_, hfirst _ (closed_cons (by decide) _), ?_⟩
          exact hread

/-- An object is read back member by member. -/
theorem members_reads {step : σ → String → Reader σ} {state last : σ}
    {written : List (String × Json)} (h : Collects step state written last) :
    members step state ((memberChars [] written ++ ['}']).map Symbol.char ++ rest) =
      .ok (last, rest) := by
  cases written with
  | nil =>
      cases h
      rfl
  | cons member others =>
      obtain ⟨key, value⟩ := member
      have hsplit : (memberChars [] ((key, value) :: others) ++ ['}']).map Symbol.char ++ rest =
          (stringChars key).map Symbol.char ++ ((':' :: value.chars).map Symbol.char ++
            ((memberChars [','] others ++ ['}']).map Symbol.char ++ rest)) := by
        simp [memberChars]
      have hfuel : others.length < ((stringChars key).map Symbol.char ++
          ((':' :: value.chars).map Symbol.char ++
            ((memberChars [','] others ++ ['}']).map Symbol.char ++ rest))).length := by
        have hlength := length_le_memberChars others
        simp only [List.length_append, List.length_map, List.length_singleton]
        omega
      rw [hsplit]
      exact membersRest_reads h hfuel

theorem putMember_reads {value : Reader Json} {collected : List (String × Json)} {key : String}
    {json : Json} (h : Reader.Reads value json.chars json) :
    Reader.Reads (putMember value collected key) (':' :: json.chars) (put collected key json) :=
  fun rest hrest => bind_eq_ok_iff.mpr ⟨_, rfl, bind_eq_ok_iff.mpr ⟨_, h rest hrest, rfl⟩⟩

theorem collects_putMember {value : Reader Json} {written : List (String × Json)}
    (collected : List (String × Json))
    (h : ∀ member ∈ written, Reader.Reads value member.2.chars member.2) :
    Collects (putMember value) collected written (putAll collected written) := by
  induction written generalizing collected with
  | nil => exact .nil collected
  | cons member others ih =>
      obtain ⟨hmember, hothers⟩ := List.forall_mem_cons.mp h
      exact .cons (putMember_reads hmember) (ih _ hothers)

end Parts

/-! ## Values -/

section Values

variable {room : Nat} {json : Json}

theorem exists_integerChars_eq (n : Int) :
    ∃ c others, integerChars n = c :: others ∧ (c = '-' ∨ c.isDigit) := by
  unfold integerChars
  split
  next => exact ⟨_, _, rfl, .inl rfl⟩
  next =>
    obtain ⟨c, others, hdigits⟩ : ∃ c others, Nat.toDigits 10 n.natAbs = c :: others :=
      List.exists_cons_of_ne_nil Nat.toDigits_ne_nil
    have hc : c ∈ Nat.toDigits 10 n.natAbs := hdigits ▸ List.mem_cons_self
    exact ⟨c, others, hdigits, .inr (Nat.isDigit_of_mem_toDigits (by decide) (by decide) hc)⟩

/-- A number begins with no character that another value or an end begins with. -/
theorem not_mem_of_begins {c : Char} (h : c = '-' ∨ c.isDigit) :
    c ∉ [' ', '\n', '\t', '\r', ']', '"', '[', '{', 'n', 't', 'f'] := by
  intro hc
  have hnone : [' ', '\n', '\t', '\r', ']', '"', '[', '{', 'n', 't', 'f'].any
      (fun c => c == '-' || c.isDigit) = false := by decide
  exact absurd (by simpa using h) (List.any_eq_false.mp hnone c hc)

/-- The first character of a value tells it from an end, and from a null if it is none. -/
theorem Fits.exists_chars_eq (h : json.Fits IsExact room) :
    ∃ c others, json.chars = c :: others ∧ (Symbol.char c).isBlank = false ∧ c ≠ ']' ∧
      (json ≠ .null → c ≠ 'n') := by
  cases h with
  | null => exact ⟨_, _, rfl, rfl, by decide, fun h => absurd rfl h⟩
  | bool value => cases value <;> exact ⟨_, _, rfl, rfl, by decide, fun _ => by decide⟩
  | string text => exact ⟨_, _, rfl, rfl, by decide, fun _ => by decide⟩
  | array => exact ⟨_, _, rfl, rfl, by decide, fun _ => by decide⟩
  | object => exact ⟨_, _, rfl, rfl, by decide, fun _ => by decide⟩
  | number hnumber =>
      obtain ⟨n, rfl, -⟩ := hnumber
      obtain ⟨c, others, hchars, hc⟩ := exists_integerChars_eq n
      have hother := not_mem_of_begins hc
      simp only [List.mem_cons, not_or] at hother
      exact ⟨c, others, hchars, by simp [Symbol.isBlank, hother], by simp [hother], by simp [hother]⟩

theorem Fits.opens (h : json.Fits IsExact room) : Opens ']' json.chars := by
  obtain ⟨c, others, hchars, hblank, hend, -⟩ := h.exists_chars_eq
  exact ⟨c, others, hchars, hblank, hend⟩

theorem Fits.opens_of_ne_null (h : json.Fits IsExact room) (hne : json ≠ .null) :
    Opens 'n' json.chars := by
  obtain ⟨c, others, hchars, hblank, -, hnull⟩ := h.exists_chars_eq
  exact ⟨c, others, hchars, hblank, hnull hne⟩

theorem valueOver_of_begins {inner : Option (Reader Json)} {c : Char} {input rest : List Symbol}
    {found : Json} (hc : c = '-' ∨ c.isDigit) (h : number (.char c :: input) = .ok (found, rest)) :
    valueOver inner (.char c :: input) = .ok (found, rest) := by
  have hother := not_mem_of_begins hc
  simp only [List.mem_cons, not_or] at hother
  have hblank : (Symbol.char c).isBlank = false := by simp [Symbol.isBlank, hother]
  have hfirst : skipBlanks (.char c :: input) = .char c :: input := by simp [skipBlanks, hblank]
  have hbegins : Symbol.char c = .char '-' ∨ (Symbol.char c).digit?.isSome := by
    rcases hc with rfl | hdigit
    · exact .inl rfl
    · exact .inr (by simp [Symbol.digit?, hdigit])
  unfold valueOver
  rw [hfirst]
  split
  next heq => cases heq
  next heq => exact absurd (List.cons.inj heq).1 (by simp [hother])
  next heq => exact absurd (List.cons.inj heq).1 (by simp [hother])
  next heq => exact absurd (List.cons.inj heq).1 (by simp [hother])
  next heq => exact absurd (List.cons.inj heq).1 (by simp [hother])
  next heq => exact absurd (List.cons.inj heq).1 (by simp [hother])
  next heq => exact absurd (List.cons.inj heq).1 (by simp [hother])
  next heq =>
    cases heq
    rw [if_pos hbegins, h]

/-- What holds no containers is read with any number of them left. -/
theorem value_reads_of_scalar
    (h : ∀ inner, Reader.Reads (valueOver inner) json.chars json) :
    Reader.Reads (value room) json.chars json := by
  cases room with
  | zero => exact h none
  | succ room => exact h (some (value room))

/-- A value that fits is read back. -/
theorem value_reads (h : json.Fits IsExact room) : Reader.Reads (value room) json.chars json := by
  induction h with
  | null => exact value_reads_of_scalar fun _ _ _ => rfl
  | bool truth =>
      cases truth with
      | true => exact value_reads_of_scalar fun _ _ _ => rfl
      | false => exact value_reads_of_scalar fun _ _ _ => rfl
  | string text =>
      refine value_reads_of_scalar fun inner rest _ => ?_
      exact bind_eq_ok_iff.mpr ⟨_, stringRest_stringChars text rest, rfl⟩
  | number hnumber =>
      obtain ⟨n, rfl, hmin, hmax⟩ := hnumber
      refine value_reads_of_scalar fun inner rest hrest => ?_
      have hread := number_integerChars hmin hmax hrest.endsNumber
      obtain ⟨c, others, hchars, hc⟩ := exists_integerChars_eq n
      rw [hchars] at hread
      rw [chars, hchars]
      exact valueOver_of_begins hc hread
  | array helements ih =>
      intro rest _
      have hopens := fun element hmem => (helements element hmem).opens
      exact bind_eq_ok_iff.mpr ⟨_, elements_reads ih hopens, rfl⟩
  | object hkeys hvalues ih =>
      intro rest _
      have hcollects := collects_putMember [] ih
      rw [putAll_nil_of_nodup hkeys] at hcollects
      exact bind_eq_ok_iff.mpr ⟨_, members_reads hcollects, rfl⟩

end Values

/-! ## Records -/

section Records

variable {α σ : Type} {rest : List Symbol}

theorem Entry.of_reads {key : String} {mandatory : Bool} {value : Reader α} {set : σ → α → σ}
    {written : List Char} {found : α} (h : Reader.Reads value written found) (record : σ) :
    Reader.Reads ((Entry.of key mandatory value set).read record) written (set record found) :=
  fun rest hrest => bind_eq_ok_iff.mpr ⟨_, h rest hrest, rfl⟩

theorem putEntry_reads {entries : List (Entry σ)} {entry : Entry σ} {keys : List String}
    {key : String} {json : Json} {record next : σ}
    (hentry : entries.find? (·.key == key) = some entry) (hkey : key ∉ keys)
    (h : Reader.Reads (entry.read record) json.chars next) :
    Reader.Reads (putEntry entries ⟨record, keys⟩ key) (':' :: json.chars) ⟨next, key :: keys⟩ := by
  intro rest hrest
  unfold putEntry
  rw [hentry]
  simp only [List.contains_eq_mem, hkey, decide_false, Bool.false_eq_true, if_false]
  exact bind_eq_ok_iff.mpr ⟨_, rfl, bind_eq_ok_iff.mpr ⟨_, h rest hrest, rfl⟩⟩

/-- A record that nothing mandatory is missing from is read back key by key. -/
theorem record_reads {title : String} {entries : Nat → List (Entry σ)} {first : σ} {room : Nat}
    {draft : Draft σ} {written : List (String × Json)}
    (h : Collects (putEntry (entries room)) ⟨first, []⟩ written draft)
    (hmandatory : ∀ entry ∈ entries room, entry.mandatory → entry.key ∈ draft.keys) :
    Reader.Reads (record title entries first (room + 1)) (Json.object written).chars
      draft.record := by
  intro rest _
  have hnone : (entries room).find? (fun entry =>
      entry.mandatory && !draft.keys.contains entry.key) = none := by
    rw [List.find?_eq_none]
    intro entry hmem
    have hthere := hmandatory entry hmem
    grind
  refine bind_eq_ok_iff.mpr ⟨_, members_reads h, ?_⟩
  simp only [hnone]

end Records

end RouteIdl.Json
