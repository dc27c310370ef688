import Mathlib.Data.List.Basic
import Mathlib.Logic.Relation
import RouteIdl.Proofs.Identifier

/-!
# RPC names in one pass

In ASCII an RPC name can be read off the method and the URL character by character, as long as it is
known whether a capital is due. So it does not depend on the case of letters, nor on how the
segments of the URL are separated.
-/

namespace RouteIdl

/-! ## Case in ASCII -/

namespace Text

/-- All characters are in ASCII. -/
def IsAscii (text : List Char) : Prop :=
  ∀ c ∈ text, c.toNat < 128

instance (text : List Char) : Decidable (IsAscii text) :=
  List.decidableBAll _ text

variable {c : Char} {text : List Char}

theorem toLower_of_not_isAscii (hc : ¬ c.toNat < 128) : c.toLower = c := by
  unfold Char.toLower
  split
  next hupper =>
    have hlast : c.toNat ≤ 90 := hupper.2
    omega
  next => rfl

/-- No character beyond ASCII is moved, so whether a function minds lower-casing is told by its
values in ASCII. -/
theorem apply_toLower {f : Char → Char}
    (htable : ∀ code < 128, f (Char.ofNat code).toLower = f (Char.ofNat code)) (c : Char) :
    f c.toLower = f c := by
  by_cases hc : c.toNat < 128
  · have hsame := htable c.toNat hc
    rwa [Char.ofNat_toNat] at hsame
  · rw [toLower_of_not_isAscii hc]

theorem toLower_toLower (c : Char) : c.toLower.toLower = c.toLower :=
  apply_toLower (f := Char.toLower) (by decide) c

theorem toUpper_toLower (c : Char) : c.toLower.toUpper = c.toUpper :=
  apply_toLower (f := Char.toUpper) (by decide) c

/-- Lower-casing gives no character but a letter that it has not been given. -/
theorem toLower_eq_iff {x : Char} (hx : ¬ x.isAlpha) : c.toLower = x ↔ c = x := by
  by_cases hc : c.toNat < 128
  · rcases mapsCase_lower.of_ascii hc with ⟨hupper, hlower⟩ | ⟨hself, -⟩
    · have halpha : c.isAlpha := Bool.or_eq_true_iff.mpr (.inl hupper)
      have halpha' : c.toLower.isAlpha := Bool.or_eq_true_iff.mpr (.inr hlower)
      constructor
      · intro heq
        exact absurd (heq ▸ halpha') hx
      · intro heq
        exact absurd (heq ▸ halpha) hx
    · rw [hself]
  · rw [toLower_of_not_isAscii hc]

theorem lowerAfter_of_isAscii (h : IsAscii text) (before : List Char) :
    lowerAfter before text = text.map Char.toLower := by
  induction text generalizing before with
  | nil => rfl
  | cons c rest ih =>
      obtain ⟨hc, hrest⟩ := List.forall_mem_cons.mp h
      have hsigma : c ≠ 'Σ' := by
        rintro rfl
        exact absurd hc (by decide)
      rw [lowerAfter, if_neg hsigma, lowerChar, if_pos hc, ih hrest, List.map_cons,
        List.singleton_append]

theorem lower_of_isAscii (h : IsAscii text) : lower text = text.map Char.toLower :=
  lowerAfter_of_isAscii h []

theorem upperChar_toLower (hc : c.toNat < 128) : upperChar c.toLower = [c.toUpper] := by
  have htable : ∀ code < 128, (Char.ofNat code).toLower.toNat < 128 := by decide
  have hlower : c.toLower.toNat < 128 := by simpa using htable c.toNat hc
  rw [upperChar, if_pos hlower, toUpper_toLower]

end Text

namespace Identifier

open Text

/-! ## Scans -/

/-- Read a text character by character, knowing whether a capital is due. A marker is spelled out, a
separator is passed over, and after either of them a capital is due again. -/
def scan (separates : Char → Bool) : Bool → List Char → List Char
  | _, [] => []
  | capital, c :: rest =>
      if c = marker then 'B' :: 'y' :: scan separates true rest
      else if separates c then scan separates true rest
      else (if capital then c.toUpper else c.toLower) :: scan separates false rest

/-- The scan of a text without separators. -/
abbrev scanSegment : Bool → List Char → List Char :=
  scan fun _ => false

section Scan

variable {separates : Char → Bool} {capital : Bool} {c : Char} {rest : List Char}

theorem scan_marker : scan separates capital (marker :: rest) =
    'B' :: 'y' :: scan separates true rest := by
  rw [scan, if_pos rfl]

theorem scan_separator (hc : separates c) (hmarker : c ≠ marker) :
    scan separates capital (c :: rest) = scan separates true rest := by
  rw [scan, if_neg hmarker, if_pos hc]

theorem scan_letter (hc : ¬ separates c) (hmarker : c ≠ marker) :
    scan separates capital (c :: rest) =
      (if capital then c.toUpper else c.toLower) :: scan separates false rest := by
  rw [scan, if_neg hmarker, if_neg hc]

/-! ## A segment -/

/-- A stretch between markers, with a capital at its start if one is due. -/
def stretch (capital : Bool) (text : List Char) : List Char :=
  if capital then titleCase text else lower text

theorem stretch_nil (capital : Bool) : stretch capital [] = [] := by
  cases capital <;> rfl

theorem stretch_cons {text : List Char} (h : IsAscii (c :: text)) :
    stretch capital (c :: text) =
      (if capital then c.toUpper else c.toLower) :: stretch false text := by
  obtain ⟨hc, htext⟩ := List.forall_mem_cons.mp h
  have hrest : stretch false text = text.map Char.toLower := lower_of_isAscii htext
  rw [hrest]
  cases capital with
  | false => exact lower_of_isAscii h
  | true =>
      change capitalize (lower (c :: text)) = _
      rw [lower_of_isAscii h, List.map_cons, capitalize, upperChar_toLower hc]
      rfl

/-- A scan of a segment goes through its stretches. Between two of them it meets a marker. -/
theorem scanSegment_eq {segment first : List Char} {parameters : List (List Char)}
    (h : IsAscii segment) (hsplit : segment.splitOn marker = first :: parameters)
    (capital : Bool) : scanSegment capital segment =
      stretch capital first ++
        parameters.flatMap fun parameter => 'B' :: 'y' :: titleCase parameter := by
  induction segment generalizing first parameters capital with
  | nil =>
      rw [List.splitOn_nil] at hsplit
      cases hsplit
      rw [stretch_nil]
      rfl
  | cons c rest ih =>
      have hrest : IsAscii rest := (List.forall_mem_cons.mp h).2
      obtain ⟨first', parameters', hsplit'⟩ :=
        List.exists_cons_of_ne_nil (List.splitOn_ne_nil marker rest)
      rw [List.splitOn, List.splitOnP_cons_eq_if_modifyHead, ← List.splitOn, hsplit'] at hsplit
      by_cases hc : c = marker
      · subst hc
        rw [if_pos (beq_self_eq_true _)] at hsplit
        cases hsplit
        rw [scanSegment, scan_marker, stretch_nil]
        exact congrArg ('B' :: 'y' :: ·) (ih hrest hsplit' true)
      · -- The first stretch of the rest goes on with no capital due, since `c` has taken it.
        rw [if_neg (by simpa using hc), List.modifyHead_cons] at hsplit
        cases hsplit
        have hfirst : IsAscii (c :: first') := by
          refine List.forall_mem_cons.mpr ⟨(List.forall_mem_cons.mp h).1, fun x hx => ?_⟩
          have hpiece : first' ∈ rest.splitOn marker := by simp [hsplit']
          exact hrest x (of_mem_splitOnP hpiece hx).1
        rw [scanSegment, scan_letter (by simp) hc, stretch_cons hfirst, List.cons_append]
        exact congrArg _ (ih hrest hsplit' false)

theorem ofSegment_eq_scanSegment {segment : List Char} (h : IsAscii segment) :
    ofSegment segment = scanSegment true segment := by
  obtain ⟨first, parameters, hsplit, -⟩ := exists_stretches segment
  rw [ofSegment_eq hsplit, scanSegment_eq h hsplit]
  rfl

/-! ## A whole URL -/

/-- Between separators a scan goes on as in a segment. -/
theorem scan_eq_of_splitOnP {text first : List Char} {others : List (List Char)}
    (hsplit : text.splitOnP separates = first :: others) (hmarker : ¬ separates marker)
    (capital : Bool) : scan separates capital text =
      scanSegment capital first ++ others.flatMap (scanSegment true) := by
  induction text generalizing first others capital with
  | nil =>
      cases hsplit
      rfl
  | cons c rest ih =>
      obtain ⟨first', others', hsplit'⟩ :=
        List.exists_cons_of_ne_nil (List.splitOnP_ne_nil separates rest)
      rw [List.splitOnP_cons_eq_if_modifyHead, hsplit'] at hsplit
      by_cases hc : separates c
      · rw [if_pos hc] at hsplit
        cases hsplit
        have hne : c ≠ marker := by
          rintro rfl
          exact hmarker hc
        rw [scan_separator hc hne, ih hsplit']
        rfl
      · rw [if_neg hc, List.modifyHead_cons] at hsplit
        cases hsplit
        -- A marker is no separator, but it makes a capital due in both scans.
        by_cases hne : c = marker
        · subst hne
          rw [scan_marker, scanSegment, scan_marker, ih hsplit']
          rfl
        · rw [scan_letter hc hne, scanSegment, scan_letter (by simp) hne, ih hsplit']
          rfl

end Scan

theorem flatMap_segments_eq_scan {url : List Char} (h : IsAscii url) :
    (segments url).flatMap ofSegment = scan isSeparator true url := by
  obtain ⟨first, others, hsplit⟩ :=
    List.exists_cons_of_ne_nil (List.splitOnP_ne_nil isSeparator url)
  have hpieces : ∀ piece ∈ url.splitOnP isSeparator, ofSegment piece = scanSegment true piece :=
    fun piece hpiece => ofSegment_eq_scanSegment fun c hc => h c (of_mem_splitOnP hpiece hc).1
  rw [flatMap_segments, List.flatMap_congr hpieces, hsplit, List.flatMap_cons,
    scan_eq_of_splitOnP hsplit (by decide)]

theorem rpcChars_eq_scan {method url : List Char} (hmethod : IsAscii method) (hurl : IsAscii url) :
    rpcChars method url = scanSegment true method ++ scan isSeparator true url := by
  rw [rpcChars, ofSegment_eq_scanSegment hmethod, flatMap_segments_eq_scan hurl]

/-! ## Spellings -/

/-- A URL template is written in another way: a letter in the other case, another separator, two
separators as one, or without a separator at its beginning or end. -/
inductive Respelled : List Char → List Char → Prop where
  | letter (before after : List Char) {c d : Char} (h : c.toLower = d.toLower) :
      Respelled (before ++ c :: after) (before ++ d :: after)
  | exchanged (before after : List Char) {s t : Char} (hs : isSeparator s) (ht : isSeparator t) :
      Respelled (before ++ s :: after) (before ++ t :: after)
  | repeated (before after : List Char) {s t : Char} (hs : isSeparator s) (ht : isSeparator t) :
      Respelled (before ++ s :: t :: after) (before ++ s :: after)
  | leading (after : List Char) {s : Char} (hs : isSeparator s) : Respelled (s :: after) after
  | trailing (before : List Char) {s : Char} (hs : isSeparator s) :
      Respelled (before ++ [s]) before

section Spelling

variable {separates : Char → Bool} {capital : Bool} {rest : List Char}

theorem scan_toLower_cons (h : ∀ c : Char, separates c.toLower = separates c) (c : Char) :
    scan separates capital (c.toLower :: rest) = scan separates capital (c :: rest) := by
  have hmarker : c.toLower = marker ↔ c = marker := toLower_eq_iff (by decide)
  simp only [scan, hmarker, h, toUpper_toLower, toLower_toLower]

theorem scan_map_toLower (h : ∀ c : Char, separates c.toLower = separates c) (text : List Char)
    (capital : Bool) : scan separates capital (text.map Char.toLower) =
      scan separates capital text := by
  induction text generalizing capital with
  | nil => rfl
  | cons c rest ih => rw [List.map_cons, scan_toLower_cons h, scan, scan, ih, ih]

/-- What is read before does not matter for two texts that scan alike in either state. -/
theorem scan_append_congr {text text' : List Char}
    (h : ∀ capital, scan separates capital text = scan separates capital text')
    (before : List Char) (capital : Bool) :
    scan separates capital (before ++ text) = scan separates capital (before ++ text') := by
  induction before generalizing capital with
  | nil => exact h capital
  | cons c before ih => rw [List.cons_append, List.cons_append, scan, scan, ih, ih]

end Spelling

theorem isSeparator_toLower (c : Char) : isSeparator c.toLower = isSeparator c := by
  have hslash : c.toLower = '/' ↔ c = '/' := toLower_eq_iff (by decide)
  have hdash : c.toLower = '-' ↔ c = '-' := toLower_eq_iff (by decide)
  rw [Bool.eq_iff_iff]
  simp [isSeparator, hslash, hdash]

/-- However a URL template is written, the scan gives the same. -/
theorem Respelled.scan_eq {url url' : List Char} (h : Respelled url url') :
    scan isSeparator true url = scan isSeparator true url' := by
  have hseparator {s : Char} (hs : isSeparator s) (capital : Bool) (rest : List Char) :
      scan isSeparator capital (s :: rest) = scan isSeparator true rest :=
    scan_separator hs (ne_marker_of_isSeparator hs)
  cases h with
  | letter before after hcd =>
      refine scan_append_congr (fun capital => ?_) before true
      rw [← scan_toLower_cons isSeparator_toLower, hcd, scan_toLower_cons isSeparator_toLower]
  | exchanged before after hs ht =>
      refine scan_append_congr (fun capital => ?_) before true
      rw [hseparator hs, hseparator ht]
  | repeated before after hs ht =>
      refine scan_append_congr (fun capital => ?_) before true
      rw [hseparator hs, hseparator hs, hseparator ht]
  | leading after hs => exact hseparator hs true _
  | @trailing _ s hs =>
      have hend (capital : Bool) : scan isSeparator capital [s] = scan isSeparator capital [] :=
        hseparator hs capital []
      simpa using scan_append_congr hend url' true

theorem scan_eq_of_eqvGen {url url' : List Char} (h : Relation.EqvGen Respelled url url') :
    scan isSeparator true url = scan isSeparator true url' := by
  induction h with
  | rel _ _ hstep => exact hstep.scan_eq
  | refl _ => rfl
  | symm _ _ _ ih => exact ih.symm
  | trans _ _ _ _ _ ih ih' => exact ih.trans ih'

/-- In ASCII an RPC name is what a scan of the method and one of the URL give. It is the same for
every method that differs in the case of its letters and for every way to write the URL. -/
theorem rpc_scan {method url : String} (hmethod : IsAscii method.toList)
    (hurl : IsAscii url.toList) :
    (rpc method url).toList =
      scanSegment true method.toList ++ scan isSeparator true url.toList ∧
    ∀ method' url' : String, IsAscii method'.toList → IsAscii url'.toList →
      method.toList.map Char.toLower = method'.toList.map Char.toLower →
      Relation.EqvGen Respelled url.toList url'.toList →
      rpc method' url' = rpc method url := by
  refine ⟨?_, ?_⟩
  · exact String.toList_ofList.trans (rpcChars_eq_scan hmethod hurl)
  · intro method' url' hmethod' hurl' hletters hspelled
    have hscan : scanSegment true method'.toList = scanSegment true method.toList := by
      unfold scanSegment
      rw [← scan_map_toLower (fun _ => rfl) method'.toList, ← hletters,
        scan_map_toLower fun _ => rfl]
    rw [rpc, rpc, rpcChars_eq_scan hmethod hurl, rpcChars_eq_scan hmethod' hurl', hscan,
      scan_eq_of_eqvGen hspelled]

/-- Two routes whose URLs are written in different ways. -/
theorem rpc_scan_groups :
    IsAscii "POST".toList ∧ IsAscii "/user-:groups".toList ∧
      (rpc "POST" "/user-:groups").toList = "PostUserByGroups".toList ∧
      rpc "post" "user/:Groups//" = rpc "POST" "/user-:groups" := by
  have hmethod : IsAscii "POST".toList := by decide
  have hurl : IsAscii "/user-:groups".toList := by decide
  obtain ⟨hscan, hspellings⟩ := rpc_scan hmethod hurl
  refine ⟨hmethod, hurl, hscan.trans (by decide), ?_⟩
  apply hspellings "post" "user/:Groups//" (by decide) (by decide) (by decide)
  refine .trans _ "user-:groups".toList _ (.rel _ _ (.leading (s := '/') _ (by decide))) ?_
  refine .trans _ "user/:groups".toList _
    (.rel _ _ (.exchanged (s := '-') "user".toList ":groups".toList (by decide) (by decide))) ?_
  refine .trans _ "user/:Groups".toList _
    (.rel _ _ (.letter "user/:".toList "roups".toList (by decide))) (.symm _ _ ?_)
  refine .trans _ "user/:Groups/".toList _
    (.rel _ _ (.repeated (s := '/') "user/:Groups".toList [] (by decide) (by decide))) ?_
  exact .rel _ _ (.trailing (s := '/') "user/:Groups".toList (by decide))

end Identifier

end RouteIdl
