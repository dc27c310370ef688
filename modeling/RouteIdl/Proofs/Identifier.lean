import Mathlib.Data.List.Chain
import RouteIdl.Identifier
import RouteIdl.Proofs.Text.CaseImages

/-!
# Characters of generated identifiers

Characters without case go into a name as they are and are never made up. The part of a name that
comes from the URL has no separators, and in a segment a capital `E` stands at the beginning or
after a marker.
-/

namespace RouteIdl.Identifier

open Text

/-! ## Segments -/

/-- A segment is put together from its first stretch and, after a marker each, the others. -/
theorem exists_stretches (segment : List Char) : ∃ first parameters,
    segment.splitOn marker = first :: parameters ∧
      segment = first ++ parameters.flatMap (marker :: ·) := by
  obtain ⟨first, parameters, hsplit⟩ :=
    List.exists_cons_of_ne_nil (List.splitOn_ne_nil marker segment)
  refine ⟨first, parameters, hsplit, ?_⟩
  have hjoin : [marker].intercalate (segment.splitOn marker) = segment :=
    List.intercalate_splitOn marker
  rw [hsplit] at hjoin
  rw [← hjoin]
  clear hsplit hjoin
  induction parameters generalizing first with
  | nil => simp
  | cons second rest ih => simp [List.intercalate_cons_cons, ih]

theorem ofSegment_eq {segment first : List Char} {parameters : List (List Char)}
    (hsplit : segment.splitOn marker = first :: parameters) :
    ofSegment segment =
      titleCase first ++ parameters.flatMap fun parameter => 'B' :: 'y' :: titleCase parameter := by
  rw [ofSegment, hsplit]

section Count

variable {x : Char} (hx : isCaseless x)
include hx

theorem count_titleCase (text : List Char) : (titleCase text).count x = text.count x := by
  rw [titleCase, count_capitalize hx, count_lower hx]

/-- A name has as many of a character without case as the segment it is made of. -/
theorem count_ofSegment (hmarker : x ≠ marker) (segment : List Char) :
    (ofSegment segment).count x = segment.count x := by
  obtain ⟨first, parameters, hsplit, hjoin⟩ := exists_stretches segment
  rw [ofSegment_eq hsplit]
  conv => rhs; rw [hjoin]
  rw [List.count_append, List.count_append, count_titleCase hx, List.count_flatMap,
    List.count_flatMap]
  congr 3
  funext parameter
  have hletters : x ≠ 'B' ∧ x ≠ 'y' := by
    constructor <;> (rintro rfl; exact absurd hx (by decide))
  simp [count_titleCase hx, hletters.1.symm, hletters.2.symm, hmarker.symm]

end Count

/-! ## Separators -/

/-- A piece of a split text has nothing but what stands in the text and is not split at. -/
theorem of_mem_splitOnP {α : Type} {p : α → Bool} {xs piece : List α} {x : α}
    (hpiece : piece ∈ xs.splitOnP p) (hx : x ∈ piece) : x ∈ xs ∧ p x = false := by
  induction xs generalizing piece with
  | nil =>
      rw [List.splitOnP_nil, List.mem_singleton] at hpiece
      simp [hpiece] at hx
  | cons head rest ih =>
      rw [List.splitOnP_cons_eq_if_modifyHead] at hpiece
      split at hpiece
      next =>
        rcases List.mem_cons.mp hpiece with rfl | hpiece
        · cases hx
        · exact (ih hpiece hx).imp_left (List.mem_cons_of_mem head)
      next hhead =>
        obtain ⟨first, others, hsplit⟩ :=
          List.exists_cons_of_ne_nil (List.splitOnP_ne_nil p rest)
        rw [hsplit, List.modifyHead_cons] at hpiece
        rcases List.mem_cons.mp hpiece with rfl | hmem
        · rcases List.mem_cons.mp hx with rfl | hx
          · exact ⟨List.mem_cons_self, by simpa using hhead⟩
          · exact (ih (by simp [hsplit]) hx).imp_left (List.mem_cons_of_mem head)
        · exact (ih (by simp [hsplit, hmem]) hx).imp_left (List.mem_cons_of_mem head)

theorem ne_marker_of_isSeparator {c : Char} (h : isSeparator c) : c ≠ marker := by
  rintro rfl
  exact absurd h (by decide)

/-- Empty stretches between separators give nothing to a name. -/
theorem flatMap_segments (url : List Char) :
    (segments url).flatMap ofSegment = (url.splitOnP isSeparator).flatMap ofSegment := by
  unfold segments
  induction url.splitOnP isSeparator with
  | nil => rfl
  | cons piece rest ih => cases piece <;> simp [ih]

/-- The URL gives no separators to a name. -/
theorem not_mem_flatMap_segments {x : Char} (hx : isCaseless x) (hseparator : isSeparator x)
    (url : List Char) : x ∉ (segments url).flatMap ofSegment := by
  intro hmem
  obtain ⟨segment, hsegment, hmem⟩ := List.mem_flatMap.mp hmem
  have hcount : 0 < segment.count x := by
    rw [← count_ofSegment hx (ne_marker_of_isSeparator hseparator)]
    exact List.count_pos_iff.mpr hmem
  obtain ⟨-, hnot⟩ := of_mem_splitOnP (List.mem_of_mem_filter hsegment)
    (List.count_pos_iff.mp hcount)
  rw [hseparator] at hnot
  cases hnot

/-- Each marker of a segment is spelled out. -/
theorem marker_not_mem_ofSegment (segment : List Char) : marker ∉ ofSegment segment := by
  have hpieces : ∀ piece ∈ segment.splitOn marker, marker ∉ titleCase piece := by
    intro piece hpiece hmem
    have hcount : 0 < piece.count marker := by
      rw [← count_titleCase (by decide)]
      exact List.count_pos_iff.mpr hmem
    obtain ⟨-, hnot⟩ := of_mem_splitOnP hpiece (List.count_pos_iff.mp hcount)
    simp at hnot
  obtain ⟨first, parameters, hsplit, -⟩ := exists_stretches segment
  rw [hsplit, List.forall_mem_cons] at hpieces
  rw [ofSegment_eq hsplit, List.mem_append, List.mem_flatMap, not_or]
  refine ⟨hpieces.1, ?_⟩
  rintro ⟨parameter, hparameter, hmem⟩
  have hletters : marker ≠ 'B' ∧ marker ≠ 'y' := by decide
  simp [hletters, hpieces.2 parameter hparameter] at hmem

theorem marker_not_mem_rpcChars (method url : List Char) : marker ∉ rpcChars method url := by
  rw [rpcChars, List.mem_append, List.mem_flatMap]
  rintro (hmethod | ⟨segment, -, hsegment⟩)
  · exact marker_not_mem_ofSegment method hmethod
  · exact marker_not_mem_ofSegment segment hsegment

/-- A name has the separators that the method has. -/
theorem count_rpcChars_of_isSeparator {x : Char} (hseparator : isSeparator x)
    (method url : List Char) : (rpcChars method url).count x = method.count x := by
  have hx : isCaseless x ∧ x ≠ marker := by
    rcases (by simpa [isSeparator] using hseparator : x = '/' ∨ x = '-') with rfl | rfl <;> decide
  rw [rpcChars, List.count_append, count_ofSegment hx.1 hx.2,
    List.count_eq_zero_of_not_mem (not_mem_flatMap_segments hx.1 hseparator url), Nat.add_zero]

/-- No marker is left in an RPC name, and what separators it has are those of the method, which is
one segment as it stands. So an RPC name and the names of its messages can be identifiers only if
there are no separators in the method, and then they have neither separators nor markers. -/
theorem rpc_separators (method url : String) :
    ':' ∉ (rpc method url).toList ∧
    (∀ c ∈ ['/', '-'], (rpc method url).toList.count c = method.toList.count c) ∧
    ∀ name ∈ [rpc method url, request (rpc method url), response (rpc method url)],
      (∀ c ∈ ['/', '-', ':'], c ∉ name.toList) ↔ '/' ∉ method.toList ∧ '-' ∉ method.toList := by
  have hchars : (rpc method url).toList = rpcChars method.toList url.toList := String.toList_ofList
  have hmarker : ':' ∉ (rpc method url).toList := by
    rw [hchars]
    exact marker_not_mem_rpcChars _ _
  have hcount : ∀ c ∈ ['/', '-'], (rpc method url).toList.count c = method.toList.count c := by
    intro c hc
    rw [hchars]
    exact count_rpcChars_of_isSeparator (by simpa [isSeparator] using hc) _ _
  have hmem : ∀ c ∈ ['/', '-'], (c ∈ (rpc method url).toList ↔ c ∈ method.toList) := by
    intro c hc
    rw [← List.count_pos_iff, ← List.count_pos_iff, hcount c hc]
  refine ⟨hmarker, hcount, fun name hname => ?_⟩
  -- What is put after the name of a message is made of letters.
  have hsuffix : ∀ c ∈ ['/', '-', ':'], (c ∈ name.toList ↔ c ∈ (rpc method url).toList) := by
    simp only [List.mem_cons, List.not_mem_nil, or_false] at hname
    rcases hname with rfl | rfl | rfl
    · simp
    · simp [request, String.toList_append]
    · simp [response, String.toList_append]
  simp only [List.forall_mem_cons, List.not_mem_nil, false_imp_iff, implies_true, and_true]
    at hsuffix hmem ⊢
  simp only [hsuffix, hmem, hmarker, not_false_eq_true, and_true]

/-- A method with a separator in it leaves it in the names. -/
theorem separator_mem_rpc_search :
    rpc "M-SEARCH" "/devices" = "M-searchDevices" ∧
      '-' ∈ (rpc "M-SEARCH" "/devices").toList ∧
      '-' ∈ (request (rpc "M-SEARCH" "/devices")).toList ∧
      '-' ∈ (response (rpc "M-SEARCH" "/devices")).toList := by
  decide

/-! ## Capitals -/

/-- What may stand before a capital `E` in a name that is made of one segment. -/
def MayPrecede (c next : Char) : Prop :=
  next = 'E' → c = 'y'

theorem isChain_mayPrecede {text : List Char} (h : 'E' ∉ text.tail) : text.IsChain MayPrecede := by
  induction text with
  | nil => exact .nil
  | cons c rest ih =>
      cases rest with
      | nil => exact .singleton c
      | cons next rest =>
          rw [List.tail_cons, List.mem_cons, not_or] at h
          exact .cons_cons (fun heq => absurd heq.symm h.1) (ih h.2)

theorem not_mem_tail_titleCase (text : List Char) : 'E' ∉ (titleCase text).tail := by
  have hlower : 'E' ∉ lower text := not_mem_lower_of_isUpper (by decide) (by decide) text
  unfold titleCase
  cases hcase : lower text with
  | nil => simp
  | cons c rest =>
      rw [hcase, List.mem_cons, not_or] at hlower
      rw [capitalize]
      cases hupper : upperChar c with
      | nil => simpa using fun hmem => hlower.2 (List.mem_of_mem_tail hmem)
      | cons first others =>
          have hothers := not_mem_tail_upperChar c
          rw [hupper] at hothers
          simpa using ⟨hothers, hlower.2⟩

/-- A marker between stretches is no capital `E`, and what comes after it may be one. -/
theorem isChain_append_parameters {start : List Char} (hstart : start.IsChain MayPrecede)
    (parameters : List (List Char)) :
    (start ++ parameters.flatMap fun parameter => 'B' :: 'y' :: titleCase parameter).IsChain
      MayPrecede := by
  induction parameters generalizing start with
  | nil => simpa using hstart
  | cons parameter rest ih =>
      have hparameter : ('y' :: titleCase parameter).IsChain MayPrecede := by
        refine List.isChain_cons.mpr ⟨fun _ _ _ => rfl, ?_⟩
        exact isChain_mayPrecede (not_mem_tail_titleCase parameter)
      have hword : ('B' :: 'y' :: titleCase parameter).IsChain MayPrecede :=
        .cons_cons (fun heq => absurd heq (by decide)) hparameter
      rw [List.flatMap_cons, ← List.append_assoc]
      apply ih
      refine List.isChain_append.mpr ⟨hstart, hword, ?_⟩
      rintro c - next hnext heq
      cases hnext
      exact absurd heq (by decide)

theorem isChain_ofSegment (segment : List Char) : (ofSegment segment).IsChain MayPrecede := by
  obtain ⟨first, parameters, hsplit, -⟩ := exists_stretches segment
  rw [ofSegment_eq hsplit]
  exact isChain_append_parameters (isChain_mayPrecede (not_mem_tail_titleCase first)) parameters

end RouteIdl.Identifier
