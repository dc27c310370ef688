import Mathlib.Algebra.GroupWithZero.Nat
import Mathlib.Algebra.Order.BigOperators.Group.List
import Mathlib.Algebra.Order.Group.Nat
import Mathlib.Data.List.Infix
import RouteIdl.Proofs.Identifier

/-!
# RPC names part by part

The name of an RPC is put together from what the parts of its URL give, each on its own: a cut at a
separator cuts the name, and each marker leaves a word of its own in it.
-/

namespace RouteIdl

/-! ## Words in a text -/

namespace Text

/-- How often a word occurs in a text: the number of places where it begins. -/
def occurrences (word text : List Char) : Nat :=
  text.tails.countP word.isPrefixOf

variable {word : List Char}

theorem occurrences_cons (c : Char) (rest : List Char) :
    occurrences word (c :: rest) =
      occurrences word rest + if word.isPrefixOf (c :: rest) then 1 else 0 := by
  rw [occurrences, List.tails_cons, List.countP_cons]
  rfl

/-- Where a word begins in one of two texts, it begins in both together. -/
theorem occurrences_append_le (hword : word ≠ []) (front back : List Char) :
    occurrences word front + occurrences word back ≤ occurrences word (front ++ back) := by
  induction front with
  | nil =>
      have hnone : occurrences word [] = 0 := by
        simpa [occurrences, List.countP_cons] using hword
      rw [hnone, Nat.zero_add, List.nil_append]
  | cons c rest ih =>
      have hbegins (h : word.isPrefixOf (c :: rest)) : word.isPrefixOf (c :: (rest ++ back)) := by
        rw [List.isPrefixOf_iff_prefix] at h ⊢
        exact h.trans (List.prefix_append (c :: rest) back)
      rw [List.cons_append, occurrences_cons, occurrences_cons]
      split
      next h =>
        rw [if_pos (hbegins h)]
        omega
      next => omega

theorem sum_occurrences_le {α : Type} (hword : word ≠ []) (f : α → List Char) (parts : List α) :
    (parts.map fun part => occurrences word (f part)).sum ≤
      occurrences word (parts.flatMap f) := by
  induction parts with
  | nil => exact Nat.zero_le _
  | cons part rest ih =>
      rw [List.map_cons, List.sum_cons, List.flatMap_cons]
      exact (Nat.add_le_add_left ih _).trans (occurrences_append_le hword _ _)

end Text

namespace Identifier

open Text

/-! ## Cuts -/

/-- A split at two kinds of characters is one at the first and then one at the second. -/
theorem splitOnP_or (p q : Char → Bool) (text : List Char) :
    text.splitOnP (fun c => p c || q c) = (text.splitOnP p).flatMap (List.splitOnP q) := by
  induction text with
  | nil => rfl
  | cons c rest ih =>
      obtain ⟨first, others, hsplit⟩ := List.exists_cons_of_ne_nil (List.splitOnP_ne_nil p rest)
      rw [List.splitOnP_cons_eq_if_modifyHead, List.splitOnP_cons_eq_if_modifyHead, ih, hsplit]
      cases hp : p c with
      | true => simp
      | false =>
          obtain ⟨piece, pieces, hpieces⟩ :=
            List.exists_cons_of_ne_nil (List.splitOnP_ne_nil q first)
          cases hq : q c <;> simp [List.splitOnP_cons_eq_if_modifyHead, hq, hpieces]

/-- The segments are the non-empty parts between hyphens of the parts between slashes. -/
theorem segments_eq_flatMap (url : List Char) :
    segments url = ((url.splitOn '/').flatMap (List.splitOn '-')).filter (!·.isEmpty) := by
  rw [segments]
  exact congrArg _ (splitOnP_or (· == '/') (· == '-') url)

/-- A separator ends the segment before it. -/
theorem segments_append_separator {s : Char} (hs : isSeparator s) (front back : List Char) :
    segments (front ++ s :: back) = segments front ++ segments back := by
  rw [segments, List.splitOnP_append_cons front back hs, List.filter_append]
  rfl

theorem rpcChars_append_separator {s : Char} (hs : isSeparator s) (method front back : List Char) :
    rpcChars method (front ++ s :: back) = rpcChars method front ++ rpcChars [] back := by
  simp only [rpcChars, segments_append_separator hs, List.flatMap_append, ofSegment_nil,
    List.nil_append, List.append_assoc]

theorem rpc_append_separator {s : Char} (hs : isSeparator s) (method front back : String) :
    rpc method (front ++ String.singleton s ++ back) = rpc method front ++ rpc "" back := by
  apply String.toList_injective
  simpa [rpc] using rpcChars_append_separator hs method.toList front.toList back.toList

/-- A route that is mounted below a URL, behind either separator, is named after that URL and then
after its own. The case of a letter depends on nothing across the cut. -/
theorem rpc_mounted (method outer inner : String) :
    rpc method (outer ++ "/" ++ inner) = rpc method outer ++ rpc "" inner ∧
      rpc method (outer ++ "-" ++ inner) = rpc method outer ++ rpc "" inner :=
  ⟨rpc_append_separator (s := '/') (by decide) method outer inner,
    rpc_append_separator (s := '-') (by decide) method outer inner⟩

/-- A final sigma before the cut stays final, and a letter may have more than one capital. -/
example : rpc "GET" "ΟΔΟΣ/ßa" = rpc "GET" "ΟΔΟΣ" ++ rpc "" "ßa" ∧
    rpc "GET" "ΟΔΟΣ" = "GetΟδος" ∧ rpc "" "ßa" = "SSa" := by decide +kernel

/-! ## Markers -/

theorem length_splitOn (x : Char) (text : List Char) :
    (text.splitOn x).length = text.count x + 1 := by
  induction text with
  | nil => rfl
  | cons c rest ih =>
      rw [List.splitOn_cons_eq_if_modifyHead, List.count_cons]
      split
      next => rw [List.length_cons, ih]
      next => rw [List.length_modifyHead, ih, Nat.add_zero]

/-- What a text is not split at is in its pieces. -/
theorem sum_count_splitOnP {p : Char → Bool} {x : Char} (hx : ¬ p x) (text : List Char) :
    ((text.splitOnP p).map (List.count x)).sum = text.count x := by
  induction text with
  | nil => rfl
  | cons c rest ih =>
      rw [List.splitOnP_cons_eq_if_modifyHead, List.count_cons]
      split
      next hc =>
        have hne : ¬ c == x := by
          rw [beq_iff_eq]
          rintro rfl
          exact hx hc
        rw [List.map_cons, List.sum_cons, ih, if_neg hne, List.count_nil, Nat.zero_add,
          Nat.add_zero]
      next =>
        obtain ⟨first, others, hsplit⟩ :=
          List.exists_cons_of_ne_nil (List.splitOnP_ne_nil p rest)
        rw [hsplit, List.map_cons, List.sum_cons] at ih
        rw [hsplit, List.modifyHead_cons, List.map_cons, List.sum_cons, List.count_cons, ← ih]
        omega

/-- The word that a marker is spelled out as. -/
def markerWord : List Char := ['B', 'y']

theorem markerWord_ne_nil : markerWord ≠ [] := nofun

theorem count_marker_le_ofSegment (segment : List Char) :
    segment.count marker ≤ occurrences markerWord (ofSegment segment) := by
  obtain ⟨first, parameters, hsplit, -⟩ := exists_stretches segment
  have hlength := length_splitOn marker segment
  rw [hsplit, List.length_cons, Nat.add_right_cancel_iff] at hlength
  have hword (parameter : List Char) :
      1 ≤ occurrences markerWord ('B' :: 'y' :: titleCase parameter) := by
    rw [occurrences_cons]
    simp [markerWord]
  calc segment.count marker
      = (parameters.map fun _ => 1).sum := by rw [← hlength]; simp
    _ ≤ (parameters.map fun parameter =>
          occurrences markerWord ('B' :: 'y' :: titleCase parameter)).sum :=
        List.sum_le_sum fun parameter _ => hword parameter
    _ ≤ occurrences markerWord
          (parameters.flatMap fun parameter => 'B' :: 'y' :: titleCase parameter) :=
        sum_occurrences_le markerWord_ne_nil _ parameters
    _ ≤ occurrences markerWord (ofSegment segment) := by
        rw [ofSegment_eq hsplit]
        exact (Nat.le_add_left _ _).trans (occurrences_append_le markerWord_ne_nil _ _)

theorem count_marker_le_flatMap (url : List Char) :
    url.count marker ≤ occurrences markerWord ((segments url).flatMap ofSegment) := by
  have hmarker : ¬ isSeparator marker := fun h => ne_marker_of_isSeparator h rfl
  calc url.count marker
      = ((url.splitOnP isSeparator).map (List.count marker)).sum :=
        (sum_count_splitOnP hmarker url).symm
    _ ≤ ((url.splitOnP isSeparator).map fun piece =>
          occurrences markerWord (ofSegment piece)).sum :=
        List.sum_le_sum fun piece _ => count_marker_le_ofSegment piece
    _ ≤ occurrences markerWord ((segments url).flatMap ofSegment) := by
        rw [flatMap_segments]
        exact sum_occurrences_le markerWord_ne_nil ofSegment _

/-- No marker is lost: an RPC name has the word `By` at least once for each marker of the method and
of the URL, wherever the markers stand. -/
theorem rpc_markers (method url : String) :
    method.toList.count ':' + url.toList.count ':' ≤
      occurrences "By".toList (rpc method url).toList := by
  have hchars : (rpc method url).toList = rpcChars method.toList url.toList := String.toList_ofList
  rw [hchars, rpcChars]
  exact (Nat.add_le_add (count_marker_le_ofSegment _) (count_marker_le_flatMap _)).trans
    (occurrences_append_le markerWord_ne_nil _ _)

/-- Adjacent markers, and one at the end of a segment. -/
example : occurrences "By".toList (rpc "GET:" "/a::b:/:").toList = 5 := by decide

end Identifier

end RouteIdl
