import Mathlib.Logic.Basic
import RouteIdl.Manifest

/-!
# Manifests in use

When a manifest is accepted, and what becomes of its paths when the file it comes from lies in
another directory: those that are relative are joined with the directory, and the checks do not see
a difference.
-/

namespace RouteIdl

/-- Text survives being written and read. -/
theorem fromUTF8?_toUTF8 (text : String) : String.fromUTF8? text.toUTF8 = some text := by
  have hvalid : text.toUTF8.IsValidUTF8 := text.isValidUTF8
  rw [String.fromUTF8?, dif_pos hvalid]
  rfl

namespace Path

/-- The directory of a path, the empty path for one without any. -/
def directory (path : String) : String :=
  (parent? path).getD ""

theorem join_empty (path : String) : join "" path = path := by
  simp [join]

theorem join_ne_empty (base : String) {path : String} (h : path ≠ "") : join base path ≠ "" := by
  unfold join
  split
  · exact h
  · split
    · simp [h]
    · simp [h]

theorem join_of_isAbsolute (base : String) {path : String} (h : isAbsolute path) :
    join base path = path := by
  simp [join, h]

theorem isAbsolute_append {base : String} (h : isAbsolute base) (rest : String) :
    isAbsolute (base ++ rest) := by
  rw [isAbsolute, beq_iff_eq] at h ⊢
  rw [String.toList_append, List.head?_append, h, Option.some_or]

/-- What is seen from an absolute directory is absolute. -/
theorem isAbsolute_join {base : String} (h : isAbsolute base) (path : String) :
    isAbsolute (join base path) := by
  have hbase : base.isEmpty = false := by
    rw [String.isEmpty_eq_false_iff]
    rintro rfl
    cases h
  unfold join
  split
  next hpath => simpa [hbase] using hpath
  next =>
    split
    · exact isAbsolute_append h path
    · exact isAbsolute_append (isAbsolute_append h "/") path

end Path

namespace Manifest

variable {manifest : Manifest} {base : String}

theorem rebasePath_of_ne_empty {path : String} (h : path ≠ "") :
    rebasePath base path = Path.join base path := by
  simp [rebasePath, h]

theorem rebasePath_empty (path : String) : rebasePath "" path = path := by
  unfold rebasePath
  split
  · rfl
  · exact Path.join_empty path

theorem rebasePath_eq_empty_iff {path : String} : rebasePath base path = "" ↔ path = "" := by
  by_cases h : path = ""
  · simp [h, rebasePath]
  · simp [h, rebasePath_of_ne_empty h, Path.join_ne_empty base h]

theorem rebase_empty (manifest : Manifest) : manifest.rebase "" = manifest := by
  have hid : rebasePath "" = id := funext rebasePath_empty
  simp [rebase, hid]

theorem map_rebasePath_eq_some_empty_iff {path? : Option String} :
    path?.map (rebasePath base) = some "" ↔ path? = some "" := by
  cases path? with
  | none => simp
  | some path => simp [rebasePath_eq_empty_iff]

theorem map_rebasePath {path? : Option String} (h : path? ≠ some "") :
    path?.map (rebasePath base) = path?.map (Path.join base) := by
  cases path? with
  | none => rfl
  | some path =>
      have hpath : path ≠ "" := by
        rintro rfl
        exact h rfl
      simp [rebasePath_of_ne_empty hpath]

/-- A manifest is accepted exactly if nothing in it that matters is empty and its log level
exists. -/
theorem validate_eq_ok_iff : manifest.validate = .ok () ↔
    (manifest.serviceName ≠ some "" ∧ manifest.routes ≠ some "" ∧ manifest.document ≠ some "" ∧
      manifest.output ≠ some "") ∧ manifest.settings.responseStatus ≠ "" ∧
      ∃ level, Log.Level.ofText manifest.settings.logLevel = .ok level := by
  unfold validate
  by_cases hservice : manifest.serviceName = some ""
  · simp [hservice]
  by_cases hroutes : manifest.routes = some ""
  · simp [hservice, hroutes]
  by_cases hdocument : manifest.document = some ""
  · simp [hservice, hroutes, hdocument]
  by_cases houtput : manifest.output = some ""
  · simp [hservice, hroutes, hdocument, houtput]
  by_cases hstatus : manifest.settings.responseStatus = ""
  · simp [hservice, hroutes, hdocument, houtput, hstatus]
  cases hlevel : Log.Level.ofText manifest.settings.logLevel <;>
    simp [hservice, hroutes, hdocument, houtput, hstatus]

/-- Where its file lies does not matter for whether a manifest is accepted, nor for its first
fault. -/
theorem validate_rebase : (manifest.rebase base).validate = manifest.validate := by
  have hempty (path? : Option String) : path?.map (rebasePath base) = some "" ↔ path? = some "" :=
    map_rebasePath_eq_some_empty_iff
  unfold validate
  exact if_congr Iff.rfl rfl <| if_congr (hempty manifest.routes) rfl <|
    if_congr (hempty manifest.document) rfl <| if_congr (hempty manifest.output) rfl rfl

theorem validate_rebase_eq_ok_iff :
    (manifest.rebase base).validate = .ok () ↔ manifest.validate = .ok () := by
  rw [validate_rebase]

theorem validate_withoutOutput (h : manifest.validate = .ok ()) :
    ({ manifest with output := none } : Manifest).validate = .ok () := by
  obtain ⟨⟨hservice, hroutes, hdocument, _⟩, hsettings⟩ := validate_eq_ok_iff.mp h
  exact validate_eq_ok_iff.mpr ⟨⟨hservice, hroutes, hdocument, nofun⟩, hsettings⟩

theorem ofFile_eq_ok_iff {path : String} {content : Option ByteArray} {rebased : Manifest} :
    ofFile path content = .ok rebased ↔ ∃ bytes text manifest, content = some bytes ∧
      String.fromUTF8? bytes = some text ∧ ofText text = .ok manifest ∧
      manifest.rebase (Path.directory path) = rebased := by
  unfold ofFile Path.directory
  cases content with
  | none => simp
  | some bytes =>
      cases htext : String.fromUTF8? bytes with
      | none => simp [htext]
      | some text =>
          cases hmanifest : ofText text with
          | error error => simp [htext, hmanifest, bind, Except.bind]
          | ok manifest =>
              cases hparent : Path.parent? path <;>
                simp [htext, hmanifest, bind, Except.bind, rebase_empty]

/-! ## Rebasing -/

/-- What becomes of the entry for a path when it is seen from a directory. -/
inductive SeenFrom (base : String) : Option String → Option String → Prop where
  | absent : SeenFrom base none none
  | kept {path : String} (h : path = "" ∨ Path.isAbsolute path) :
      SeenFrom base (some path) (some path)
  | joined {path : String} (hne : path ≠ "") (hrelative : ¬ Path.isAbsolute path) :
      SeenFrom base (some path) (some (Path.join base path))

theorem seenFrom_map_rebasePath (base : String) (path? : Option String) :
    SeenFrom base path? (path?.map (rebasePath base)) := by
  cases path? with
  | none => exact .absent
  | some path =>
      rw [Option.map_some]
      by_cases hne : path = ""
      · rw [rebasePath_eq_empty_iff.mpr hne]
        subst hne
        exact .kept (.inl rfl)
      · rw [rebasePath_of_ne_empty hne]
        by_cases habsolute : Path.isAbsolute path
        · rw [Path.join_of_isAbsolute base habsolute]
          exact .kept (.inr habsolute)
        · exact .joined hne habsolute

theorem rebasePath_rebasePath (h : Path.isAbsolute base) (other path : String) :
    rebasePath other (rebasePath base path) = rebasePath base path := by
  by_cases hne : path = ""
  · rw [rebasePath_eq_empty_iff.mpr hne]
    rfl
  · rw [rebasePath_of_ne_empty hne, rebasePath_of_ne_empty (Path.join_ne_empty base hne),
      Path.join_of_isAbsolute other (Path.isAbsolute_join h path)]

theorem rebase_rebase (h : Path.isAbsolute base) (other : String) :
    (manifest.rebase base).rebase other = manifest.rebase base := by
  have hstable : rebasePath other ∘ rebasePath base = rebasePath base :=
    funext (rebasePath_rebasePath h other)
  simp only [rebase, Option.map_map, hstable]

theorem validate_ofFile (path text : String) :
    (ofFile path (some text.toUTF8) >>= validate) = (ofText text >>= validate) := by
  have hread : (some text.toUTF8).bind String.fromUTF8? = some text := fromUTF8?_toUTF8 text
  simp only [ofFile, hread]
  cases ofText text with
  | error error => rfl
  | ok manifest =>
      cases Path.parent? path with
      | none => rfl
      | some base => exact validate_rebase

/-- Seen from a directory, a manifest is the same but for its relative paths, which are joined with
the directory, and the checks end alike. So a manifest in a file is accepted exactly if its text is.
From an absolute directory there is nothing left to be seen from elsewhere. -/
theorem rebase_preserves (manifest : Manifest) (base : String) :
    ((manifest.rebase base).serviceName = manifest.serviceName ∧
      (manifest.rebase base).settings = manifest.settings) ∧
    (∀ entry ∈ [Manifest.routes, Manifest.document, Manifest.output],
      SeenFrom base (entry manifest) (entry (manifest.rebase base))) ∧
    (manifest.rebase base).validate = manifest.validate ∧
    (∀ path text : String,
      (ofFile path (some text.toUTF8) >>= validate) = (ofText text >>= validate)) ∧
    (Path.isAbsolute base →
      ∀ other, (manifest.rebase base).rebase other = manifest.rebase base) := by
  refine ⟨⟨rfl, rfl⟩, ?_, validate_rebase, validate_ofFile, rebase_rebase⟩
  simp only [List.forall_mem_cons, List.not_mem_nil, false_imp_iff, implies_true, and_true]
  exact ⟨seenFrom_map_rebasePath .., seenFrom_map_rebasePath .., seenFrom_map_rebasePath ..⟩

end Manifest

end RouteIdl
