import RouteIdl.Proofs.CommandLine.Plan

/-!
# What is in effect

An option goes before the manifest, and a path in the manifest is seen from the directory of the
manifest. What a compilation plans is told by the manifest that applies and by what is in effect.
-/

namespace RouteIdl

/-- Registering routes does no more than record them. -/
theorem Registration.registerAll_result (registration : Registration) (routes : List Route) :
    (registration.registerAll routes).result =
      .ok { registration with routes := registration.routes ++ routes } := by
  induction routes generalizing registration with
  | nil => simp [registerAll]
  | cons route rest ih =>
      have hregister : (registration.register route).result = .ok (registration.add route) := rfl
      rw [registerAll, Traced.result_bind, hregister]
      simp [Except.bind, ih, add]

/-- The name of a service is all that matters of its sources. -/
theorem compileText_congr {routes : List Route} {name name' : ServiceName} {settings : Settings}
    (h : name.resolve = name'.resolve) :
    compileText routes name settings = compileText routes name' settings := by
  unfold compileText compile
  rw [h]

theorem compileText_of_resolve_eq_error {routes : List Route} {name : ServiceName}
    {settings : Settings} {error : CompileError} (h : name.resolve = .error error) :
    (compileText routes name settings).result = .error error := by
  simp [compileText, compile, Traced.result_bind, h, Except.bind]

/-- A configured name leaves no room for the title of a document. -/
theorem ServiceName.resolve_ofSources_some (explicit : String) (document : Option ApiDocument) :
    (ofSources (some explicit) document).resolve =
      if explicit.isEmpty then .error .missingServiceName else .ok explicit := rfl

namespace CommandLine

variable {Tree : Type} [Storage Tree] {tree : Tree} {options : CompileOptions}

theorem generate_result (settings : Settings) (routes : List Route)
    (document : Option ApiDocument) :
    (generate settings routes document).result =
      (compileText routes (ServiceName.ofSources settings.serviceName document)
        settings).result := by
  have hstart : Registration.start settings true = .ok ⟨settings, []⟩ := rfl
  unfold generate
  rw [Traced.result_bind, Traced.result_ofExcept, hstart]
  simp only [Except.bind, Traced.result_bind, Registration.registerAll_result, List.nil_append]
  rfl

/-! ## The manifest that applies -/

/-- A file holds the text of a manifest. -/
def Holds (tree : Tree) (path : String) (manifest : Manifest) : Prop :=
  ∃ bytes text, Storage.read? tree path = some bytes ∧ String.fromUTF8? bytes = some text ∧
    Manifest.ofText text = .ok manifest

theorem holds_of_ofText {path text : String} {manifest : Manifest}
    (hread : Storage.read? tree path = some text.toUTF8)
    (hmanifest : Manifest.ofText text = .ok manifest) : Holds tree path manifest :=
  ⟨text.toUTF8, text, hread, fromUTF8?_toUTF8 text, hmanifest⟩

theorem Holds.unique {path : String} {manifest manifest' : Manifest}
    (h : Holds tree path manifest) (h' : Holds tree path manifest') : manifest = manifest' := by
  obtain ⟨bytes, text, hread, htext, hmanifest⟩ := h
  obtain ⟨bytes', text', hread', htext', hmanifest'⟩ := h'
  cases hread.symm.trans hread'
  cases htext.symm.trans htext'
  exact Except.ok.inj (hmanifest.symm.trans hmanifest')

/-- The manifest that applies and the directory of its file: the one that is named, or the default
one if it is there, or else the empty one. -/
inductive Applies (tree : Tree) : Option String → Manifest → String → Prop where
  | named {path : String} {manifest : Manifest} (hholds : Holds tree path manifest) :
      Applies tree (some path) manifest (Path.directory path)
  | found {manifest : Manifest} (hfile : Storage.isFile tree defaultManifest = true)
      (hholds : Holds tree defaultManifest manifest) : Applies tree none manifest ""
  | absent (hfile : Storage.isFile tree defaultManifest = false) : Applies tree none {} ""

theorem Applies.unique {path? : Option String} {manifest manifest' : Manifest}
    {directory directory' : String} (h : Applies tree path? manifest directory)
    (h' : Applies tree path? manifest' directory') :
    manifest = manifest' ∧ directory = directory' := by
  cases h with
  | named hholds =>
      cases h' with
      | named hholds' => exact ⟨hholds.unique hholds', rfl⟩
  | found hfile hholds =>
      cases h' with
      | found _ hholds' => exact ⟨hholds.unique hholds', rfl⟩
      | absent hfile' => simp [hfile] at hfile'
  | absent hfile =>
      cases h' with
      | found hfile' _ => simp [hfile] at hfile'
      | absent _ => exact ⟨rfl, rfl⟩

theorem ofFile_eq_ok_iff_holds {path : String} {rebased : Manifest} :
    Manifest.ofFile path (Storage.read? tree path) = .ok rebased ↔
      ∃ manifest, Holds tree path manifest ∧ manifest.rebase (Path.directory path) = rebased := by
  rw [Manifest.ofFile_eq_ok_iff]
  constructor
  · rintro ⟨bytes, text, manifest, hread, htext, hmanifest, hrebase⟩
    exact ⟨manifest, ⟨bytes, text, hread, htext, hmanifest⟩, hrebase⟩
  · rintro ⟨manifest, ⟨bytes, text, hread, htext, hmanifest⟩, hrebase⟩
    exact ⟨bytes, text, manifest, hread, htext, hmanifest, hrebase⟩

theorem directory_defaultManifest : Path.directory defaultManifest = "" := by
  decide

theorem manifestOn_eq_ok_iff {path? : Option String} {rebased : Manifest} :
    manifestOn tree path? = .ok rebased ↔
      ∃ manifest directory, Applies tree path? manifest directory ∧
        manifest.rebase directory = rebased := by
  cases path? with
  | some path =>
      rw [manifestOn, ofFile_eq_ok_iff_holds]
      constructor
      · rintro ⟨manifest, hholds, hrebase⟩
        exact ⟨manifest, _, .named hholds, hrebase⟩
      · rintro ⟨manifest, _, ⟨hholds⟩, hrebase⟩
        exact ⟨manifest, hholds, hrebase⟩
  | none =>
      unfold manifestOn
      cases hfile : Storage.isFile tree defaultManifest with
      | true =>
          rw [if_pos rfl, ofFile_eq_ok_iff_holds, directory_defaultManifest]
          constructor
          · rintro ⟨manifest, hholds, hrebase⟩
            exact ⟨manifest, _, .found hfile hholds, hrebase⟩
          · rintro ⟨manifest, _, happlies, hrebase⟩
            cases happlies with
            | found _ hholds => exact ⟨manifest, hholds, hrebase⟩
            | absent hnone => simp [hfile] at hnone
      | false =>
          rw [if_neg Bool.false_ne_true]
          constructor
          · intro h
            cases h
            exact ⟨{}, "", .absent hfile, Manifest.rebase_empty _⟩
          · rintro ⟨manifest, _, happlies, hrebase⟩
            cases happlies with
            | found hsome _ => simp [hfile] at hsome
            | absent _ => rw [← hrebase, Manifest.rebase_empty]

/-! ## Plans -/

/-- The path in effect: the one of an option as it is given, or else the one of the manifest as
seen from the directory of the manifest. -/
def effective (option entry : Option String) (directory : String) : Option String :=
  option <|> entry.map (Path.join directory)

/-- The settings in effect. Only the name of the service may come from elsewhere. -/
def effectiveSettings (options : CompileOptions) (manifest : Manifest) : Settings :=
  { manifest.settings with
    serviceName := options.serviceName <|> manifest.serviceName <|> manifest.settings.serviceName }

/-- The text planned from a manifest and the directory of its file. -/
def effectiveText (tree : Tree) (options : CompileOptions) (manifest : Manifest)
    (directory : String) : Except Failure String :=
  textOn tree (effectiveSettings options manifest)
    (effective options.routes manifest.routes directory)
    (effective options.document manifest.document directory)

theorem textOn_congr {tree' : Tree} {settings : Settings} {routes? document? : Option String}
    (h : ∀ path, routes? = some path ∨ document? = some path →
      Storage.read? tree' path = Storage.read? tree path) :
    textOn tree' settings routes? document? = textOn tree settings routes? document? := by
  cases routes? with
  | none => rfl
  | some path =>
      have hdocument : documentOn tree' document? = documentOn tree document? := by
        cases document? with
        | none => rfl
        | some other => simp only [documentOn, sourceOn, h other (.inr rfl)]
      simp only [textOn, sourceOn, h path (.inl rfl), hdocument]

section

variable {manifest : Manifest} {directory : String}

theorem orElse_rebasePath {option entry : Option String} (h : entry ≠ some "") :
    (option <|> entry.map (Manifest.rebasePath directory)) = effective option entry directory := by
  rw [effective, Manifest.map_rebasePath h]

/-- With a manifest that is accepted, all that is left of the plan is the log level and the text from
what is in effect. -/
theorem plan_of_accepted (happlies : Applies tree options.manifest manifest directory)
    (hvalid : manifest.validate = .ok ()) :
    plan tree options =
      (Log.Level.ofText (options.logLevel.getD manifest.settings.logLevel)).mapError
        .unknownLevel >>= fun _ =>
          (effectiveText tree options manifest directory).map fun text =>
            (text, effective options.output manifest.output directory) := by
  have hmanifest : manifestOn tree options.manifest = .ok (manifest.rebase directory) :=
    manifestOn_eq_ok_iff.mpr ⟨manifest, directory, happlies, rfl⟩
  -- The checks come after the paths have been seen from the directory, and are the same there.
  have hrebased : (manifest.rebase directory).validate = .ok () :=
    Manifest.validate_rebase_eq_ok_iff.mpr hvalid
  obtain ⟨⟨_, hroutes, hdocument, houtput⟩, _⟩ := Manifest.validate_eq_ok_iff.mp hvalid
  have hroutes : (options.routes <|> (manifest.rebase directory).routes) =
    effective options.routes manifest.routes directory := orElse_rebasePath hroutes
  have hdocument : (options.document <|> (manifest.rebase directory).document) =
    effective options.document manifest.document directory := orElse_rebasePath hdocument
  have houtput : (options.output <|> (manifest.rebase directory).output) =
    effective options.output manifest.output directory := orElse_rebasePath houtput
  have hsettings : (manifest.rebase directory).settings = manifest.settings := rfl
  unfold plan
  rw [hmanifest]
  simp only [mapError_ok, bind, Except.bind, hrebased, hsettings, hroutes, hdocument, houtput]
  rfl

theorem plan_of_applies (happlies : Applies tree options.manifest manifest directory)
    (hvalid : manifest.validate = .ok ()) {level : Log.Level}
    (hlevel : Log.Level.ofText (options.logLevel.getD manifest.settings.logLevel) = .ok level) :
    plan tree options = (effectiveText tree options manifest directory).map fun text =>
      (text, effective options.output manifest.output directory) := by
  rw [plan_of_accepted happlies hvalid, hlevel]
  rfl

/-- A plan that succeeds comes from a manifest that is accepted. -/
theorem exists_applies_of_plan {planned : String × Option String}
    (h : plan tree options = .ok planned) :
    ∃ manifest directory level, Applies tree options.manifest manifest directory ∧
      manifest.validate = .ok () ∧
      Log.Level.ofText (options.logLevel.getD manifest.settings.logLevel) = .ok level := by
  cases hmanifest : manifestOn tree options.manifest with
  | error error =>
      rw [plan, hmanifest] at h
      cases h
  | ok rebased =>
      obtain ⟨manifest, directory, happlies, rfl⟩ := manifestOn_eq_ok_iff.mp hmanifest
      cases hvalid : (manifest.rebase directory).validate with
      | error error =>
          simp [plan, hmanifest, hvalid, mapError_ok, mapError_error, bind, Except.bind] at h
      | ok _ =>
          have hvalid : manifest.validate = .ok () := Manifest.validate_rebase_eq_ok_iff.mp hvalid
          rw [plan_of_accepted happlies hvalid] at h
          cases hlevel : Log.Level.ofText
              (options.logLevel.getD manifest.settings.logLevel) with
          | error error =>
              rw [hlevel] at h
              cases h
          | ok level => exact ⟨manifest, directory, level, happlies, hvalid, hlevel⟩

end

end CommandLine

end RouteIdl
