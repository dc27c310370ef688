import RouteIdl.Proofs.CommandLine.Agreement

/-!
# Containment of effects

A command that fails leaves no trace in the files or on the output. One that succeeds leaves its
text in one place only, and the text does not depend on where that is.
-/

namespace RouteIdl.CommandLine

variable {Tree : Type} [Storage Tree]

/-- Files with which a compilation has all that it has with others, apart from an output in the
manifest. -/
structure Unredirected (tree plain : Tree) (options : CompileOptions) (manifest : Manifest)
    (directory : String) : Prop where
  applies : Applies plain options.manifest { manifest with output := none } directory
  sources : ∀ path, effective options.routes manifest.routes directory = some path ∨
    effective options.document manifest.document directory = some path →
    Storage.read? plain path = Storage.read? tree path

section

variable {tree after : Tree} {output text : String} {options : CompileOptions}
  {manifest : Manifest} {directory : String}

/-- Everything that a compilation can do to the files and the output. -/
inductive Effect (tree : Tree) (options : CompileOptions) (output : String) :
    Except Failure Unit × Tree × String → Prop where
  | failed (failure : Failure) : Effect tree options output (.error failure, tree, output)
  | printed {text : String} (hplan : plan tree options = .ok (text, none)) :
      Effect tree options output (.ok (), tree, output ++ (text ++ "\n"))
  | written {text path : String} {after : Tree} (hplan : plan tree options = .ok (text, some path))
      (hwrite : Storage.write? tree path (text ++ "\n").toUTF8 = some after) :
      Effect tree options output (.ok (), after, output)

theorem compile_effect (tree : Tree) (options : CompileOptions) (directives : List Log.Directive)
    (output : String) : ∃ ending, (compile options directives).Ends tree output ending ∧
      Effect tree options output ending := by
  refine ⟨_, compile_ends options directives, ?_⟩
  cases hplan : plan tree options with
  | error failure => exact .failed failure
  | ok planned =>
      obtain ⟨text, path?⟩ := planned
      cases path? with
      | none => exact .printed hplan
      | some path =>
          simp only [Task.settle, delivery]
          cases hwrite : Storage.write? tree path (text ++ "\n").toUTF8 with
          | some after => exact .written hplan hwrite
          | none => exact .failed (.unwritable path)

/-- What a plan that succeeds comes from. -/
structure Planned (tree : Tree) (options : CompileOptions) (manifest : Manifest)
    (directory text : String) : Prop where
  applies : Applies tree options.manifest manifest directory
  valid : manifest.validate = .ok ()
  level : ∃ level,
    Log.Level.ofText (options.logLevel.getD manifest.settings.logLevel) = .ok level
  text_eq : effectiveText tree options manifest directory = .ok text

theorem exists_planned_of_plan {path? : Option String} (h : plan tree options = .ok (text, path?)) :
    ∃ manifest directory, Planned tree options manifest directory text ∧
      effective options.output manifest.output directory = path? := by
  obtain ⟨manifest, directory, level, happlies, hvalid, hlevel⟩ := exists_applies_of_plan h
  rw [plan_of_applies happlies hvalid hlevel] at h
  cases htext : effectiveText tree options manifest directory with
  | error failure =>
      rw [htext] at h
      cases h
  | ok _ =>
      rw [htext] at h
      cases h
      exact ⟨manifest, directory, ⟨happlies, hvalid, ⟨level, hlevel⟩, htext⟩, rfl⟩

/-- Without an output in effect, the text is printed. -/
theorem compile_ends_of_unredirected {plain : Tree}
    (hplanned : Planned tree options manifest directory text)
    (h : Unredirected tree plain options manifest directory) (directives : List Log.Directive)
    (output : String) : (compile { options with output := none } directives).Ends plain output
      (.ok (), plain, output ++ (text ++ "\n")) := by
  obtain ⟨level, hlevel⟩ := hplanned.level
  have hvalid := Manifest.validate_withoutOutput hplanned.valid
  have htext : effectiveText plain { options with output := none }
      { manifest with output := none } directory = .ok text :=
    (textOn_congr h.sources).trans hplanned.text_eq
  have hends : (compile { options with output := none } directives).Ends plain output _ :=
    compile_ends _ directives
  have hplan : plan plain { options with output := none } = _ :=
    plan_of_applies h.applies hvalid hlevel
  rw [hplan, htext] at hends
  exact hends

end

/-- Whatever makes a compilation fail, no file is changed and nothing is printed. If it succeeds,
it leaves behind what it prints when no output is in effect: on the output in that case, and else in
the place that the output in effect leads to and in no other place. -/
theorem compile_contained (options : CompileOptions) (directives : List Log.Directive)
    (tree : Tree) (output : String) :
    ∃ result after shown, (compile options directives).Ends tree output (result, after, shown) ∧
      (∀ failure, result = .error failure → after = tree ∧ shown = output) ∧
      (result = .ok () → ∃ manifest directory text,
        Applies tree options.manifest manifest directory ∧
        effectiveText tree options manifest directory = .ok text ∧
        (∀ plain other, Unredirected tree plain options manifest directory →
          (compile { options with output := none } directives).Ends plain other
            (.ok (), plain, other ++ (text ++ "\n"))) ∧
        (effective options.output manifest.output directory = none →
          after = tree ∧ shown = output ++ (text ++ "\n")) ∧
        ∀ path, effective options.output manifest.output directory = some path →
          shown = output ∧ ∃ place, Storage.locate after path = some place ∧ ∀ other,
            (other = place → Storage.content? after other = some (text ++ "\n").toUTF8) ∧
            (other ≠ place → Storage.content? after other = Storage.content? tree other)) := by
  obtain ⟨⟨result, after, shown⟩, hends, heffect⟩ := compile_effect tree options directives output
  refine ⟨result, after, shown, hends, ?_, ?_⟩
  · intro failure herror
    cases heffect with
    | failed _ => exact ⟨rfl, rfl⟩
    | printed _ => cases herror
    | written _ _ => cases herror
  · intro hok
    cases heffect with
    | failed _ => cases hok
    | @printed text hplan =>
        obtain ⟨manifest, directory, hplanned, hnone⟩ := exists_planned_of_plan hplan
        refine ⟨manifest, directory, text, hplanned.applies, hplanned.text_eq, ?_, ?_, ?_⟩
        · intro plain other hplain
          exact compile_ends_of_unredirected hplanned hplain directives other
        · intro _
          exact ⟨rfl, rfl⟩
        · intro path hpath
          rw [hnone] at hpath
          cases hpath
    | @written text path _ hplan hwrite =>
        obtain ⟨manifest, directory, hplanned, hsome⟩ := exists_planned_of_plan hplan
        refine ⟨manifest, directory, text, hplanned.applies, hplanned.text_eq, ?_, ?_, ?_⟩
        · intro plain other hplain
          exact compile_ends_of_unredirected hplanned hplain directives other
        · intro hnone
          rw [hsome] at hnone
          cases hnone
        · intro path' hpath
          rw [hsome] at hpath
          cases hpath
          exact ⟨rfl, Storage.content?_of_write? hwrite⟩

/-! ## An instance -/

/-- The text of a manifest with an output. -/
def redirectingText : String :=
  usersText ++ "[output]\npath = \"users.proto\"\n"

theorem ofText_redirectingText :
    Manifest.ofText redirectingText = .ok (users (some "users.proto")) :=
  eq_ok_of_toOption (by decide +kernel)

theorem exists_write?_api (bytes : ByteArray) : ∃ after,
    Storage.write? (api redirectingText) "api/users.proto" bytes = some after := by
  have hlocate : (api redirectingText).locate "api/users.proto" = some ["api", "users.proto"] :=
    FileTree.locate_of_parts "api/users.proto" ["api", "users.proto"] (by decide) (by decide)
  refine ⟨(api redirectingText).put ["api", "users.proto"] bytes, ?_⟩
  change (api redirectingText).write? "api/users.proto" bytes = _
  rw [FileTree.write?, hlocate]
  rfl

/-- With an output in the manifest, what the command prints without it lies in that file, and every
other file has what it had. -/
theorem compile_contained_api : ∃ printed after,
    (compile apiOptions []).Ends (api usersText) "" (.ok (), api usersText, printed) ∧
    (compile apiOptions []).Ends (api redirectingText) "" (.ok (), after, "") ∧
    ∃ place, after.locate "api/users.proto" = some place ∧ ∀ other,
      (other = place → after.content? other = some printed.toUTF8) ∧
      (other ≠ place → after.content? other = (api redirectingText).content? other) := by
  obtain ⟨text, htext⟩ : ∃ text,
      (compileText [] ⟨some "users", none⟩ { serviceName := some "users" }).result = .ok text :=
    ⟨_, rfl⟩
  have hredirected := api_supplied ofText_redirectingText (by decide)
  obtain ⟨written, hwritten⟩ := exists_write?_api (text ++ "\n").toUTF8
  have hdelivered : (compile apiOptions []).Ends (api redirectingText) ""
      (.ok (), written, "") := by
    have hpath : effective apiOptions.output (users (some "users.proto")).output
        (Path.directory "api/m.toml") = some "api/users.proto" := by decide
    simpa only [hpath, delivery, hwritten] using
      compile_ends_of_compiled hredirected htext [] ""
  have hplain : Unredirected (api redirectingText) (api usersText) apiOptions
      (users (some "users.proto")) (Path.directory "api/m.toml") := by
    refine ⟨(api_supplied ofText_usersText (by decide)).applies, ?_⟩
    rintro path (hpath | hpath)
    · cases effective_routes.symm.trans hpath
      rw [api_routes, api_routes]
    · cases hpath
  obtain ⟨result, after, shown, hends, -, hok⟩ :=
    compile_contained apiOptions [] (api redirectingText) ""
  cases hends.unique hdelivered
  -- The text that the statement speaks of is not given by name, but both runs share it.
  obtain ⟨manifest, directory, text', happlies, -, hprinted, -, hplace⟩ := hok rfl
  obtain ⟨rfl, rfl⟩ := happlies.unique hredirected.applies
  refine ⟨"" ++ (text' ++ "\n"), _, hprinted _ "" hplain, hdelivered, ?_⟩
  rw [String.empty_append]
  exact (hplace _ (by decide)).2

end RouteIdl.CommandLine
