import RouteIdl.FileTree
import RouteIdl.Proofs.CommandLine.Effective

/-!
# Agreement of the command with the compilation

From files that can be read and are well-formed the command delivers the text that the routes
compile into, and it fails as the compilation fails.
-/

namespace RouteIdl.CommandLine

variable {Tree : Type} [Storage Tree]

/-- A JSON file stands for a value. -/
def Supplies {α : Type} (tree : Tree) (reader : List Json.Symbol → Except Json.Fault α)
    (path : String) (value : α) : Prop :=
  ∃ bytes, Storage.read? tree path = some bytes ∧ reader (Json.Symbol.ofBytes bytes) = .ok value

/-- The API document in effect: none if no path is, and else what its file stands for. -/
inductive SuppliesDocument (tree : Tree) : Option String → Option ApiDocument → Prop where
  | unnamed : SuppliesDocument tree none none
  | named {path : String} {document : ApiDocument}
      (hdocument : Supplies tree ApiDocument.ofSymbols path document) :
      SuppliesDocument tree (some path) (some document)

/-- A compilation has all that it needs: a manifest that is accepted, a log level that exists, and
routes and a document that can be read. -/
structure Supplied (tree : Tree) (options : CompileOptions) (manifest : Manifest)
    (directory : String) (routes : List Route) (document : Option ApiDocument) : Prop where
  applies : Applies tree options.manifest manifest directory
  valid : manifest.validate = .ok ()
  level : ∃ level,
    Log.Level.ofText (options.logLevel.getD manifest.settings.logLevel) = .ok level
  routes : ∃ path, effective options.routes manifest.routes directory = some path ∧
    Supplies tree Route.listOfSymbols path routes
  document : SuppliesDocument tree (effective options.document manifest.document directory) document

section

variable {tree : Tree} {options : CompileOptions} {manifest : Manifest} {directory : String}
  {routes : List Route} {document : Option ApiDocument}

theorem sourceOn_of_supplies {α : Type} {reader : List Json.Symbol → Except Json.Fault α}
    {path : String} {value : α} (h : Supplies tree reader path value) (source : Source) :
    sourceOn tree source reader path = .ok value := by
  obtain ⟨bytes, hread, hvalue⟩ := h
  simp only [sourceOn, hread, hvalue, mapError_ok]

theorem documentOn_of_supplies {path? : Option String}
    (h : SuppliesDocument tree path? document) : documentOn tree path? = .ok document := by
  cases h with
  | unnamed => rfl
  | named hdocument =>
      simp only [documentOn, sourceOn_of_supplies hdocument, bind, Except.bind]
      rfl

theorem effectiveText_of_supplied
    (h : Supplied tree options manifest directory routes document) :
    effectiveText tree options manifest directory =
      (compileText routes
        (ServiceName.ofSources (effectiveSettings options manifest).serviceName document)
        (effectiveSettings options manifest)).result.mapError .compilation := by
  obtain ⟨path, hpath, hroutes⟩ := h.routes
  simp only [effectiveText, hpath, textOn, sourceOn_of_supplies hroutes,
    documentOn_of_supplies h.document, bind, Except.bind, generate_result]

theorem compile_ends_of_compiled (h : Supplied tree options manifest directory routes document)
    {text : String} (htext : (compileText routes
      (ServiceName.ofSources (effectiveSettings options manifest).serviceName document)
      (effectiveSettings options manifest)).result = .ok text)
    (directives : List Log.Directive) (output : String) :
    (compile options directives).Ends tree output
      (delivery tree output text (effective options.output manifest.output directory)) := by
  obtain ⟨level, hlevel⟩ := h.level
  have hends : (compile options directives).Ends tree output _ := compile_ends options directives
  rw [plan_of_applies h.applies h.valid hlevel, effectiveText_of_supplied h, htext] at hends
  exact hends

theorem compile_ends_of_failed (h : Supplied tree options manifest directory routes document)
    {error : CompileError} (herror : (compileText routes
      (ServiceName.ofSources (effectiveSettings options manifest).serviceName document)
      (effectiveSettings options manifest)).result = .error error)
    (directives : List Log.Directive) (output : String) :
    (compile options directives).Ends tree output (.error (.compilation error), tree, output) := by
  obtain ⟨level, hlevel⟩ := h.level
  have hends : (compile options directives).Ends tree output _ := compile_ends options directives
  rw [plan_of_applies h.applies h.valid hlevel, effectiveText_of_supplied h, herror] at hends
  exact hends

end

/-- With all that it needs, the command ends as the compilation of the routes does, under the name
that is the first one present among the option, the section on the service and the settings. It
fails with the same error, and otherwise delivers the same text with a line feed after it: to the
output, or to the file in effect if that can be written. A name that is present is used even if it
is empty, and then the document has no part in it. -/
theorem compile_agrees {tree : Tree} {options : CompileOptions} {manifest : Manifest}
    {directory : String} {routes : List Route} {document : Option ApiDocument}
    (h : Supplied tree options manifest directory routes document)
    (directives : List Log.Directive) (output : String) :
    let name := options.serviceName <|> manifest.serviceName <|> manifest.settings.serviceName
    let settings : Settings := { manifest.settings with serviceName := name }
    let compiled := compileText routes (ServiceName.ofSources name document) settings
    (∀ error, compiled.result = .error error →
      (compile options directives).Ends tree output
        (.error (.compilation error), tree, output)) ∧
    (∀ text, compiled.result = .ok text →
      (effective options.output manifest.output directory = none →
        (compile options directives).Ends tree output
          (.ok (), tree, output ++ (text ++ "\n"))) ∧
      ∀ path, effective options.output manifest.output directory = some path →
        (∀ after, Storage.write? tree path (text ++ "\n").toUTF8 = some after →
          (compile options directives).Ends tree output (.ok (), after, output)) ∧
        (Storage.write? tree path (text ++ "\n").toUTF8 = none →
          (compile options directives).Ends tree output
            (.error (.unwritable path), tree, output))) ∧
    (name = some "" → compiled.result = .error .missingServiceName) ∧
    (∀ explicit, name = some explicit → ∀ other,
      compileText routes (ServiceName.ofSources name other) settings = compiled) := by
  intro name settings compiled
  refine ⟨?_, ?_, ?_, ?_⟩
  · intro error herror
    exact compile_ends_of_failed h herror directives output
  · intro text htext
    have hends := compile_ends_of_compiled h htext directives output
    refine ⟨?_, ?_⟩
    · intro hprinted
      simpa only [hprinted, delivery] using hends
    · intro path hpath
      refine ⟨?_, ?_⟩
      · intro after hafter
        simpa only [hpath, delivery, hafter] using hends
      · intro hrefused
        simpa only [hpath, delivery, hrefused] using hends
  · intro hempty
    apply compileText_of_resolve_eq_error
    rw [hempty]
    rfl
  · intro explicit hexplicit other
    apply compileText_congr
    rw [hexplicit, ServiceName.resolve_ofSources_some, ServiceName.resolve_ofSources_some]

/-! ## Instances -/

/-- A manifest in a directory, and beside it routes. -/
def api (manifest : String) : FileTree where
  files := [(["api", "m.toml"], manifest.toUTF8), (["api", "routes.json"], "[]".toUTF8)]
  directories := [["api"]]

/-- Options that name the manifest and nothing else. -/
def apiOptions : CompileOptions where
  manifest := some "api/m.toml"

/-- The content of a manifest that names the service, the routes and perhaps an output. -/
def users (output : Option String) : Manifest where
  routes := some "routes.json"
  output := output
  settings := { serviceName := some "users" }

/-- The text of such a manifest without an output. -/
def usersText : String :=
  "[input]\nroutes = \"routes.json\"\n[compiler]\nservice_name = \"users\"\n"

theorem eq_ok_of_toOption {ε α : Type} {result : Except ε α} {value : α}
    (h : result.toOption = some value) : result = .ok value := by
  cases result with
  | error error => cases h
  | ok _ => exact congrArg Except.ok (Option.some.inj h)

theorem ofText_usersText : Manifest.ofText usersText = .ok (users none) :=
  eq_ok_of_toOption (by decide +kernel)

theorem level_info : Log.Level.ofText "info" = .ok .info :=
  eq_ok_of_toOption (by decide +kernel)

theorem api_routes (text : String) :
    Storage.read? (api text) "api/routes.json" = some "[]".toUTF8 :=
  FileTree.read?_of_parts "api/routes.json" ["api", "routes.json"] (by decide) (by decide)

theorem effective_routes : effective apiOptions.routes (some "routes.json")
    (Path.directory "api/m.toml") = some "api/routes.json" := by
  decide

theorem api_supplied {text : String} {output : Option String}
    (hmanifest : Manifest.ofText text = .ok (users output)) (houtput : output ≠ some "") :
    Supplied (api text) apiOptions (users output) (Path.directory "api/m.toml") [] none := by
  have hread : Storage.read? (api text) "api/m.toml" = some text.toUTF8 :=
    FileTree.read?_of_parts "api/m.toml" ["api", "m.toml"] (by decide) (by decide)
  have hpaths : (users output).routes ≠ some "" ∧ (users output).document ≠ some "" := by
    simp [users]
  have hvalid : (users output).validate = .ok () := Manifest.validate_eq_ok_iff.mpr
    ⟨⟨by simp [users], hpaths.1, hpaths.2, houtput⟩, by simp [users], _, level_info⟩
  exact ⟨.named (holds_of_ofText hread hmanifest), hvalid, ⟨_, level_info⟩,
    ⟨_, effective_routes, _, api_routes text, rfl⟩, .unnamed⟩

theorem compile_agrees_api : ∃ text,
    (compileText [] ⟨some "users", none⟩ { serviceName := some "users" }).result = .ok text ∧
      (compile apiOptions []).Ends (api usersText) ""
        (.ok (), api usersText, "" ++ (text ++ "\n")) := by
  obtain ⟨_, hdelivered, _⟩ := compile_agrees (api_supplied ofText_usersText (by decide)) [] ""
  exact ⟨_, rfl, (hdelivered _ rfl).1 rfl⟩

/-- Routes without a manifest. -/
def sources : FileTree where
  files := [(["routes.json"], "[]".toUTF8)]

/-- Options for an output in a directory that does not exist. -/
def astray : CompileOptions where
  routes := some "routes.json"
  serviceName := some "users"
  output := some "no/out.proto"

theorem write?_astray (bytes : ByteArray) : Storage.write? sources "no/out.proto" bytes = none := by
  have hlocate : sources.locate "no/out.proto" = none :=
    FileTree.locate_of_parts "no/out.proto" ["no", "out.proto"] (by decide) (by decide)
  change sources.write? "no/out.proto" bytes = none
  rw [FileTree.write?, hlocate]

theorem sources_supplied : Supplied sources astray {} "" [] none := by
  have hmanifest : sources.read? defaultManifest = none :=
    FileTree.read?_of_parts defaultManifest [defaultManifest] (by decide) (by decide)
  have habsent : Storage.isFile sources defaultManifest = false :=
    congrArg Option.isSome hmanifest
  have hroutes : Storage.read? sources "routes.json" = some "[]".toUTF8 :=
    FileTree.read?_of_parts "routes.json" ["routes.json"] (by decide) (by decide)
  have hvalid : ({} : Manifest).validate = .ok () :=
    Manifest.validate_eq_ok_iff.mpr ⟨by decide, by decide, _, level_info⟩
  exact ⟨.absent habsent, hvalid, ⟨_, level_info⟩, ⟨_, rfl, _, hroutes, rfl⟩, .unnamed⟩

/-- In a directory that does not exist nothing can be written. The routes compile all the same, but
the command fails and their text is lost. -/
theorem not_delivered_astray :
    ∃ text, Supplied sources astray {} "" [] none ∧
      (compileText [] ⟨some "users", none⟩ { serviceName := some "users" }).result = .ok text ∧
      (compile astray []).Ends sources "" (.error (.unwritable "no/out.proto"), sources, "") ∧
      ¬ ∃ after, (compile astray []).Ends sources "" (.ok (), after) := by
  obtain ⟨text, htext⟩ : ∃ text,
      (compileText [] ⟨some "users", none⟩ { serviceName := some "users" }).result = .ok text :=
    ⟨_, rfl⟩
  have hends : (compile astray []).Ends sources ""
      (.error (.unwritable "no/out.proto"), sources, "") := by
    have hpath : effective astray.output none "" = some "no/out.proto" := rfl
    simpa only [hpath, delivery, write?_astray] using
      compile_ends_of_compiled sources_supplied htext [] ""
  refine ⟨text, sources_supplied, htext, hends, ?_⟩
  rintro ⟨after, hok⟩
  cases hends.unique hok

end RouteIdl.CommandLine
