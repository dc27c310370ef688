import RouteIdl.Proofs.CommandLine.Agreement
import RouteIdl.Proofs.Compilation.Pass

/-!
# Names of services in commands

Whether the command knows under which name to compile. Of the two places where a manifest may name
the service only its section on the service is checked, so a manifest is accepted with an empty name
in its settings. That is the one case in which an accepted manifest and a title leave the service
without a name.
-/

namespace RouteIdl

/-- A compilation misses the name of the service before it looks at any route. -/
theorem compileText_eq_missing_iff {routes : List Route} {name : ServiceName}
    {settings : Settings} :
    (compileText routes name settings).result = .error .missingServiceName ↔
      name.resolve = .error .missingServiceName := by
  refine ⟨fun h => ?_, compileText_of_resolve_eq_error⟩
  cases hresolve : name.resolve with
  | error error =>
      rw [compileText_of_resolve_eq_error hresolve] at h
      exact h
  | ok service =>
      -- A route is refused for what is wrong with it, never for the name of the service.
      obtain ⟨_, _, _, _, _, hrefused⟩ :=
        (compile_eq_error_iff hresolve).mp (compileText_eq_error_iff.mp h)
      cases hrefused

/-- With a title to fall back on, only an empty configured name is none. -/
theorem ServiceName.resolve_of_title {explicit : Option String} {document : ApiDocument}
    {title : String} (htitle : document.title = some title) (hne : title ≠ "") :
    (ofSources explicit (some document)).resolve = .error .missingServiceName ↔
      explicit = some "" := by
  have htitle : (some document).bind ApiDocument.title = some title := htitle
  cases explicit with
  | none => simp [ofSources, resolve, htitle, hne]
  | some explicit => by_cases hempty : explicit = "" <;> simp [ofSources, resolve, hempty]

namespace Manifest

variable {manifest : Manifest}

/-- The section on the service gives no name, and the settings give an empty one. -/
def NamedEmpty (manifest : Manifest) : Prop :=
  manifest.serviceName = none ∧ manifest.settings.serviceName = some ""

theorem explicitName_eq_empty_iff (hvalid : manifest.validate = .ok ()) :
    manifest.explicitName = some "" ↔ manifest.NamedEmpty := by
  obtain ⟨⟨hservice, -⟩, -⟩ := validate_eq_ok_iff.mp hvalid
  unfold explicitName NamedEmpty
  cases hname : manifest.serviceName with
  | none => simp
  | some name => simpa [hname] using hservice

theorem explicitName_rebase (base : String) :
    (manifest.rebase base).explicitName = manifest.explicitName := rfl

end Manifest

namespace CommandLine

variable {Tree : Type} [Storage Tree] {tree : Tree} {options : CompileOptions}
  {error : CompileError}

/-! ## Where an error of the compilation comes from -/

theorem sourceOn_ne_compilation {α : Type} (source : Source)
    (reader : List Json.Symbol → Except Json.Fault α) (path : String) :
    sourceOn tree source reader path ≠ .error (.compilation error) := by
  unfold sourceOn
  split
  · exact nofun
  · intro h
    obtain ⟨_, _, hcause⟩ := mapError_eq_error_iff.mp h
    cases hcause

theorem documentOn_ne_compilation (path? : Option String) :
    documentOn tree path? ≠ .error (.compilation error) := by
  cases path? with
  | none => exact nofun
  | some path =>
      intro h
      rcases bind_eq_error_iff.mp h with h | ⟨document, -, h⟩
      · exact sourceOn_ne_compilation .document _ path h
      · cases h

/-- Once all files are read, an error of the compilation is one of the routes. -/
theorem compileText_of_textOn {settings : Settings} {routes? document? : Option String}
    (h : textOn tree settings routes? document? = .error (.compilation error)) :
    ∃ routes document, documentOn tree document? = .ok document ∧
      (compileText routes (ServiceName.ofSources settings.serviceName document)
        settings).result = .error error := by
  cases routes? with
  | none => cases h
  | some path =>
      rcases bind_eq_error_iff.mp h with h | ⟨routes, -, h⟩
      · exact absurd h (sourceOn_ne_compilation .routes _ path)
      rcases bind_eq_error_iff.mp h with h | ⟨document, hdocument, h⟩
      · exact absurd h (documentOn_ne_compilation document?)
      obtain ⟨cause, hcause, heq⟩ := mapError_eq_error_iff.mp h
      cases heq
      rw [generate_result] at hcause
      exact ⟨routes, document, hdocument, hcause⟩

theorem effectiveText_of_plan {manifest : Manifest} {directory : String}
    (happlies : Applies tree options.manifest manifest directory)
    (hvalid : manifest.validate = .ok ())
    (h : plan tree options = .error (.compilation error)) :
    effectiveText tree options manifest directory = .error (.compilation error) := by
  rw [plan_of_accepted happlies hvalid] at h
  rcases bind_eq_error_iff.mp h with h | ⟨level, -, h⟩
  -- A level that does not parse is an error of the manifest.
  · obtain ⟨_, _, hcause⟩ := mapError_eq_error_iff.mp h
    cases hcause
  · cases htext : effectiveText tree options manifest directory with
    | error failure =>
        rw [htext] at h
        exact congrArg _ (Except.error.inj h)
    | ok text =>
        rw [htext] at h
        cases h

/-- What the command delivers cannot fail to compile any more. -/
theorem plan_of_ends {directives : List Log.Directive} {output : String} {after : Tree × String}
    (h : (compile options directives).Ends tree output (.error (.compilation error), after)) :
    plan tree options = .error (.compilation error) := by
  have hending := h.unique (compile_ends options directives)
  cases hplan : plan tree options with
  | error failure =>
      rw [hplan, Task.settle] at hending
      exact congrArg _ (Except.error.inj (congrArg Prod.fst hending)).symm
  | ok planned =>
      -- A delivery ends well or with a file that cannot be written.
      rw [hplan, Task.settle] at hending
      unfold delivery at hending
      split at hending
      · cases hending
      · split at hending <;> cases hending

/-! ## Commands with a title -/

/-- A compilation is left to find the name of the service in a manifest and in a document: no option
names it, and the document has a title. -/
structure Titled (tree : Tree) (options : CompileOptions) (manifest : Manifest)
    (directory : String) (document : ApiDocument) : Prop where
  applies : Applies tree options.manifest manifest directory
  unnamed : options.serviceName = none
  supplied : SuppliesDocument tree (effective options.document manifest.document directory)
    (some document)
  titled : ∃ title, document.title = some title ∧ title ≠ ""

section

variable {manifest : Manifest} {directory : String} {document : ApiDocument}

/-- With a title, a service has no name exactly if the manifest gives an empty one. -/
theorem compileText_missing_iff (h : Titled tree options manifest directory document)
    (routes : List Route) :
    (compileText routes
      (ServiceName.ofSources (effectiveSettings options manifest).serviceName (some document))
      (effectiveSettings options manifest)).result = .error .missingServiceName ↔
        manifest.explicitName = some "" := by
  obtain ⟨title, htitle, hne⟩ := h.titled
  have hname : (effectiveSettings options manifest).serviceName = manifest.explicitName := by
    simp [effectiveSettings, h.unnamed, Manifest.explicitName]
  rw [compileText_eq_missing_iff, ServiceName.resolve_of_title htitle hne, hname]

theorem explicitName_of_ends (h : Titled tree options manifest directory document)
    (hvalid : manifest.validate = .ok ()) {directives : List Log.Directive} {output : String}
    {after : Tree × String}
    (hends : (compile options directives).Ends tree output
      (.error (.compilation .missingServiceName), after)) : manifest.explicitName = some "" := by
  have htext := effectiveText_of_plan h.applies hvalid (plan_of_ends hends)
  obtain ⟨routes, other, hother, hresult⟩ := compileText_of_textOn htext
  cases hother.symm.trans (documentOn_of_supplies h.supplied)
  exact (compileText_missing_iff h routes).mp hresult

end

/-- From a manifest that is accepted, wherever its file lies, no empty name comes but one that the
settings give and the section on the service does not replace. In this case the command fails for
want of a name, whatever the title of the document is, and in no other case does it fail so with a
document that has a title. -/
theorem accepted_named {manifest : Manifest} (hvalid : manifest.validate = .ok ()) :
    (manifest.explicitName = some "" ↔ manifest.NamedEmpty) ∧
    (∀ base, (manifest.rebase base).validate = .ok () ∧
      (manifest.rebase base).explicitName = manifest.explicitName) ∧
    ∀ {Tree : Type} [Storage Tree] (tree : Tree) (options : CompileOptions) (directory : String)
      (document : ApiDocument), Titled tree options manifest directory document →
      ∀ (directives : List Log.Directive) (output : String),
        (∀ after, (compile options directives).Ends tree output
          (.error (.compilation .missingServiceName), after) → manifest.NamedEmpty) ∧
        (∀ routes, Supplied tree options manifest directory routes (some document) →
          manifest.NamedEmpty → (compile options directives).Ends tree output
            (.error (.compilation .missingServiceName), tree, output)) := by
  have hempty := Manifest.explicitName_eq_empty_iff hvalid
  refine ⟨hempty, fun base => ⟨Manifest.validate_rebase_eq_ok_iff.mpr hvalid,
    Manifest.explicitName_rebase base⟩, ?_⟩
  intro Tree _ tree options directory document htitled directives output
  refine ⟨fun after hends => ?_, fun routes hsupplied hnamed => ?_⟩
  · exact hempty.mp (explicitName_of_ends htitled hvalid hends)
  · have hmissing := (compileText_missing_iff htitled routes).mpr (hempty.mpr hnamed)
    exact compile_ends_of_failed hsupplied hmissing directives output

/-! ## Instances -/

/-- The text of an API document with a title. -/
def titledDocument : String := "\x7b\"info\":\x7b\"title\":\"users\"\x7d\x7d"

/-- A manifest beside routes and an API document with a title. -/
def titledSources (manifest : String) : FileTree where
  files := [([defaultManifest], manifest.toUTF8), (["routes.json"], "[]".toUTF8),
    (["openapi.json"], titledDocument.toUTF8)]

/-- Options for the routes and the document. -/
def titledOptions : CompileOptions where
  routes := some "routes.json"
  document := some "openapi.json"

/-- A manifest that names the service in its section on it. -/
def nonemptyName : String := "[service]\nname = \"users\"\n"

/-- A manifest with an empty name in its settings. -/
def emptyName : String := "[compiler]\nservice_name = \"\"\n"

theorem ofText_nonemptyName :
    Manifest.ofText nonemptyName = .ok { serviceName := some "users" } :=
  eq_ok_of_toOption (by decide +kernel)

theorem ofText_emptyName :
    Manifest.ofText emptyName = .ok { settings := { serviceName := some "" } } :=
  eq_ok_of_toOption (by decide +kernel)

theorem supplied_titled {text : String} {manifest : Manifest}
    (htext : Manifest.ofText text = .ok manifest) (hvalid : manifest.validate = .ok ())
    (hlevel : manifest.settings.logLevel = "info") :
    Supplied (titledSources text) titledOptions manifest "" [] (some ⟨⟨some "users"⟩⟩) := by
  have hmanifest : (titledSources text).read? defaultManifest = some text.toUTF8 :=
    FileTree.read?_of_parts defaultManifest [defaultManifest] (by decide) (by decide)
  have hroutes : (titledSources text).read? "routes.json" = some "[]".toUTF8 :=
    FileTree.read?_of_parts "routes.json" ["routes.json"] (by decide) (by decide)
  have hdocument : (titledSources text).read? "openapi.json" = some titledDocument.toUTF8 :=
    FileTree.read?_of_parts "openapi.json" ["openapi.json"] (by decide) (by decide)
  have hfile : Storage.isFile (titledSources text) defaultManifest = true :=
    congrArg Option.isSome hmanifest
  have hreader : ApiDocument.ofSymbols (Json.Symbol.ofBytes titledDocument.toUTF8) =
      .ok ⟨⟨some "users"⟩⟩ :=
    eq_ok_of_toOption (by decide +kernel)
  exact ⟨.found hfile (holds_of_ofText hmanifest htext), hvalid,
    ⟨.info, by rw [hlevel]; exact level_info⟩, ⟨_, rfl, _, hroutes, rfl⟩,
    .named ⟨_, hdocument, hreader⟩⟩

theorem titled_of_supplied {text : String} {manifest : Manifest} {routes : List Route}
    (h : Supplied (titledSources text) titledOptions manifest "" routes
      (some ⟨⟨some "users"⟩⟩)) :
    Titled (titledSources text) titledOptions manifest "" ⟨⟨some "users"⟩⟩ :=
  ⟨h.applies, rfl, h.document, "users", rfl, by decide⟩

/-- A name in the section on the service keeps the command from failing for want of one. -/
theorem accepted_named_section :
    Manifest.validate { serviceName := some "users" } = .ok () ∧
      Titled (titledSources nonemptyName) titledOptions { serviceName := some "users" } ""
        ⟨⟨some "users"⟩⟩ ∧
      ∀ after, ¬ (compile titledOptions []).Ends (titledSources nonemptyName) ""
        (.error (.compilation .missingServiceName), after) := by
  have hvalid : Manifest.validate { serviceName := some "users" } = .ok () :=
    Manifest.validate_eq_ok_iff.mpr ⟨by decide, by decide, _, level_info⟩
  have htitled := titled_of_supplied (supplied_titled ofText_nonemptyName hvalid rfl)
  refine ⟨hvalid, htitled, fun after hends => ?_⟩
  have hnamed := ((accepted_named hvalid).2.2 _ _ _ _ htitled [] "").1 after hends
  cases hnamed.1

/-- A manifest is accepted with an empty name in its settings. The command fails under it, although
the document has a title. -/
theorem empty_name_accepted :
    Manifest.ofText emptyName = .ok { settings := { serviceName := some "" } } ∧
      Manifest.validate { settings := { serviceName := some "" } } = .ok () ∧
      Manifest.explicitName { settings := { serviceName := some "" } } = some "" ∧
      Titled (titledSources emptyName) titledOptions { settings := { serviceName := some "" } } ""
        ⟨⟨some "users"⟩⟩ ∧
      (compile titledOptions []).Ends (titledSources emptyName) ""
        (.error (.compilation .missingServiceName), titledSources emptyName, "") := by
  have hvalid : Manifest.validate { settings := { serviceName := some "" } } = .ok () :=
    Manifest.validate_eq_ok_iff.mpr ⟨by decide, by decide, _, level_info⟩
  have hsupplied := supplied_titled ofText_emptyName hvalid rfl
  have htitled := titled_of_supplied hsupplied
  refine ⟨ofText_emptyName, hvalid, rfl, htitled, ?_⟩
  exact compile_ends_of_failed hsupplied ((compileText_missing_iff htitled []).mpr rfl) [] ""

end CommandLine

end RouteIdl
