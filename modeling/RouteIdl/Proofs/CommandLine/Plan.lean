import RouteIdl.CommandLine.Commands
import RouteIdl.Proofs.Manifest

/-!
# Plans

Before a compilation delivers its text it does nothing but read files and note lines for the user.
So what it delivers, and where, is planned by its options and the files alone.
-/

namespace RouteIdl.CommandLine

variable {Tree : Type} [Storage Tree] {α β : Type}

/-! ## How tasks end -/

namespace Task

/-- Carry out a task. -/
def carryOut (task : Task α) (world : Session.World Tree) :
    Except Failure α × Session.World Tree :=
  (ExceptT.run task).run world

/-- Carried out on some files after some output, a task ends in a result and leaves files and an
output behind. What it notes for the user is left open. -/
def Ends (task : Task α) (tree : Tree) (output : String)
    (ending : Except Failure α × Tree × String) : Prop :=
  ∀ notes, ∃ notes', task.carryOut ⟨tree, output, notes⟩ =
    (ending.1, ⟨ending.2.1, ending.2.2, notes'⟩)

/-- On some files, a task has a result, and it does no more than read and note. -/
def Reads (task : Task α) (tree : Tree) (result : Except Failure α) : Prop :=
  ∀ output, task.Ends tree output (result, tree, output)

variable {tree tree' : Tree} {output output' : String} {first : Task α} {next : α → Task β}

/-- A task ends in one way only. -/
theorem Ends.unique {ending ending' : Except Failure α × Tree × String}
    (h : first.Ends tree output ending) (h' : first.Ends tree output ending') :
    ending = ending' := by
  obtain ⟨notes, hending⟩ := h []
  obtain ⟨notes', hending'⟩ := h' []
  have heq := hending.symm.trans hending'
  simp only [Prod.mk.injEq, Session.World.mk.injEq] at heq
  exact Prod.ext heq.1 (Prod.ext heq.2.1 heq.2.2.1)

theorem carryOut_bind (first : Task α) (next : α → Task β) (world : Session.World Tree) :
    carryOut (first >>= next) world =
      match first.carryOut world with
      | (.ok value, after) => (next value).carryOut after
      | (.error failure, after) => (.error failure, after) := by
  refine (Session.run_bind (ExceptT.run first) _ world).trans ?_
  unfold carryOut
  rcases (ExceptT.run first).run world with ⟨failure | value, after⟩
  · rfl
  · rfl

theorem Ends.bind {value : α} {ending : Except Failure β × Tree × String}
    (h : first.Ends tree output (.ok value, tree', output'))
    (hnext : (next value).Ends tree' output' ending) :
    Ends (first >>= next) tree output ending := by
  intro notes
  obtain ⟨middle, hfirst⟩ := h notes
  obtain ⟨notes', hlast⟩ := hnext middle
  refine ⟨notes', ?_⟩
  rw [carryOut_bind, hfirst]
  exact hlast

theorem Ends.bind_error {failure : Failure}
    (h : first.Ends tree output (.error failure, tree', output')) :
    Ends (first >>= next) tree output (.error failure, tree', output') := by
  intro notes
  obtain ⟨notes', hfirst⟩ := h notes
  refine ⟨notes', ?_⟩
  rw [carryOut_bind, hfirst]

theorem reads_pure (value : α) : Reads (pure value) tree (.ok value) :=
  fun _ notes => ⟨notes, rfl⟩

theorem reads_throw (failure : Failure) : Reads (throw failure : Task α) tree (.error failure) :=
  fun _ notes => ⟨notes, rfl⟩

/-- Go on with a result, or end in its failure. -/
def settle (tree : Tree) (output : String) (result : Except Failure α)
    (rest : α → Except Failure β × Tree × String) : Except Failure β × Tree × String :=
  match result with
  | .error failure => (.error failure, tree, output)
  | .ok value => rest value

omit [Storage Tree] in
theorem settle_bind {γ : Type} (result : Except Failure α) (middle : α → Except Failure β)
    (rest : β → Except Failure γ × Tree × String) :
    settle tree output (result >>= middle) rest =
      settle tree output result fun value => settle tree output (middle value) rest := by
  cases result with
  | error failure => rfl
  | ok value => rfl

theorem Reads.ends_bind {result : Except Failure α}
    {rest : α → Except Failure β × Tree × String} (h : first.Reads tree result)
    (hnext : ∀ value, (next value).Ends tree output (rest value)) :
    Ends (first >>= next) tree output (settle tree output result rest) := by
  cases result with
  | error failure => exact (h output).bind_error
  | ok value => exact (h output).bind (hnext value)

/-- Tasks that only read can follow each other, and a failure ends the sequence. -/
theorem Reads.bind {result : Except Failure α} {rest : α → Except Failure β}
    (h : first.Reads tree result) (hnext : ∀ value, (next value).Reads tree (rest value)) :
    Reads (first >>= next) tree (result >>= rest) := by
  intro output
  have h : Ends (first >>= next) tree output
      (settle tree output result fun value => (rest value, tree, output)) :=
    h.ends_bind fun value => hnext value output
  cases result with
  | error failure => exact h
  | ok value => exact h

end Task

open RouteIdl.CommandLine.Task

variable {tree : Tree} {output : String}

section Except

variable {ε ε' : Type}

theorem mapError_ok (f : ε → ε') (value : α) :
    (Except.ok value : Except ε α).mapError f = .ok value := rfl

theorem mapError_error (f : ε → ε') (error : ε) :
    (Except.error error : Except ε α).mapError f = .error (f error) := rfl

theorem mapError_eq_error_iff {result : Except ε α} {f : ε → ε'} {error : ε'} :
    result.mapError f = .error error ↔ ∃ cause, result = .error cause ∧ f cause = error := by
  cases result <;> simp [mapError_ok, mapError_error]

theorem bind_eq_error_iff {first : Except ε α} {next : α → Except ε β} {error : ε} :
    first >>= next = .error error ↔
      first = .error error ∨ ∃ value, first = .ok value ∧ next value = .error error := by
  cases first <;> simp [bind, Except.bind]

end Except

theorem readFile_reads (path : String) :
    (readFile path).Reads tree (.ok (Storage.read? tree path)) :=
  fun _ notes => ⟨notes, rfl⟩

theorem orFail_reads {ε : Type} (failure : ε → Failure) (result : Except ε α) :
    (orFail failure result).Reads tree (result.mapError failure) := by
  cases result with
  | error error => exact reads_throw (failure error)
  | ok value => exact reads_pure value

theorem showEvents_reads (passes : Log.Record → Bool) (events : List Event) :
    (showEvents passes events).Reads tree (.ok ()) := by
  induction events with
  | nil => exact reads_pure ()
  | cons event rest ih =>
      rw [showEvents]
      intro output
      by_cases h : passes event.record
      · rw [if_pos h]
        exact Ends.bind (fun notes => ⟨event.record.line :: notes, rfl⟩) (ih output)
      · rw [if_neg h]
        exact ih output

theorem follow_reads (passes : Log.Record → Bool) (computation : Traced α) :
    (follow passes computation).Reads tree (computation.result.mapError .compilation) :=
  (showEvents_reads passes computation.events).bind fun _ =>
    orFail_reads .compilation computation.result

/-! ## Sources -/

/-- The manifest that is used, unless it cannot be. -/
def manifestOn (tree : Tree) : Option String → Except ManifestError Manifest
  | some path => Manifest.ofFile path (Storage.read? tree path)
  | none =>
      if Storage.isFile tree defaultManifest then
        Manifest.ofFile defaultManifest (Storage.read? tree defaultManifest)
      else .ok {}

/-- What a JSON file stands for. -/
def sourceOn (tree : Tree) (source : Source)
    (reader : List Json.Symbol → Except Json.Fault α) (path : String) : Except Failure α :=
  match Storage.read? tree path with
  | none => .error (.unreadable source path)
  | some bytes => (reader (Json.Symbol.ofBytes bytes)).mapError fun _ => .malformed source path

/-- The API document, if one is named. -/
def documentOn (tree : Tree) : Option String → Except Failure (Option ApiDocument)
  | none => .ok none
  | some path => do
      let document ← sourceOn tree .document ApiDocument.ofSymbols path
      return some document

/-- The text that is to be delivered, under given settings and from the files at given paths. -/
def textOn (tree : Tree) (settings : Settings) (routes? document? : Option String) :
    Except Failure String :=
  match routes? with
  | none => .error .noRoutes
  | some path => do
      let routes ← sourceOn tree .routes Route.listOfSymbols path
      let document ← documentOn tree document?
      (generate settings routes document).result.mapError .compilation

/-- The text that is to be delivered, and the file for it, if one is named. -/
def plan (tree : Tree) (options : CompileOptions) : Except Failure (String × Option String) := do
  let manifest ← (manifestOn tree options.manifest).mapError .manifest
  manifest.validate.mapError .manifest
  let _ ← (Log.Level.ofText (options.logLevel.getD manifest.settings.logLevel)).mapError
    .unknownLevel
  let serviceName := options.serviceName <|> manifest.explicitName
  let text ← textOn tree { manifest.settings with serviceName }
    (options.routes <|> manifest.routes) (options.document <|> manifest.document)
  return (text, options.output <|> manifest.output)

theorem readManifest_reads (path : String) : (readManifest path).Reads tree
    ((Manifest.ofFile path (Storage.read? tree path)).mapError .manifest) :=
  (readFile_reads path).bind fun content => orFail_reads .manifest (Manifest.ofFile path content)

theorem loadManifest_reads (path? : Option String) :
    (loadManifest path?).Reads tree ((manifestOn tree path?).mapError .manifest) := by
  cases path? with
  | some path => exact readManifest_reads path
  | none =>
      have hasked : Reads (ExceptT.lift (.isFile defaultManifest .done)) tree
          (.ok (Storage.isFile tree defaultManifest)) := fun _ notes => ⟨notes, rfl⟩
      intro output
      -- The answer is known now, so the general rule on two readers would say too little.
      refine (hasked output).bind ?_
      unfold manifestOn
      cases Storage.isFile tree defaultManifest with
      | true => exact readManifest_reads defaultManifest output
      | false => exact reads_pure _ output

theorem readSource_reads (source : Source) (reader : List Json.Symbol → Except Json.Fault α)
    (path : String) :
    (readSource source reader path).Reads tree (sourceOn tree source reader path) := by
  intro output
  refine (readFile_reads path output).bind ?_
  unfold sourceOn
  cases Storage.read? tree path with
  | none => exact reads_throw _ output
  | some bytes => exact orFail_reads _ _ output

theorem readDocument_reads (path? : Option String) :
    (readDocument path?).Reads tree (documentOn tree path?) := by
  cases path? with
  | none => exact reads_pure none
  | some path => exact (readSource_reads _ _ path).bind fun document => reads_pure (some document)

theorem produce_reads (options : CompileOptions) (manifest : Manifest)
    (passes : Log.Record → Bool) :
    (produce options manifest passes).Reads tree
      (textOn tree
        { manifest.settings with serviceName := options.serviceName <|> manifest.explicitName }
        (options.routes <|> manifest.routes) (options.document <|> manifest.document)) := by
  unfold produce textOn
  cases options.routes <|> manifest.routes with
  | none => exact reads_throw .noRoutes
  | some path =>
      exact (readSource_reads _ _ path).bind fun routes =>
        (readDocument_reads _).bind fun document => follow_reads passes _

/-! ## Delivery -/

/-- How a delivery ends. A file that cannot be written stays as it is. -/
def delivery (tree : Tree) (output text : String) :
    Option String → Except Failure Unit × Tree × String
  | none => (.ok (), tree, output ++ (text ++ "\n"))
  | some path =>
      match Storage.write? tree path (text ++ "\n").toUTF8 with
      | some after => (.ok (), after, output)
      | none => (.error (.unwritable path), tree, output)

theorem writeFile_ends (path : String) (bytes : ByteArray) :
    Ends (ExceptT.lift (.write path bytes .done)) tree output
      (.ok (Storage.write? tree path bytes).isSome,
        (Storage.write? tree path bytes).getD tree, output) := by
  intro notes
  refine ⟨notes, ?_⟩
  change Session.run (.write path bytes _) _ = _
  cases h : Storage.write? tree path bytes <;> simp only [Session.run, h] <;> rfl

theorem deliver_ends (passes : Log.Record → Bool) (text : String) (path? : Option String) :
    (deliver passes text path?).Ends tree output (delivery tree output text path?) := by
  cases path? with
  | none => exact fun notes => ⟨notes, rfl⟩
  | some path =>
      refine (writeFile_ends path (text ++ "\n").toUTF8).bind ?_
      simp only [delivery]
      cases Storage.write? tree path (text ++ "\n").toUTF8 with
      | some after => exact showEvents_reads passes [.documentWritten path] output
      | none => exact reads_throw _ output

/-- A compilation ends as its plan tells: it fails with the plan, and otherwise delivers what is
planned. -/
theorem compile_ends (options : CompileOptions) (directives : List Log.Directive) :
    (compile options directives).Ends tree output
      (settle tree output (plan tree options) fun planned =>
        delivery tree output planned.1 planned.2) := by
  unfold compile plan
  -- Every stage but the last one only reads, so its result alone decides whether there is a next.
  simp only [settle_bind]
  apply (loadManifest_reads options.manifest).ends_bind
  intro manifest
  apply (orFail_reads .manifest manifest.validate).ends_bind
  intro _
  apply (orFail_reads .unknownLevel _).ends_bind
  intro level
  apply (produce_reads options manifest _).ends_bind
  intro text
  exact deliver_ends _ text _

/-- The exit code tells whether a task has succeeded, and a failure is the last that the user is
told. -/
theorem run_conclude {task : Task Unit} {ending : Except Failure Unit × Tree × String}
    (h : task.Ends tree output ending) (notes : List String) :
    ∃ notes', (conclude task).run ⟨tree, output, notes⟩ =
        (if ending.1.isOk then 0 else 1, ⟨ending.2.1, ending.2.2, notes'⟩) ∧
      ∀ failure, ending.1 = .error failure →
        notes'.head? = some ("Error: " ++ failure.message) := by
  obtain ⟨notes', hcarry⟩ := h notes
  obtain ⟨result, after, shown⟩ := ending
  have hrun : (ExceptT.run task).run ⟨tree, output, notes⟩ = (result, ⟨after, shown, notes'⟩) :=
    hcarry
  have hconclude : (conclude task).run ⟨tree, output, notes⟩ = _ :=
    Session.run_bind (ExceptT.run task) _ _
  rw [hrun] at hconclude
  cases result with
  | ok _ =>
      refine ⟨notes', hconclude, ?_⟩
      rintro _ ⟨⟩
  | error failure =>
      refine ⟨_, hconclude, ?_⟩
      rintro _ ⟨⟩
      rfl

end RouteIdl.CommandLine
