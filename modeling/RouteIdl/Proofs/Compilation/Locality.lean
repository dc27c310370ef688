import RouteIdl.Proofs.Compilation.Pass

/-!
# Locality of routes

With repeated names allowed, a route is compiled as if it were alone. A document is put together
from the documents of single routes, and the first route that fails alone decides the error.
-/

namespace RouteIdl

open Idl

/-- A document is put together from others: their messages and procedures, in order, under one
alias. -/
structure Idl.Document.Joins (whole : Document) (parts : List Document) : Prop where
  /-- The messages are those of the parts. -/
  messages : whole.messages = parts.flatMap (·.messages)
  /-- The procedures are those of the parts. -/
  rpcs : whole.service.rpcs = parts.flatMap (·.service.rpcs)
  /-- All parts are known under the alias of the whole. -/
  knownAs : ∀ part ∈ parts, part.service.knownAs = whole.service.knownAs

section Single

variable {name : ServiceName} {service : String} {settings : Settings} {route : Route}

theorem namesAccepted_single : Route.NamesAccepted settings [] [route] := by
  simp [Route.NamesAccepted]

theorem compile_single_eq_ok_iff (hservice : name.resolve = .ok service) {document : Document} :
    (compile [route] name settings).result = .ok document ↔
      ∃ part, (route.contribution service settings).result = .ok part ∧
        document = Document.ofParts service [part] := by
  rw [compile_eq_ok_iff hservice]
  constructor
  · rintro ⟨_, parts, hparts, rfl⟩
    cases hparts with
    | cons hpart hrest =>
        cases hrest
        exact ⟨_, hpart, rfl⟩
  · rintro ⟨part, hpart, rfl⟩
    exact ⟨namesAccepted_single, [part], .cons hpart .nil, rfl⟩

theorem compile_single_eq_error_iff (hservice : name.resolve = .ok service)
    {error : CompileError} :
    (compile [route] name settings).result = .error error ↔ route.Refused [] settings error := by
  rw [compile_eq_error_iff hservice]
  constructor
  · rintro ⟨before, culprit, after, heq, _, hrefused⟩
    cases before with
    | nil =>
        obtain ⟨rfl, _⟩ := List.cons.inj heq
        exact hrefused
    | cons first before => simp at heq
  · intro hrefused
    refine ⟨[], route, [], rfl, ⟨Document.ofParts service [], ?_⟩, hrefused⟩
    exact (compile_eq_ok_iff hservice).mpr ⟨by simp [Route.NamesAccepted], [], .nil, rfl⟩

theorem exists_compile_single_iff (hservice : name.resolve = .ok service) :
    (∃ document, (compile [route] name settings).result = .ok document) ↔
      ∃ part, (route.contribution service settings).result = .ok part := by
  simp [exists_compile_iff hservice, namesAccepted_single]

end Single

section Local

variable {routes : List Route} {name : ServiceName} {service : String} {settings : Settings}

theorem namesAccepted_of_allow (hallow : settings.duplicates = .allow) (seen : List String) :
    Route.NamesAccepted settings seen routes := by
  intro hreject
  rw [hallow] at hreject
  cases hreject

/-- With repeated names allowed, the routes before play no part in a refusal. -/
theorem refused_iff_of_allow {route : Route} {seen : List String} {error : CompileError}
    (hallow : settings.duplicates = .allow) :
    route.Refused seen settings error ↔ route.Refused [] settings error := by
  have hpolicy : settings.duplicates ≠ .reject := by
    rw [hallow]
    exact nofun
  constructor
  · intro h
    cases h with
    | repeated hreject _ => exact absurd hreject hpolicy
    | invalid _ hfirst => exact .invalid (fun hreject => absurd hreject hpolicy) hfirst
  · intro h
    cases h with
    -- Alone, a route repeats no name, so it is refused for its schemas.
    | repeated _ hseen => cases hseen
    | invalid _ hfirst => exact .invalid (fun hreject => absurd hreject hpolicy) hfirst

theorem exists_compile_iff_single (hallow : settings.duplicates = .allow)
    (hservice : name.resolve = .ok service) :
    (∃ document, (compile routes name settings).result = .ok document) ↔
      ∀ route ∈ routes, ∃ document, (compile [route] name settings).result = .ok document := by
  rw [exists_compile_iff hservice]
  simp only [exists_compile_single_iff hservice, namesAccepted_of_allow hallow, true_and]

theorem joins_of_compile (hservice : name.resolve = .ok service) {whole : Document}
    (hwhole : (compile routes name settings).result = .ok whole) :
    ∃ parts, List.Forall₂ (fun route part => (compile [route] name settings).result = .ok part)
        routes parts ∧
      whole.service.knownAs = service ∧ whole.Joins parts := by
  obtain ⟨_, parts, hparts, rfl⟩ := (compile_eq_ok_iff hservice).mp hwhole
  refine ⟨parts.map fun part => Document.ofParts service [part], ?_, rfl, ?_⟩
  · rw [List.forall₂_map_right_iff]
    refine hparts.imp fun route part hpart => ?_
    exact (compile_single_eq_ok_iff hservice).mpr ⟨part, hpart, rfl⟩
  · constructor
    · simp [Document.ofParts, List.flatMap_map]
    · rw [List.flatMap_map]
      exact List.map_eq_flatMap
    · intro part hpart
      obtain ⟨_, _, rfl⟩ := List.mem_map.mp hpart
      rfl

theorem resolve_of_no_name
    (h : ∀ service, (name.explicit <|> name.title) = some service → service = "") :
    name.resolve = .error .missingServiceName := by
  unfold ServiceName.resolve
  split
  next service hservice =>
    rw [h service hservice]
    rfl
  next => rfl

end Local

/-- With repeated names allowed, a compilation is determined by those of its single routes: it
succeeds if they all do, its document joins theirs, and its error is that of the first that fails.
Without a name for the service it fails whatever the routes are. -/
theorem compileText_local (routes : List Route) (name : ServiceName) (settings : Settings) :
    (settings.duplicates = .allow → ∀ service, name.resolve = .ok service →
      ((∃ text, (compileText routes name settings).result = .ok text) ↔
        ∀ route ∈ routes, ∃ text, (compileText [route] name settings).result = .ok text) ∧
      (∀ text, (compileText routes name settings).result = .ok text →
        ∃ whole parts, (compile routes name settings).result = .ok whole ∧
          text = whole.text settings.presence ∧
          List.Forall₂ (fun route part => (compile [route] name settings).result = .ok part)
            routes parts ∧
          whole.service.knownAs = service ∧ whole.Joins parts) ∧
      ∀ error, (compileText routes name settings).result = .error error ↔
        ∃ before route after, routes = before ++ route :: after ∧
          (∀ earlier ∈ before, ∃ text, (compileText [earlier] name settings).result = .ok text) ∧
          (compileText [route] name settings).result = .error error) ∧
    ((∀ service, (name.explicit <|> name.title) = some service → service = "") →
      (compileText routes name settings).result = .error .missingServiceName) := by
  have htext (routes : List Route) :
      (∃ text, (compileText routes name settings).result = .ok text) ↔
        ∃ document, (compile routes name settings).result = .ok document := by
    simp [compileText_eq_ok_iff]
  simp only [htext, compileText_eq_error_iff]
  refine ⟨fun hallow service hservice => ⟨?_, ?_, ?_⟩, fun h => ?_⟩
  · exact exists_compile_iff_single hallow hservice
  · intro text h
    obtain ⟨whole, hwhole, rfl⟩ := compileText_eq_ok_iff.mp h
    obtain ⟨parts, hparts, hknownAs, hjoins⟩ := joins_of_compile hservice hwhole
    exact ⟨whole, parts, hwhole, rfl, hparts, hknownAs, hjoins⟩
  · intro error
    rw [compile_eq_error_iff hservice]
    refine exists₃_congr fun before route after => ?_
    rw [exists_compile_iff_single hallow hservice, compile_single_eq_error_iff hservice,
      refused_iff_of_allow hallow]
  · rw [compile, Traced.result_bind, Traced.result_ofExcept, resolve_of_no_name h]
    rfl

/-- The first of two routes with offending schemas decides the error of a compilation. -/
theorem compileText_local_second :
    Settings.duplicates {} = .allow ∧ ServiceName.resolve ⟨some "users", none⟩ = .ok "users" ∧
      (compileText [.getUser, .putFlag, .putFlags] ⟨some "users", none⟩ {}).result =
        .error (.invalidProperty "on" (.object [("type", .string "boolean")])) := by
  refine ⟨rfl, rfl, ?_⟩
  obtain ⟨_, _, herror⟩ :=
    (compileText_local [.getUser, .putFlag, .putFlags] ⟨some "users", none⟩ {}).1 rfl "users" rfl
  refine (herror _).mpr ⟨[.getUser], .putFlag, [.putFlags], rfl, ?_, rfl⟩
  simpa using ⟨_, rfl⟩

end RouteIdl
