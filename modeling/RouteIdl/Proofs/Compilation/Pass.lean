import RouteIdl.Proofs.Compilation.Contribution

/-!
# Passes over routes

A pass succeeds with the contributions of all routes, in order, and fails with the refusal of the
first route that is refused. A route sees of its predecessors nothing but their RPC names.
-/

namespace RouteIdl

open Idl
open Traced (result_bind_eq_ok result_bind_eq_error)

namespace Route

variable {service : String} {settings : Settings}

/-- Why a route is refused after routes with the given RPC names. A repeated name goes before an
offending schema. -/
inductive Refused (route : Route) (seen : List String) (settings : Settings) :
    CompileError → Prop where
  | repeated (hpolicy : settings.duplicates = .reject) (hseen : route.rpcName ∈ seen) :
      Refused route seen settings (.duplicateRpc route.rpcName)
  | invalid (hname : settings.duplicates = .reject → route.rpcName ∉ seen) {culprit : Visit}
      (hfirst : FirstOffending culprit (route.visits settings)) :
      Refused route seen settings culprit.error

/-- The order in which names were seen does not matter, nor how often. -/
theorem Refused.of_subset {route : Route} {seen seen' : List String} {error : CompileError}
    (hsubset : seen ⊆ seen') (hsubset' : seen' ⊆ seen) (h : route.Refused seen settings error) :
    route.Refused seen' settings error := by
  cases h with
  | repeated hpolicy hseen => exact .repeated hpolicy (hsubset hseen)
  | invalid hname hfirst =>
      exact .invalid (fun hpolicy hmem => hname hpolicy (hsubset' hmem)) hfirst

/-- The names of routes are accepted after those already seen: always, unless repeated names are
rejected. -/
def NamesAccepted (settings : Settings) (seen : List String) (routes : List Route) : Prop :=
  settings.duplicates = .reject →
    (routes.map rpcName).Nodup ∧ ∀ route ∈ routes, route.rpcName ∉ seen

theorem namesAccepted_cons {seen : List String} {route : Route} {rest : List Route} :
    NamesAccepted settings seen (route :: rest) ↔
      (settings.duplicates = .reject → route.rpcName ∉ seen) ∧
        NamesAccepted settings (route.rpcName :: seen) rest := by
  unfold NamesAccepted
  rw [← forall_and]
  refine forall_congr' fun _ => ?_
  simp only [List.map_cons, List.nodup_cons, List.mem_map, List.mem_cons, not_or, forall_eq_or_imp,
    not_exists, not_and]
  constructor
  · rintro ⟨⟨hfresh, hnodup⟩, hnew, hrest⟩
    exact ⟨hnew, hnodup, fun other hother => ⟨hfresh other hother, hrest other hother⟩⟩
  · rintro ⟨hnew, hnodup, hrest⟩
    exact ⟨⟨fun other hother => (hrest other hother).1, hnodup⟩, hnew,
      fun other hother => (hrest other hother).2⟩

theorem noteName_eq_ok_iff {route : Route} {seen : List String} :
    (route.noteName seen settings).result = .ok () ↔
      (settings.duplicates = .reject → route.rpcName ∉ seen) := by
  unfold noteName
  split
  next hseen => cases hpolicy : settings.duplicates <;> simp [hseen]
  next hseen => simp [hseen]

theorem noteName_eq_error_iff {route : Route} {seen : List String} {error : CompileError} :
    (route.noteName seen settings).result = .error error ↔
      settings.duplicates = .reject ∧ route.rpcName ∈ seen ∧
        error = .duplicateRpc route.rpcName := by
  unfold noteName
  split
  next hseen => cases hpolicy : settings.duplicates <;> simp [hseen, eq_comm]
  next hseen => simp [hseen]

/-- A step notes the name of the route and then takes its contribution. -/
theorem compile_eq (route : Route) (seen : List String) (service : String) (settings : Settings) :
    route.compile seen service settings =
      (Traced.report (.routeStarted route.method route.url route.rpcName) >>= fun _ =>
        route.noteName seen settings >>= fun _ => route.contribution service settings) := rfl

theorem compile_eq_ok_iff {route : Route} {seen : List String} {part : List Message × Rpc} :
    (route.compile seen service settings).result = .ok part ↔
      (settings.duplicates = .reject → route.rpcName ∉ seen) ∧
        (route.contribution service settings).result = .ok part := by
  rw [compile_eq, Traced.result_report_bind, result_bind_eq_ok, ← noteName_eq_ok_iff]
  constructor
  · rintro ⟨_, hnoted, hpart⟩
    exact ⟨hnoted, hpart⟩
  · rintro ⟨hnoted, hpart⟩
    exact ⟨(), hnoted, hpart⟩

theorem compile_eq_error_iff {route : Route} {seen : List String} {error : CompileError} :
    (route.compile seen service settings).result = .error error ↔
      route.Refused seen settings error := by
  rw [compile_eq, Traced.result_report_bind, result_bind_eq_error, noteName_eq_error_iff]
  have hfollows := route.contribution_follows service settings
  constructor
  · rintro (⟨hpolicy, hseen, rfl⟩ | ⟨_, hnoted, herror⟩)
    · exact .repeated hpolicy hseen
    · obtain ⟨culprit, hfirst, rfl⟩ := hfollows.result_error_iff.mp herror
      exact .invalid (noteName_eq_ok_iff.mp hnoted) hfirst
  · rintro (⟨hpolicy, hseen⟩ | ⟨hname, hfirst⟩)
    · exact .inl ⟨hpolicy, hseen, rfl⟩
    · exact .inr ⟨(), noteName_eq_ok_iff.mpr hname,
        hfollows.result_error_iff.mpr ⟨_, hfirst, rfl⟩⟩

theorem compileAll_cons_eq_ok_iff {seen : List String} {route : Route} {rest : List Route}
    {out : List Message × List Rpc} :
    (compileAll service settings seen (route :: rest)).result = .ok out ↔
      ∃ part others, (route.compile seen service settings).result = .ok part ∧
        (compileAll service settings (route.rpcName :: seen) rest).result = .ok others ∧
        out = (part.1 ++ others.1, part.2 :: others.2) := by
  rw [compileAll]
  constructor
  · intro h
    obtain ⟨part, hpart, h⟩ := result_bind_eq_ok.mp h
    obtain ⟨others, hothers, h⟩ := result_bind_eq_ok.mp h
    cases h
    exact ⟨part, others, hpart, hothers, rfl⟩
  · rintro ⟨part, others, hpart, hothers, rfl⟩
    exact result_bind_eq_ok.mpr ⟨part, hpart, result_bind_eq_ok.mpr ⟨others, hothers, rfl⟩⟩

theorem compileAll_cons_eq_error_iff {seen : List String} {route : Route} {rest : List Route}
    {error : CompileError} :
    (compileAll service settings seen (route :: rest)).result = .error error ↔
      route.Refused seen settings error ∨
        ∃ part, (route.compile seen service settings).result = .ok part ∧
          (compileAll service settings (route.rpcName :: seen) rest).result = .error error := by
  simp only [compileAll, result_bind_eq_error, compile_eq_error_iff]
  simp

/-- A pass succeeds exactly if the names are accepted and every route contributes; it yields the
contributions in order. -/
theorem compileAll_eq_ok_iff {seen : List String} {routes : List Route}
    {out : List Message × List Rpc} :
    (compileAll service settings seen routes).result = .ok out ↔
      NamesAccepted settings seen routes ∧
        ∃ parts, List.Forall₂
            (fun route part => (route.contribution service settings).result = .ok part)
            routes parts ∧
          out = (parts.flatMap (·.1), parts.map (·.2)) := by
  induction routes generalizing seen out with
  | nil =>
      simp only [compileAll, Traced.result_pure, List.forall₂_nil_left_iff]
      simp [NamesAccepted, eq_comm]
  | cons route rest ih =>
      rw [compileAll_cons_eq_ok_iff, namesAccepted_cons]
      simp only [compile_eq_ok_iff, ih]
      constructor
      · rintro ⟨part, others, ⟨hname, hpart⟩, ⟨hnames, parts, hparts, rfl⟩, rfl⟩
        exact ⟨⟨hname, hnames⟩, part :: parts, .cons hpart hparts, rfl⟩
      · rintro ⟨⟨hname, hnames⟩, parts, hparts, rfl⟩
        cases hparts with
        | cons hpart hparts => exact ⟨_, _, ⟨hname, hpart⟩, ⟨hnames, _, hparts, rfl⟩, rfl⟩

/-- A pass fails exactly with the refusal of a route before which the pass succeeds. -/
theorem compileAll_eq_error_iff {seen : List String} {routes : List Route}
    {error : CompileError} :
    (compileAll service settings seen routes).result = .error error ↔
      ∃ before route after, routes = before ++ route :: after ∧
        (∃ out, (compileAll service settings seen before).result = .ok out) ∧
        route.Refused (before.map rpcName ++ seen) settings error := by
  induction routes generalizing seen with
  | nil => simp [compileAll]
  | cons route rest ih =>
      -- Names seen are added in front, while those of the routes before are listed in order.
      have hsubset (names : List String) :
          names ++ route.rpcName :: seen ⊆ route.rpcName :: (names ++ seen) ∧
            route.rpcName :: (names ++ seen) ⊆ names ++ route.rpcName :: seen := by
        constructor <;> intro name hname <;> simp at hname ⊢ <;> tauto
      rw [compileAll_cons_eq_error_iff]
      constructor
      · rintro (hrefused | ⟨part, hpart, herror⟩)
        · exact ⟨[], route, rest, rfl, ⟨_, rfl⟩, hrefused⟩
        · obtain ⟨before, culprit, after, rfl, ⟨out, hout⟩, hrefused⟩ := ih.mp herror
          refine ⟨route :: before, culprit, after, rfl, ?_, ?_⟩
          · exact ⟨_, compileAll_cons_eq_ok_iff.mpr ⟨part, out, hpart, hout, rfl⟩⟩
          · exact hrefused.of_subset (hsubset _).1 (hsubset _).2
      · rintro ⟨before, culprit, after, heq, ⟨out, hout⟩, hrefused⟩
        cases before with
        | nil =>
            obtain ⟨rfl, rfl⟩ := List.cons.inj heq
            exact .inl hrefused
        | cons first before =>
            obtain ⟨rfl, rfl⟩ := List.cons.inj heq
            obtain ⟨part, others, hpart, hothers, _⟩ := compileAll_cons_eq_ok_iff.mp hout
            refine .inr ⟨part, hpart, ih.mpr ⟨before, culprit, after, rfl, ⟨others, hothers⟩, ?_⟩⟩
            exact hrefused.of_subset (hsubset _).2 (hsubset _).1

end Route

/-- The document that is put together from the contributions of routes. -/
def Idl.Document.ofParts (service : String) (parts : List (List Message × Rpc)) : Document :=
  ⟨parts.flatMap (·.1), Service.sole service (parts.map (·.2))⟩

section Document

variable {routes : List Route} {name : ServiceName} {service : String} {settings : Settings}
  {error : CompileError}

/-- Once the name of the service is resolved, a compilation ends as its pass does. -/
theorem compile_result (hservice : name.resolve = .ok service) :
    (compile routes name settings).result =
      (Route.compileAll service settings [] routes).result.map fun out =>
        ⟨out.1, Service.sole service out.2⟩ := by
  rw [compile, Traced.result_bind, Traced.result_ofExcept, hservice]
  simp only [Except.bind, Traced.result_bind, Traced.result_pure]
  cases (Route.compileAll service settings [] routes).result <;> rfl

theorem compile_eq_ok_iff {document : Document} (hservice : name.resolve = .ok service) :
    (compile routes name settings).result = .ok document ↔
      Route.NamesAccepted settings [] routes ∧
        ∃ parts, List.Forall₂
            (fun route part => (route.contribution service settings).result = .ok part)
            routes parts ∧
          document = Document.ofParts service parts := by
  rw [compile_result hservice]
  constructor
  · intro h
    cases hout : (Route.compileAll service settings [] routes).result with
    | error _ => rw [hout] at h; cases h
    | ok out =>
        rw [hout] at h
        obtain ⟨hnames, parts, hparts, rfl⟩ := Route.compileAll_eq_ok_iff.mp hout
        cases h
        exact ⟨hnames, parts, hparts, rfl⟩
  · rintro ⟨hnames, parts, hparts, rfl⟩
    rw [Route.compileAll_eq_ok_iff.mpr ⟨hnames, parts, hparts, rfl⟩]
    rfl

/-- Related lists exist if every element is related to something. -/
theorem exists_forall₂_iff {α β : Type} {related : α → β → Prop} {xs : List α} :
    (∃ ys, List.Forall₂ related xs ys) ↔ ∀ x ∈ xs, ∃ y, related x y := by
  induction xs with
  | nil => simp
  | cons x xs ih =>
      rw [List.forall_mem_cons, ← ih]
      constructor
      · rintro ⟨_, _ | ⟨hx, hxs⟩⟩
        exact ⟨⟨_, hx⟩, _, hxs⟩
      · rintro ⟨⟨y, hx⟩, ys, hxs⟩
        exact ⟨y :: ys, .cons hx hxs⟩

/-- What stands in the second of two related lists is related to something in the first. -/
theorem exists_related_of_mem {α β : Type} {related : α → β → Prop} {xs : List α} {ys : List β}
    (h : List.Forall₂ related xs ys) {y : β} (hy : y ∈ ys) : ∃ x ∈ xs, related x y := by
  induction h with
  | nil => cases hy
  | cons hfirst _ ih =>
      rcases List.mem_cons.mp hy with rfl | hrest
      · exact ⟨_, List.mem_cons_self, hfirst⟩
      · obtain ⟨x, hx, hrelated⟩ := ih hrest
        exact ⟨x, List.mem_cons_of_mem _ hx, hrelated⟩

theorem exists_compile_iff (hservice : name.resolve = .ok service) :
    (∃ document, (compile routes name settings).result = .ok document) ↔
      Route.NamesAccepted settings [] routes ∧
        ∀ route ∈ routes, ∃ part, (route.contribution service settings).result = .ok part := by
  rw [← exists_forall₂_iff]
  simp only [compile_eq_ok_iff hservice]
  constructor
  · rintro ⟨_, hnames, parts, hparts, _⟩
    exact ⟨hnames, parts, hparts⟩
  · rintro ⟨hnames, parts, hparts⟩
    exact ⟨_, hnames, parts, hparts, rfl⟩

theorem compile_eq_error_iff (hservice : name.resolve = .ok service) :
    (compile routes name settings).result = .error error ↔
      ∃ before route after, routes = before ++ route :: after ∧
        (∃ document, (compile before name settings).result = .ok document) ∧
        route.Refused (before.map Route.rpcName) settings error := by
  have hpass : (compile routes name settings).result = .error error ↔
      (Route.compileAll service settings [] routes).result = .error error := by
    rw [compile_result hservice]
    cases (Route.compileAll service settings [] routes).result <;> simp [Except.map]
  have hbefore (before : List Route) :
      (∃ document, (compile before name settings).result = .ok document) ↔
        ∃ out, (Route.compileAll service settings [] before).result = .ok out := by
    rw [compile_result hservice]
    cases (Route.compileAll service settings [] before).result <;> simp [Except.map]
  rw [hpass, Route.compileAll_eq_error_iff]
  simp only [hbefore, List.append_nil]

theorem compileText_eq_ok_iff {text : String} :
    (compileText routes name settings).result = .ok text ↔
      ∃ document, (compile routes name settings).result = .ok document ∧
        text = document.text settings.presence := by
  unfold compileText
  rw [result_bind_eq_ok]
  simp [eq_comm]

theorem compileText_eq_error_iff :
    (compileText routes name settings).result = .error error ↔
      (compile routes name settings).result = .error error := by
  unfold compileText
  rw [result_bind_eq_error]
  simp

/-- Without a name for the service nothing is compiled. -/
theorem resolve_of_compile_eq_ok {document : Document}
    (h : (compile routes name settings).result = .ok document) :
    ∃ service, name.resolve = .ok service := by
  obtain ⟨service, hservice, _⟩ := result_bind_eq_ok.mp h
  exact ⟨service, hservice⟩

end Document

/-! ## Routes for instances of general statements -/

namespace Route

/-- A route with one parameter in its body, of a given name and type. -/
def ofParameter (method url parameter type : String) : Route :=
  ⟨method, url, some { body := some (.object [("properties",
    .object [(parameter, .object [("type", .string type)])])]) }, none⟩

/-- A route without schemas. -/
def getUser : Route := ⟨"GET", "/users/:id", none, none⟩

/-- A route with a parameter. -/
def postUser : Route := ofParameter "POST" "/users" "name" "string"

/-- A route with a parameter of a type that does not exist. -/
def putFlag : Route := ofParameter "PUT" "/flag" "on" "boolean"

/-- Another route with a parameter of a type that does not exist. -/
def putFlags : Route := ofParameter "PUT" "/flags" "all" "null"

end Route

end RouteIdl
