import Mathlib.Data.List.Nodup
import RouteIdl.Proofs.Compilation.References

/-!
# Rejection of repeated names

What changes when repeated RPC names are rejected instead of allowed: which lists of routes are
compiled, and never to what. Distinct RPC names keep apart the names of messages as well, since the
suffixes of requests and responses differ.
-/

namespace RouteIdl

open Idl

/-- Settings that reject repeated names. -/
def Settings.rejecting (settings : Settings) : Settings :=
  { settings with duplicates := .reject }

/-- Settings that allow repeated names. -/
def Settings.allowing (settings : Settings) : Settings :=
  { settings with duplicates := .allow }

namespace Route

theorem nodup_messageNames (route : Route) : route.messageNames.Nodup := by
  have hne := Identifier.request_ne_response route.rpcName route.rpcName
  unfold messageNames
  split <;> split <;> simp_all

/-- Routes with different RPC names call for different messages. -/
theorem disjoint_messageNames {route other : Route} (h : route.rpcName ≠ other.rpcName) :
    List.Disjoint route.messageNames other.messageNames := by
  intro name hroute hother
  rcases mem_messageNames hroute with rfl | rfl <;> rcases mem_messageNames hother with heq | heq
  · exact h (Identifier.request_inj.mp heq)
  · exact Identifier.request_ne_response _ _ heq
  · exact Identifier.request_ne_response _ _ heq.symm
  · exact h (Identifier.response_inj.mp heq)

theorem nodup_flatMap_messageNames {routes : List Route} (h : (routes.map rpcName).Nodup) :
    (routes.flatMap messageNames).Nodup := by
  refine List.nodup_flatMap.mpr ⟨fun route _ => route.nodup_messageNames, ?_⟩
  exact (List.pairwise_map.mp h).imp disjoint_messageNames

theorem names_of_contributes {routes : List Route} {parts : List (List Message × Rpc)}
    (h : List.Forall₂ (fun route part => Contributes route part.1 part.2) routes parts) :
    (parts.map (·.2)).map (·.name) = routes.map rpcName ∧
      (parts.flatMap (·.1)).map (·.name) = routes.flatMap messageNames := by
  induction h with
  | nil => exact ⟨rfl, rfl⟩
  | cons hfirst _ ih =>
      simp only [List.map_cons, List.flatMap_cons, List.map_append, hfirst.rpc_name, hfirst.names,
        ih, and_self]

end Route

section Policies

variable {routes : List Route} {name : ServiceName} {service : String} {settings : Settings}

theorem namesAccepted_rejecting :
    Route.NamesAccepted settings.rejecting [] routes ↔ (routes.map Route.rpcName).Nodup := by
  simp [Route.NamesAccepted, Settings.rejecting]

theorem namesAccepted_allowing : Route.NamesAccepted settings.allowing [] routes := by
  simp [Route.NamesAccepted, Settings.allowing]

/-- The policy decides whether there is a document and has no part in it. -/
theorem compile_rejecting_eq_ok_iff (hservice : name.resolve = .ok service) {document : Document} :
    (compile routes name settings.rejecting).result = .ok document ↔
      (routes.map Route.rpcName).Nodup ∧
        (compile routes name settings.allowing).result = .ok document := by
  rw [compile_eq_ok_iff hservice, compile_eq_ok_iff hservice, namesAccepted_rejecting]
  simp only [namesAccepted_allowing, true_and]
  rfl

theorem exists_compile_rejecting_iff (hservice : name.resolve = .ok service) :
    (∃ document, (compile routes name settings.rejecting).result = .ok document) ↔
      (routes.map Route.rpcName).Nodup ∧
        ∀ route ∈ routes, ∀ visit ∈ route.visits settings, ¬ Offending visit.node := by
  rw [exists_compile_iff hservice, namesAccepted_rejecting]
  simp only [(Route.contribution_follows _ service settings.rejecting).result_ok_iff]
  rfl

/-- A route is refused for its name alone if that is repeated, and else for its schemas. -/
theorem refused_rejecting_iff {route : Route} {seen : List String} {error : CompileError} :
    route.Refused seen settings.rejecting error ↔
      (route.rpcName ∈ seen ∧ error = .duplicateRpc route.rpcName) ∨
        (route.rpcName ∉ seen ∧ ∃ culprit, FirstOffending culprit (route.visits settings) ∧
          error = .invalidProperty culprit.field culprit.node) := by
  constructor
  · rintro (⟨_, hseen⟩ | ⟨hname, hfirst⟩)
    · exact .inl ⟨hseen, rfl⟩
    · exact .inr ⟨hname rfl, _, hfirst, rfl⟩
  · rintro (⟨hseen, rfl⟩ | ⟨hname, culprit, hfirst, rfl⟩)
    · exact .repeated rfl hseen
    · exact .invalid (fun _ => hname) hfirst

theorem nodup_of_compile_rejecting (hservice : name.resolve = .ok service) {document : Document}
    (h : (compile routes name settings.rejecting).result = .ok document) :
    (document.service.rpcs.map (·.name)).Nodup ∧ (document.messages.map (·.name)).Nodup := by
  obtain ⟨hnames, parts, hparts, rfl⟩ := (compile_eq_ok_iff hservice).mp h
  have hnodup := namesAccepted_rejecting.mp hnames
  obtain ⟨hrpcs, hmessages⟩ := Route.names_of_contributes
    (hparts.imp fun _ _ => Route.contributes_of_contribution)
  constructor
  · exact hrpcs ▸ hnodup
  · exact hmessages ▸ Route.nodup_flatMap_messageNames hnodup

end Policies

/-- Rejecting repeated names yields the very text that allowing them yields, for lists of routes
with distinct RPC names, and in it the procedures have distinct names and so have the messages.
Otherwise the first route decides the error that repeats a name or has an offending schema, and a
repeated name goes first. -/
theorem compileText_rejecting {name : ServiceName} {service : String}
    (hservice : name.resolve = .ok service) (routes : List Route) (settings : Settings) :
    (∀ text, (compileText routes name settings.rejecting).result = .ok text ↔
      (routes.map Route.rpcName).Nodup ∧
        (compileText routes name settings.allowing).result = .ok text) ∧
    (∀ text, (compileText routes name settings.rejecting).result = .ok text →
      ∃ document, (compile routes name settings.rejecting).result = .ok document ∧
        text = document.text settings.presence ∧
        (document.service.rpcs.map (·.name)).Nodup ∧ (document.messages.map (·.name)).Nodup) ∧
    ∀ error, (compileText routes name settings.rejecting).result = .error error ↔
      ∃ before route after, routes = before ++ route :: after ∧
        (before.map Route.rpcName).Nodup ∧
        (∀ earlier ∈ before, ∀ visit ∈ earlier.visits settings, ¬ Offending visit.node) ∧
        ((route.rpcName ∈ before.map Route.rpcName ∧ error = .duplicateRpc route.rpcName) ∨
          (route.rpcName ∉ before.map Route.rpcName ∧
            ∃ culprit, FirstOffending culprit (route.visits settings) ∧
              error = .invalidProperty culprit.field culprit.node)) := by
  refine ⟨fun text => ?_, fun text h => ?_, fun error => ?_⟩
  · simp only [compileText_eq_ok_iff, compile_rejecting_eq_ok_iff hservice, and_assoc,
      exists_and_left]
    rfl
  · obtain ⟨document, hdocument, rfl⟩ := compileText_eq_ok_iff.mp h
    exact ⟨document, hdocument, rfl, nodup_of_compile_rejecting hservice hdocument⟩
  · rw [compileText_eq_error_iff, compile_eq_error_iff hservice]
    simp only [exists_compile_rejecting_iff hservice, refused_rejecting_iff, and_assoc]

/-- A route that repeats a name is refused for that, though its schema offends as well. -/
theorem compileText_rejecting_repeated :
    ServiceName.resolve ⟨some "users", none⟩ = .ok "users" ∧
      (compileText
        [.postUser, .getUser, .ofParameter "GET" "/users-:id" "on" "boolean", .putFlag]
        ⟨some "users", none⟩ (Settings.rejecting {})).result =
        .error (.duplicateRpc "GetUsersById") := by
  refine ⟨rfl, ((compileText_rejecting rfl _ {}).2.2 _).mpr ?_⟩
  refine ⟨[.postUser, .getUser], _, [.putFlag], rfl, by decide, ?_, .inl ⟨by decide, rfl⟩⟩
  intro earlier hearlier
  have hfollows := earlier.contribution_follows "users" {}
  refine hfollows.result_ok_iff.mp ?_
  rcases List.mem_pair.mp hearlier with rfl | rfl
  · exact ⟨_, rfl⟩
  · exact ⟨_, rfl⟩

end RouteIdl
