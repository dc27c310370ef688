import Mathlib.Data.List.Induction
import Mathlib.Data.List.Nodup
import RouteIdl.Proofs.Compilation.Pass
import RouteIdl.Registration.Host

/-!
# Lifecycle of registrations

Calls of a host to any number of registrations, in any order. What becomes of a call is told by the
calls to the same registration before it: a registration is compiled once, with the routes that were
registered for it, and the text is handed over exactly if that succeeds.
-/

namespace RouteIdl.Host

/-- Whether a call begins a registration. -/
def Call.begins : Call → Bool
  | .start _ hasHandler => hasHandler
  | _ => false

/-- The number of the registration that a call is made to. -/
def Call.number? : Call → Option Nat
  | .start _ _ => none
  | .register number _ => some number
  | .finish number _ => some number

/-- Whether a call finishes the registration with a number. -/
def Call.finishes (number : Nat) : Call → Bool
  | .finish other _ => other == number
  | _ => false

/-- The route that a call registers under a number. -/
def Call.routeFor? (number : Nat) : Call → Option Route
  | .register other route => if other = number then some route else none
  | _ => none

/-- How many registrations calls begin. -/
def begun (calls : List Call) : Nat :=
  calls.countP Call.begins

/-- Calls have begun the registration with a number under its settings, have not finished it since,
and have registered its routes for it, in order. Calls to other numbers have no part in it. -/
def Open (calls : List Call) (number : Nat) (registration : Registration) : Prop :=
  ∃ before after, calls = before ++ .start registration.settings true :: after ∧
    begun before = number ∧ (∀ call ∈ after, ¬ call.finishes number) ∧
    registration.routes = after.filterMap (Call.routeFor? number)

section Open

variable {calls : List Call} {call : Call} {number : Nat} {registration : Registration}

theorem begun_append (calls rest : List Call) : begun (calls ++ rest) = begun calls + begun rest :=
  List.countP_append

theorem Open.number_lt (h : Open calls number registration) : number < begun calls := by
  obtain ⟨before, after, rfl, rfl, _⟩ := h
  have hstart : 0 < begun (.start registration.settings true :: after) := by
    simp [begun, Call.begins]
  rw [begun_append]
  omega

/-- One more call opens a registration, ends it, or adds a route to it. -/
theorem open_concat :
    Open (calls ++ [call]) number registration ↔
      (call = .start registration.settings true ∧ begun calls = number ∧
        registration.routes = []) ∨
      (¬ call.finishes number ∧ ∃ routes, Open calls number ⟨registration.settings, routes⟩ ∧
        registration.routes = routes ++ (call.routeFor? number).toList) := by
  constructor
  · rintro ⟨before, after, heq, hbegun, hopen, hroutes⟩
    -- The last call is the start itself, or it comes after the start.
    rcases after.eq_nil_or_concat' with rfl | ⟨rest, last, rfl⟩
    · obtain ⟨rfl, hcall⟩ := List.append_inj' heq rfl
      cases hcall
      exact .inl ⟨rfl, hbegun, hroutes⟩
    · rw [← List.cons_append, ← List.append_assoc] at heq
      obtain ⟨rfl, hcall⟩ := List.append_inj' heq rfl
      cases hcall
      refine .inr ⟨hopen call (by simp), rest.filterMap (Call.routeFor? number), ?_, ?_⟩
      · refine ⟨before, rest, rfl, hbegun, ?_, rfl⟩
        intro other hother
        exact hopen other (List.mem_append_left _ hother)
      · rw [hroutes, List.filterMap_append]
        cases hroute : call.routeFor? number <;> simp [hroute]
  · rintro (⟨rfl, hbegun, hroutes⟩ | ⟨hcall, routes, hopen, hroutes⟩)
    · exact ⟨calls, [], rfl, hbegun, List.forall_mem_nil _, hroutes⟩
    · obtain ⟨before, after, rfl, hbegun, hopen, rfl⟩ := hopen
      refine ⟨before, after ++ [call], by simp, hbegun, ?_, ?_⟩
      · intro other hother
        rcases List.mem_append.mp hother with hother | hother
        · exact hopen other hother
        · rw [List.mem_singleton.mp hother]
          exact hcall
      · rw [hroutes, List.filterMap_append]
        cases hroute : call.routeFor? number <;> simp [hroute]

end Open

section Runs

variable (host : Host) (calls rest : List Call)

theorem run_append : host.run (calls ++ rest) = (host.run calls).run rest := by
  induction calls generalizing host with
  | nil => rfl
  | cons call calls ih => exact ih _

theorem outcomes_append :
    host.outcomes (calls ++ rest) = host.outcomes calls ++ (host.run calls).outcomes rest := by
  induction calls generalizing host with
  | nil => rfl
  | cons call calls ih =>
      rw [List.cons_append, outcomes, ih]
      rfl

theorem length_outcomes : (host.outcomes calls).length = calls.length := by
  induction calls generalizing host with
  | nil => rfl
  | cons call calls ih => simp [outcomes, ih]

end Runs

/-- Everything that a call can do to a host and what becomes of it. -/
inductive Steps (host : Host) : Call → Host → Outcome → Prop where
  | started (settings : Settings) :
      Steps host (.start settings true)
        { host with registrations := host.registrations ++ [some ⟨settings, []⟩] }
        (.started host.registrations.length)
  | noHandler (settings : Settings) :
      Steps host (.start settings false) host (.refused .missingHandler)
  | registered {number : Nat} {registration : Registration} (route : Route)
      (hopen : host.underWay? number = some registration) :
      Steps host (.register number route) (host.put number (some (registration.add route)))
        .registered
  | delivered {number : Nat} {registration : Registration} {document : Option ApiDocument}
      {text : String} (hopen : host.underWay? number = some registration)
      (htext : (registration.finish document).result = .ok text) :
      Steps host (.finish number document)
        { host.put number none with deliveries := host.deliveries ++ [(number, text)] }
        (.delivered text)
  | failed {number : Nat} {registration : Registration} {document : Option ApiDocument}
      {error : CompileError} (hopen : host.underWay? number = some registration)
      (herror : (registration.finish document).result = .error error) :
      Steps host (.finish number document) (host.put number none) (.refused error)
  | notUnderWay {call : Call} {number : Nat} (hcall : call.number? = some number)
      (hclosed : host.underWay? number = none) :
      Steps host call host .notUnderWay

section Step

variable {host next : Host} {call : Call} {outcome : Outcome} {number : Nat}

theorem steps_step (host : Host) (call : Call) :
    Steps host call (host.step call).1 (host.step call).2 := by
  cases call with
  | start settings hasHandler =>
      cases hasHandler with
      | false => exact .noHandler settings
      | true => exact .started settings
  | register number route =>
      have hcall : (Call.register number route).number? = some number := rfl
      cases h : host.underWay? number with
      | none =>
          simp only [step, h]
          exact .notUnderWay hcall h
      | some registration =>
          simp only [step, h]
          exact .registered route h
  | finish number document =>
      have hcall : (Call.finish number document).number? = some number := rfl
      cases h : host.underWay? number with
      | none =>
          simp only [step, h]
          exact .notUnderWay hcall h
      | some registration =>
          cases hresult : (registration.finish document).result with
          | error error =>
              simp only [step, h, hresult]
              exact .failed h hresult
          | ok text =>
              simp only [step, h, hresult]
              exact .delivered h hresult

theorem Steps.eq_step (h : Steps host call next outcome) : host.step call = (next, outcome) := by
  cases h with
  | started settings => rfl
  | noHandler settings => rfl
  | registered route hopen => simp only [step, hopen]
  | delivered hopen htext => simp only [step, hopen, htext]
  | failed hopen herror => simp only [step, hopen, herror]
  | notUnderWay hcall hclosed =>
      cases call with
      | start settings hasHandler => cases hcall
      | register other route =>
          cases hcall
          simp only [step, hclosed]
      | finish other document =>
          cases hcall
          simp only [step, hclosed]

theorem underWay?_put {registration : Registration} (other : Nat)
    (replacement : Option Registration) (hopen : host.underWay? number = some registration) :
    (host.put number replacement).underWay? other =
      if number = other then replacement else host.underWay? other := by
  have hsome : host.registrations[number]? = some (some registration) :=
    Option.join_eq_some_iff.mp hopen
  obtain ⟨hnumber, _⟩ := List.getElem?_eq_some_iff.mp hsome
  unfold underWay? put
  rw [List.getElem?_set]
  by_cases h : number = other
  · simp [h, h ▸ hnumber]
  · simp [h]

theorem underWay?_append (registration : Registration) :
    ({ host with registrations := host.registrations ++ [some registration] } : Host).underWay?
        number =
      if host.registrations.length = number then some registration else host.underWay? number := by
  unfold underWay?
  rcases Nat.lt_trichotomy number host.registrations.length with hlt | rfl | hgt
  · simp [List.getElem?_append_left hlt, Nat.ne_of_gt hlt]
  · simp
  · have hle : host.registrations.length ≤ number := Nat.le_of_lt hgt
    simp [List.getElem?_eq_none hle, List.getElem?_append_right hle, Nat.ne_of_lt hgt,
      Nat.sub_ne_zero_of_lt hgt]

/-- After a call, a registration is under way that it begins, or one that was under way and that it
does not finish, with one more route if it registers one. -/
theorem Steps.underWay?_eq_some_iff (h : Steps host call next outcome) {settings : Settings}
    {routes : List Route} :
    next.underWay? number = some ⟨settings, routes⟩ ↔
      (call = .start settings true ∧ host.registrations.length = number ∧ routes = []) ∨
      (¬ call.finishes number ∧ ∃ earlier, host.underWay? number = some ⟨settings, earlier⟩ ∧
        routes = earlier ++ (call.routeFor? number).toList) := by
  cases h with
  | started settings' =>
      rw [underWay?_append]
      by_cases hnumber : host.registrations.length = number
      · have hnone : host.underWay? number = none := by
          simp [underWay?, ← hnumber]
        simp [hnumber, hnone, Call.finishes, Call.routeFor?, eq_comm]
      · simp [hnumber, Call.finishes, Call.routeFor?]
  | noHandler settings' => simp [Call.finishes, Call.routeFor?]
  | @registered other registration route hopen =>
      rw [underWay?_put number _ hopen]
      by_cases hnumber : other = number
      · subst hnumber
        obtain ⟨settings', routes'⟩ := registration
        simp [hopen, Registration.add, Call.finishes, Call.routeFor?, eq_comm]
      · simp [hnumber, Call.finishes, Call.routeFor?]
  | @delivered other registration document text hopen htext =>
      -- Handing over the text comes after the end of the registration and changes nothing of it.
      change (host.put other none).underWay? number = _ ↔ _
      rw [underWay?_put number _ hopen]
      by_cases hnumber : other = number <;> simp [hnumber, Call.finishes, Call.routeFor?]
  | @failed other registration document error hopen herror =>
      rw [underWay?_put number _ hopen]
      by_cases hnumber : other = number <;> simp [hnumber, Call.finishes, Call.routeFor?]
  | @notUnderWay _ other hcall hclosed =>
      by_cases hnumber : other = number
      · subst hnumber
        cases call <;> simp_all [Call.number?]
      · cases call <;> simp_all [Call.number?, Call.finishes, Call.routeFor?]

theorem Steps.length_registrations (h : Steps host call next outcome) :
    next.registrations.length = host.registrations.length + if call.begins then 1 else 0 := by
  cases h with
  | started settings => simp [Call.begins]
  | noHandler settings => rfl
  | registered route hopen => simp [put, Call.begins]
  | delivered hopen htext => simp [put, Call.begins]
  | failed hopen herror => simp [put, Call.begins]
  | notUnderWay hcall hclosed => cases call <;> simp_all [Call.begins, Call.number?]

end Step

section Run

variable {calls : List Call} {number : Nat} {registration : Registration}

theorem length_registrations_run (calls : List Call) :
    (run {} calls).registrations.length = begun calls := by
  induction calls using List.reverseRecOn with
  | nil => rfl
  | append_singleton calls call ih =>
      rw [run_append, run, run, (steps_step _ call).length_registrations, ih, begun_append]
      cases h : call.begins <;> simp [begun, h]

/-- A registration is under way exactly if the calls so far have left it open. -/
theorem underWay?_run_iff :
    (run {} calls).underWay? number = some registration ↔ Open calls number registration := by
  induction calls using List.reverseRecOn generalizing registration with
  | nil =>
      constructor
      · rintro ⟨⟩
      · rintro ⟨before, after, heq, _⟩
        simp at heq
  | append_singleton calls call ih =>
      rw [run_append, run, run, (steps_step _ call).underWay?_eq_some_iff, open_concat,
        length_registrations_run]
      simp only [ih]

end Run

/-- What becomes of a call after others: told by the registration that they have left open under its
number, and by nothing else. -/
inductive Answers (before : List Call) : Call → Outcome → Prop where
  | started (settings : Settings) :
      Answers before (.start settings true) (.started (begun before))
  | noHandler (settings : Settings) :
      Answers before (.start settings false) (.refused .missingHandler)
  | registered {number : Nat} {registration : Registration} {route : Route}
      (hopen : Open before number registration) :
      Answers before (.register number route) .registered
  | delivered {number : Nat} {registration : Registration} {document : Option ApiDocument}
      {text : String} (hopen : Open before number registration)
      (htext : (compileText registration.routes
        (ServiceName.ofSources registration.settings.serviceName document)
        registration.settings).result = .ok text) :
      Answers before (.finish number document) (.delivered text)
  | failed {number : Nat} {registration : Registration} {document : Option ApiDocument}
      {error : CompileError} (hopen : Open before number registration)
      (herror : (compileText registration.routes
        (ServiceName.ofSources registration.settings.serviceName document)
        registration.settings).result = .error error) :
      Answers before (.finish number document) (.refused error)
  | notUnderWay {call : Call} {number : Nat} (hcall : call.number? = some number)
      (hclosed : ∀ registration, ¬ Open before number registration) :
      Answers before call .notUnderWay

/-- What is handed over by a call with an outcome. -/
def handedOver? : Call × Outcome → Option (Nat × String)
  | (.finish number _, .delivered text) => some (number, text)
  | _ => none

/-- Whether an outcome is that a document has been delivered. -/
def Outcome.isDelivered : Outcome → Bool
  | .delivered _ => true
  | _ => false

section Answers

variable {before calls : List Call} {call : Call} {outcome : Outcome} {number : Nat}

theorem underWay?_run_eq_none_iff :
    (run {} before).underWay? number = none ↔
      ∀ registration, ¬ Open before number registration := by
  rw [Option.eq_none_iff_forall_ne_some]
  simp only [ne_eq, underWay?_run_iff]

theorem answers_iff : Answers before call outcome ↔ ((run {} before).step call).2 = outcome := by
  constructor
  · intro h
    cases h with
    | started settings => exact congrArg Outcome.started (length_registrations_run before)
    | noHandler settings => rfl
    | registered hopen => rw [(Steps.registered _ (underWay?_run_iff.mpr hopen)).eq_step]
    | delivered hopen htext => rw [(Steps.delivered (underWay?_run_iff.mpr hopen) htext).eq_step]
    | failed hopen herror => rw [(Steps.failed (underWay?_run_iff.mpr hopen) herror).eq_step]
    | notUnderWay hcall hclosed =>
        rw [(Steps.notUnderWay hcall (underWay?_run_eq_none_iff.mpr hclosed)).eq_step]
  · rintro rfl
    -- Whatever the step does, it is told by what is under way, and so by what the calls left open.
    have hsteps := steps_step (run {} before) call
    generalize ((run {} before).step call).1 = next at hsteps
    generalize ((run {} before).step call).2 = outcome at hsteps ⊢
    cases hsteps with
    | started settings =>
        rw [length_registrations_run]
        exact .started settings
    | noHandler settings => exact .noHandler settings
    | registered route hopen => exact .registered (underWay?_run_iff.mp hopen)
    | delivered hopen htext => exact .delivered (underWay?_run_iff.mp hopen) htext
    | failed hopen herror => exact .failed (underWay?_run_iff.mp hopen) herror
    | notUnderWay hcall hclosed =>
        exact .notUnderWay hcall (underWay?_run_eq_none_iff.mp hclosed)

theorem Steps.deliveries {host next : Host} (h : Steps host call next outcome) :
    next.deliveries = host.deliveries ++ (handedOver? (call, outcome)).toList := by
  cases h with
  | notUnderWay hcall hclosed => cases call <;> simp [handedOver?]
  | _ => simp [handedOver?, put]

theorem Steps.handedOver?_isSome {host next : Host} (h : Steps host call next outcome) :
    (handedOver? (call, outcome)).isSome = outcome.isDelivered := by
  cases h with
  | notUnderWay hcall hclosed => cases call <;> rfl
  | _ => rfl

theorem deliveries_run (host : Host) (calls : List Call) :
    (host.run calls).deliveries =
      host.deliveries ++ (calls.zip (host.outcomes calls)).filterMap handedOver? := by
  induction calls generalizing host with
  | nil => simp [run]
  | cons call rest ih =>
      rw [run, ih, (steps_step host call).deliveries, outcomes, List.zip_cons_cons,
        List.append_assoc]
      cases hhanded : handedOver? (call, (host.step call).2) <;> simp [hhanded]

theorem length_deliveries_run (host : Host) (calls : List Call) :
    (host.run calls).deliveries.length =
      host.deliveries.length + (host.outcomes calls).countP Outcome.isDelivered := by
  induction calls generalizing host with
  | nil => rfl
  | cons call rest ih =>
      have hsteps := steps_step host call
      rw [run, ih, hsteps.deliveries, outcomes, List.countP_cons, List.length_append,
        ← hsteps.handedOver?_isSome]
      cases handedOver? (call, (host.step call).2) with
      | none => simp
      | some delivery =>
          simp only [Option.toList_some, List.length_singleton, Option.isSome_some, ↓reduceIte]
          omega

/-- Only the end of a registration that is under way hands something over. -/
theorem Steps.handedOver?_eq_some {host next : Host} (h : Steps host call next outcome)
    {delivery : Nat × String} (hhanded : handedOver? (call, outcome) = some delivery) :
    call.finishes delivery.1 ∧ (∃ document, call = .finish delivery.1 document) ∧
      ∃ registration, host.underWay? delivery.1 = some registration := by
  cases h with
  | delivered hopen htext =>
      cases hhanded
      exact ⟨by simp [Call.finishes], ⟨_, rfl⟩, _, hopen⟩
  | notUnderWay hcall hclosed => cases call <;> cases hhanded
  | _ => cases hhanded

/-- A registration whose text has been handed over has begun, has been finished, and is open no
more. -/
theorem closed_of_delivered (h : number ∈ (run {} calls).deliveries.map Prod.fst) :
    number < begun calls ∧ (∃ document, .finish number document ∈ calls) ∧
      ∀ registration, ¬ Open calls number registration := by
  induction calls using List.reverseRecOn with
  | nil => cases h
  | append_singleton calls call ih =>
      have hsteps := steps_step (run {} calls) call
      rw [run_append, run, run, hsteps.deliveries, List.map_append, List.mem_append] at h
      rcases h with h | h
      · obtain ⟨hlt, ⟨document, hfinish⟩, hclosed⟩ := ih h
        refine ⟨?_, ⟨document, List.mem_append_left _ hfinish⟩, ?_⟩
        · rw [begun_append]
          exact Nat.lt_add_right _ hlt
        · intro registration hopen
          -- A number is begun once: the next one to begin is above all numbers so far.
          rcases open_concat.mp hopen with ⟨_, hnumber, _⟩ | ⟨_, routes, hopen, _⟩
          · exact Nat.ne_of_gt hlt hnumber
          · exact hclosed _ hopen
      · obtain ⟨delivery, hdelivery, rfl⟩ := List.mem_map.mp h
        have hhanded := Option.mem_toList.mp hdelivery
        obtain ⟨hfinishes, ⟨document, rfl⟩, registration, hunderWay⟩ :=
          hsteps.handedOver?_eq_some hhanded
        refine ⟨?_, ⟨document, by simp⟩, ?_⟩
        · rw [begun_append]
          exact Nat.lt_add_right _ (underWay?_run_iff.mp hunderWay).number_lt
        · intro registration hopen
          rcases open_concat.mp hopen with ⟨hcall, _⟩ | ⟨hnot, _⟩
          · cases hcall
          · exact hnot hfinishes

theorem nodup_deliveries (calls : List Call) :
    ((run {} calls).deliveries.map Prod.fst).Nodup := by
  induction calls using List.reverseRecOn with
  | nil => exact List.nodup_nil
  | append_singleton calls call ih =>
      have hsteps := steps_step (run {} calls) call
      rw [run_append, run, run, hsteps.deliveries]
      cases hhanded : handedOver? (call, ((run {} calls).step call).2) with
      | none => simpa using ih
      | some delivery =>
          obtain ⟨_, _, registration, hunderWay⟩ := hsteps.handedOver?_eq_some hhanded
          -- What is handed over now was under way until now, and nothing closed is under way.
          have hfresh : delivery.1 ∉ (run {} calls).deliveries.map Prod.fst := by
            intro hmem
            obtain ⟨_, _, hclosed⟩ := closed_of_delivered hmem
            exact hclosed registration (underWay?_run_iff.mp hunderWay)
          rw [Option.toList_some, List.map_append, List.map_singleton]
          exact List.nodup_append.mpr ⟨ih, List.nodup_singleton _, by
            rintro number hmem _ hnew rfl
            exact hfresh (List.mem_singleton.mp hnew ▸ hmem)⟩

end Answers

/-- What becomes of each of the calls of a run is told by the calls before it: by whether somebody
is to receive the document, and by the settings and the routes of the registration that the call is
made to. The host hands over what succeeds, in order, at most once for each registration, and
nothing for a registration that is never finished. -/
theorem lifecycle (calls : List Call) :
    (∀ before call after, calls = before ++ call :: after →
      ∃ outcome, (outcomes {} calls)[before.length]? = some outcome ∧
        ∀ other, Answers before call other ↔ other = outcome) ∧
    (run {} calls).deliveries = (calls.zip (outcomes {} calls)).filterMap handedOver? ∧
    (run {} calls).deliveries.length = (outcomes {} calls).countP Outcome.isDelivered ∧
    ((run {} calls).deliveries.map Prod.fst).Nodup ∧
    (∀ number, (∀ document, .finish number document ∉ calls) →
      number ∉ (run {} calls).deliveries.map Prod.fst) ∧
    ∀ others number number' registration document, Open calls number registration →
      Open others number' registration →
      ((run {} calls).step (.finish number document)).2 =
        ((run {} others).step (.finish number' document)).2 := by
  refine ⟨?_, ?_, ?_, nodup_deliveries calls, ?_, ?_⟩
  · rintro before call after rfl
    refine ⟨((run {} before).step call).2, ?_, fun other => answers_iff.trans eq_comm⟩
    rw [outcomes_append, List.getElem?_append_right (Nat.le_of_eq (length_outcomes ..)),
      length_outcomes, Nat.sub_self]
    rfl
  · rw [deliveries_run]
    rfl
  · rw [length_deliveries_run]
    exact Nat.zero_add _
  · intro number hnever hmem
    obtain ⟨_, ⟨document, hfinish⟩, _⟩ := closed_of_delivered hmem
    exact hnever document hfinish
  · intro others number number' registration document hopen hopen'
    simp only [step, underWay?_run_iff.mpr hopen, underWay?_run_iff.mpr hopen']
    split <;> rfl

/-- Two registrations side by side: one is refused for a route of its own, the other takes its name
from a document. -/
def sideBySide : List Call :=
  [.start { serviceName := some "users" } true, .start {} true, .start {} false,
    .register 0 .putFlag, .register 1 .postUser, .finish 0 none,
    .finish 1 (some (ApiDocument.ofTitle "people")), .finish 1 none]

theorem lifecycle_sideBySide :
    ∃ text, (compileText [.postUser] ⟨none, some "people"⟩ {}).result = .ok text ∧
      (outcomes {} sideBySide)[6]? = some (.delivered text) ∧
      (run {} sideBySide).deliveries = [(1, text)] := by
  obtain ⟨hanswers, hdeliveries, _⟩ := lifecycle sideBySide
  refine ⟨_, rfl, ?_, ?_⟩
  · have hopen : Open (sideBySide.take 6) 1 ⟨{}, [.postUser]⟩ :=
      ⟨sideBySide.take 1, (sideBySide.take 6).drop 2, rfl, rfl, by decide, rfl⟩
    obtain ⟨outcome, houtcome, hanswer⟩ :=
      hanswers (sideBySide.take 6) _ (sideBySide.drop 7) rfl
    rw [(hanswer _).mp (.delivered hopen rfl)]
    exact houtcome
  · rw [hdeliveries]
    rfl

end RouteIdl.Host
