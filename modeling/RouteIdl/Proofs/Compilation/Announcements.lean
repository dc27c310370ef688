import Mathlib.Data.Finset.Card
import RouteIdl.Proofs.Compilation.Course

/-!
# Announcements

What a listener learns of a compilation as a whole: its start, every route that is reached with a
warning right behind it if the name is repeated, and its end, if it succeeds. Nothing of it depends
on how far the schemas of a route are taken up.
-/

namespace RouteIdl

open Idl

/-- The message of a record. -/
def Log.Record.message? (record : Log.Record) : Option String :=
  record.fields.lookup messageField

namespace Route

/-- What there is to notice about routes that are reached in turn, each after those before it. -/
def announcements (settings : Settings) : List Route → List Route → List Event :=
  inTurn fun earlier route => route.notices (earlier.map rpcName) settings

/-- The report that a route is taken up. -/
def started (route : Route) : Event :=
  .routeStarted route.method route.url route.rpcName

section Notices

variable {route : Route} {seen : List String} {settings : Settings}

theorem filter_info_notices :
    ((route.notices seen settings).map Event.record).filter (·.level == .info) = [] := by
  unfold notices
  split <;> rfl

theorem filter_started_notices :
    ((route.notices seen settings).map Event.record).filter
      (·.message? == some "compiling route") = [route.started.record] := by
  unfold notices
  split <;> rfl

theorem filter_warn_notices :
    ((route.notices seen settings).map Event.record).filter (·.level == .warn) =
      if settings.duplicates = .allow ∧ route.rpcName ∈ seen then
        [(Event.duplicateRpc route.rpcName route.url).record]
      else [] := by
  unfold notices
  split <;> rfl

end Notices

section Announcements

variable {settings : Settings} {routes reached : List Route}

/-- A listener that is shown no visit is left with the announcements. -/
theorem filter_turns {shown : Log.Record → Bool}
    (hvisit : ∀ visit : Visit, shown visit.event.record = false) (routes : List Route)
    (taken : List (Route × List Visit)) :
    ((turns settings routes taken).map Event.record).filter shown =
      ((announcements settings routes (taken.map Prod.fst)).map Event.record).filter shown := by
  simp only [turns, announcements, inTurn, List.zipIdx_map, List.flatMap_map, List.map_flatMap,
    List.filter_flatMap]
  refine List.flatMap_congr fun entry _ => ?_
  simp [hvisit]

theorem filter_announcements (shown : Log.Record → Bool) :
    ((announcements settings routes reached).map Event.record).filter shown =
      reached.zipIdx.flatMap fun entry =>
        ((entry.1.notices ((routes.take entry.2).map rpcName) settings).map Event.record).filter
          shown := by
  simp only [announcements, inTurn, List.map_flatMap, List.filter_flatMap]

theorem filter_document_announcements :
    ((announcements settings routes reached).map Event.record).filter
        (·.target == Event.documentTarget) =
      (announcements settings routes reached).map Event.record := by
  refine List.filter_eq_self.mpr fun record hrecord => ?_
  obtain ⟨event, hevent, rfl⟩ := List.mem_map.mp hrecord
  obtain ⟨entry, -, hnotice⟩ := List.mem_flatMap.mp hevent
  exact beq_iff_eq.mpr (target_notices event hnotice)

theorem filter_info_announcements :
    ((announcements settings routes reached).map Event.record).filter (·.level == .info) = [] := by
  simp [filter_announcements, filter_info_notices]

/-- Every route that is reached is announced once. -/
theorem filter_started_announcements :
    ((announcements settings routes reached).map Event.record).filter
      (·.message? == some "compiling route") = reached.map fun route => route.started.record := by
  simp only [filter_announcements, filter_started_notices]
  rw [flatMap_fst_zipIdx fun route : Route => [route.started.record]]
  exact List.map_eq_flatMap.symm

theorem filter_warn_announcements_of_reject (hreject : settings.duplicates = .reject) :
    ((announcements settings routes reached).map Event.record).filter (·.level == .warn) = [] := by
  simp [filter_announcements, filter_warn_notices, hreject]

theorem announcements_concat {route : Route} :
    announcements settings (routes ++ [route]) (routes ++ [route]) =
      announcements settings routes routes ++ route.notices (routes.map rpcName) settings := by
  rw [announcements, inTurn_concat, inTurn_append le_rfl, List.take_left]

theorem card_toFinset_concat (names : List String) (name : String) :
    (names ++ [name]).toFinset.card = names.toFinset.card + if name ∈ names then 0 else 1 := by
  have hset : (names ++ [name]).toFinset = insert name names.toFinset := by
    ext other
    simp
  rw [hset]
  split
  next hmem => rw [Finset.insert_eq_of_mem (List.mem_toFinset.mpr hmem), Nat.add_zero]
  next hmem => exact Finset.card_insert_of_notMem (mt List.mem_toFinset.mp hmem)

/-- With repeated names allowed, there is one warning for each route whose name is not new. -/
theorem warnings_add_distinct (hallow : settings.duplicates = .allow) (routes : List Route) :
    (((announcements settings routes routes).map Event.record).filter (·.level == .warn)).length +
      (routes.map rpcName).toFinset.card = routes.length := by
  induction routes using List.reverseRecOn with
  | nil => rfl
  | append_singleton routes route ih =>
      rw [announcements_concat, List.map_append, List.filter_append, filter_warn_notices,
        List.map_append, List.map_singleton, card_toFinset_concat, List.length_append,
        List.length_append, List.length_singleton, ← ih]
      -- The last name is either warned of or counted among the distinct ones.
      by_cases hseen : route.rpcName ∈ routes.map rpcName
      · rw [if_pos ⟨hallow, hseen⟩, if_pos hseen, List.length_singleton]
        omega
      · rw [if_neg (mt And.right hseen), if_neg hseen, List.length_nil]
        omega

end Announcements

end Route

/-- The records of a compilation that reaches some of its routes and then ends in a conclusion. -/
structure Announces (routes reached : List Route) (service : String) (settings : Settings)
    (conclusion : List Event) (records : List Log.Record) : Prop where
  /-- After the start, what there is to notice about each route that is reached comes in one piece,
  and before the next route only visits of its schemas follow. The conclusion is last. -/
  whole : ∃ taken : List (Route × List Visit), taken.map Prod.fst = reached ∧
    records = (Event.passStarted service routes.length ::
      (Route.turns settings routes taken ++ conclusion)).map Event.record
  /-- Without the visits, the announcements are left. -/
  document : records.filter (·.target == Event.documentTarget) =
    (Event.passStarted service routes.length ::
      (Route.announcements settings routes reached ++ conclusion)).map Event.record
  /-- Every route that is reached is announced once. -/
  started : records.filter (·.message? == some "compiling route") =
    reached.map fun route => route.started.record
  /-- Nothing but a repeated name is warned of. -/
  warned : records.filter (·.level == .warn) =
    ((Route.announcements settings routes reached).map Event.record).filter (·.level == .warn)
  /-- Nothing but the conclusion is information on the result. -/
  informed : records.filter (·.level == .info) = conclusion.map Event.record

/-- A compilation fails at a position: the routes before it are compiled, but not together with the
one that stands there. -/
def FailsAt (routes : List Route) (name : ServiceName) (settings : Settings) (position : Nat) :
    Prop :=
  position < routes.length ∧
    (∃ text, (compileText (routes.take position) name settings).result = .ok text) ∧
    ∃ error, (compileText (routes.take (position + 1)) name settings).result = .error error

section Conclusions

variable {routes reached : List Route} {name : ServiceName} {service : String}
  {settings : Settings} {conclusion : List Event}

theorem filter_pass {shown : Log.Record → Bool}
    (hvisit : ∀ visit : Visit, shown visit.event.record = false)
    (taken : List (Route × List Visit)) :
    ((Event.passStarted service routes.length ::
        (Route.turns settings routes taken ++ conclusion)).map Event.record).filter shown =
      [(Event.passStarted service routes.length).record].filter shown ++
        (((Route.announcements settings routes (taken.map Prod.fst)).map Event.record).filter
          shown ++ (conclusion.map Event.record).filter shown) := by
  rw [← Route.filter_turns hvisit, ← List.filter_append, ← List.filter_append, ← List.map_append]
  rfl

theorem announces_of_events {events : List Event} {taken : List (Route × List Visit)}
    (hevents : events =
      .passStarted service routes.length :: (Route.turns settings routes taken ++ conclusion))
    (hconclusion : conclusion = [] ∨
      ∃ messages rpcs, conclusion = [.passFinished service messages rpcs]) :
    Announces routes (taken.map Prod.fst) service settings conclusion
      (events.map Event.record) := by
  subst hevents
  constructor
  · exact ⟨taken, rfl, rfl⟩
  · rw [filter_pass fun _ => rfl, Route.filter_document_announcements]
    rw [List.map_cons, List.map_append]
    rcases hconclusion with rfl | ⟨messages, rpcs, rfl⟩ <;> rfl
  · rw [filter_pass fun _ => rfl, Route.filter_started_announcements]
    rcases hconclusion with rfl | ⟨messages, rpcs, rfl⟩ <;> exact List.append_nil _
  · rw [filter_pass fun _ => rfl]
    rcases hconclusion with rfl | ⟨messages, rpcs, rfl⟩ <;> exact List.append_nil _
  · rw [filter_pass fun _ => rfl, Route.filter_info_announcements]
    rcases hconclusion with rfl | ⟨messages, rpcs, rfl⟩ <;> rfl

theorem Announces.unwarned {records : List Log.Record}
    (h : Announces routes reached service settings conclusion records)
    (hreject : settings.duplicates = .reject) : records.filter (·.level == .warn) = [] := by
  rw [h.warned, Route.filter_warn_announcements_of_reject hreject]

/-- What is compiled is compiled without its last routes. -/
theorem exists_compileText_of_prefix {earlier : List Route} (hservice : name.resolve = .ok service)
    (hinitial : earlier <+: routes)
    (h : ∃ text, (compileText routes name settings).result = .ok text) :
    ∃ text, (compileText earlier name settings).result = .ok text := by
  obtain ⟨text, htext⟩ := h
  obtain ⟨document, hdocument, -⟩ := compileText_eq_ok_iff.mp htext
  obtain ⟨hnames, hparts⟩ := (exists_compile_iff hservice).mp ⟨document, hdocument⟩
  have hearlier : ∃ document, (compile earlier name settings).result = .ok document := by
    refine (exists_compile_iff hservice).mpr ⟨fun hreject => ?_, fun route hroute => ?_⟩
    · exact ⟨(hnames hreject).1.sublist (hinitial.sublist.map _), fun _ _ => List.not_mem_nil⟩
    · exact hparts route (hinitial.subset hroute)
  obtain ⟨document, hdocument⟩ := hearlier
  exact ⟨_, compileText_eq_ok_iff.mpr ⟨document, hdocument, rfl⟩⟩

theorem not_failsAt_of_ok (hservice : name.resolve = .ok service) {text : String}
    (h : (compileText routes name settings).result = .ok text) (position : Nat) :
    ¬ FailsAt routes name settings position := by
  rintro ⟨-, -, error, herror⟩
  obtain ⟨_, hok⟩ :=
    exists_compileText_of_prefix hservice (List.take_prefix (position + 1) routes) ⟨text, h⟩
  rw [hok] at herror
  cases herror

/-- A compilation fails at the position of the route that is refused and nowhere else. -/
theorem failsAt_iff (hservice : name.resolve = .ok service) {before after : List Route}
    {route : Route} {error : CompileError}
    (hbefore : ∃ text, (compileText before name settings).result = .ok text)
    (hrefused : route.Refused (before.map Route.rpcName) settings error) (position : Nat) :
    FailsAt (before ++ route :: after) name settings position ↔ position = before.length := by
  have hlast : (compileText (before ++ [route]) name settings).result = .error error := by
    obtain ⟨text, htext⟩ := hbefore
    obtain ⟨document, hdocument, -⟩ := compileText_eq_ok_iff.mp htext
    refine compileText_eq_error_iff.mpr ((compile_eq_error_iff hservice).mpr ?_)
    exact ⟨before, route, [], rfl, ⟨document, hdocument⟩, hrefused⟩
  have htake : (before ++ route :: after).take (before.length + 1) = before ++ [route] := by
    rw [List.take_length_add_append]
    rfl
  constructor
  · rintro ⟨hlt, hok, error', herror'⟩
    rcases Nat.lt_trichotomy position before.length with hless | rfl | hgreater
    -- Up to a position among the routes before, everything is compiled.
    · have hinitial : (before ++ route :: after).take (position + 1) <+: before := by
        rw [List.take_append_of_le_length (by omega)]
        exact List.take_prefix _ _
      obtain ⟨_, hok'⟩ := exists_compileText_of_prefix hservice hinitial hbefore
      rw [hok'] at herror'
      cases herror'
    · rfl
    -- Before a later position, the refused route is among those that would have to be compiled.
    · have hinitial : before ++ [route] <+: (before ++ route :: after).take position := by
        rw [← htake]
        exact List.take_prefix_take_left (by omega)
      obtain ⟨_, hok'⟩ := exists_compileText_of_prefix hservice hinitial hok
      rw [hok'] at hlast
      cases hlast
  · rintro rfl
    refine ⟨by simp, ?_, error, htake ▸ hlast⟩
    rw [List.take_left]
    exact hbefore

end Conclusions

/-- A listener at the finest threshold learns from a compilation nothing if the service has no name.
Otherwise it learns of the start, of each route up to the one that is refused, if any is, with a
warning exactly if repeated names are allowed and the name is repeated, and at last of the end, with
the numbers of messages and procedures in the text, exactly if there is a text. -/
theorem compileText_announced (routes : List Route) (name : ServiceName) (settings : Settings) :
    (∀ error, name.resolve = .error error →
      (compileText routes name settings).observed .trace = []) ∧
    ∀ service records, name.resolve = .ok service →
      (compileText routes name settings).observed .trace = records →
      ∃ reached conclusion, Announces routes reached service settings conclusion records ∧
        (∀ text, (compileText routes name settings).result = .ok text → reached = routes ∧
          (∃ parts, Blocks routes service settings parts text ∧ conclusion =
            [.passFinished service (parts.flatMap (·.1)).length (parts.map (·.2)).length]) ∧
          (settings.duplicates = .allow → (records.filter (·.level == .warn)).length +
            (routes.map Route.rpcName).toFinset.card = routes.length)) ∧
        (∀ error, (compileText routes name settings).result = .error error →
          conclusion = [] ∧ ∃ position, FailsAt routes name settings position) ∧
        (∀ position, FailsAt routes name settings position →
          reached = routes.take (position + 1) ∧
            (records.filter (·.message? == some "compiling route")).length = position + 1) ∧
        (settings.duplicates = .reject → records.filter (·.level == .warn) = []) := by
  constructor
  · intro error herror
    rw [compileText_of_no_service herror]
    rfl
  intro service records hservice hrecords
  rw [Traced.observed_trace] at hrecords
  have hcourse : Course routes name service settings := course_of_service hservice
  cases hcourse with
  | completes text parts hresult hblocks hevents =>
      have hannounces := announces_of_events hevents (.inr ⟨_, _, rfl⟩)
      rw [hrecords, Route.map_fst_inFull] at hannounces
      refine ⟨routes, _, hannounces, fun text' h => ?_, fun error h => ?_, fun position h => ?_,
        hannounces.unwarned⟩
      · obtain rfl : text = text' := Except.ok.inj (hresult.symm.trans h)
        refine ⟨rfl, ⟨parts, hblocks, rfl⟩, fun hallow => ?_⟩
        rw [hannounces.warned]
        exact Route.warnings_add_distinct hallow routes
      · rw [hresult] at h
        cases h
      · exact absurd h (not_failsAt_of_ok hservice hresult position)
  | stops before route after visited error hroutes hbefore hresult hrefused hstops hevents =>
      have hfails (position : Nat) :
          FailsAt routes name settings position ↔ position = before.length :=
        hroutes ▸ failsAt_iff hservice hbefore hrefused position
      rw [← List.append_nil (Route.turns _ _ _)] at hevents
      have hannounces := announces_of_events hevents (.inl rfl)
      rw [hrecords, List.map_append, Route.map_fst_inFull, List.map_singleton] at hannounces
      refine ⟨before ++ [route], [], hannounces, fun text h => ?_,
        fun _ _ => ⟨rfl, before.length, ?_⟩, fun position h => ?_, hannounces.unwarned⟩
      · rw [hresult] at h
        cases h
      · exact (hfails _).mpr rfl
      · obtain rfl := (hfails position).mp h
        constructor
        · rw [hroutes, List.take_length_add_append]
          rfl
        · rw [hannounces.started, List.length_map, List.length_append, List.length_singleton]

/-- A route that is listed twice is warned of once if that is allowed. If it is not, nothing is
warned of, and the compilation ends after the route was announced again. -/
theorem compileText_announced_twice :
    ServiceName.resolve ⟨some "users", none⟩ = .ok "users" ∧
      (∃ text, (compileText [.getUser, .postUser, .getUser] ⟨some "users", none⟩ {}).result =
          .ok text ∧
        (((compileText [.getUser, .postUser, .getUser] ⟨some "users", none⟩ {}).observed
          .trace).filter (·.level == .warn)).length = 1) ∧
      FailsAt [.getUser, .postUser, .getUser] ⟨some "users", none⟩ { duplicates := .reject } 2 ∧
      ((compileText [.getUser, .postUser, .getUser] ⟨some "users", none⟩
        { duplicates := .reject }).observed .trace).filter (·.level == .warn) = [] ∧
      (((compileText [.getUser, .postUser, .getUser] ⟨some "users", none⟩
        { duplicates := .reject }).observed .trace).filter
          (·.message? == some "compiling route")).length = 3 := by
  have hfails : FailsAt [.getUser, .postUser, .getUser] ⟨some "users", none⟩
      { duplicates := .reject } 2 := ⟨by decide, ⟨_, rfl⟩, ⟨_, rfl⟩⟩
  obtain ⟨_, _, _, hok, _⟩ :=
    (compileText_announced [.getUser, .postUser, .getUser] ⟨some "users", none⟩ {}).2 "users" _
      rfl rfl
  obtain ⟨_, _, hcount⟩ := hok _ rfl
  obtain ⟨_, _, _, _, _, hreached, hreject⟩ :=
    (compileText_announced [.getUser, .postUser, .getUser] ⟨some "users", none⟩
      { duplicates := .reject }).2 "users" _ rfl rfl
  refine ⟨rfl, ⟨_, rfl, ?_⟩, hfails, hreject rfl, (hreached 2 hfails).2⟩
  have hdistinct : ([.getUser, .postUser, .getUser].map Route.rpcName).toFinset.card = 2 := by
    decide
  have hwarned := hcount rfl
  rw [hdistinct] at hwarned
  exact Nat.add_right_cancel hwarned

end RouteIdl
