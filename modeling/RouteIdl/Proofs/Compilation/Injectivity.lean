import RouteIdl.Proofs.Compilation.Locality
import RouteIdl.Proofs.Identifier
import RouteIdl.Proofs.Idl.Procedures

/-!
# Routes behind a document

A document of routes without schemas tells these routes apart, in order, by method, URL and
visibility. Texts are quoted as they are, so this rests on the URLs and the visibilities not going
on as the document does behind them. A method may be any text, as the name of the procedure gives it
away.
-/

namespace RouteIdl

open Idl

namespace Route

variable {service : String} {settings : Settings} {route other : Route}

/-- Two routes with one method, one URL and one visibility. -/
structure SameCall (settings : Settings) (route other : Route) : Prop where
  method : route.method = other.method
  url : route.url = other.url
  visibility : route.effectiveVisibility settings = other.effectiveVisibility settings

/-- The URL of a route does not reach into the option with the method, nor the visibility beyond the
end of the procedure. -/
structure Contained (settings : Settings) (route : Route) : Prop where
  url : ¬ Rpc.afterUrl <:+: route.url.toList
  visibility : ¬ Rpc.lastEnd <:+: (route.effectiveVisibility settings).toList

/-! ## Names -/

/-- What stands between the name of a procedure and its URL without the service. -/
def afterName : List Char :=
  "( google.protobuf.Empty ) returns( string ) \x7b\n".toList ++
    "    option (msp.http).templatedUrl = \"/".toList

theorem isDelimiter_afterName : IsDelimiter afterName := by
  decide +kernel

/-- The method gives a name no `E` after a point and the URL no slash. -/
theorem not_afterName_infix_rpcName (route : Route) : ¬ afterName <:+: route.rpcName.toList := by
  have hpoint : ¬ ['.', 'E'].IsChain Identifier.MayPrecede := by
    simp [Identifier.MayPrecede]
  have hslash : '/' ∉ (Identifier.segments route.url.toList).flatMap Identifier.ofSegment :=
    Identifier.not_mem_flatMap_segments (by decide) (by decide) _
  have hend : afterName.getLast? = some '/' := by decide +kernel
  rw [rpcName, Identifier.rpc, String.toList_ofList, Identifier.rpcChars,
    List.infix_append_iff_ne_nil]
  rintro (hmethod | hurl | ⟨start, finish, -, hfinish, heq, -, hurl⟩)
  · have hpair : ['.', 'E'] <:+: afterName := by decide +kernel
    apply hpoint
    exact List.IsChain.infix (Identifier.isChain_ofSegment _) (hpair.trans hmethod)
  · exact hslash (hurl.subset (List.mem_of_getLast? hend))
  · rw [heq, List.getLast?_append_of_ne_nil _ hfinish] at hend
    exact hslash (hurl.subset (List.mem_of_getLast? hend))

/-- With the URL, a name gives away how many quotes the method has. -/
theorem count_quote_of_rpcName_eq (hname : route.rpcName = other.rpcName)
    (hurl : route.url = other.url) :
    route.method.toList.count '"' = other.method.toList.count '"' := by
  rw [rpcName, rpcName, Identifier.rpc, Identifier.rpc, String.ofList_inj, Identifier.rpcChars,
    Identifier.rpcChars, hurl, List.append_cancel_right_eq] at hname
  have hcount (method : String) :
      (Identifier.ofSegment method.toList).count '"' = method.toList.count '"' :=
    Identifier.count_ofSegment (by decide) (by decide) _
  rw [← hcount, ← hcount, hname]

/-! ## Procedures -/

/-- The procedure of a route without schemas. -/
def plainRpc (service : String) (settings : Settings) (route : Route) : Rpc :=
  route.rpc route.rpcName {} service settings

theorem contribution_of_no_schema (hschema : route.schema = none) :
    route.contribution service settings = pure ([], route.plainRpc service settings) := by
  have hparams : Params.ofRoute route = {} := by simp [Params.ofRoute, hschema]
  simp only [contribution, requestMessages, responseMessages, hparams, hschema]
  rfl

/-- The text of a procedure, with the texts of its route set apart. -/
theorem plainRpc_chars (hschema : route.schema = none) :
    (route.plainRpc service settings).chars =
      "\n  rpc ".toList ++ (route.rpcName.toList ++ (afterName ++ (service.toList ++
        (route.url.toList ++ (Rpc.afterUrl ++ '"' :: (route.method.toList ++
          '"' :: ((route.plainRpc service settings).afterMethod ++
            ((route.effectiveVisibility settings).toList ++
              (route.plainRpc service settings).ending)))))))) := by
  have hrequest : (route.plainRpc service settings).request = emptyType := rfl
  have hresponse : (route.plainRpc service settings).response = textType := by
    simp [plainRpc, rpc, hschema]
  have hbefore : (route.plainRpc service settings).beforeUrl ++ ['/'] = afterName := by
    rw [Rpc.beforeUrl, hrequest, hresponse]
    decide +kernel
  have hurl : (route.plainRpc service settings).url.toList =
      '/' :: (service.toList ++ route.url.toList) := by
    simp [plainRpc, rpc]
  rw [Rpc.chars_eq, ← hbefore, hurl]
  simp only [List.append_assoc, List.cons_append, List.nil_append]
  rfl

theorem afterMethod_plainRpc (route other : Route) :
    (route.plainRpc service settings).afterMethod =
      (other.plainRpc service settings).afterMethod := by
  simp only [Rpc.afterMethod, plainRpc, rpc]

theorem ending_plainRpc (hbody : route.hasRequestBody = other.hasRequestBody) :
    (route.plainRpc service settings).ending = (other.plainRpc service settings).ending := by
  simp [Rpc.ending, plainRpc, rpc, hbody]

/-- Whether a request has a body decides how the procedure ends. Either way the end is that of a
procedure and does not overlap itself. -/
theorem isDelimiter_ending (service : String) (settings : Settings) (route : Route) :
    IsDelimiter (route.plainRpc service settings).ending ∧
      Rpc.lastEnd <:+: (route.plainRpc service settings).ending := by
  refine ⟨?_, List.infix_append_right⟩
  cases hbody : route.hasRequestBody with
  | false =>
      have hending : (route.plainRpc service settings).ending = Rpc.lastEnd := by
        simp [Rpc.ending, plainRpc, rpc, hbody]
      rw [hending]
      decide
  | true =>
      have hending : (route.plainRpc service settings).ending =
          "\";\n    option (msp.http).body = \"request".toList ++ Rpc.lastEnd := by
        simp [Rpc.ending, plainRpc, rpc, hbody]
      rw [hending]
      decide +kernel

/-- The text of a procedure tells its route from others and itself from what follows. -/
theorem sameCall_of_chars (hschema : route.schema = none) (hschema' : other.schema = none)
    (hroute : route.Contained settings) (hother : other.Contained settings)
    {rest rest' : List Char}
    (h : (route.plainRpc service settings).chars ++ rest =
      (other.plainRpc service settings).chars ++ rest') :
    route.SameCall settings other ∧ rest = rest' := by
  rw [plainRpc_chars hschema, plainRpc_chars hschema'] at h
  simp only [List.append_assoc, List.cons_append, List.append_cancel_left_eq] at h
  obtain ⟨hname, h⟩ := isDelimiter_afterName.cancel route.not_afterName_infix_rpcName
    other.not_afterName_infix_rpcName h
  rw [List.append_cancel_left_eq] at h
  obtain ⟨hurl, h⟩ := Rpc.isDelimiter_afterUrl.cancel hroute.url hother.url h
  rw [String.toList_inj] at hname hurl
  have hquote := List.tail_eq_of_cons_eq h
  -- A method may hold the end of its option, but not as often as one that goes on after it.
  have hmethod : route.method = other.method := by
    rw [← String.toList_inj]
    exact eq_of_count_eq (count_quote_of_rpcName_eq hname hurl) hquote
  have hbody : route.hasRequestBody = other.hasRequestBody := by
    rw [hasRequestBody, hasRequestBody, hmethod]
  rw [hmethod, afterMethod_plainRpc route other, ending_plainRpc hbody] at hquote
  simp only [List.append_cancel_left_eq, List.cons.injEq, true_and] at hquote
  obtain ⟨hdelimiter, hend⟩ := isDelimiter_ending service settings other
  obtain ⟨hvisibility, hrest⟩ := hdelimiter.cancel
    (fun hinside => hroute.visibility (hend.trans hinside))
    (fun hinside => hother.visibility (hend.trans hinside)) hquote
  exact ⟨⟨hmethod, hurl, String.toList_inj.mp hvisibility⟩, hrest⟩

/-- The text of procedures tells the routes behind them, and how many they are. -/
theorem sameCalls_of_chars {routes others : List Route}
    (hroutes : ∀ route ∈ routes, route.schema = none ∧ route.Contained settings)
    (hothers : ∀ other ∈ others, other.schema = none ∧ other.Contained settings)
    (h : routes.flatMap (fun route => (route.plainRpc service settings).chars) ++ ['\x7d'] =
      others.flatMap (fun other => (other.plainRpc service settings).chars) ++ ['\x7d']) :
    List.Forall₂ (SameCall settings) routes others := by
  induction routes generalizing others with
  | nil =>
      cases others with
      | nil => exact .nil
      | cons other others => simp [Rpc.chars_eq] at h
  | cons route routes ih =>
      cases others with
      | nil => simp [Rpc.chars_eq] at h
      | cons other others =>
          obtain ⟨hroute, hroutes⟩ := List.forall_mem_cons.mp hroutes
          obtain ⟨hother, hothers⟩ := List.forall_mem_cons.mp hothers
          rw [List.flatMap_cons, List.flatMap_cons, List.append_assoc, List.append_assoc] at h
          obtain ⟨hsame, hrest⟩ := sameCall_of_chars hroute.1 hother.1 hroute.2 hother.2 h
          exact .cons hsame (ih hroutes hothers hrest)

end Route

/-! ## Documents -/

section Document

variable {routes others : List Route} {name : ServiceName} {service : String} {settings : Settings}

theorem compile_of_no_schema (hallow : settings.duplicates = .allow)
    (hservice : name.resolve = .ok service) (hschema : ∀ route ∈ routes, route.schema = none) :
    (compile routes name settings).result =
      .ok ⟨[], Service.sole service (routes.map (Route.plainRpc service settings))⟩ := by
  refine (compile_eq_ok_iff hservice).mpr ⟨namesAccepted_of_allow hallow [],
    routes.map fun route => ([], route.plainRpc service settings), ?_, ?_⟩
  · rw [List.forall₂_map_right_iff, List.forall₂_same]
    intro route hroute
    rw [Route.contribution_of_no_schema (hschema route hroute), Traced.result_pure]
  · simp [Document.ofParts, Function.comp_def]

theorem compileText_of_no_schema (hallow : settings.duplicates = .allow)
    (hservice : name.resolve = .ok service) (hschema : ∀ route ∈ routes, route.schema = none) :
    (compileText routes name settings).result =
      .ok (Service.sole service (routes.map (Route.plainRpc service settings))).text := by
  refine compileText_eq_ok_iff.mpr ⟨_, compile_of_no_schema hallow hservice hschema, ?_⟩
  simp [Document.text]

end Document

namespace Route

/-- A route without schemas and with the default visibility. -/
def plain (method url : String) : Route :=
  ⟨method, url, none, none⟩

/-- A route with texts that hold parts of a document. -/
def quoting : Route :=
  ⟨"GET\";\n  \x7d\n", "/users\";\n  \x7d\n", none, some "\";\n\n  rpc "⟩

/-- A route that declares the default visibility. -/
def internal : Route :=
  ⟨"GET", "/orders", none, some "internal"⟩

end Route

namespace Route

variable {service : String} {settings : Settings}

/-- The visibility of a route, and behind it all that another route would add to a document, up to
the end of its visibility. -/
def disguise (service : String) (settings : Settings) (route other : Route) : List Char :=
  (route.effectiveVisibility settings).toList ++ ((route.plainRpc service settings).ending ++
    ("\n  rpc ".toList ++ (other.rpcName.toList ++ (afterName ++ (service.toList ++
      (other.url.toList ++ (Rpc.afterUrl ++ '"' :: (other.method.toList ++
        '"' :: ((other.plainRpc service settings).afterMethod ++
          (other.effectiveVisibility settings).toList)))))))))

/-- Any procedure can be hidden in the visibility of another one. -/
theorem chars_of_disguise (route other : Route) {visibility : String}
    (hschema : route.schema = none) (hschema' : other.schema = none)
    (hbody : route.hasRequestBody = other.hasRequestBody)
    (hvisibility : visibility.toList = route.disguise service settings other) :
    (plainRpc service settings { route with visibility := some visibility }).chars =
      (route.plainRpc service settings).chars ++ (other.plainRpc service settings).chars := by
  have hending : (plainRpc service settings { route with visibility := some visibility }).ending =
      (other.plainRpc service settings).ending := ending_plainRpc hbody
  have htext : (effectiveVisibility { route with visibility := some visibility } settings).toList =
      route.disguise service settings other := hvisibility
  rw [plainRpc_chars hschema, plainRpc_chars hschema', plainRpc_chars (by exact hschema), htext,
    hending, disguise]
  simp only [List.append_assoc, List.cons_append]
  rfl

/-- A visibility with a procedure for orders in it. -/
def forgedVisibility : String :=
  "internal" ++ "\";\n  \x7d\n" ++ "\n  rpc " ++ "GetOrders" ++
    "( google.protobuf.Empty ) returns( string ) \x7b\n" ++
    "    option (msp.http).templatedUrl = \"/" ++ "shop" ++ "/orders" ++
    "\";\n    option (msp.http).method = " ++ "\"" ++ "GET" ++ "\"" ++
    ";\n    option (msp.http).timeout = 5000;\n" ++
    "    option (msp.http).visibility = \"" ++ "internal"

theorem toList_forgedVisibility :
    forgedVisibility.toList =
      (plain "GET" "/users").disguise "shop" {} (plain "GET" "/orders") := by
  unfold forgedVisibility
  repeat rw [String.toList_append]
  decide +kernel

theorem chars_forgedVisibility :
    (plainRpc "shop" {} ⟨"GET", "/users", none, some forgedVisibility⟩).chars =
      ((plain "GET" "/users").plainRpc "shop" {}).chars ++
        ((plain "GET" "/orders").plainRpc "shop" {}).chars :=
  chars_of_disguise (plain "GET" "/users") (plain "GET" "/orders") rfl rfl rfl
    toList_forgedVisibility

/-- What stands between URL and method, with the quote before the method. -/
def forgedMethod : String :=
  "\";\n    option (msp.http).method = \""

/-- What stands between URL and method can be part of the one as well as of the other. -/
theorem chars_forgedMethod :
    ((plain "" forgedMethod).plainRpc "shop" {}).chars =
      ((plain forgedMethod "").plainRpc "shop" {}).chars := by
  have hmethod : forgedMethod.toList = Rpc.afterUrl ++ ['"'] := by decide
  have hname : (plain "" forgedMethod).rpcName = (plain forgedMethod "").rpcName := by
    decide
  have hbody : (plain "" forgedMethod).hasRequestBody =
      (plain forgedMethod "").hasRequestBody := by
    decide +kernel
  rw [plainRpc_chars (by rfl), plainRpc_chars (by rfl), hname, ending_plainRpc hbody,
    afterMethod_plainRpc (plain "" forgedMethod) (plain forgedMethod "")]
  simp [plain, hmethod, effectiveVisibility]

end Route

theorem exists_text_of_chars {routes others : List Route} {name : ServiceName} {service : String}
    {settings : Settings} (hallow : settings.duplicates = .allow)
    (hservice : name.resolve = .ok service)
    (hschema : ∀ route ∈ routes ++ others, route.schema = none)
    (h : routes.flatMap (fun route => (route.plainRpc service settings).chars) =
      others.flatMap fun other => (other.plainRpc service settings).chars) :
    ∃ text, (compileText routes name settings).result = .ok text ∧
      (compileText others name settings).result = .ok text := by
  obtain ⟨hschema, hschema'⟩ := List.forall_mem_append.mp hschema
  refine ⟨_, compileText_of_no_schema hallow hservice hschema, ?_⟩
  rw [compileText_of_no_schema hallow hservice hschema', Except.ok.injEq, ← String.toList_inj,
    Service.toList_text, Service.toList_text]
  simp only [Service.sole, Service.opening, List.flatMap_map, h]

end RouteIdl
