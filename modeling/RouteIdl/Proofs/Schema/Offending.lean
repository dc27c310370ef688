import RouteIdl.Proofs.Schema.Visits

/-!
# Offending schema nodes

The schema nodes without a counterpart in a message, in terms of their keywords; only the items of
an array are judged by their shape. A computation follows visits if it takes them up one by one and
ends at the first that offends.
-/

namespace RouteIdl

open Schema

/-- Whether a list of values of this shape has a counterpart: objects and the two scalar kinds. -/
def Schema.Listable : Schema → Prop
  | .object _ _ => True
  | .primitive kind _ => kind = "number" ∨ kind = "string"
  | _ => False

/-- The schema nodes without a counterpart in a message. -/
inductive Offending : Json → Prop where
  /-- A value that is not an object. -/
  | notObject {node : Json} (hnode : ∀ members, node ≠ .object members) : Offending node
  /-- Keywords, but neither a type nor alternatives among them. -/
  | shapeless {members : List (String × Json)} (hkeywords : members ≠ [])
      (htype : typeKeyword? members = none) (hvariants : variantNodes? members = none) :
      Offending (.object members)
  /-- An array without items. -/
  | withoutItems {members : List (String × Json)} (htype : typeKeyword? members = some "array")
      (hitems : members.lookup "items" = none) : Offending (.object members)
  /-- An array whose items have another shape than those of lists. -/
  | otherItems {members : List (String × Json)} {items : Json}
      (htype : typeKeyword? members = some "array")
      (hitems : members.lookup "items" = some items) (hshape : ¬ (ofJson items).Listable) :
      Offending (.object members)
  /-- A type that does not exist, without alternatives that would go before it. -/
  | unknownType {members : List (String × Json)} {kind : String}
      (htype : typeKeyword? members = some kind)
      (hkind : kind ∉ ["object", "array", "number", "string"])
      (hvariants : variantNodes? members = none) : Offending (.object members)

theorem offending_object_iff {members : List (String × Json)} :
    Offending (.object members) ↔
      (members ≠ [] ∧ typeKeyword? members = none ∧ variantNodes? members = none) ∨
      (typeKeyword? members = some "array" ∧
        ∀ items, members.lookup "items" = some items → ¬ (ofJson items).Listable) ∨
      ∃ kind, typeKeyword? members = some kind ∧
        kind ∉ ["object", "array", "number", "string"] ∧ variantNodes? members = none := by
  constructor
  · intro hoffending
    cases hoffending with
    | notObject hnode => exact absurd rfl (hnode members)
    | shapeless hkeywords htype hvariants => exact .inl ⟨hkeywords, htype, hvariants⟩
    | withoutItems htype hitems =>
        refine .inr (.inl ⟨htype, fun items hsome => ?_⟩)
        rw [hitems] at hsome
        cases hsome
    | otherItems htype hitems hshape =>
        refine .inr (.inl ⟨htype, fun items hsome => ?_⟩)
        rw [hitems] at hsome
        exact Option.some.inj hsome ▸ hshape
    | unknownType htype hkind hvariants => exact .inr (.inr ⟨_, htype, hkind, hvariants⟩)
  · rintro (⟨hkeywords, htype, hvariants⟩ | ⟨htype, hshape⟩ | ⟨kind, htype, hkind, hvariants⟩)
    · exact .shapeless hkeywords htype hvariants
    · cases hitems : members.lookup "items" with
      | none => exact .withoutItems htype hitems
      | some items => exact .otherItems htype hitems (hshape items hitems)
    · exact .unknownType htype hkind hvariants

/-- A visit offends and none before it does. -/
def FirstOffending (culprit : Visit) (visits : List Visit) : Prop :=
  ∃ before after, visits = before ++ culprit :: after ∧
    (∀ visit ∈ before, ¬ Offending visit.node) ∧ Offending culprit.node

theorem FirstOffending.unique {visits : List Visit} {culprit other : Visit}
    (hculprit : FirstOffending culprit visits) (hother : FirstOffending other visits) :
    culprit = other := by
  obtain ⟨before, after, rfl, hbefore, hoffends⟩ := hculprit
  obtain ⟨before', after', heq, hbefore', hoffends'⟩ := hother
  induction before generalizing before' with
  | nil =>
      cases before' with
      | nil => exact (List.cons.inj heq).1
      | cons head tail =>
          obtain ⟨rfl, _⟩ := List.cons.inj heq
          -- One list starts with its culprit, which the other counts among the visits before.
          exact absurd hoffends (hbefore' _ List.mem_cons_self)
  | cons head tail ih =>
      cases before' with
      | nil =>
          obtain ⟨rfl, _⟩ := List.cons.inj heq
          exact absurd hoffends' (hbefore _ List.mem_cons_self)
      | cons head' tail' =>
          exact ih (fun visit hvisit => hbefore visit (List.mem_cons_of_mem _ hvisit)) tail'
            (List.cons.inj heq).2 fun visit hvisit => hbefore' visit (List.mem_cons_of_mem _ hvisit)

namespace Traced

variable {α β : Type}

/-- A computation takes up visits in turn: it reports each of them and has a value if none offends,
and ends with the report and the refusal of the first that does. -/
inductive Follows (run : Traced α) (visits : List Visit) : Prop where
  | completes (value : α) (hresult : run.result = .ok value)
      (hevents : run.events = visits.map Visit.event)
      (hclean : ∀ visit ∈ visits, ¬ Offending visit.node)
  | stops (before : List Visit) (culprit : Visit) (after : List Visit)
      (hvisits : visits = before ++ culprit :: after)
      (hclean : ∀ visit ∈ before, ¬ Offending visit.node) (hculprit : Offending culprit.node)
      (hresult : run.result = .error culprit.error)
      (hevents : run.events = (before ++ [culprit]).map Visit.event)

namespace Follows

theorem pure (value : α) : (Pure.pure value : Traced α).Follows [] :=
  .completes value rfl rfl (by simp)

theorem bind {first : Traced α} {next : α → Traced β} {visits rest : List Visit}
    (hfirst : first.Follows visits)
    (hnext : ∀ value, first.result = .ok value → (next value).Follows rest) :
    (first >>= next).Follows (visits ++ rest) := by
  cases hfirst with
  | completes value hresult hevents hclean =>
      cases hnext value hresult with
      | completes value' hresult' hevents' hclean' =>
          refine .completes value' ?_ ?_ ?_
          · simpa [result_bind, hresult, Except.bind] using hresult'
          · simp [events_bind, hresult, hevents, hevents']
          · simpa [or_imp, forall_and] using ⟨hclean, hclean'⟩
      | stops before culprit after hvisits hclean' hculprit hresult' hevents' =>
          refine .stops (visits ++ before) culprit after ?_ ?_ hculprit ?_ ?_
          · simp [hvisits]
          · simpa [or_imp, forall_and] using ⟨hclean, hclean'⟩
          · simpa [result_bind, hresult, Except.bind] using hresult'
          · simp [events_bind, hresult, hevents, hevents']
  | stops before culprit after hvisits hclean hculprit hresult hevents =>
      refine .stops before culprit (after ++ rest) ?_ hclean hculprit ?_ ?_
      · simp [hvisits]
      · simp [result_bind, hresult, Except.bind]
      · simp [events_bind, hresult, hevents]

/-- Rearranging the value at the end takes up nothing more. -/
theorem bind_pure {run : Traced α} {visits : List Visit} (h : run.Follows visits) (f : α → β) :
    (run >>= fun value => Pure.pure (f value)).Follows visits := by
  simpa only [List.append_nil] using h.bind fun value _ => Follows.pure (f value)

theorem take_up {visit : Visit} {event : Event} {rest : Traced α} {below : List Visit}
    (hevent : visit.event = event) (hclean : ¬ Offending visit.node) (hrest : rest.Follows below) :
    (report event >>= fun _ => rest).Follows (visit :: below) := by
  subst hevent
  have hreport : (report visit.event).Follows [visit] :=
    .completes () rfl rfl (by simpa using hclean)
  exact hreport.bind fun _ _ => hrest

theorem refuse {visit : Visit} {event : Event} {below : List Visit} (hevent : visit.event = event)
    (hculprit : Offending visit.node) :
    (report event >>= fun _ => (fail visit.error : Traced α)).Follows (visit :: below) := by
  subst hevent
  exact .stops [] visit below rfl (by simp) hculprit rfl rfl

theorem result_ok_iff {run : Traced α} {visits : List Visit} (h : run.Follows visits) :
    (∃ value, run.result = .ok value) ↔ ∀ visit ∈ visits, ¬ Offending visit.node := by
  cases h with
  | completes value hresult hevents hclean => exact iff_of_true ⟨value, hresult⟩ hclean
  | stops before culprit after hvisits hclean hculprit hresult hevents =>
      refine iff_of_false (by simp [hresult]) fun hall => ?_
      exact hall culprit (by simp [hvisits]) hculprit

theorem result_error_iff {run : Traced α} {visits : List Visit} (h : run.Follows visits)
    {error : CompileError} :
    run.result = .error error ↔
      ∃ culprit, FirstOffending culprit visits ∧ error = culprit.error := by
  cases h with
  | completes value hresult hevents hclean =>
      refine iff_of_false (by simp [hresult]) ?_
      rintro ⟨culprit, ⟨before, after, rfl, _, hculprit⟩, _⟩
      exact hclean culprit (by simp) hculprit
  | stops before culprit after hvisits hclean hculprit hresult hevents =>
      have hfirst : FirstOffending culprit visits := ⟨before, after, hvisits, hclean, hculprit⟩
      rw [hresult]
      constructor
      · intro heq
        exact ⟨culprit, hfirst, (Except.error.inj heq).symm⟩
      · rintro ⟨other, hother, rfl⟩
        rw [hfirst.unique hother]

end Follows

end Traced

end RouteIdl
