import RouteIdl.Proofs.Compilation.Numbering
import RouteIdl.Proofs.Schema.Resolution

/-!
# Resolution of type references in documents

No field of a document has a type that is not known where the field stands, and no message in the
body of another one is without use.
-/

namespace RouteIdl

open Idl

/-- In every body of a document, at every depth, the types of the fields resolve: each is well known
or the name of a message that is made for the same property or variant, right before the field or,
for a union, in the wrapper right before it; the values that a union lists are of the type of the
wrapper around them. Every message in a body is followed by the field that it is made for, or lists
the values of the wrapper in which it stands. -/
theorem compileText_resolves {routes : List Route} {name : ServiceName} {settings : Settings}
    {text : String} (h : (compileText routes name settings).result = .ok text) :
    ∃ document, (compile routes name settings).result = .ok document ∧
      text = document.text settings.presence ∧
      document.places.map (·.body) = document.bodies ∧
      List.Forall₂ (fun origin place => origin.GivesAt place ∧ origin.Resolves place)
        (routes.flatMap (Route.origins settings)) document.places := by
  obtain ⟨document, hdocument, htext⟩ := compileText_eq_ok_iff.mp h
  refine ⟨document, hdocument, htext, document.map_body_places, ?_⟩
  exact (compile_places hdocument).imp fun _ _ hgives => ⟨hgives, hgives.resolves⟩

/-- The messages around the bodies for a union in a union, whose choice has no type to be named
after. -/
example :
    ((compile [.search] ⟨some "shop", none⟩ {}).result.map fun document =>
      document.places.map fun place => place.around.map (·.name)) =
      .ok [["PostSearchRequest"], ["filterOneOf", "PostSearchRequest"],
        ["filterOneOf", "PostSearchRequest"],
        ["objectObject", "filterOneOf", "PostSearchRequest"],
        ["variant1OneOf", "filterOneOf", "PostSearchRequest"],
        ["variant1OneOf", "filterOneOf", "PostSearchRequest"],
        ["variant1", "variant1OneOf", "filterOneOf", "PostSearchRequest"],
        ["filter", "filterOneOf", "PostSearchRequest"], ["PostSearchResponse"]] := by
  rfl

/-- References resolve in the messages of a route with unions in one another. -/
theorem compileText_resolves_search :
    ∃ text, (compileText [.search] ⟨some "shop", none⟩ {}).result = .ok text ∧
      ∃ document, (compile [.search] ⟨some "shop", none⟩ {}).result = .ok document ∧
        text = document.text .label ∧
        document.places.map (·.body) = document.bodies ∧
        List.Forall₂ (fun origin place => origin.GivesAt place ∧ origin.Resolves place)
          ([Route.search].flatMap (Route.origins {})) document.places := by
  obtain ⟨text, htext⟩ : ∃ text,
      (compileText [.search] ⟨some "shop", none⟩ {}).result = .ok text := ⟨_, rfl⟩
  exact ⟨text, htext, compileText_resolves htext⟩

end RouteIdl
