import Mathlib.Data.List.DropRight
import RouteIdl.Proofs.Json.Remainder

/-!
# What readers ensure

A property of everything that a reader reads off texts of a kind that it does not leave, for the
readers that are made from others: lists have it for their elements, records keep it from entry to
entry, and whole texts take it over.
-/

namespace RouteIdl.Json

/-- Where something else was expected nothing is read. -/
theorem refuse_ne_ok {α : Type} {expected : String} {input : List Symbol}
    {found : α × List Symbol} : refuse expected input ≠ .ok found := by
  intro h
  unfold refuse at h
  simp only at h
  split at h
  next => cases h
  next =>
    obtain ⟨_, _, h⟩ := bind_eq_ok_iff.mp h
    cases h
  next =>
    obtain ⟨_, _, h⟩ := bind_eq_ok_iff.mp h
    cases h
  next =>
    obtain ⟨_, _, h⟩ := bind_eq_ok_iff.mp h
    cases h
  next =>
    obtain ⟨_, _, h⟩ := bind_eq_ok_iff.mp h
    cases h
  next => cases h
  next => cases h
  next =>
    split at h
    next =>
      obtain ⟨_, _, h⟩ := bind_eq_ok_iff.mp h
      split at h <;> cases h
    next => cases h

/-- Everything that is read off a clean text has a property, and what is left is clean. -/
def Reader.Ensures {α : Type} (clean : List Symbol → Prop) (reader : Reader α)
    (holds : α → Prop) : Prop :=
  ∀ ⦃input : List Symbol⦄ ⦃found : α⦄ ⦃rest : List Symbol⦄, clean input →
    reader input = .ok (found, rest) → holds found ∧ clean rest

section Readers

variable {α σ : Type} {holds : α → Prop} {kept : σ → Prop}
variable {clean : List Symbol → Prop} {numeric : Json → Prop} (hlasts : Lasts clean numeric)
include hlasts

theorem elementsRest_ensures {item : Reader α} (hitem : Reader.Ensures clean item holds)
    (fuel : Nat) :
    Reader.Ensures clean (elementsRest item fuel) fun found => ∀ element ∈ found, holds element := by
  induction fuel with
  | zero =>
      intro input found rest _ h
      cases h
  | succ fuel ih =>
      intro input found rest hinput h
      obtain ⟨⟨first, remaining⟩, hfirst, h⟩ := bind_eq_ok_iff.mp h
      obtain ⟨hholds, hremaining⟩ := hitem hinput hfirst
      simp only at h
      split at h
      next => cases h
      next hmark =>
        cases h
        exact ⟨List.forall_mem_singleton.mpr hholds, hlasts.mark hremaining hmark rfl⟩
      next hmark =>
        obtain ⟨⟨others, remaining⟩, hothers, h⟩ := bind_eq_ok_iff.mp h
        cases h
        obtain ⟨hall, hrest⟩ := ih (hlasts.mark hremaining hmark rfl) hothers
        exact ⟨List.forall_mem_cons.mpr ⟨hholds, hall⟩, hrest⟩
      next => cases h

theorem elements_ensures {item : Reader α} (hitem : Reader.Ensures clean item holds) :
    Reader.Ensures clean (elements item) fun found => ∀ element ∈ found, holds element := by
  intro input found rest hinput h
  unfold elements at h
  split at h
  next hmark =>
    cases h
    exact ⟨List.forall_mem_nil _, hlasts.mark hinput hmark rfl⟩
  next => exact elementsRest_ensures hlasts hitem _ (hlasts.skipBlanks hinput) h

theorem list_ensures {item : Nat → Reader α} {room : Nat}
    (hitem : Reader.Ensures clean (item room) holds) :
    Reader.Ensures clean (list item (room + 1)) fun found => ∀ element ∈ found, holds element := by
  intro input found rest hinput h
  unfold list at h
  split at h
  next hmark => exact elements_ensures hlasts hitem (hlasts.mark hinput hmark rfl) h
  next => exact absurd h refuse_ne_ok

theorem memberKey_ensures : Reader.Ensures clean memberKey fun _ => True := by
  intro input found rest hinput h
  unfold memberKey at h
  split at h
  next => cases h
  next hquote => exact ⟨trivial, hlasts.string (hquote ▸ hlasts.skipBlanks hinput) h⟩
  next => cases h

theorem membersRest_ensures {step : σ → String → Reader σ}
    (hstep : ∀ state key, kept state → Reader.Ensures clean (step state key) kept) (fuel : Nat)
    {state : σ} (hstate : kept state) :
    Reader.Ensures clean (membersRest step fuel state) kept := by
  induction fuel generalizing state with
  | zero =>
      intro input found rest _ h
      cases h
  | succ fuel ih =>
      intro input found rest hinput h
      obtain ⟨⟨key, remaining⟩, hkey, h⟩ := bind_eq_ok_iff.mp h
      obtain ⟨⟨next, remaining⟩, hnext, h⟩ := bind_eq_ok_iff.mp h
      obtain ⟨-, hafter⟩ := memberKey_ensures hlasts hinput hkey
      obtain ⟨hkept, hremaining⟩ := hstep state key hstate hafter hnext
      simp only at h
      split at h
      next => cases h
      next hmark =>
        cases h
        exact ⟨hkept, hlasts.mark hremaining hmark rfl⟩
      next hmark => exact ih hkept (hlasts.mark hremaining hmark rfl) h
      next => cases h

theorem members_ensures {step : σ → String → Reader σ}
    (hstep : ∀ state key, kept state → Reader.Ensures clean (step state key) kept) {state : σ}
    (hstate : kept state) : Reader.Ensures clean (members step state) kept := by
  intro input found rest hinput h
  unfold members at h
  split at h
  next hmark =>
    cases h
    exact ⟨hstate, hlasts.mark hinput hmark rfl⟩
  next => exact membersRest_ensures hlasts hstep _ hstate (hlasts.skipBlanks hinput) h

theorem stringValue_ensures : Reader.Ensures clean stringValue fun _ => True := by
  intro input found rest hinput h
  unfold stringValue at h
  split at h
  next hquote => exact ⟨trivial, hlasts.string (hquote ▸ hlasts.skipBlanks hinput) h⟩
  next => exact absurd h refuse_ne_ok

/-- Everything that is found where a null would be told apart has the property. -/
theorem optional_ensures {inner : Reader α}
    (hinner : ∀ ⦃input : List Symbol⦄ ⦃found : α⦄ ⦃rest : List Symbol⦄, clean input →
      (∀ after, skipBlanks input ≠ .char 'n' :: after) → inner input = .ok (found, rest) →
      holds found ∧ clean rest) :
    Reader.Ensures clean (optional inner) fun found => ∀ value, found = some value → holds value := by
  intro input found rest hinput h
  unfold optional at h
  split at h
  next hmark =>
    obtain ⟨_, hword, h⟩ := bind_eq_ok_iff.mp h
    cases h
    exact ⟨nofun, hlasts.word rfl (hlasts.mark hinput hmark rfl) hword⟩
  next hmark =>
    obtain ⟨⟨value, remaining⟩, hvalue, h⟩ := bind_eq_ok_iff.mp h
    cases h
    have hfirst : ∀ after, skipBlanks (skipBlanks input) ≠ .char 'n' :: after := by
      intro after hafter
      rw [skipBlanks, skipBlanks, List.dropWhile_idempotent] at hafter
      exact hmark after hafter
    obtain ⟨hholds, hrest⟩ := hinner (hlasts.skipBlanks hinput) hfirst hvalue
    refine ⟨?_, hrest⟩
    rintro _ ⟨⟩
    exact hholds

end Readers

/-! ## Whole texts and records -/

section Whole

variable {α σ : Type} {holds : α → Prop} {kept : σ → Prop} {clean : List Symbol → Prop}

theorem whole_eq_ok {reader : Reader α} (hreader : Reader.Ensures clean reader holds)
    {input : List Symbol} {found : α} (hinput : clean input) (h : whole reader input = .ok found) :
    holds found := by
  obtain ⟨⟨value, remaining⟩, hvalue, h⟩ := bind_eq_ok_iff.mp h
  simp only at h
  split at h
  next =>
    cases h
    exact (hreader hinput hvalue).1
  next => cases h

/-- Reading an entry of a record keeps what holds of the record. -/
def Entry.Keeps (clean : List Symbol → Prop) (entry : Entry σ) (kept : σ → Prop) : Prop :=
  ∀ record, kept record → Reader.Ensures clean (entry.read record) kept

theorem Entry.keeps_of {key : String} {mandatory : Bool} {value : Reader α} {set : σ → α → σ}
    (hvalue : Reader.Ensures clean value holds)
    (hset : ∀ record found, kept record → holds found → kept (set record found)) :
    (Entry.of key mandatory value set).Keeps clean kept := by
  intro record hrecord input found rest hinput h
  obtain ⟨⟨component, remaining⟩, hcomponent, h⟩ := bind_eq_ok_iff.mp h
  cases h
  obtain ⟨hholds, hrest⟩ := hvalue hinput hcomponent
  exact ⟨hset record component hrecord hholds, hrest⟩

end Whole

section Records

variable {σ : Type} {kept : σ → Prop} {clean : List Symbol → Prop} {numeric : Json → Prop}
variable (hlasts : Lasts clean numeric)
include hlasts

theorem entriesInOrder_ensures {tooShort : Nat → Fault} {entries : List (Entry σ)}
    (hentries : ∀ entry ∈ entries, entry.Keeps clean kept) (index : Nat) {record : σ}
    (hrecord : kept record) :
    Reader.Ensures clean (entriesInOrder tooShort entries index record) kept := by
  induction entries generalizing index record with
  | nil =>
      intro input found rest hinput h
      unfold entriesInOrder at h
      split at h
      next => cases h
      next hmark =>
        cases h
        exact ⟨hrecord, hlasts.mark hinput hmark rfl⟩
      next => cases h
  | cons entry others ih =>
      intro input found rest hinput h
      obtain ⟨hentry, hothers⟩ := List.forall_mem_cons.mp hentries
      unfold entriesInOrder at h
      split at h
      next => cases h
      next hmark =>
        split at h
        next => cases h
        next =>
          cases h
          exact ⟨hrecord, hlasts.mark hinput hmark rfl⟩
      next hfirst =>
        -- Every entry but the first comes after a comma.
        have hrest {start : List Symbol} (hstart : clean start)
            (h : (do
              let read ← entry.read record start
              entriesInOrder tooShort others (index + 1) read.1 read.2) = .ok (found, rest)) :
            kept found ∧ clean rest := by
          obtain ⟨⟨next, remaining⟩, hnext, h⟩ := bind_eq_ok_iff.mp h
          obtain ⟨hkept, hremaining⟩ := hentry record hrecord hstart hnext
          exact ih hothers _ hkept hremaining h
        dsimp only at h
        split at h
        next => exact hrest (hfirst ▸ hlasts.skipBlanks hinput) h
        next =>
          split at h
          next hcomma =>
            subst hcomma
            exact hrest (hlasts.mark hinput hfirst rfl) h
          next => cases h

theorem putEntry_ensures {entries : List (Entry σ)}
    (hentries : ∀ entry ∈ entries, entry.Keeps clean kept) {draft : Draft σ} (key : String)
    (hdraft : kept draft.record) :
    Reader.Ensures clean (putEntry entries draft key) fun next => kept next.record := by
  intro input found rest hinput h
  unfold putEntry at h
  split at h
  next entry hfind =>
    split at h
    next => cases h
    next =>
      obtain ⟨_, hcolon, h⟩ := bind_eq_ok_iff.mp h
      obtain ⟨⟨record, remaining⟩, hrecord, h⟩ := bind_eq_ok_iff.mp h
      cases h
      exact hentries entry (List.mem_of_find?_eq_some hfind) _ hdraft
        (hlasts.colon hinput hcolon) hrecord
  next =>
    obtain ⟨_, hcolon, h⟩ := bind_eq_ok_iff.mp h
    obtain ⟨_, hskip, h⟩ := bind_eq_ok_iff.mp h
    cases h
    exact ⟨hdraft, hlasts.skipValue (hlasts.colon hinput hcolon) hskip⟩

/-- A record has whatever its defaults have and every entry keeps, in either of its two forms. -/
theorem record_ensures {title : String} {entries : Nat → List (Entry σ)} {first : σ} {room : Nat}
    (hentries : ∀ entry ∈ entries room, entry.Keeps clean kept) (hfirst : kept first) :
    Reader.Ensures clean (record title entries first (room + 1)) kept := by
  intro input found rest hinput h
  unfold record at h
  split at h
  next hmark => exact entriesInOrder_ensures hlasts hentries 0 hfirst (hlasts.mark hinput hmark rfl) h
  next hmark =>
    obtain ⟨⟨draft, remaining⟩, hdraft, h⟩ := bind_eq_ok_iff.mp h
    have hkept : kept draft.record ∧ clean remaining :=
      members_ensures hlasts (fun state key hstate => putEntry_ensures hlasts hentries key hstate)
        hfirst (hlasts.mark hinput hmark rfl) hdraft
    simp only at h
    split at h
    next => cases h
    next =>
      cases h
      exact hkept
  next => exact absurd h refuse_ne_ok

end Records

end RouteIdl.Json
