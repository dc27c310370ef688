import RouteIdl.CompileError
import RouteIdl.Event

/-!
# Traced computations

A computation that reports events and ends in a value or an error. What was reported before an error
stays reported, and nothing is reported after it.
-/

namespace RouteIdl

/-- The events of a computation, in order, and how it ends. -/
structure Traced (α : Type) where
  /-- What was reported. -/
  events : List Event
  /-- How it ends. -/
  result : Except CompileError α

namespace Traced

/-- A value without events. -/
def pure {α : Type} (value : α) : Traced α :=
  ⟨[], .ok value⟩

/-- Go on with the value of a computation, if it has one. -/
def bind {α β : Type} (first : Traced α) (next : α → Traced β) : Traced β :=
  match first.result with
  | .ok value => ⟨first.events ++ (next value).events, (next value).result⟩
  | .error error => ⟨first.events, .error error⟩

/-- End in an error. -/
def fail {α : Type} (error : CompileError) : Traced α :=
  ⟨[], .error error⟩

/-- Report an event. -/
def report (event : Event) : Traced Unit :=
  ⟨[event], .ok ()⟩

instance : Monad Traced where
  pure := pure
  bind := bind

/-- Events add up in order, so that it does not matter how a sequence is grouped. -/
instance : LawfulMonad Traced :=
  LawfulMonad.mk' Traced
    (fun computation => by
      obtain ⟨events, result⟩ := computation
      change bind _ _ = _
      cases result <;> simp [bind, pure])
    (fun _ _ => rfl)
    (fun first next last => by
      obtain ⟨events, result⟩ := first
      change bind (bind _ _) _ = bind _ fun value => bind _ _
      cases result with
      | error error => rfl
      | ok value => cases hnext : (next value).result <;> simp [bind, hnext])

/-- The computation that ends in a given way without events. -/
def ofExcept {α : Type} (result : Except CompileError α) : Traced α :=
  ⟨[], result⟩

@[simp] theorem result_pure {α : Type} (value : α) :
    (Pure.pure value : Traced α).result = .ok value := rfl

@[simp] theorem events_pure {α : Type} (value : α) :
    (Pure.pure value : Traced α).events = [] := rfl

@[simp] theorem result_fail {α : Type} (error : CompileError) :
    (fail error : Traced α).result = .error error := rfl

@[simp] theorem events_fail {α : Type} (error : CompileError) :
    (fail error : Traced α).events = [] := rfl

@[simp] theorem result_report (event : Event) : (report event).result = .ok () := rfl

@[simp] theorem events_report (event : Event) : (report event).events = [event] := rfl

@[simp] theorem result_ofExcept {α : Type} (result : Except CompileError α) :
    (ofExcept result).result = result := rfl

@[simp] theorem events_ofExcept {α : Type} (result : Except CompileError α) :
    (ofExcept result).events = [] := rfl

/-- The end of a sequence is the end of its second part, given the value of the first. -/
theorem result_bind {α β : Type} (first : Traced α) (next : α → Traced β) :
    (first >>= next).result = first.result.bind fun value => (next value).result := by
  cases h : first.result <;> simp [Bind.bind, bind, h, Except.bind]

/-- A report decides nothing about how a sequence ends. -/
@[simp] theorem result_report_bind {α : Type} (event : Event) (next : Unit → Traced α) :
    (report event >>= next).result = (next ()).result := rfl

theorem result_bind_eq_ok {α β : Type} {first : Traced α} {next : α → Traced β} {value : β} :
    (first >>= next).result = .ok value ↔
      ∃ middle, first.result = .ok middle ∧ (next middle).result = .ok value := by
  rw [result_bind]
  cases first.result <;> simp [Except.bind]

theorem result_bind_eq_error {α β : Type} {first : Traced α} {next : α → Traced β}
    {error : CompileError} :
    (first >>= next).result = .error error ↔
      first.result = .error error ∨
        ∃ middle, first.result = .ok middle ∧ (next middle).result = .error error := by
  rw [result_bind]
  cases first.result <;> simp [Except.bind]

/-- A sequence reports the events of its first part and, if that has a value, those of the
second. -/
theorem events_bind {α β : Type} (first : Traced α) (next : α → Traced β) :
    (first >>= next).events =
      first.events ++ match first.result with
        | .ok value => (next value).events
        | .error _ => [] := by
  cases h : first.result <;> simp [Bind.bind, bind, h]

section Sequence

variable {α β : Type} {first : Traced α} {next : α → Traced β}

theorem events_bind_of_ok {value : α} (h : first.result = .ok value) :
    (first >>= next).events = first.events ++ (next value).events := by
  rw [events_bind, h]

theorem events_bind_of_error {error : CompileError} (h : first.result = .error error) :
    (first >>= next).events = first.events := by
  rw [events_bind, h, List.append_nil]

/-- Rearranging the value at the end reports nothing. -/
theorem events_bind_pure (run : Traced α) (f : α → β) :
    (run >>= fun value => Pure.pure (f value)).events = run.events := by
  cases h : run.result with
  | ok value => rw [events_bind_of_ok h, events_pure, List.append_nil]
  | error error => rw [events_bind_of_error h]

end Sequence

end Traced

end RouteIdl
