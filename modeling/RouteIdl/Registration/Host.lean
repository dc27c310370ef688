import RouteIdl.Registration

/-!
# Hosts

A host has any number of registrations under way, each known by a number. A registration ends when
it is compiled, and what its receiver then gets is recorded in order of delivery.
-/

namespace RouteIdl

/-- Registrations and what has been delivered from them. -/
structure Host where
  /-- The registrations by number; one that has ended leaves its number unused. -/
  registrations : List (Option Registration) := []
  /-- The texts that were delivered, each with the number of its registration, in order. -/
  deliveries : List (Nat × String) := []

namespace Host

/-- What a host does with its registrations. -/
inductive Call where
  /-- Begin a registration. -/
  | start (settings : Settings) (hasHandler : Bool)
  /-- Register a route. -/
  | register (number : Nat) (route : Route)
  /-- Compile what has been registered. -/
  | finish (number : Nat) (document : Option ApiDocument)

/-- What becomes of a call. -/
inductive Outcome where
  /-- A registration is under way under a new number. -/
  | started (number : Nat)
  /-- The route is registered. -/
  | registered
  /-- The document has been delivered. -/
  | delivered (text : String)
  /-- The call fails. -/
  | refused (error : CompileError)
  /-- No registration is under way under the number. -/
  | notUnderWay

/-- The registration that is under way under a number. -/
def underWay? (host : Host) (number : Nat) : Option Registration :=
  host.registrations[number]?.join

/-- Put a registration, or the end of one, under a number in use. -/
def put (host : Host) (number : Nat) (registration : Option Registration) : Host :=
  { host with registrations := host.registrations.set number registration }

/-- Carry out one call. A registration ends with its compilation, whether that succeeds or not. -/
def step (host : Host) : Call → Host × Outcome
  | .start settings hasHandler =>
      match Registration.start settings hasHandler with
      | .error error => (host, .refused error)
      | .ok registration =>
          ({ host with registrations := host.registrations ++ [some registration] },
            .started host.registrations.length)
  | .register number route =>
      match host.underWay? number with
      | none => (host, .notUnderWay)
      | some registration => (host.put number (some (registration.add route)), .registered)
  | .finish number document =>
      match host.underWay? number with
      | none => (host, .notUnderWay)
      | some registration =>
          match (registration.finish document).result with
          | .error error => (host.put number none, .refused error)
          | .ok text =>
              ({ host.put number none with deliveries := host.deliveries ++ [(number, text)] },
                .delivered text)

/-- The host after calls in order. -/
def run (host : Host) : List Call → Host
  | [] => host
  | call :: rest => (host.step call).1.run rest

/-- What becomes of each of the calls in order. -/
def outcomes (host : Host) : List Call → List Outcome
  | [] => []
  | call :: rest => (host.step call).2 :: (host.step call).1.outcomes rest

end Host

end RouteIdl
