import RouteIdl.Compilation
import RouteIdl.Text.Quoted

/-!
# Registration of routes

A host names who is to receive the document, registers its routes one by one, and compiles them when
it is ready. The receiver gets the text once, or never if the compilation fails.
-/

namespace RouteIdl

/-- The routes that a host has registered so far. -/
structure Registration where
  /-- The settings of the compilation to come. -/
  settings : Settings
  /-- The routes, in order of registration. -/
  routes : List Route

namespace Registration

/-- Begin. Without anybody to receive the document there is no registration. -/
def start (settings : Settings) (hasHandler : Bool) : Except CompileError Registration :=
  if hasHandler then .ok ⟨settings, []⟩ else .error .missingHandler

/-- The registration with one more route. -/
def add (registration : Registration) (route : Route) : Registration :=
  { registration with routes := registration.routes ++ [route] }

/-- Register a route. -/
def register (registration : Registration) (route : Route) : Traced Registration := do
  Traced.report (.routeRegistered route.method route.url)
  pure (registration.add route)

/-- Register routes in order. -/
def registerAll (registration : Registration) (routes : List Route) : Traced Registration :=
  match routes with
  | [] => pure registration
  | route :: rest => do
      let registration ← registration.register route
      registration.registerAll rest

/-- Compile what has been registered into the text for the receiver. -/
def finish (registration : Registration) (document : Option ApiDocument) : Traced String :=
  compileText registration.routes
    (ServiceName.ofSources registration.settings.serviceName document) registration.settings

end Registration

end RouteIdl
