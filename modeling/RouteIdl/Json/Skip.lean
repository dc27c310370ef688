import RouteIdl.Json.Lexeme

/-!
# Skipping JSON values

A value under a key that nobody asked for has to be well-formed, but nothing is made of it: it may
nest to any depth, and its strings and numbers need not be representable.
-/

namespace RouteIdl.Json

/-- A container that is open while a value is skipped. -/
inductive Bracket where
  /-- An array. -/
  | array
  /-- An object. -/
  | object
  deriving DecidableEq

/-- Where skipping stands. -/
inductive SkipStage where
  /-- A value comes next. -/
  | value
  /-- A container has just been opened. -/
  | opened
  /-- A key comes next. -/
  | key
  /-- A value has just ended. -/
  | ended
  deriving DecidableEq

/-- What is left after the containers still open, innermost first, in at most so many steps. -/
def skipFrom : Nat → SkipStage → List Bracket → List Symbol → Except Fault (List Symbol)
  | 0, _, _, _ => .error .truncated
  | fuel + 1, stage, pending, input =>
      let blanksSkipped := skipBlanks input
      match stage, pending with
      | .ended, [] => .ok input
      | .ended, bracket :: outer =>
          match bracket, blanksSkipped with
          | _, [] => .error .truncated
          | .array, .char ']' :: rest => skipFrom fuel .ended outer rest
          | .object, .char '}' :: rest => skipFrom fuel .ended outer rest
          | .array, .char ',' :: rest => skipFrom fuel .value pending rest
          | .object, .char ',' :: rest => skipFrom fuel .key pending rest
          | _, _ => .error .malformed
      | .opened, .array :: outer =>
          match blanksSkipped with
          | .char ']' :: rest => skipFrom fuel .ended outer rest
          | input => skipFrom fuel .value pending input
      | .opened, .object :: outer =>
          match blanksSkipped with
          | .char '}' :: rest => skipFrom fuel .ended outer rest
          | input => skipFrom fuel .key pending input
      | .opened, [] => skipFrom fuel .value [] input
      | .key, _ =>
          match blanksSkipped with
          | [] => .error .truncated
          | .char '"' :: rest => do
              let rest ← stringSkipped rest
              let rest ← word [':'] (skipBlanks rest)
              skipFrom fuel .value pending rest
          | _ => .error .malformed
      | .value, _ =>
          match blanksSkipped with
          | [] => .error .truncated
          | .char '[' :: rest => skipFrom fuel .opened (.array :: pending) rest
          | .char '{' :: rest => skipFrom fuel .opened (.object :: pending) rest
          | .char '"' :: rest => do
              let rest ← stringSkipped rest
              skipFrom fuel .ended pending rest
          | .char 'n' :: rest => do
              let rest ← word ['u', 'l', 'l'] rest
              skipFrom fuel .ended pending rest
          | .char 't' :: rest => do
              let rest ← word ['r', 'u', 'e'] rest
              skipFrom fuel .ended pending rest
          | .char 'f' :: rest => do
              let rest ← word ['a', 'l', 's', 'e'] rest
              skipFrom fuel .ended pending rest
          | symbol :: rest =>
              if symbol = .char '-' ∨ symbol.digit?.isSome then do
                let rest ← numberSkipped (symbol :: rest)
                skipFrom fuel .ended pending rest
              else .error .malformed

/-- What is left after one value of any depth. Each symbol takes at most two steps. -/
def skipValue (input : List Symbol) : Except Fault (List Symbol) :=
  skipFrom (2 * input.length + 2) .value [] input

end RouteIdl.Json
