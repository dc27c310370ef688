/-!
# Log levels

The severities of log records, and the thresholds they are compared with. The level off lies above
all others: as a threshold it lets nothing through, and a record of that level is never let through.
-/

namespace RouteIdl.Log

/-- A severity, or a threshold on severities. -/
inductive Level where
  /-- The finest detail. -/
  | trace
  /-- Detail for diagnosis. -/
  | debug
  /-- Normal progress. -/
  | info
  /-- Something that may be unintended. -/
  | warn
  /-- A failure. -/
  | error
  /-- No records at all. -/
  | off
  deriving DecidableEq

namespace Level

/-- The rank of a level, from the finest up. -/
def rank : Level → Nat
  | trace => 0
  | debug => 1
  | info => 2
  | warn => 3
  | error => 4
  | off => 5

/-- The level of a rank. Every rank past the last counts as the last. -/
def ofRank : Nat → Level
  | 0 => trace
  | 1 => debug
  | 2 => info
  | 3 => warn
  | 4 => error
  | _ => off

instance : LE Level := ⟨fun a b => a.rank ≤ b.rank⟩

instance (a b : Level) : Decidable (a ≤ b) :=
  inferInstanceAs (Decidable (a.rank ≤ b.rank))

/-- The name of a level in log lines. -/
def label : Level → String
  | trace => "TRACE"
  | debug => "DEBUG"
  | info => "INFO"
  | warn => "WARN"
  | error => "ERROR"
  | off => "OFF"

/-- The level of a name in small letters. -/
def ofName? : String → Option Level
  | "trace" => some trace
  | "debug" => some debug
  | "info" => some info
  | "warn" => some warn
  | "warning" => some warn
  | "error" => some error
  | "off" => some off
  | _ => none

/-- A name that no level has, in small letters. -/
structure Unknown where
  /-- The name. -/
  name : String
  deriving DecidableEq

/-- The text of the refusal of a level name. -/
def Unknown.message (unknown : Unknown) : String :=
  "unknown log level: " ++ unknown.name

/-- The level of a name, whatever the case of its ASCII letters. -/
def ofText (text : String) : Except Unknown Level :=
  match ofName? (text.map Char.toLower) with
  | some level => .ok level
  | none => .error ⟨text.map Char.toLower⟩

/-- Whether a threshold lets records of a level through. -/
def passes (threshold level : Level) : Bool :=
  level != off && decide (threshold ≤ level)

@[simp] theorem ofRank_rank (level : Level) : ofRank level.rank = level := by
  cases level <;> rfl

end Level

end RouteIdl.Log
