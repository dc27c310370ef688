import RouteIdl.Log.Level

/-!
# The log manager

A log manager hands messages to a listener, if one is attached, as long as they pass its threshold.
The threshold is kept as the byte of its rank. The state of a manager and the messages that reach
the listener are plain values.
-/

namespace RouteIdl.Log

/-- A message as the listener receives it. -/
structure Delivery where
  /-- How severe it is. -/
  level : Level
  /-- Where it comes from. -/
  target : String
  /-- What it says. -/
  message : String
  deriving DecidableEq

/-- The state of a log manager. -/
structure Manager where
  /-- Whether a listener is attached. -/
  attached : Bool
  /-- The rank of the least severity that is passed on. -/
  rank : UInt8
  deriving DecidableEq

/-- What can be asked of a manager. -/
inductive Command where
  /-- Attach the listener. -/
  | attach
  /-- Detach the listener. -/
  | detach
  /-- Set the threshold. -/
  | setThreshold (level : Level)
  /-- Log a message. -/
  | log (delivery : Delivery)
  deriving DecidableEq

namespace Manager

/-- A fresh manager: nobody listens, and the threshold is info. -/
def fresh : Manager := ⟨false, .ofNat Level.info.rank⟩

/-- The least severity that is passed on. -/
def threshold (manager : Manager) : Level :=
  .ofRank manager.rank.toNat

/-- Pass on a severity and all above it. -/
def withThreshold (manager : Manager) (level : Level) : Manager :=
  { manager with rank := .ofNat level.rank }

/-- Whether a message of a level would be passed on to a listener. -/
def enabled (manager : Manager) (level : Level) : Bool :=
  manager.threshold.passes level

/-- Carry out one command: the new state and what reaches the listener. -/
def step (manager : Manager) : Command → Manager × List Delivery
  | .attach => (⟨true, manager.rank⟩, [])
  | .detach => (⟨false, manager.rank⟩, [])
  | .setThreshold level => (manager.withThreshold level, [])
  | .log delivery =>
      (manager, if manager.attached && manager.enabled delivery.level then [delivery] else [])

/-- Everything that reaches the listener while commands are carried out in order. -/
def deliveries (manager : Manager) : List Command → List Delivery
  | [] => []
  | command :: rest =>
      (manager.step command).2 ++ (manager.step command).1.deliveries rest

/-- A byte keeps the rank of every level. -/
@[simp] theorem threshold_withThreshold (manager : Manager) (level : Level) :
    (manager.withThreshold level).threshold = level := by
  have hbyte : (UInt8.ofNat level.rank).toNat = level.rank := by cases level <;> rfl
  rw [threshold, withThreshold, hbyte, Level.ofRank_rank]

@[simp] theorem attached_withThreshold (manager : Manager) (level : Level) :
    (manager.withThreshold level).attached = manager.attached := rfl

end Manager

end RouteIdl.Log
