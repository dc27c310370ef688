/-!
# Levels of patterns

How deep the parts of a pattern lie inside each other. Parts side by side are one level deeper than
the deepest of them, and so are the operands of an operator; a part alone is as deep as it is.
-/

namespace RouteIdl.Log.Pattern

/-- The depth of parts with such depths, side by side. -/
def depthOfAll : List Nat → Nat
  | [] => 0
  | [depth] => depth
  | depths => 1 + depths.foldr max 0

/-- What has been read between two brackets, or outside of all of them. -/
structure Level where
  /-- The depths of the operands before the last operator. -/
  operands : List Nat
  /-- The depths of the parts after it, the last one first. -/
  parts : List Nat

namespace Level

/-- The level right after an opening bracket. -/
def empty : Level := ⟨[], []⟩

/-- A level with one more part. -/
def add (level : Level) (depth : Nat) : Level :=
  { level with parts := depth :: level.parts }

/-- A level whose last part is repeated. -/
def repeatLast (level : Level) : Level :=
  { level with parts := level.parts.modifyHead (· + 1) }

/-- The depth of what has been read. -/
def depth (level : Level) : Nat :=
  depthOfAll (depthOfAll level.parts :: level.operands)

/-- A level after an operator that joins its operands two by two. -/
def join (level : Level) : Level := ⟨[level.depth], []⟩

/-- A level after an operator that stands between any number of operands. -/
def alternate (level : Level) : Level := ⟨depthOfAll level.parts :: level.operands, []⟩

end Level

end RouteIdl.Log.Pattern
