import RouteIdl.FileTree

/-!
# Sessions

A command as what it asks of its surroundings: to read and write files and to print. The same
session can be carried out on files that are a plain value, and then so is its whole effect.
-/

namespace RouteIdl

/-- A computation that asks for files to be read and written and for text to be printed. -/
inductive Session (α : Type) where
  /-- Nothing more is asked for. -/
  | done (value : α)
  /-- Read a file, which may fail. -/
  | read (path : String) (next : Option ByteArray → Session α)
  /-- Ask whether there is a file. -/
  | isFile (path : String) (next : Bool → Session α)
  /-- Write a file, which may fail. -/
  | write (path : String) (bytes : ByteArray) (next : Bool → Session α)
  /-- Print text to the output. -/
  | print (text : String) (next : Session α)
  /-- Print a line for the user, apart from the output. -/
  | note (line : String) (next : Session α)

namespace Session

/-- Go on with the value of a session. -/
def bind {α β : Type} (session : Session α) (next : α → Session β) : Session β :=
  match session with
  | done value => next value
  | read path rest => read path fun content => (rest content).bind next
  | isFile path rest => isFile path fun found => (rest found).bind next
  | write path bytes rest => write path bytes fun written => (rest written).bind next
  | print text rest => print text (rest.bind next)
  | note line rest => note line (rest.bind next)

instance : Monad Session where
  pure := done
  bind := bind

/-- What has been printed, and what the files are. -/
structure World (Tree : Type) where
  /-- The files. -/
  tree : Tree
  /-- The output so far. -/
  output : String
  /-- The lines for the user so far, the last one first. -/
  notes : List String

variable {Tree : Type} [Storage Tree]

/-- Carry out a session on files. -/
def run {α : Type} (session : Session α) (world : World Tree) : α × World Tree :=
  match session with
  | done value => (value, world)
  | read path next => (next (Storage.read? world.tree path)).run world
  | isFile path next => (next (Storage.isFile world.tree path)).run world
  | write path bytes next =>
      match Storage.write? world.tree path bytes with
      | some tree => (next true).run { world with tree }
      | none => (next false).run world
  | print text next => next.run { world with output := world.output ++ text }
  | note line next => next.run { world with notes := line :: world.notes }

/-- A sequence leaves behind what its second part makes of what the first one leaves. -/
theorem run_bind {α β : Type} (session : Session α) (next : α → Session β)
    (world : World Tree) :
    (session.bind next).run world =
      (next (session.run world).1).run (session.run world).2 := by
  induction session generalizing world with
  | done value => rfl
  | read path rest ih => exact ih _ world
  | isFile path rest ih => exact ih _ world
  | write path bytes rest ih =>
      simp only [bind, run]
      cases Storage.write? world.tree path bytes with
      | some tree => exact ih _ _
      | none => exact ih _ _
  | print text rest ih => exact ih _
  | note line rest ih => exact ih _

end Session

end RouteIdl
