/-!
# Storage

Files as a session meets them. It finds them by paths and learns of each request only whether it
succeeds: a file that exists may be unreadable all the same, and two paths may lead to one file.
-/

namespace RouteIdl

/-- Files that can be read and written by their paths. -/
class Storage (Tree : Type) where
  /-- Where a file may lie. -/
  Place : Type
  /-- The place that a path leads to. -/
  locate : Tree → String → Option Place
  /-- The content of the file at a place, if there is one. -/
  content? : Tree → Place → Option ByteArray
  /-- The content of the file that a path names, if it can be read. -/
  read? : Tree → String → Option ByteArray
  /-- Whether a path names a file. -/
  isFile : Tree → String → Bool
  /-- Write the file that a path names, if that is possible. -/
  write? : Tree → String → ByteArray → Option Tree
  /-- What is written lies where the path leads to, and every other place has what it had. -/
  content?_of_write? : ∀ {tree after : Tree} {path : String} {bytes : ByteArray},
    write? tree path bytes = some after → ∃ place, locate after path = some place ∧
      ∀ other, (other = place → content? after other = some bytes) ∧
        (other ≠ place → content? after other = content? tree other)

end RouteIdl
