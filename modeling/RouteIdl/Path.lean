/-!
# Paths

File paths as text. Parts are separated by slashes, empty parts and single dots inside a path mean
nothing, and a path that starts with a slash is absolute.
-/

namespace RouteIdl.Path

/-- Whether a path does not depend on a directory. -/
def isAbsolute (path : String) : Bool :=
  path.toList.head? == some '/'

/-- The path seen from a directory: an absolute path as it is, and any other one after the
directory and a slash, if the directory needs one. -/
def join (base path : String) : String :=
  if isAbsolute path || base.isEmpty then path
  else if base.toList.getLast? == some '/' then base ++ path
  else base ++ "/" ++ path

/-- Whether a part of a path means nothing. -/
def isIdle (part : List Char) : Bool :=
  part.isEmpty || part == ['.']

/-- The start of a path that is no part to be taken off: the slash of an absolute path, or a leading
dot that stands for the current directory. -/
def lead : List Char → List Char
  | '/' :: _ => ['/']
  | ['.'] => ['.']
  | '.' :: '/' :: _ => ['.']
  | _ => []

/-- Parts without those at the end that mean nothing. -/
def dropIdleEnd (parts : List (List Char)) : List (List Char) :=
  (parts.reverse.dropWhile isIdle).reverse

/-- The path without its last part. The root and the empty path have no parent. -/
def parent? (path : String) : Option String :=
  let start := lead path.toList
  let parts := dropIdleEnd ((path.toList.drop start.length).splitOn '/')
  if parts.isEmpty then if start = ['.'] then some "" else none
  else some (String.ofList (start ++ ['/'].intercalate (dropIdleEnd parts.dropLast)))

/-- The parts of a path, and whether it can only name a directory. -/
def parts (path : String) : List String × Bool :=
  let pieces := path.toList.splitOn '/'
  let last := pieces.getLast?.getD []
  ((pieces.filter fun piece => !isIdle piece).map String.ofList,
    isIdle last || last == ['.', '.'])

/-- How many bytes a path may have. -/
def maxSize : Nat := 4095

/-- How many bytes a part of a path may have. -/
def maxPartSize : Nat := 255

/-- Whether a path can name anything: it is not empty, has no null character, and neither it nor a
part of it is too long. -/
def isUsable (path : String) : Bool :=
  !path.isEmpty && !path.contains '\x00' && path.utf8ByteSize ≤ maxSize &&
    (parts path).1.all fun part => part.utf8ByteSize ≤ maxPartSize

theorem isUsable_iff {path : String} : isUsable path = true ↔
    path ≠ "" ∧ '\x00' ∉ path.toList ∧ path.utf8ByteSize ≤ maxSize ∧
      ∀ part ∈ (parts path).1, part.utf8ByteSize ≤ maxPartSize := by
  simp [isUsable, String.contains_char_eq, and_assoc]

end RouteIdl.Path
