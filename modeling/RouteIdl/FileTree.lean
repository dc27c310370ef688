import RouteIdl.Path
import RouteIdl.Storage

/-!
# File trees

The files below a working directory as a plain value. A file lies in a directory of the tree; what
lies outside the working directory does not exist.
-/

namespace RouteIdl

/-- Files and directories below a working directory, each at a list of names. -/
structure FileTree where
  /-- The content of each file. -/
  files : List (List String × ByteArray) := []
  /-- The directories, apart from the working directory itself. -/
  directories : List (List String) := []

namespace FileTree

/-- Whether there is a directory at a place. -/
def hasDirectory (tree : FileTree) (place : List String) : Bool :=
  place.isEmpty || tree.directories.contains place

/-- The content of the file at a place. -/
def content? (tree : FileTree) (place : List String) : Option ByteArray :=
  tree.files.lookup place

/-- Follow parts of a path from a directory. All but the last have to be directories. -/
def follow (tree : FileTree) : List String → List String → Option (List String)
  | place, [] => some place
  | place, part :: rest =>
      if tree.hasDirectory place then
        if part = ".." then
          if place.isEmpty then none else tree.follow place.dropLast rest
        else tree.follow (place ++ [part]) rest
      else none

/-- The place that a path leads to. There need not be anything there, unless the path can only name
a directory. -/
def locate (tree : FileTree) (path : String) : Option (List String) :=
  let (parts, directoryOnly) := Path.parts path
  if !Path.isUsable path || Path.isAbsolute path then none
  else
    match tree.follow [] parts with
    | some place => if directoryOnly && !tree.hasDirectory place then none else some place
    | none => none

/-- A relative path that may name a file leads to where its parts lead. -/
theorem locate_of_parts {tree : FileTree} (path : String) (parts : List String)
    (hparts : Path.parts path = (parts, false) ∧ Path.isAbsolute path = false)
    (husable : path ≠ "" ∧ '\x00' ∉ path.toList ∧ path.utf8ByteSize ≤ Path.maxSize ∧
      ∀ part ∈ (Path.parts path).1, part.utf8ByteSize ≤ Path.maxPartSize) :
    tree.locate path = tree.follow [] parts := by
  simp only [locate, Path.isUsable_iff.mpr husable, hparts]
  cases tree.follow [] parts <;> rfl

/-- The content of the file that a path names. -/
def read? (tree : FileTree) (path : String) : Option ByteArray :=
  (tree.locate path).bind tree.content?

theorem read?_of_parts {tree : FileTree} (path : String) (parts : List String)
    (hparts : Path.parts path = (parts, false) ∧ Path.isAbsolute path = false)
    (husable : path ≠ "" ∧ '\x00' ∉ path.toList ∧ path.utf8ByteSize ≤ Path.maxSize ∧
      ∀ part ∈ (Path.parts path).1, part.utf8ByteSize ≤ Path.maxPartSize) :
    tree.read? path = (tree.follow [] parts).bind tree.content? := by
  rw [read?, locate_of_parts path parts hparts husable]

/-- Whether a path names a file. -/
def isFile (tree : FileTree) (path : String) : Bool :=
  (tree.read? path).isSome

/-- Put a file at a place. -/
def put (tree : FileTree) (place : List String) (bytes : ByteArray) : FileTree :=
  { tree with files := (place, bytes) :: tree.files.filter fun file => file.1 != place }

/-- Write the file that a path names. Its directory has to exist, and it must not be a directory
itself. -/
def write? (tree : FileTree) (path : String) (bytes : ByteArray) : Option FileTree :=
  match tree.locate path with
  | none => none
  | some place =>
      if tree.hasDirectory place || !tree.hasDirectory place.dropLast then none
      else some (tree.put place bytes)

/-- Add a directory and all directories around it. -/
def addDirectory (tree : FileTree) (place : List String) : FileTree :=
  { tree with directories :=
      (List.range place.length).map (fun n => place.take (n + 1)) ++ tree.directories }

/-- Add a file and all directories around it. -/
def addFile (tree : FileTree) (place : List String) (bytes : ByteArray) : FileTree :=
  (tree.addDirectory place.dropLast).put place bytes

/-- The files of a tree that an earlier tree does not have with the same content. -/
def changesSince (tree earlier : FileTree) : List (List String × ByteArray) :=
  tree.files.filter fun file => earlier.content? file.1 != some file.2

/-- After putting, the place has the content and every other place has what it had. -/
theorem content?_put {tree : FileTree} {place other : List String} {bytes : ByteArray} :
    (tree.put place bytes).content? other =
      if other = place then some bytes else tree.content? other := by
  have hkept : ∀ files : List (List String × ByteArray), other ≠ place →
      (files.filter fun file => file.1 != place).lookup other = files.lookup other := by
    intro files hne
    induction files with
    | nil => rfl
    | cons file rest ih =>
        obtain ⟨name, content⟩ := file
        by_cases hplace : name = place
        · subst hplace
          have hbeq : (other == name) = false := by simpa using hne
          simp [List.lookup_cons, hbeq, ih]
        · by_cases hother : other = name
          · subst hother
            simp [hplace]
          · simp [List.lookup_cons, hplace, ih]
  by_cases h : other = place
  · subst h
    simp [put, content?]
  · have hbeq : (other == place) = false := by simpa using h
    rw [if_neg h]
    simp only [put, content?, List.lookup_cons, hbeq]
    exact hkept tree.files h

theorem follow_put (tree : FileTree) (place : List String) (bytes : ByteArray)
    (parts start : List String) :
    (tree.put place bytes).follow start parts = tree.follow start parts := by
  induction parts generalizing start with
  | nil => rfl
  | cons part rest ih =>
      simp only [follow, ih]
      rfl

/-- Files do not decide where a path leads to; directories do. -/
theorem locate_put (tree : FileTree) (place : List String) (bytes : ByteArray) (path : String) :
    (tree.put place bytes).locate path = tree.locate path := by
  unfold locate
  simp only [follow_put]
  rfl

theorem content?_of_write? {tree after : FileTree} {path : String} {bytes : ByteArray}
    (h : tree.write? path bytes = some after) :
    ∃ place, after.locate path = some place ∧
      ∀ other, (other = place → after.content? other = some bytes) ∧
        (other ≠ place → after.content? other = tree.content? other) := by
  unfold write? at h
  split at h
  · cases h
  next place hplace =>
    split at h
    · cases h
    · cases h
      refine ⟨place, (locate_put ..).trans hplace, fun other => ⟨fun heq => ?_, fun hne => ?_⟩⟩
      · rw [content?_put, if_pos heq]
      · rw [content?_put, if_neg hne]

instance : Storage FileTree where
  Place := List String
  locate := locate
  content? := content?
  read? := read?
  isFile := isFile
  write? := write?
  content?_of_write? := content?_of_write?

end FileTree

end RouteIdl
