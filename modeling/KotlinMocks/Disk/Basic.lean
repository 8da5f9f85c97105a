import KotlinMocks.Disk.Path
import KotlinMocks.Emit.Unit

/-!
# A directory tree in memory

The files and directories under the working directory, and the operations of a program on
them: reading and writing a file, making a directory and every missing directory above it,
and asking what a path names. A path is followed one component at a time; each step must go
through a directory, and `..` goes back up. Paths outside the working directory name
nothing, and nothing can be made there, unless the tree reaches the root: then a path that
starts with `/` is followed from the root.

A path with a NUL byte is refused before anything else, and so is a path or a component
longer than the operating system allows. Failures carry the kind and the sentence of the
operating system's error.
-/

namespace KotlinMocks

/-- What a path in the tree names. -/
inductive Entry where
  | file (text : String)
  | dir
  deriving DecidableEq

/-- The files and directories under the working directory, each under its components. When
`outside` is set, paths from the root can be followed as well: their components are kept
after a first component `/`, which names the root, and `cwd` is where the working directory
stands. -/
structure Disk where
  entries : List (List String × Entry) := []
  outside : Bool := false
  cwd : List String := []

namespace Disk

/-- No such file or directory. -/
def notFound : IoFailure := ⟨.notFound, "No such file or directory (os error 2)"⟩

/-- A component on the way is a file. -/
def notADirectory : IoFailure := ⟨.notADirectory, "Not a directory (os error 20)"⟩

/-- The path names a directory where a file was wanted. -/
def isADirectory : IoFailure := ⟨.isADirectory, "Is a directory (os error 21)"⟩

/-- The path names something already. -/
def fileExists : IoFailure := ⟨.alreadyExists, "File exists (os error 17)"⟩

/-- Outside the working directory nothing may be made, unless the tree reaches the root. -/
def permissionDenied : IoFailure := ⟨.permissionDenied, "Permission denied (os error 13)"⟩

/-- A path with a NUL byte in it cannot be handed to the operating system at all. -/
def nulInPath : IoFailure := ⟨.invalidInput, "file name contained an unexpected NUL byte"⟩

/-- A component longer than `maxNameBytes`, or a whole path of `maxPathBytes` or more. -/
def nameTooLong : IoFailure := ⟨.invalidFilename, "File name too long (os error 36)"⟩

/-- The most bytes a component may have. -/
def maxNameBytes : Nat := 255

/-- A path must have fewer bytes than this. -/
def maxPathBytes : Nat := 4096

/-- Refuses a path before it is followed: one with a NUL byte, then one that is too long. -/
def checkPath (p : String) : Except IoFailure Unit :=
  if p.toList.contains '\x00' then .error nulInPath
  else if maxPathBytes ≤ p.utf8ByteSize then .error nameTooLong
  else .ok ()

/-- The components that stand for the root. -/
def rootKey : List String := ["/"]

/-- What the components name; the working directory itself is a directory, and so is the
root when the tree reaches it. -/
def lookup (d : Disk) (at_ : List String) : Option Entry :=
  if at_ == d.cwd || (d.outside && at_ == rootKey) then some .dir else d.entries.lookup at_

/-- Follows the components of a path from `at_`; every step starts from a directory, and a
name too long to look up there is refused. -/
def follow (d : Disk) (at_ : List String) : List String → Except IoFailure (List String)
  | [] => .ok at_
  | c :: rest =>
    match d.lookup at_ with
    | some .dir =>
      if c == ".." then
        if at_.isEmpty then .error notFound
        else if at_ == rootKey then d.follow at_ rest
        else d.follow at_.dropLast rest
      else if maxNameBytes < c.utf8ByteSize then .error nameTooLong
      else d.follow (at_ ++ [c]) rest
    | some (.file _) => .error notADirectory
    | none => .error notFound

/-- The components a path leads to. -/
def resolve (d : Disk) (p : String) : Except IoFailure (List String) := do
  checkPath p
  if p.isEmpty then .error notFound
  else if isAbsolute p then
    if d.outside then d.follow rootKey (pieces p) else .error notFound
  else d.follow d.cwd (pieces p)

/-- What an existing path names; a path that asks for a directory at its end and leads to a
file is refused. -/
def entryAt (d : Disk) (p : String) : Except IoFailure Entry := do
  let at_ ← d.resolve p
  match d.lookup at_ with
  | some (.file text) => if endsAsDirectory p then throw notADirectory else pure (.file text)
  | some .dir => pure .dir
  | none => throw notFound

/-- The text of a file. -/
def read (d : Disk) (p : String) : Except IoFailure String := do
  match ← d.entryAt p with
  | .file text => pure text
  | .dir => throw isADirectory

/-- Whether a path names a file. -/
def isFile (d : Disk) (p : String) : Bool :=
  match d.entryAt p with
  | .ok (.file _) => true
  | _ => false

/-- Whether a path names a directory. -/
def isDir (d : Disk) (p : String) : Bool :=
  match d.resolve p with
  | .ok at_ => d.lookup at_ == some .dir
  | .error _ => false

/-- Sets what a path names. -/
def put (d : Disk) (at_ : List String) (e : Entry) : Disk :=
  if d.entries.any (·.1 == at_) then
    { d with entries := d.entries.map fun (k, v) => if k == at_ then (k, e) else (k, v) }
  else { d with entries := d.entries ++ [(at_, e)] }

/-- Makes one directory; the path must not name anything yet. -/
def createDir (d : Disk) (p : String) : Except IoFailure Disk := do
  checkPath p
  if isAbsolute p && !d.outside then throw permissionDenied
  let at_ ← d.resolve p
  if (d.lookup at_).isSome then throw fileExists
  pure (d.put at_ .dir)

/-- Makes a directory and every missing one above it; a directory that is there already is
fine. Each step goes to a shorter path, so `fuel` above the path's length is enough. -/
def createDirAllWith (d : Disk) (p : String) : Nat → Except IoFailure Disk
  | 0 => .ok d
  | fuel + 1 =>
    if p.isEmpty then .ok d
    else
      match d.createDir p with
      | .ok d' => .ok d'
      | .error e =>
        if d.isDir p then .ok d
        else if e.kind != .notFound then .error e
        else
          match parent? p with
          | none => .error ⟨.other, "failed to create whole tree"⟩
          | some q =>
            match d.createDirAllWith q fuel with
            | .error e => .error e
            | .ok d' =>
              match d'.createDir p with
              | .ok d'' => .ok d''
              | .error e => if d'.isDir p then .ok d' else .error e

/-- Makes a directory and every missing one above it. -/
def createDirAll (d : Disk) (p : String) : Except IoFailure Disk := d.createDirAllWith p (p.length + 1)

/-- Writes a file, making it or replacing its text; the directory it goes in must exist, and
a path that asks for a directory at its end names no file to write. -/
def write (d : Disk) (p : String) (text : String) : Except IoFailure Disk := do
  checkPath p
  if isAbsolute p && !d.outside then throw permissionDenied
  let at_ ← d.resolve p
  match d.lookup at_ with
  | some .dir => throw isADirectory
  | some (.file _) => if endsAsDirectory p then throw notADirectory else pure (d.put at_ (.file text))
  | none => if endsAsDirectory p then throw isADirectory else pure (d.put at_ (.file text))

/-- The components a path is kept under, read without following it: after the root's when
the path is absolute, else after the working directory's, each `..` going back one. -/
def keyOf (d : Disk) (p : String) : List String :=
  let start := if isAbsolute p then rootKey else d.cwd
  (pieces p).foldl (fun at_ c =>
    if c == ".." then (if at_ == rootKey then at_ else at_.dropLast) else at_ ++ [c]) start

/-- The tree with an entry at a path and directories above it where nothing is yet. -/
def place (d : Disk) (p : String) (e : Entry) : Disk :=
  let ps := d.keyOf p
  let dirs := (List.range ps.length).map fun n => ps.take n
  let d := dirs.foldl (fun d at_ => if at_.isEmpty || (d.lookup at_).isSome then d else d.put at_ .dir) d
  d.put ps e

/-- A tree holding the given files, with the directories above them. -/
def ofFiles (files : List (String × String)) : Disk :=
  files.foldl (fun d (path, text) => d.place path (.file text)) {}

/-- The entries of `after` that `before` does not hold as they are, in the order they were
first made. -/
def changesFrom (before after : Disk) : List (List String × Entry) :=
  after.entries.filter fun (k, e) => before.entries.lookup k != some e

/-- The path of an entry's components. -/
def pathOf : List String → String
  | "/" :: rest => "/" ++ "/".intercalate rest
  | at_ => "/".intercalate at_

/-- Every file with its text, under its path. -/
def files (d : Disk) : List (String × String) :=
  d.entries.filterMap fun (at_, e) =>
    match e with
    | .file text => some (pathOf at_, text)
    | .dir => none

end Disk

end KotlinMocks
