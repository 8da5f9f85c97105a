/-!
# Paths

Paths are texts of components separated by `/`. A path that starts with `/` is absolute;
joining a relative path to another appends it after one separator, and joining an absolute
one replaces the base. Empty components and `.` components other than a leading one do not
name anything.
-/

namespace KotlinMocks.Disk

/-- Whether a path starts at the root. -/
def isAbsolute (p : String) : Bool := p.startsWith "/"

/-- `rel` read from `base`: `rel` itself when it is absolute or `base` is empty, else the two
with one separator between them. -/
def join (base rel : String) : String :=
  if isAbsolute rel || base.isEmpty then rel
  else if base.endsWith "/" then base ++ rel
  else base ++ "/" ++ rel

/-- Read from the empty path, a path is itself. -/
theorem join_empty_base (rel : String) : join "" rel = rel := by
  simp [join]

/-- The texts between the separators of a path, in order, empty ones included, read character by
character. -/
def separated (p : String) : List String := (p.toList.splitOn '/').map String.ofList

/-- The components that name something, in order: the pieces between separators, without
empty ones and `.`. -/
def pieces (p : String) : List String := (separated p).filter fun c => !c.isEmpty && c != "."

/-- Whether a path asks for a directory at its end: its last piece is empty (the path ends
with a separator), `.` or `..`. -/
def endsAsDirectory (p : String) : Bool :=
  match (separated p).getLast? with
  | some last => last.isEmpty || last == "." || last == ".."
  | none => false

/-- The characters of a path without separators and `.` components at its end. -/
def trimEnd (cs : List Char) (fuel : Nat) : List Char :=
  match fuel with
  | 0 => cs
  | fuel + 1 =>
    match cs.reverse with
    | '/' :: rest => if rest.isEmpty then cs else trimEnd rest.reverse fuel
    | '.' :: '/' :: rest => trimEnd (rest.reverse ++ ['/']) fuel
    | _ => cs

/-- The path without its last component: `none` for the empty path and the root, the empty
path for a single relative component. A leading `.` counts as a component. -/
def parent? (p : String) : Option String :=
  let cs := trimEnd p.toList (p.length + 1)
  if cs.isEmpty || cs == ['/'] then none
  else
    let before := (cs.reverse.dropWhile (· ≠ '/')).reverse
    if before.isEmpty then some ""
    else
      let kept := trimEnd before (before.length + 1)
      if kept == ['/'] then some "/"
      else
        let stripped := (kept.reverse.dropWhile (· == '/')).reverse
        some (String.ofList (if stripped.isEmpty then ['/'] else stripped))

end KotlinMocks.Disk
