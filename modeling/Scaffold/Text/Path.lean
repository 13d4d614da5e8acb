/-!
Paths as text, with `/` between the parts. Joining and taking the parent keep the spelling of what
they keep: doubled separators and `.` parts stay where they are.
-/

namespace Scaffold.Path

/-- `path` below `base`; an absolute `path` stands alone. -/
def join (base path : String) : String :=
  if path.startsWith "/" then path
  else if base.isEmpty || base.endsWith "/" then base ++ path
  else base ++ "/" ++ path

/-- A part that names no place of its own. -/
def isIdle (part : List Char) : Bool := part == [] || part == ['.']

def dropIdleEnd (parts : List (List Char)) : List (List Char) :=
  (parts.reverse.dropWhile isIdle).reverse

/-- The parts without the last one that names a place. -/
def dropLastPart? (parts : List (List Char)) : Option (List (List Char)) :=
  match dropIdleEnd parts with
  | [] => none
  | kept => some (dropIdleEnd kept.dropLast)

/-- The path without its last part. The root and the empty path have no parent. -/
def parent? (path : String) : Option String :=
  let slash : List Char := ['/']
  match path.toList.splitOn '/' with
  | [] :: rest@(_ :: _) =>
    (dropLastPart? rest).map fun kept => String.ofList ('/' :: slash.intercalate kept)
  | ['.'] :: rest =>
    match dropLastPart? rest with
    | some kept => some (String.ofList (slash.intercalate (['.'] :: kept)))
    | none => some ""
  | parts => (dropLastPart? parts).map fun kept => String.ofList (slash.intercalate kept)

/-- One move through the directories. -/
inductive Step where
  | up
  | into (name : String)
deriving DecidableEq, Repr

/-- The moves that a path stands for. -/
def steps (path : String) : List Step :=
  ((path.toList.splitOn '/').filter (!isIdle ·)).map fun part =>
    if part = ['.', '.'] then .up else .into (String.ofList part)

/-- Whether the last part, separators at the end apart, is `.`. -/
def endsInDot (path : String) : Bool :=
  ((path.toList.splitOn '/').filter (· != [])).getLast? == some ['.']

/-- A path that ends in a separator or in `.` can only name a directory. -/
def namesDirectory (path : String) : Bool :=
  ((path.toList.splitOn '/').getLast?.map isIdle).getD false

end Scaffold.Path
