import Scaffold.Text.Path
import Scaffold.Workspace

/-!
A file system in memory: a root directory, and files and directories below it. Operations name their
target by a path from the root and fail as the operating system's do, also where it denies access.
-/

namespace Scaffold

inductive Entry where
  | directory
  | file (content : ByteArray)

def Entry.isDirectory : Entry → Bool
  | .directory => true
  | .file _ => false

/-- The names that lead from the root to an entry. -/
abbrev Location := List String

/-- What the system may deny at a location: to go through its directory, to read what stands there,
and to make or write it. -/
inductive Access where
  | search
  | read
  | write

/-- The entries of a tree, each with its location, and what the system says where it denies access.
The root is always a directory and has no entry. -/
structure FileTree where
  entries : List (Location × Entry)
  refuses : Access → Location → Option String := fun _ _ => none

namespace FileTree

def empty : FileTree := { entries := [] }

def get? (t : FileTree) (loc : Location) : Option Entry :=
  if loc.isEmpty then some .directory else t.entries.lookup loc

def put (t : FileTree) (loc : Location) (e : Entry) : FileTree :=
  { t with entries := (loc, e) :: t.entries.filter (·.1 != loc) }

/-- Takes away an entry and all that lies below it. -/
def prune (t : FileTree) (loc : Location) : FileTree :=
  { t with entries := t.entries.filter fun (l, _) => !loc.isPrefixOf l }

/-- Takes away all that lies below an entry. -/
def clear (t : FileTree) (loc : Location) : FileTree :=
  { t with entries := t.entries.filter fun (l, _) => l == loc || !loc.isPrefixOf l }

def permit (t : FileTree) (a : Access) (loc : Location) : Except IoError Unit :=
  match t.refuses a loc with
  | none => .ok ()
  | some text => .error (.other text)

/-- The most bytes that a name and a whole path may have. -/
def nameLimit : Nat := 255
def pathLimit : Nat := 4095

/-- Follows the moves of a path. Every place left on the way must be a directory; the place reached
need not exist. -/
def walk (t : FileTree) : Location → List Path.Step → Except IoError Location
  | loc, [] => .ok loc
  | loc, step :: rest =>
    match t.get? loc with
    | none => .error .notFound
    | some (.file _) => .error .notDirectory
    | some .directory =>
      match t.refuses .search loc, step with
      | some text, _ => .error (.other text)
      | none, .up => t.walk loc.dropLast rest
      | none, .into name =>
        if nameLimit < name.utf8ByteSize then .error .nameTooLong else t.walk (loc ++ [name]) rest

def resolve (t : FileTree) (path : String) : Except IoError Location :=
  if path.isEmpty then .error .notFound
  else if pathLimit < path.utf8ByteSize then .error .nameTooLong
  else t.walk [] (Path.steps path)

/-- The entry that a path names. -/
def find (t : FileTree) (path : String) : Except IoError Entry := do
  match t.get? (← t.resolve path) with
  | none => .error .notFound
  | some (.file content) =>
    if Path.namesDirectory path then .error .notDirectory else .ok (.file content)
  | some .directory => .ok .directory

def pathExists (t : FileTree) (path : String) : Bool := (t.find path).isOk

def isDirectory (t : FileTree) (steps : List Path.Step) : Bool :=
  match t.walk [] steps with
  | .ok loc => (t.get? loc).any Entry.isDirectory
  | .error _ => false

def readBytes (t : FileTree) (path : String) : Except IoError ByteArray := do
  let entry ← t.find path
  t.permit .read (← t.resolve path)
  match entry with
  | .file content => .ok content
  | .directory => .error .isDirectory

def readText (t : FileTree) (path : String) : Except IoError String := do
  match String.fromUTF8? (← t.readBytes path) with
  | some text => .ok text
  | none => .error .invalidUtf8

/-- Whether what a path names can be watched. -/
def watch (t : FileTree) (path : String) : Except IoError Unit := do
  let _ ← t.find path
  t.permit .read (← t.resolve path)

def writeBytes (t : FileTree) (path : String) (content : ByteArray) : Except IoError FileTree := do
  let loc ← t.resolve path
  match t.get? loc with
  | some .directory => .error .isDirectory
  | some (.file _) => if Path.namesDirectory path then .error .notDirectory
  | none => if Path.namesDirectory path then .error .isDirectory
  t.permit .write loc
  return t.put loc (.file content)

/-- Makes a single directory. -/
def makeDir (t : FileTree) (steps : List Path.Step) : Except IoError FileTree := do
  let loc ← t.walk [] steps
  match t.get? loc with
  | some _ => .error .alreadyExists
  | none =>
    t.permit .write loc
    return t.put loc .directory

/-- Makes the directory that the moves lead to, given last move first, and those above it that are
missing. A failure keeps what was made before it. -/
def makeDirsRev (t : FileTree) : List Path.Step → FileTree × Except IoError Unit
  | [] => (t, .ok ())
  | last :: above =>
    let steps := (last :: above).reverse
    match t.makeDir steps with
    | .ok made => (made, .ok ())
    | .error .notFound =>
      match t.makeDirsRev above with
      | (t, .error e) => (t, .error e)
      | (t, .ok ()) =>
        match t.makeDir steps with
        | .ok made => (made, .ok ())
        | .error e => (t, if t.isDirectory steps then .ok () else .error e)
    | .error e => (t, if t.isDirectory steps then .ok () else .error e)

/-- Makes the directory of a path and those above it that are missing. A path that ends in `.` gives
no name to make a directory by, so only those above its last move are made. -/
def makeDirs (t : FileTree) (path : String) : FileTree × Except IoError Unit :=
  let last := (Path.steps path).reverse
  if pathLimit < path.utf8ByteSize then (t, .error .nameTooLong)
  else if Path.endsInDot path then
    match t.find path with
    | .error .notFound =>
      match t.makeDirsRev last.tail with
      | (t, .ok ()) => (t, (t.find path).map fun _ => ())
      | failed => failed
    | found => (t, found.map fun _ => ())
  else t.makeDirsRev last

/-- Takes away what a path names. A directory named by a path that ends in `.` is only emptied. -/
def remove (t : FileTree) (path : String) : FileTree :=
  match t.find path, t.resolve path with
  | .ok _, .ok loc => if Path.endsInDot path then t.clear loc else t.prune loc
  | _, _ => t

/-- A tree is a place to work in. Its operations take no time. -/
instance : Workspace (StateM FileTree) where
  readText _ path := return ((← get).readText path).mapError .io
  makeDirs _ path := do
    let (t, outcome) := (← get).makeDirs path
    set t
    return outcome.mapError .io
  writeText _ path text := do
    match (← get).writeBytes path text.toUTF8 with
    | .ok t => set t; return .ok ()
    | .error e => return .error (.io e)
  pathExists path := return (← get).pathExists path
  watchDir path := return (← get).watch path
  report _ := return ()

/-! What `put` and `prune` do to a look-up. -/

theorem get?_put_self (t : FileTree) {loc : Location} (h : loc ≠ []) (e : Entry) :
    (t.put loc e).get? loc = some e := by
  simp [get?, put, h]

theorem lookup_filter_ne {l loc : Location} (h : l ≠ loc) (es : List (Location × Entry)) :
    (es.filter (·.1 != loc)).lookup l = es.lookup l := by
  induction es with
  | nil => rfl
  | cons p ps ih =>
    obtain ⟨k, v⟩ := p
    by_cases hk : k = loc
    · subst hk
      rw [List.filter_cons_of_neg (by simp), ih, List.lookup_cons, beq_false_of_ne h]
    · rw [List.filter_cons_of_pos (by simpa using hk), List.lookup_cons, List.lookup_cons, ih]

theorem get?_put_of_ne (t : FileTree) {l loc : Location} (h : l ≠ loc) (e : Entry) :
    (t.put loc e).get? l = t.get? l := by
  rw [get?, get?, put, List.lookup_cons, beq_false_of_ne h, lookup_filter_ne h]

end FileTree

end Scaffold
