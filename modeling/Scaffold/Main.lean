import Scaffold.Program
import Scaffold.Watch.Loop

/-!
The program on a terminal: files and clock are the system's, log lines go to standard output, and
warnings and failures to standard error. The schema counts as changed when its file holds something
else than when it was last looked at.
-/

namespace Scaffold

namespace Terminal

/-- What a run keeps at hand: which events are shown, and the watched file with what it last held. -/
structure Session where
  filter : LogFilter
  schemaPath : String
  lastSeen : IO.Ref (Option ByteArray)

/-- A run that works on the files of the system. -/
abbrev Run := ReaderT Session IO

/-! ## Errors of the system -/

def numbered (details : String) (code : UInt32) : IoError :=
  match code.toNat with
  | 2 => .notFound
  | 17 => .alreadyExists
  | 20 => .notDirectory
  | 21 => .isDirectory
  | 36 => .nameTooLong
  | n => .other (details ++ " (os error " ++ Nat.repr n ++ ")")

def cause : IO.Error → IoError
  | .alreadyExists _ code details | .invalidArgument _ code details
  | .permissionDenied _ code details | .resourceExhausted _ code details
  | .inappropriateType _ code details | .noSuchThing _ code details
  | .interrupted _ code details | .noFileOrDirectory _ code details
  | .otherError code details | .resourceBusy code details | .resourceVanished code details
  | .unsupportedOperation code details | .hardwareFault code details
  | .unsatisfiedConstraints code details | .illegalOperation code details
  | .protocolError code details | .timeExpired code details => numbered details code
  | .unexpectedEof => .other "unexpected end of file"
  | .userError text => .other text

/-! ## Files -/

/-- Waits for a task until the clock shows `deadline`. -/
partial def endsBy {α : Type} (task : Task α) (deadline : Nat) : IO Bool := do
  if ← IO.hasFinished task then return true
  else if deadline < (← IO.monoNanosNow) then return false
  else
    IO.sleep 1
    endsBy task deadline

/-- Starts an operation and waits for it, for at most `limit`. -/
def within {α : Type} (limit : Duration) (op : IO α) : IO (Except OpError α) := do
  let deadline := (← IO.monoNanosNow) + limit.roundUp.nanos
  let task ← IO.asTask op
  if ← endsBy task deadline then return task.get.mapError fun e => .io (cause e)
  else return .error .expired

def readBytes (limit : Option Duration) (path : String) : IO (Except OpError ByteArray) :=
  match limit with
  | some limit => within limit (IO.FS.readBinFile path)
  | none => do return (← (IO.FS.readBinFile path).toBaseIO).mapError fun e => .io (cause e)

def readText (limit : Option Duration) (path : String) : IO (Except OpError String) := do
  match ← readBytes limit path with
  | .error e => return .error e
  | .ok bytes =>
    match String.fromUTF8? bytes with
    | some text => return .ok text
    | none => return .error (.io .invalidUtf8)

/-- Opens a file or directory to see that it is there. -/
def look (path : String) : IO (Except IoError Unit) := do
  let handle ← (IO.FS.Handle.mk path .read).toBaseIO
  return (handle.map fun _ => ()).mapError cause

def isDirectory (path : String) : IO Bool := return (← look (Path.join path ".")).isOk

/-- Makes a directory and those above it that are missing. One that is there already is no error. -/
partial def makeDirs (path : String) : IO Unit := do
  if path.isEmpty then return
  match ← (IO.FS.createDir path).toBaseIO, Path.parent? path with
  | .ok (), _ => return
  | .error (.noFileOrDirectory ..), some parent =>
    makeDirs parent
    try IO.FS.createDir path catch e => if ← isDirectory path then return else throw e
  | .error e, _ => if ← isDirectory path then return else throw e

def printLine (line : String) : IO Unit := do
  IO.println line
  (← IO.getStdout).flush

instance : Workspace Run where
  readText limit path := readText limit path
  makeDirs limit path := within limit (makeDirs path)
  writeText limit path text := within limit (IO.FS.writeFile path text)
  pathExists path := do
    match ← look path with
    | .error .notFound | .error .notDirectory | .error .nameTooLong => return false
    | _ => return true
  watchDir path := look path
  report event := do
    match Program.shown? (← read).filter event with
    | some line => printLine line
    | none => pure ()

/-! ## Waiting for changes -/

/-- How often the schema is looked at while a change is waited for, in milliseconds. -/
def pollMs : UInt32 := 20

/-- Looks at the schema, and says whether it is there and holds something new. -/
def lookForChange : Run Bool := do
  let session ← read
  match ← (IO.FS.readBinFile session.schemaPath).toBaseIO with
  | .error _ =>
    session.lastSeen.set none
    return false
  | .ok bytes =>
    let before ← session.lastSeen.swap (some bytes)
    return before != some bytes

partial def waitForChange : Run Unit := do
  if ← lookForChange then return
  else
    IO.sleep pollMs
    waitForChange

/-- Sleeps in pieces, because a single sleep is limited to what 32 bits hold. -/
partial def sleepFor (ms : Nat) : IO Unit := do
  let piece := min ms 1000000
  IO.sleep piece.toUInt32
  if piece < ms then sleepFor (ms - piece)

instance : ChangeFeed Run where
  receive := do
    waitForChange
    return true
  pause ms := sleepFor ms
  drain := lookForChange

/-- Batches until the process is ended. -/
partial def watchOn (settings : Settings) (schemaPath outDir : String) (q : ChangeQueue) :
    Run Unit := do
  match ← Watch.round settings schemaPath outDir q with
  | some q => watchOn settings schemaPath outDir q
  | none => return

/-! ## The run -/

def settingNames : List String :=
  [CommandLine.schemaVariable, "NESTGEN_PROTECTED_MODELS", "NESTGEN_IO_TIMEOUT_MS",
    "NESTGEN_DEBOUNCE_MS", "NESTGEN_LOG_LEVEL", "NESTGEN_LOG_FORMAT", "NESTGEN_LOG_TARGET_FILTER",
    "RUST_LOG"]

def environment : IO Environment := do
  let vars ← settingNames.filterMapM fun name => do
    return (← IO.getEnv name).map fun value => (name, value.toUTF8)
  return .ofList vars

/-- Does what a command line asks for, and gives the exit code. -/
def perform (env : Environment) (c : CommandLine) : IO UInt32 := do
  (Program.warnings env).forM fun warning => IO.eprintln warning
  let atStart ← (IO.FS.readBinFile c.schema).toBaseIO
  let session : Session := ⟨Program.filter env, c.schema, ← IO.mkRef atStart.toOption⟩
  let watching (settings : Settings) : Run Unit :=
    watchOn settings c.schema c.outDir ⟨settings.debounceMs, false⟩
  match ← (Program.run env c watching).run.run session with
  | .ok () => return 0
  | .error e =>
    IO.eprintln e.line
    return 1

end Terminal

end Scaffold

def main (args : List String) : IO UInt32 := do
  let env ← Scaffold.Terminal.environment
  match Scaffold.CommandLine.parse env args with
  | .ok c => Scaffold.Terminal.perform env c
  | .error refusal =>
    let shown := Scaffold.Program.refused env refusal
    IO.print shown.stdout
    IO.eprint shown.stderr
    return shown.exitCode.toUInt32
