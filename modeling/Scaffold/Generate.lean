import Scaffold.Resource.Artifact
import Scaffold.Settings.Basic
import Scaffold.Workspace

/-!
Generating a resource: parse the model, decide what its files say, and write them below the output
directory. The first failure ends the generation; files written before it stay.
-/

namespace Scaffold

namespace Generate

variable {m : Type → Type} [Monad m] [Workspace m]

/-- The directory of a resource, and the directories that its files need. -/
def targetDir (r : Resource) (outDir : String) : String := Path.join outDir r.folder

def neededDirs (r : Resource) (outDir : String) : List String :=
  [Path.join (targetDir r outDir) "dto", Path.join (targetDir r outDir) "views"]

def artifactPath (r : Resource) (outDir : String) (a : Artifact) : String :=
  Path.join (targetDir r outDir) (a.relativePath r.folder)

def makeDir (limit : Duration) (path : String) : ExceptT GenerateError m Unit :=
  bounded path limit .artifactWrite (Workspace.makeDirs limit path)

def writeArtifact (limit : Duration) (r : Resource) (outDir : String) (a : Artifact) :
    ExceptT GenerateError m String := do
  let path := artifactPath r outDir a
  bounded path limit .artifactWrite (Workspace.writeText limit path (a.text r))
  ExceptT.lift (Workspace.report (.fileWritten path))
  return path

/-- Makes the directories, then writes the six files. Gives the paths written, in order. -/
def writeArtifacts (limit : Duration) (r : Resource) (outDir : String) :
    ExceptT GenerateError m (List String) := do
  (neededDirs r outDir).forM (makeDir limit)
  Artifact.all.mapM (writeArtifact limit r outDir)

def readSchema (settings : Settings) (path : String) : ExceptT GenerateError m String :=
  bounded path settings.ioTimeout .schemaRead
    (Workspace.readText (some settings.ioTimeout) path)

/-- The id type of the model that the audit relation refers to, if the schema has both. -/
def auditTargetId? (source : String) (parsed : ParsedModel) : Option TargetType := do
  (← Schema.parseModel? source (← parsed.auditRelation?).target).idType?

/-- The resource of a model that the schema has. -/
def resourceOf (settings : Settings) (source : String) (block : ModelBlock) : Resource :=
  .ofModel block.name block.parse (auditTargetId? source block.parse) settings.protectedModels

/-- What deciding about a resource reports. -/
def resourceEvents (source : String) (block : ModelBlock) (r : Resource) : List Event :=
  let target? := block.parse.auditRelation?.bind fun relation =>
    Schema.findBlock? source relation.target
  Schema.parseEvents block ++ [.modelParsed block.name block.parse] ++
    (target?.map Schema.parseEvents).getD [] ++
    (if r.isProtected then [.modelGuarded block.name] else [])

/-- Generates a model from the text of its schema. -/
def fromSource (settings : Settings) (source model outDir : String) :
    ExceptT GenerateError m (List String) :=
  match Schema.findBlock? source model with
  | none => throw (.modelNotFound model)
  | some block => do
    let r := resourceOf settings source block
    ExceptT.lift ((resourceEvents source block r).forM Workspace.report)
    writeArtifacts settings.ioTimeout r outDir

/-- Generates a model from the schema file of the settings. -/
def fromFile (settings : Settings) (model outDir : String) :
    ExceptT GenerateError m (List String) := do
  let source ← readSchema settings settings.schemaPath
  fromSource settings source model outDir

end Generate

end Scaffold
