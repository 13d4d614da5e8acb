import Scaffold.Resource.Files
import Scaffold.Text.Path
import Scaffold.TypeScript.Printer

/-!
The six artifacts of a resource: what each is called, where it lies in the resource's folder, and
its text.
-/

namespace Scaffold

inductive Artifact where
  | controller
  | service
  | module
  | createDto
  | updateDto
  | views
deriving DecidableEq, Repr

namespace Artifact

/-- All artifacts, in the order in which they are written. -/
def all : List Artifact := [.controller, .service, .module, .createDto, .updateDto, .views]

theorem mem_all (a : Artifact) : a ∈ all := by cases a <;> decide

def name : Artifact → String
  | .controller => "controller"
  | .service => "service"
  | .module => "module"
  | .createDto => "create-dto"
  | .updateDto => "update-dto"
  | .views => "views-controller"

/-- The path below the folder of the resource. -/
def relativePath (folder : String) : Artifact → String
  | .controller => folder ++ ".controller.ts"
  | .service => folder ++ ".service.ts"
  | .module => folder ++ ".module.ts"
  | .createDto => Path.join "dto" ("create-" ++ folder ++ ".dto.ts")
  | .updateDto => Path.join "dto" ("update-" ++ folder ++ ".dto.ts")
  | .views => Path.join "views" "views.controller.ts"

def file (r : Resource) : Artifact → TypeScript.SourceFile
  | .controller => r.controller
  | .service => r.service
  | .module => r.moduleFile
  | .createDto => r.createDto
  | .updateDto => r.updateDto
  | .views => r.views

def text (r : Resource) (a : Artifact) : String := (a.file r).print

end Artifact

end Scaffold
