import Scaffold.Resource.Basic
import Scaffold.TypeScript.Syntax

/-!
The six files of a resource: the REST controller, the service over the Prisma client, the module,
the two DTOs, and the controller of the server-rendered views.
-/

namespace Scaffold.Resource
open TypeScript

def controllerClass (r : Resource) : String := r.className ++ "Controller"
def serviceClass (r : Resource) : String := r.className ++ "Service"
def moduleClass (r : Resource) : String := r.className ++ "Module"
def createDtoClass (r : Resource) : String := "Create" ++ r.className ++ "Dto"
def updateDtoClass (r : Resource) : String := "Update" ++ r.className ++ "Dto"
def viewsClass (r : Resource) : String := r.className ++ "ViewsController"

/-- The property under which the controllers hold the service. -/
def serviceName (r : Resource) : String := r.propertyName ++ "Service"

/-- A call of the service. -/
def serviceCall (r : Resource) (method args : String) : String :=
  "this." ++ r.serviceName ++ "." ++ method ++ "(" ++ args ++ ")"

/-- A call of the Prisma client. -/
def clientCall (r : Resource) (method args : String) : String :=
  "this.prisma." ++ r.propertyName ++ "." ++ method ++ "(" ++ args ++ ")"

/-- The `id` of the route, checked to be a whole number if ids are numbers. -/
def idParam (r : Resource) : Param where
  decorators := [⟨"Param", .text "id" :: (if r.idIsNumeric then [.ident "ParseIntPipe"] else []), []⟩]
  name := "id"
  type := r.idType

def bodyParam (type : String) : Param := ⟨[⟨"Body", [], []⟩], "dto", type⟩

def requestParam (r : Resource) : Param :=
  ⟨[⟨"Req", [], []⟩], "req",
    "\x7b user: \x7b id: " ++ r.auditKeyType ++ " \x7d \x7d"⟩

/-- The decorators of a route that changes data. -/
def guarded (r : Resource) (route : Decorator) : List Decorator :=
  (if r.isProtected then [⟨"UseGuards", [.ident "JwtAuthGuard"], []⟩] else []) ++ [route]

def plainImport (names : List String) (source : String) : Import := ⟨names, source, false⟩

/-- The name of a file of the resource's folder as imports write it. -/
def serviceFile (r : Resource) : String := r.folder ++ ".service"
def controllerFile (r : Resource) : String := r.folder ++ ".controller"
def createDtoFile (r : Resource) : String := "create-" ++ r.folder ++ ".dto"
def updateDtoFile (r : Resource) : String := "update-" ++ r.folder ++ ".dto"

def dtoImports (r : Resource) : List Import :=
  [plainImport [r.createDtoClass] ("./dto/" ++ r.createDtoFile),
    plainImport [r.updateDtoClass] ("./dto/" ++ r.updateDtoFile)]

def controllerImports (r : Resource) : List String :=
  ["Body", "Controller", "Delete", "Get", "Param"] ++
    (if r.idIsNumeric then ["ParseIntPipe"] else []) ++ ["Patch", "Post"] ++
    (if r.hasCreatedBy then ["Req"] else []) ++ (if r.isProtected then ["UseGuards"] else [])

def controllerCreate (r : Resource) : Method where
  decorators := r.guarded ⟨"Post", [], []⟩
  name := "create"
  params := bodyParam r.createDtoClass :: (if r.hasCreatedBy then [r.requestParam] else [])
  body :=
    ["return " ++ r.serviceCall "create" (if r.hasCreatedBy then "dto, req.user.id" else "dto") ++ ";"]

def controllerMethods (r : Resource) : List Method :=
  [r.controllerCreate,
    { decorators := [⟨"Get", [], []⟩]
      name := "findAll"
      params := []
      body := ["return " ++ r.serviceCall "findAll" "" ++ ";"] },
    { decorators := [⟨"Get", [.text ":id"], []⟩]
      name := "findOne"
      params := [r.idParam]
      body := ["return " ++ r.serviceCall "findOne" "id" ++ ";"] },
    { decorators := r.guarded ⟨"Patch", [.text ":id"], []⟩
      name := "update"
      params := [r.idParam, bodyParam r.updateDtoClass]
      onePerLine := true
      body := ["return " ++ r.serviceCall "update" "id, dto" ++ ";"] },
    { decorators := r.guarded ⟨"Delete", [.text ":id"], []⟩
      name := "remove"
      params := [r.idParam]
      body := ["return " ++ r.serviceCall "remove" "id" ++ ";"] }]

def controller (r : Resource) : SourceFile where
  imports :=
    [⟨r.controllerImports, "@nestjs/common", true⟩] ++
      (if r.isProtected then [plainImport ["JwtAuthGuard"] "../auth/jwt-auth.guard"] else []) ++
      [plainImport [r.serviceClass] ("./" ++ r.serviceFile)] ++ r.dtoImports
  exported :=
    { decorators := [⟨"Controller", [.text r.folder], []⟩]
      name := r.controllerClass
      members := some (.injected r.serviceName r.serviceClass :: r.controllerMethods.map .method) }

def serviceCreate (r : Resource) : Method where
  name := "create"
  params :=
    ⟨[], "dto", r.createDtoClass⟩ ::
      (if r.hasCreatedBy then [⟨[], "userId", r.auditKeyType⟩] else [])
  body :=
    if r.hasCreatedBy then
      ["return " ++ "this.prisma." ++ r.propertyName ++ ".create(\x7b",
        "  data: \x7b ...dto, " ++ r.auditAssignment ++ " \x7d,",
        "\x7d);"]
    else ["return " ++ r.clientCall "create" "\x7b data: dto \x7d" ++ ";"]

def serviceMethods (r : Resource) : List Method :=
  let byId := "where: \x7b id \x7d"
  [r.serviceCreate,
    { name := "findAll"
      params := []
      body := ["return " ++ r.clientCall "findMany" "" ++ ";"] },
    { isAsync := true
      name := "findOne"
      params := [⟨[], "id", r.idType⟩]
      body :=
        ["const record = await " ++ r.clientCall "findUnique" ("\x7b " ++ byId ++ " \x7d") ++ ";",
          "if (!record) \x7b",
          "  throw new NotFoundException(`" ++ r.className ++ " $\x7bid\x7d not found`);",
          "\x7d",
          "return record;"] },
    { name := "update"
      params := [⟨[], "id", r.idType⟩, ⟨[], "dto", r.updateDtoClass⟩]
      body := ["return " ++ r.clientCall "update" ("\x7b " ++ byId ++ ", data: dto \x7d") ++ ";"] },
    { name := "remove"
      params := [⟨[], "id", r.idType⟩]
      body := ["return " ++ r.clientCall "delete" ("\x7b " ++ byId ++ " \x7d") ++ ";"] }]

def service (r : Resource) : SourceFile where
  imports :=
    [plainImport ["Injectable", "NotFoundException"] "@nestjs/common",
      plainImport ["PrismaService"] "../prisma/prisma.service"] ++ r.dtoImports
  exported :=
    { decorators := [⟨"Injectable", [], []⟩]
      name := r.serviceClass
      members := some (.injected "prisma" "PrismaService" :: r.serviceMethods.map .method) }

def moduleFile (r : Resource) : SourceFile where
  imports :=
    [plainImport ["Module"] "@nestjs/common",
      plainImport ["PrismaModule"] "../prisma/prisma.module",
      plainImport [r.controllerClass] ("./" ++ r.controllerFile),
      plainImport [r.serviceClass] ("./" ++ r.serviceFile),
      plainImport [r.viewsClass] "./views/views.controller"]
  exported :=
    { decorators := [⟨"Module", [],
        [("imports", ["PrismaModule"]), ("controllers", [r.controllerClass, r.viewsClass]),
          ("providers", [r.serviceClass]), ("exports", [r.serviceClass])]⟩]
      name := r.moduleClass }

def property (f : FieldView) : Property := ⟨f.decorators, f.name, f.isOptional, f.tsType⟩

def createDto (r : Resource) : SourceFile where
  imports :=
    if r.validatorImports.isEmpty then [] else [plainImport r.validatorImports "class-validator"]
  exported :=
    { name := r.createDtoClass
      members := some (r.dtoFields.map fun f => .property (property f)) }

def updateDto (r : Resource) : SourceFile where
  imports :=
    [plainImport ["PartialType"] "@nestjs/mapped-types",
      plainImport [r.createDtoClass] ("./" ++ r.createDtoFile)]
  exported :=
    { name := r.updateDtoClass
      base := some ("PartialType(" ++ r.createDtoClass ++ ")") }

def viewsImports (r : Resource) : List String :=
  ["Controller", "Get", "Param"] ++ (if r.idIsNumeric then ["ParseIntPipe"] else []) ++ ["Render"]

def viewsMethods (r : Resource) : List Method :=
  let shown (value : String) :=
    "return \x7b title: '" ++ r.className ++ "', columns: COLUMNS, " ++ value ++ " \x7d;"
  [{ decorators := [⟨"Get", [], []⟩, ⟨"Render", [.text (r.folder ++ "/index")], []⟩]
     isAsync := true
     name := "index"
     params := []
     body := ["const items = await " ++ r.serviceCall "findAll" "" ++ ";", shown "items"] },
   { decorators := [⟨"Get", [.text ":id"], []⟩, ⟨"Render", [.text (r.folder ++ "/show")], []⟩]
     isAsync := true
     name := "show"
     params := [r.idParam]
     body := ["const item = await " ++ r.serviceCall "findOne" "id" ++ ";", shown "item"] }]

def views (r : Resource) : SourceFile where
  imports :=
    [plainImport r.viewsImports "@nestjs/common",
      plainImport [r.serviceClass] ("../" ++ r.serviceFile)]
  constants := [("COLUMNS", r.fields.map (·.name))]
  exported :=
    { decorators := [⟨"Controller", [.text ("views/" ++ r.folder)], []⟩]
      name := r.viewsClass
      members := some (.injected r.serviceName r.serviceClass :: r.viewsMethods.map .method) }

end Scaffold.Resource
