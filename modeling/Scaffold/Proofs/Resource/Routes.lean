import Scaffold.Proofs.Resource.AuditWiring
import Scaffold.Proofs.Resource.Guards

/-! The routes of a generated controller, as its text has them: where guards stand, which names are imported
for decorators and pipes, and what the classes of a resource take an `id` to be. -/

namespace Scaffold
open Text TypeScript

/-! ## What a class applies -/

namespace TypeScript

/-- The decorators of a class, of its methods and of their parameters, and the pipes given to those of
parameters. -/
def ClassDecl.applied (c : ClassDecl) : List String :=
  c.decorators.map (·.name) ++
    c.methods.flatMap fun m => m.decorators.map (·.name) ++ m.params.flatMap Param.uses

/-- The parameters `id` of the methods. -/
def ClassDecl.idParams (c : ClassDecl) : List Param := (c.methods.flatMap (·.params)).filter (·.name = "id")

/-- A decorator of the parameter is given this pipe. -/
def Param.IsPiped (pipe : String) (p : Param) : Prop := ∃ d ∈ p.decorators, .ident pipe ∈ d.args

end TypeScript

namespace Resource
open Generate

/-! ## Lines -/

def guardLine : String := "  @UseGuards(JwtAuthGuard)"

/-- The lines of the routes that change data. -/
def mutationRoutes : List String := ["  @Post()", "  @Patch(':id')", "  @Delete(':id')"]

def guardedLines (isProtected : Bool) (route : String) : List String :=
  (if isProtected then [guardLine] else []) ++ [route]

/-- The decorators of the five routes, a list for each. -/
def routeLines (isProtected : Bool) : List (List String) :=
  [guardedLines isProtected "  @Post()", ["  @Get()"], ["  @Get(':id')"],
    guardedLines isProtected "  @Patch(':id')", guardedLines isProtected "  @Delete(':id')"]

theorem decoratorLines_guarded (r : Resource) (route : Decorator) :
    (r.guarded route).map (indent ∘ Decorator.print) = guardedLines r.isProtected (indent route.print) := by
  have hguard : indent (Decorator.print ⟨"UseGuards", [.ident "JwtAuthGuard"], []⟩) = guardLine := by decide
  unfold guarded guardedLines
  cases r.isProtected <;> simp [hguard]

theorem decoratorLines_controllerMethods (r : Resource) :
    r.controllerMethods.map Method.decoratorLines = routeLines r.isProtected := by
  have hpost : indent (Decorator.print ⟨"Post", [], []⟩) = "  @Post()" := by decide
  have hall : indent (Decorator.print ⟨"Get", [], []⟩) = "  @Get()" := by decide
  have hone : indent (Decorator.print ⟨"Get", [.text ":id"], []⟩) = "  @Get(':id')" := by decide
  have hpatch : indent (Decorator.print ⟨"Patch", [.text ":id"], []⟩) = "  @Patch(':id')" := by decide
  have hdelete : indent (Decorator.print ⟨"Delete", [.text ":id"], []⟩) = "  @Delete(':id')" := by decide
  unfold routeLines
  rw [← hpost, ← hall, ← hone, ← hpatch, ← hdelete, ← decoratorLines_guarded, ← decoratorLines_guarded,
    ← decoratorLines_guarded]
  rfl

section
variable {r : Resource} (hr : r.IsClean)
include hr

/-- Guards and routes in the text of a controller, counted, and the lines that guards stand before. -/
theorem lines_controller {line : String} (hline : IsDecoratorLine line) :
    (linesOf (Artifact.controller.text r)).count line =
        (r.controllerMethods.map Method.decoratorLines).flatten.count line ∧
      ((∀ lines ∈ r.controllerMethods.map Method.decoratorLines, lines.getLast? ≠ some line) →
        linesBehind line (linesOf (Artifact.controller.text r)) =
          (r.controllerMethods.map Method.decoratorLines).flatMap (linesBehind line)) := by
  have hnames : ∀ m ∈ r.controllerMethods, IsName m.name :=
    fun m hm => (isReadable_controllerMethods hr m hm).name
  have hplain : ∀ d ∈ r.controller.exported.decorators, d.lists = [] := List.forall_mem_singleton.2 rfl
  have himports : ∀ i ∈ r.controller.imports, i.IsClean := isClean_imports hr .controller
  have hlines : linesOf (Artifact.controller.text r) = r.controller.lines :=
    SourceFile.linesOf_print (isFlat_file hr .controller)
  rw [hlines, ← List.flatMap_def, List.flatMap_map]
  exact ⟨SourceFile.count_decoratorLine rfl hplain himports hnames hline, fun hlast =>
    SourceFile.linesBehind_decoratorLine rfl hplain himports hnames hline
      fun m hm => hlast _ (List.mem_map_of_mem hm)⟩

/-- The guards of a protected resource stand right before the routes that change data. -/
theorem guards_placed (hprotected : r.isProtected = true) :
    let lines := linesOf (Artifact.controller.text r)
    lines.count guardLine = 3 ∧ linesBehind guardLine lines = mutationRoutes ∧
      ∀ route ∈ mutationRoutes, lines.count route = 1 := by
  obtain ⟨hcount, hbehind⟩ := lines_controller hr (by decide : IsDecoratorLine guardLine)
  rw [decoratorLines_controllerMethods, hprotected] at hcount hbehind
  refine ⟨hcount.trans (by decide), (hbehind (by decide)).trans (by decide), fun route hroute => ?_⟩
  have hline : IsDecoratorLine route := (by decide : ∀ route ∈ mutationRoutes, IsDecoratorLine route) route hroute
  have hroutes := (lines_controller hr hline).1
  rw [decoratorLines_controllerMethods, hprotected] at hroutes
  have hone : ∀ route ∈ mutationRoutes, (routeLines true).flatten.count route = 1 := by decide
  exact hroutes.trans (hone route hroute)

theorem guards_absent (hprotected : r.isProtected = false) :
    guardLine ∉ linesOf (Artifact.controller.text r) := by
  obtain ⟨hcount, -⟩ := lines_controller hr (by decide : IsDecoratorLine guardLine)
  rw [decoratorLines_controllerMethods, hprotected] at hcount
  exact List.count_eq_zero.1 (hcount.trans (by decide))

end

/-! ## Imported names -/

/-- What the controller applies, in the order of its text. -/
def appliedNames (idIsNumeric hasCreatedBy isProtected : Bool) : List String :=
  let pipe := if idIsNumeric then ["ParseIntPipe"] else []
  let guard := if isProtected then ["UseGuards"] else []
  ["Controller"] ++ guard ++ ["Post", "Body"] ++ (if hasCreatedBy then ["Req"] else []) ++ ["Get", "Get", "Param"] ++
    pipe ++ guard ++ ["Patch", "Param"] ++ pipe ++ ["Body"] ++ guard ++ ["Delete", "Param"] ++ pipe

theorem applied_controller (r : Resource) :
    r.controller.exported.applied = appliedNames r.idIsNumeric r.hasCreatedBy r.isProtected := by
  unfold ClassDecl.applied
  rw [methods_controller]
  unfold controllerMethods controllerCreate guarded idParam
  cases r.idIsNumeric <;> cases r.hasCreatedBy <;> cases r.isProtected <;> rfl

/-- A controller imports what it applies, each name once. -/
theorem controllerImports_exact (r : Resource) :
    r.controllerImports.Nodup ∧ ∀ name, name ∈ r.controllerImports ↔ name ∈ r.controller.exported.applied := by
  have hsame : r.controllerImports.Nodup ∧ r.controllerImports ⊆ r.controller.exported.applied ∧
      r.controller.exported.applied ⊆ r.controllerImports := by
    rw [applied_controller]
    unfold controllerImports appliedNames
    cases r.idIsNumeric <;> cases r.hasCreatedBy <;> cases r.isProtected <;> decide
  exact ⟨hsame.1, fun name => ⟨fun h => hsame.2.1 h, fun h => hsame.2.2 h⟩⟩

/-- The clause of the import that a controller has from the framework. -/
def commonClause (r : Resource) : String := Import.clause ⟨r.controllerImports, "@nestjs/common", true⟩

theorem importedNames_commonClause (r : Resource) : importedNames r.commonClause = r.controllerImports :=
  importedNames_clause_lines rfl isName_controllerImports

theorem IsRelative.append {front : String} (h : IsRelative front) (back : String) :
    IsRelative (front ++ back) := by
  have hfront : front.toList <+: (front ++ back).toList := by
    rw [String.toList_append]
    exact List.prefix_append _ _
  exact h.imp (·.trans hfront) (·.trans hfront)

/-- Behind its first import a controller imports modules of the project only. -/
theorem exists_imports_controller (r : Resource) :
    ∃ others, r.controller.imports = ⟨r.controllerImports, "@nestjs/common", true⟩ :: others ∧
      ∀ i ∈ others, IsRelative i.source := by
  have hguard : ∀ i ∈ (if r.isProtected then [plainImport ["JwtAuthGuard"] "../auth/jwt-auth.guard"] else []),
      IsRelative i.source := by
    split
    · exact List.forall_mem_singleton.2 (by decide : IsRelative "../auth/jwt-auth.guard")
    · exact fun _ => nofun
  have hservice : ∀ i ∈ [plainImport [r.serviceClass] ("./" ++ r.serviceFile)], IsRelative i.source :=
    List.forall_mem_singleton.2 ((by decide : IsRelative "./").append _)
  have hdtos : ∀ i ∈ r.dtoImports, IsRelative i.source :=
    List.forall_mem_cons.2 ⟨(by decide : IsRelative "./dto/").append _,
      List.forall_mem_singleton.2 ((by decide : IsRelative "./dto/").append _)⟩
  exact ⟨_, rfl, List.forall_mem_append.2 ⟨List.forall_mem_append.2 ⟨hguard, hservice⟩, hdtos⟩⟩

theorem imports_common_iff {r : Resource} (hr : r.IsClean) {clause : String} :
    Imports (Artifact.controller.text r) clause "@nestjs/common" ↔ clause = r.commonClause := by
  obtain ⟨others, himports, hothers⟩ := exists_imports_controller r
  have hfile : (Artifact.controller.file r).imports = r.controller.imports := rfl
  rw [imports_text_iff hr, hfile, himports]
  constructor
  · rintro ⟨i, hi, rfl, hsource⟩
    obtain rfl | hi := List.mem_cons.1 hi
    · rfl
    · exact absurd (hsource ▸ hothers i hi) (by decide)
  · rintro rfl
    exact ⟨_, List.mem_cons_self, rfl, rfl⟩

/-! ## Ids -/

theorem idParams_eq (r : Resource) :
    r.controller.exported.idParams = List.replicate 3 r.idParam ∧
      r.views.exported.idParams = [r.idParam] ∧
      r.service.exported.idParams = List.replicate 3 ⟨[], "id", r.idType⟩ := by
  unfold ClassDecl.idParams
  rw [methods_controller, methods_views, methods_service]
  refine ⟨?_, rfl, ?_⟩
  · unfold controllerMethods controllerCreate
    cases r.hasCreatedBy <;> rfl
  · unfold serviceMethods serviceCreate
    cases r.hasCreatedBy <;> rfl

theorem isPiped_idParam_iff (r : Resource) : r.idParam.IsPiped "ParseIntPipe" ↔ r.idIsNumeric = true := by
  unfold Param.IsPiped idParam
  cases r.idIsNumeric <;> simp

theorem ids_agree (r : Resource) :
    (∀ c ∈ [r.controller.exported, r.service.exported, r.views.exported],
        c.idParams ≠ [] ∧ ∀ p ∈ c.idParams, p.type = r.idType) ∧
      ∀ c ∈ [r.controller.exported, r.views.exported],
        ∀ p ∈ c.idParams, (p.IsPiped "ParseIntPipe" ↔ r.idIsNumeric = true) := by
  obtain ⟨hcontroller, hviews, hservice⟩ := idParams_eq r
  refine ⟨List.forall_mem_cons.2 ⟨?_, List.forall_mem_cons.2 ⟨?_, List.forall_mem_singleton.2 ?_⟩⟩,
    List.forall_mem_cons.2 ⟨?_, List.forall_mem_singleton.2 ?_⟩⟩
  · rw [hcontroller]
    exact ⟨List.cons_ne_nil _ _, fun p hp => List.eq_of_mem_replicate hp ▸ rfl⟩
  · rw [hservice]
    exact ⟨List.cons_ne_nil _ _, fun p hp => List.eq_of_mem_replicate hp ▸ rfl⟩
  · rw [hviews]
    exact ⟨List.cons_ne_nil _ _, List.forall_mem_singleton.2 rfl⟩
  · rw [hcontroller]
    exact fun p hp => List.eq_of_mem_replicate hp ▸ isPiped_idParam_iff r
  · rw [hviews]
    exact List.forall_mem_singleton.2 (isPiped_idParam_iff r)

/-- The ids of a generated resource are numbers or texts. -/
theorem idIsNumeric_ofModel {model : String} {m : ParsedModel} {targetId? : Option TargetType}
    {protectedNames : List String} :
    (ofModel model m targetId? protectedNames).idIsNumeric = true ↔
      (ofModel model m targetId? protectedNames).idType = "number" := by
  have htype : (ofModel model m targetId? protectedNames).idType =
      if (ofModel model m targetId? protectedNames).idIsNumeric then "number" else "string" := rfl
  rw [htype]
  cases (ofModel model m targetId? protectedNames).idIsNumeric <;> decide

/-! ## The routes of a resource -/

/-- The routes of a resource that a schema gives. If the settings list the class of its model, the three
routes that change data have a guard right above them and nothing else has; otherwise nothing is guarded.
What the controller imports from the framework for its class is what that applies, each name once. An `id`
has the same type in controllers and service, and is parsed by both controllers if it is a number. -/
theorem routes_exact (settings : Settings) {source model : String} {block : ModelBlock}
    (hfind : Schema.findBlock? source model = some block) :
    let r := resourceOf settings source block
    let lines := linesOf (Artifact.controller.text r)
    (r.className ∈ settings.protectedModels →
      lines.count guardLine = 3 ∧ linesBehind guardLine lines = mutationRoutes ∧
        ∀ route ∈ mutationRoutes, lines.count route = 1) ∧
    (r.className ∉ settings.protectedModels → guardLine ∉ lines) ∧
    ∃ controller service views,
      exportedClass? (Artifact.controller.text r) = some controller ∧
      exportedClass? (Artifact.service.text r) = some service ∧
      exportedClass? (Artifact.views.text r) = some views ∧
      (∃ clause, (∀ other, Imports (Artifact.controller.text r) other "@nestjs/common" ↔ other = clause) ∧
        (importedNames clause).Nodup ∧ ∀ name, name ∈ importedNames clause ↔ name ∈ controller.applied) ∧
      ∃ type, (∀ c ∈ [controller, service, views], c.idParams ≠ [] ∧ ∀ p ∈ c.idParams, p.type = type) ∧
        ∀ c ∈ [controller, views], ∀ p ∈ c.idParams, (p.IsPiped "ParseIntPipe" ↔ type = "number") := by
  intro r lines
  have hclean : r.IsClean := isClean_resourceOf settings hfind
  have hprotected : r.isProtected = true ↔ r.className ∈ settings.protectedModels :=
    isProtected_iff settings source block
  have hids := ids_agree r
  have hnumeric : r.idIsNumeric = true ↔ r.idType = "number" := idIsNumeric_ofModel
  rw [hnumeric] at hids
  refine ⟨fun hlisted => guards_placed hclean (hprotected.2 hlisted), fun hlisted => ?_,
    r.controller.exported, r.service.exported, r.views.exported, exportedClass?_text hclean (by decide),
    exportedClass?_text hclean (by decide), exportedClass?_text hclean (by decide),
    ⟨r.commonClause, fun _ => imports_common_iff hclean, ?_⟩, r.idType, hids⟩
  · exact guards_absent hclean (Bool.eq_false_iff.2 (hprotected.not.2 hlisted))
  · rw [importedNames_commonClause]
    exact controllerImports_exact r

/-- Users are listed unless the settings say otherwise, documents are not. -/
theorem routes_exact_user :
    let source := "model User \x7b\n  id String\n\x7d\nmodel Doc \x7b\n  id Int\n\x7d"
    let user : ModelBlock := ⟨"User", "\n  id String\n"⟩
    let doc : ModelBlock := ⟨"Doc", "\n  id Int\n"⟩
    Schema.findBlock? source "User" = some user ∧ Schema.findBlock? source "Doc" = some doc ∧
      linesBehind guardLine (linesOf (Artifact.controller.text (resourceOf .default source user))) =
        mutationRoutes ∧
      guardLine ∉ linesOf (Artifact.controller.text (resourceOf .default source doc)) := by
  intro source user doc
  have huser : Schema.findBlock? source "User" = some user := by decide +kernel
  have hdoc : Schema.findBlock? source "Doc" = some doc := by decide +kernel
  obtain ⟨hlisted, -⟩ := routes_exact .default huser
  obtain ⟨-, hunlisted, -⟩ := routes_exact .default hdoc
  exact ⟨huser, hdoc, (hlisted (by decide +kernel)).2.1, hunlisted (by decide +kernel)⟩

end Resource

end Scaffold
