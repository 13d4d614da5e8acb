import Scaffold.Proofs.Generate.Dependence
import Scaffold.Proofs.Generate.Failure
import Scaffold.Proofs.Resource.Classes
import Scaffold.Proofs.Resource.Links

/-! How a generated resource records the user who creates a row. Controller and service are read from the
texts that a generation writes; their `create` methods agree on whether a user is handed on, and on the
type of the user's id. -/

namespace Scaffold
open Text TypeScript

/-! ## Texts that a generation writes -/

namespace Generate
open FileTree Scaffold.Path

/-- Generating the model writes this text as this artifact. However the generation ends, on a tree where
any operation may fail, the file is written or stays as it was; if it succeeds, the file is written. -/
structure WritesText (settings : Settings) (source model : String) (a : Artifact) (text : String) :
    Prop where
  written : ∀ (outDir : String) (t u : FileTree) (paths : List String),
    onTree (fromSource settings source model outDir) t = (.ok paths, u) →
      u.Holds (outputPath outDir model a) text.toUTF8
  kept : ∀ (outDir : String) (s : Trial),
    let u := (during (fromSource settings source model outDir) s).2.tree
    u.Holds (outputPath outDir model a) text.toUTF8 ∨
      u.file? (place (outputPath outDir model a)) = s.tree.file? (place (outputPath outDir model a))

theorem writing_mem_plan (r : Resource) (outDir : String) (a : Artifact) :
    writing r outDir a ∈ plan r outDir :=
  List.mem_append_right _ (List.mem_map_of_mem a.mem_all)

theorem writesText_of_findBlock? (settings : Settings) {source model : String} {block : ModelBlock}
    (hfind : Schema.findBlock? source model = some block) (a : Artifact) :
    WritesText settings source model a (a.text (resourceOf settings source block)) := by
  have hname := Schema.name_of_findBlock? hfind
  have hmodel := Schema.isIdentifier_of_findBlock? hfind
  have hfolder : (resourceOf settings source block).folder = Naming.kebab model := folder_resourceOf hname
  refine ⟨fun outDir t u paths h => holds_fromSource hfind hname hmodel h a, fun outDir s => ?_⟩
  obtain ⟨done, rest, result, u, hduring, hplan, -, hshows⟩ :=
    @exists_course settings source model outDir block hfind s
  have hleaves := leavesPrefix_of_shows hmodel hfolder hplan hshows
  rw [hduring, ← artifactPath_eq hfolder]
  have hmem := writing_mem_plan (resourceOf settings source block) outDir a
  rw [hplan] at hmem
  exact (List.mem_append.1 hmem).imp (hleaves.written _ _) (hleaves.unwritten _ _)

end Generate

/-! ## Methods of a class -/

namespace TypeScript

/-- The class has one method of this name, and it has these parameters and this body. -/
def ClassDecl.HasMethod (c : ClassDecl) (name : String) (params : List Param) (body : List String) : Prop :=
  ∃ m, c.methods.filter (·.name = name) = [m] ∧ m.params = params ∧ m.body = body

theorem ClassDecl.methods_eq {c : ClassDecl} {name type : String} {declared : List Method}
    (h : c.members = some (.injected name type :: declared.map .method)) : c.methods = declared := by
  unfold ClassDecl.methods
  rw [h, Option.getD_some, List.filterMap_cons_none rfl, List.filterMap_map]
  exact List.filterMap_some

end TypeScript

namespace Resource
open Generate

theorem methods_controller (r : Resource) : r.controller.exported.methods = r.controllerMethods :=
  ClassDecl.methods_eq rfl

theorem methods_service (r : Resource) : r.service.exported.methods = r.serviceMethods :=
  ClassDecl.methods_eq rfl

theorem methods_views (r : Resource) : r.views.exported.methods = r.viewsMethods :=
  ClassDecl.methods_eq rfl

/-! ## Creating a row -/

/-- The DTO that clients send to create a row. -/
def dtoType (model : String) : String := "Create" ++ Naming.className model ++ "Dto"

/-- Neither class knows of a user: the controller hands the DTO on, and the service stores it. -/
structure Unstamped (model : String) (controller service : ClassDecl) : Prop where
  stored : service.HasMethod "create" [⟨[], "dto", dtoType model⟩]
    ["return this.prisma." ++ Naming.propertyName model ++ ".create(\x7b data: dto \x7d);"]
  handedOn : controller.HasMethod "create" [⟨[⟨"Body", [], []⟩], "dto", dtoType model⟩]
    ["return this." ++ Naming.propertyName model ++ "Service.create(dto);"]
  no_request : ∀ m ∈ controller.methods, ∀ p ∈ m.params, ∀ d ∈ p.decorators, d.name ≠ "Req"

/-- The controller hands on the id of the user who sent the request, and the service stores it by this
entry of the data. The id has the same type in both. -/
structure Stamped (model : String) (controller service : ClassDecl) (entry type : String) : Prop where
  stored : service.HasMethod "create" [⟨[], "dto", dtoType model⟩, ⟨[], "userId", type⟩]
    ["return this.prisma." ++ Naming.propertyName model ++ ".create(\x7b",
      "  data: \x7b ...dto, " ++ entry ++ " \x7d,", "\x7d);"]
  handedOn : controller.HasMethod "create"
    [⟨[⟨"Body", [], []⟩], "dto", dtoType model⟩,
      ⟨[⟨"Req", [], []⟩], "req", "\x7b user: \x7b id: " ++ type ++ " \x7d \x7d"⟩]
    ["return this." ++ Naming.propertyName model ++ "Service.create(dto, req.user.id);"]

theorem hasMethod_controllerCreate (r : Resource) :
    r.controller.exported.HasMethod "create" r.controllerCreate.params r.controllerCreate.body := by
  refine ⟨r.controllerCreate, ?_, rfl, rfl⟩
  rw [methods_controller]
  rfl

theorem hasMethod_serviceCreate (r : Resource) :
    r.service.exported.HasMethod "create" r.serviceCreate.params r.serviceCreate.body := by
  refine ⟨r.serviceCreate, ?_, rfl, rfl⟩
  rw [methods_service]
  rfl

theorem return_serviceCall (r : Resource) (args : String) :
    "return " ++ r.serviceCall "create" args ++ ";" =
      "return this." ++ r.propertyName ++ ("Service.create(" ++ args ++ ");") := by
  have hfront : "return this." = "return " ++ "this." := rfl
  have hcall : "Service.create(" = "Service" ++ ("." ++ ("create" ++ "(")) := rfl
  have hback : ");" = ")" ++ ";" := rfl
  unfold serviceCall serviceName
  simp only [hfront, hcall, hback, String.append_assoc]

theorem return_clientCall (r : Resource) (args : String) :
    "return " ++ r.clientCall "create" args ++ ";" =
      "return this.prisma." ++ r.propertyName ++ (".create(" ++ args ++ ");") := by
  have hfront : "return this.prisma." = "return " ++ "this.prisma." := rfl
  have hcall : ".create(" = "." ++ ("create" ++ "(") := rfl
  have hback : ");" = ")" ++ ";" := rfl
  unfold clientCall
  simp only [hfront, hcall, hback, String.append_assoc]

section
variable {r : Resource} {model : String} (hclass : r.className = Naming.className model)
  (hproperty : r.propertyName = Naming.propertyName model)

theorem no_request (h : r.hasCreatedBy = false) :
    ∀ m ∈ r.controller.exported.methods, ∀ p ∈ m.params, ∀ d ∈ p.decorators, d.name ≠ "Req" := by
  have hbody : ∀ type, ∀ d ∈ (bodyParam type).decorators, d.name ≠ "Req" :=
    fun _ => List.forall_mem_singleton.2 (by decide : "Body" ≠ "Req")
  have hid : ∀ d ∈ r.idParam.decorators, d.name ≠ "Req" :=
    List.forall_mem_singleton.2 (by decide : "Param" ≠ "Req")
  rw [methods_controller]
  refine List.forall_mem_cons.2 ⟨?_, List.forall_mem_cons.2 ⟨fun _ => nofun, List.forall_mem_cons.2
    ⟨List.forall_mem_singleton.2 hid, List.forall_mem_cons.2 ⟨?_, List.forall_mem_singleton.2
      (List.forall_mem_singleton.2 hid)⟩⟩⟩⟩
  · unfold controllerCreate
    rw [h]
    exact List.forall_mem_singleton.2 (hbody _)
  · exact List.forall_mem_cons.2 ⟨hid, List.forall_mem_singleton.2 (hbody _)⟩

include hclass hproperty

theorem unstamped_of_flag (h : r.hasCreatedBy = false) :
    Unstamped model r.controller.exported r.service.exported := by
  have hstored := hasMethod_serviceCreate r
  have hhanded := hasMethod_controllerCreate r
  unfold serviceCreate createDtoClass at hstored
  unfold controllerCreate createDtoClass at hhanded
  simp only [h, Bool.false_eq_true, if_false, return_clientCall, return_serviceCall, hclass, hproperty]
    at hstored hhanded
  exact ⟨hstored, hhanded, no_request h⟩

theorem stamped_of_flag (h : r.hasCreatedBy = true) :
    Stamped model r.controller.exported r.service.exported r.auditAssignment r.auditKeyType := by
  have hstored := hasMethod_serviceCreate r
  have hhanded := hasMethod_controllerCreate r
  unfold serviceCreate createDtoClass at hstored
  unfold controllerCreate createDtoClass requestParam at hhanded
  simp only [h, if_true, return_serviceCall, hclass, hproperty] at hstored hhanded
  exact ⟨hstored, hhanded⟩

end

section
variable {model entry : String} {m : ParsedModel} {targetId? : Option TargetType}
  {protectedNames : List String}

theorem unstamped_ofModel (h : m.hasCreatedBy = false) :
    Unstamped model (ofModel model m targetId? protectedNames).controller.exported
      (ofModel model m targetId? protectedNames).service.exported := by
  have hflag : (ofModel model m targetId? protectedNames).hasCreatedBy = m.hasCreatedBy := rfl
  exact unstamped_of_flag rfl rfl (hflag.trans h)

theorem stamped_ofModel {type : TargetType}
    (h : m.hasCreatedBy = true ∧ auditAssignmentOf m = entry ∧ auditKeyTypeOf m targetId? = type) :
    Stamped model (ofModel model m targetId? protectedNames).controller.exported
      (ofModel model m targetId? protectedNames).service.exported entry type.name := by
  obtain ⟨hset, hentry, htype⟩ := h
  have hflag : (ofModel model m targetId? protectedNames).hasCreatedBy = m.hasCreatedBy := rfl
  have hassigned : (ofModel model m targetId? protectedNames).auditAssignment = auditAssignmentOf m := rfl
  have htyped : (ofModel model m targetId? protectedNames).auditKeyType =
      (auditKeyTypeOf m targetId?).name := rfl
  rw [← hentry, ← htype, ← hassigned, ← htyped]
  exact stamped_of_flag rfl rfl (hflag.trans hset)

end

/-! ## Which of them a model has -/

section
variable {m : ParsedModel}

/-- The first scalar field with an audit name is assigned, and has the type of the id. -/
theorem wiring_of_field (hflag : m.IsFlagged) {front back : List Field} {f : Field}
    (hfields : m.fields = front ++ f :: back) (hfront : ∀ g ∈ front, isAuditName g.name = false)
    (haudit : isAuditName f.name = true) (targetId? : Option TargetType) :
    m.hasCreatedBy = true ∧ auditAssignmentOf m = f.name ++ ": userId" ∧
      auditKeyTypeOf m targetId? = f.target := by
  have hfield : m.auditField? = some f :=
    List.find?_eq_some_iff_append.2 ⟨haudit, front, back, hfields, fun g hg => by simp [hfront g hg]⟩
  have hdeclared : f.name ∈ m.declaredNames :=
    List.mem_append_left _ (ParsedModel.auditField?_spec hfield).1
  have hset : m.hasCreatedBy = true := hflag.2 ⟨_, hdeclared, haudit⟩
  unfold auditAssignmentOf auditKeyTypeOf
  rw [hfield, hset]
  exact ⟨rfl, rfl, rfl⟩

/-- Without such a field the creator is connected, by the id of the model that the first relation with an
audit name refers to. -/
theorem wiring_of_relation (hflag : m.IsFlagged) (hfields : ∀ f ∈ m.fields, isAuditName f.name = false)
    {front back : List Relation} {relation : Relation} (hrelations : m.relations = front ++ relation :: back)
    (hfront : ∀ other ∈ front, isAuditName other.name = false) (haudit : isAuditName relation.name = true)
    (source : String) :
    m.hasCreatedBy = true ∧ auditAssignmentOf m = "createdBy: \x7b connect: \x7b id: userId \x7d \x7d" ∧
      auditKeyTypeOf m (auditTargetId? source m) = (idTypeIn? source relation.target).getD .number := by
  have hfield : m.auditField? = none := List.find?_eq_none.2 fun f hf => by simp [hfields f hf]
  have hrelation : m.auditRelation? = some relation :=
    List.find?_eq_some_iff_append.2
      ⟨haudit, front, back, hrelations, fun other hother => by simp [hfront other hother]⟩
  have hdeclared : relation.name ∈ m.declaredNames :=
    List.mem_append_right _ (List.mem_map_of_mem (List.mem_of_find?_eq_some hrelation))
  have hset : m.hasCreatedBy = true := hflag.2 ⟨_, hdeclared, haudit⟩
  unfold auditAssignmentOf auditKeyTypeOf
  rw [auditTargetId?_eq, hfield, hset, hrelation]
  exact ⟨rfl, rfl, rfl⟩

theorem idTypeIn?_of_id {source name : String} {target : ParsedModel}
    (hparse : Schema.parseModel? source name = some target) {before after : List Field} {id : Field}
    (hfields : target.fields = before ++ id :: after) (hbefore : ∀ g ∈ before, g.name ≠ "id")
    (hid : id.name = "id") : idTypeIn? source name = some id.target := by
  have hfind : target.fields.find? (·.name == "id") = some id :=
    List.find?_eq_some_iff_append.2
      ⟨by simp [hid], before, after, hfields, fun g hg => by simpa using hbefore g hg⟩
  unfold idTypeIn? ParsedModel.idType?
  rw [hparse, Option.bind_some, hfind, Option.map_some]

theorem idTypeIn?_of_no_id {source name : String}
    (h : ∀ target, Schema.parseModel? source name = some target → "id" ∉ target.fieldNames) :
    idTypeIn? source name = none := by
  unfold idTypeIn? ParsedModel.idType?
  cases hparse : Schema.parseModel? source name with
  | none => rfl
  | some target =>
    have hnone : target.fields.find? (·.name == "id") = none := by
      refine List.find?_eq_none.2 fun f hf heq => h target hparse ?_
      exact List.mem_map.2 ⟨f, hf, by simpa using heq⟩
    rw [Option.bind_some, hnone, Option.map_none]

end

/-- The wiring of a resource, in the files that generating any model of a schema writes. A model that
declares neither audit name has none. The first scalar field with an audit name is assigned the user's id,
whatever relations there are, and gives the id its type. Without one the creator is connected by id, and
the type is that of the scalar `id` of the model that the first audit relation refers to, in its first
block; a number if there is no such block or no such field. -/
theorem audit_wiring (settings : Settings) {source model : String} {m : ParsedModel}
    (hparse : Schema.parseModel? source model = some m) :
    ∃ controllerText serviceText controller service,
      WritesText settings source model .controller controllerText ∧
      WritesText settings source model .service serviceText ∧
      exportedClass? controllerText = some controller ∧ exportedClass? serviceText = some service ∧
      ("createdBy" ∉ m.declaredNames → "createdById" ∉ m.declaredNames →
        Unstamped model controller service) ∧
      (∀ front f back, m.fields = front ++ f :: back → (∀ g ∈ front, isAuditName g.name = false) →
        isAuditName f.name = true →
          Stamped model controller service (f.name ++ ": userId") f.target.name) ∧
      ((∀ f ∈ m.fields, isAuditName f.name = false) →
        ∀ front relation back, m.relations = front ++ relation :: back →
          (∀ other ∈ front, isAuditName other.name = false) → isAuditName relation.name = true →
          ∃ type, Stamped model controller service "createdBy: \x7b connect: \x7b id: userId \x7d \x7d" type ∧
            (∀ target, Schema.parseModel? source relation.target = some target →
              ∀ before id after, target.fields = before ++ id :: after → (∀ g ∈ before, g.name ≠ "id") →
                id.name = "id" → type = id.target.name) ∧
            ((∀ target, Schema.parseModel? source relation.target = some target →
              "id" ∉ target.fieldNames) → type = "number")) := by
  obtain ⟨block, hfind, rfl⟩ := Option.map_eq_some_iff.1 hparse
  have hname := Schema.name_of_findBlock? hfind
  have hclean := isClean_resourceOf settings hfind
  have hflag := ParsedModel.isFlagged_of_parseModel? hparse
  refine ⟨_, _, (resourceOf settings source block).controller.exported,
    (resourceOf settings source block).service.exported,
    writesText_of_findBlock? settings hfind .controller, writesText_of_findBlock? settings hfind .service,
    exportedClass?_text hclean (by decide), exportedClass?_text hclean (by decide), ?_, ?_, ?_⟩
  · intro hshort hlong
    rw [← hname]
    refine unstamped_ofModel ?_
    rw [← Bool.not_eq_true, hflag.not]
    rintro ⟨name, hmem, haudit⟩
    rcases ParsedModel.eq_of_isAuditName haudit with rfl | rfl
    · exact hshort hmem
    · exact hlong hmem
  · intro front f back hfields hfront haudit
    rw [← hname]
    exact stamped_ofModel (wiring_of_field hflag hfields hfront haudit _)
  · intro hfields front relation back hrelations hfront haudit
    have hwiring := wiring_of_relation hflag hfields hrelations hfront haudit source
    refine ⟨((idTypeIn? source relation.target).getD .number).name, ?_, ?_, ?_⟩
    · rw [← hname]
      exact stamped_ofModel hwiring
    · intro target htarget before id after hids hbefore hid
      rw [idTypeIn?_of_id htarget hids hbefore hid, Option.getD_some]
    · intro hnone
      rw [idTypeIn?_of_no_id hnone]
      rfl

/-- A scalar field decides although a relation stands before it; without one, the first of two blocks that
have the name of the model referred to. -/
theorem audit_wiring_both :
    let source := "model Post \x7b\n  createdBy User\n  createdById Int\n\x7d\n" ++
      "model Doc \x7b\n  createdBy User\n\x7d\nmodel User \x7b\n  id String\n\x7d\nmodel User \x7b\n  id Int\n\x7d"
    Schema.parseModel? source "Post" = some (.ofDecls
        [⟨"createdBy", "User", false, false⟩, ⟨"createdById", "Int", false, false⟩]) ∧
      Schema.parseModel? source "Doc" = some (.ofDecls [⟨"createdBy", "User", false, false⟩]) ∧
      (∃ controllerText serviceText controller service,
        exportedClass? controllerText = some controller ∧ exportedClass? serviceText = some service ∧
        WritesText .default source "Post" .controller controllerText ∧
        WritesText .default source "Post" .service serviceText ∧
        Stamped "Post" controller service "createdById: userId" "number") ∧
      ∃ controllerText serviceText controller service,
        exportedClass? controllerText = some controller ∧ exportedClass? serviceText = some service ∧
        WritesText .default source "Doc" .controller controllerText ∧
        WritesText .default source "Doc" .service serviceText ∧
        Stamped "Doc" controller service "createdBy: \x7b connect: \x7b id: userId \x7d \x7d" "string" := by
  intro source
  have hpost : Schema.parseModel? source "Post" = some (.ofDecls
      [⟨"createdBy", "User", false, false⟩, ⟨"createdById", "Int", false, false⟩]) := by decide +kernel
  have hdoc : Schema.parseModel? source "Doc" = some (.ofDecls [⟨"createdBy", "User", false, false⟩]) := by
    decide +kernel
  have huser : Schema.parseModel? source "User" = some (.ofDecls [⟨"id", "String", false, false⟩]) := by
    decide +kernel
  refine ⟨hpost, hdoc, ?_, ?_⟩
  · obtain ⟨controllerText, serviceText, controller, service, hwrites, hwrites', hread, hread', -, hscalar, -⟩ :=
      audit_wiring .default hpost
    exact ⟨controllerText, serviceText, controller, service, hread, hread', hwrites, hwrites',
      hscalar [] _ [] rfl nofun (by decide)⟩
  · obtain ⟨controllerText, serviceText, controller, service, hwrites, hwrites', hread, hread', -, -, hrelation⟩ :=
      audit_wiring .default hdoc
    obtain ⟨type, hstamped, hid, -⟩ := hrelation (by decide) [] _ [] rfl nofun (by decide)
    obtain rfl := hid _ huser [] _ [] rfl nofun rfl
    exact ⟨controllerText, serviceText, controller, service, hread, hread', hwrites, hwrites', hstamped⟩

end Resource

end Scaffold
