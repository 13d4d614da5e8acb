import Scaffold.Proofs.Resource.Texts

/-! The six files of a resource hold no line feed in any of their texts, so they are printed line by
line; and what they import are words, from modules that can be quoted. -/

namespace Scaffold
open Text TypeScript

namespace Resource

/-! ## Parts of a class -/

theorem isFlat_call {name : String} {args : List Arg} (hname : Flat name)
    (hargs : ∀ a ∈ args, a.IsFlat) : (Decorator.mk name args []).IsFlat :=
  ⟨hname, hargs, fun _ => nofun⟩

theorem isFlat_route {name path : String} (hname : Flat name) (hpath : Flat path) :
    (Decorator.mk name [.text path] []).IsFlat :=
  isFlat_call hname (List.forall_mem_singleton.2 hpath)

theorem isFlat_bare {name : String} (hname : Flat name) : (Decorator.mk name [] []).IsFlat :=
  isFlat_call hname fun _ => nofun

theorem isFlat_param {name type : String} (hname : Flat name) (htype : Flat type) :
    (Param.mk [] name type).IsFlat :=
  ⟨fun _ => nofun, hname, htype⟩

theorem flat_return {call : String} (h : Flat call) : Flat ("return " ++ call ++ ";") :=
  ((by decide : Flat "return ").append h).append (by decide)

section
variable {r : Resource} (hr : r.IsClean)
include hr

theorem isName_exported (a : Artifact) : IsName (a.file r).exported.name := by
  cases a with
  | controller => exact hr.className.append (by decide)
  | service => exact hr.className.append (by decide)
  | module => exact hr.className.append (by decide)
  | createDto => exact ((by decide : IsName "Create").append hr.className).append (by decide)
  | updateDto => exact ((by decide : IsName "Update").append hr.className).append (by decide)
  | views => exact hr.className.append (by decide)

theorem flat_exported (a : Artifact) : Flat (a.file r).exported.name := (isName_exported hr a).flat

theorem isName_serviceName : IsName r.serviceName := hr.propertyName.append (by decide)

theorem flat_serviceName : Flat r.serviceName := (isName_serviceName hr).flat

theorem flat_serviceCall {method args : String} (hmethod : Flat method) (hargs : Flat args) :
    Flat (r.serviceCall method args) :=
  ((((((by decide : Flat "this.").append (flat_serviceName hr)).append (by decide)).append
    hmethod).append (by decide)).append hargs).append (by decide)

theorem flat_clientCall {method args : String} (hmethod : Flat method) (hargs : Flat args) :
    Flat (r.clientCall method args) :=
  ((((((by decide : Flat "this.prisma.").append hr.propertyName.flat).append (by decide)).append
    hmethod).append (by decide)).append hargs).append (by decide)

theorem isFlat_idParam : r.idParam.IsFlat := by
  refine ⟨List.forall_mem_singleton.2 (isFlat_call (by decide) ?_), (by decide : Flat "id"), hr.idType.flat⟩
  refine List.forall_mem_cons.2 ⟨(by decide : Flat "id"), ?_⟩
  split
  · exact List.forall_mem_singleton.2 (by decide : Flat "ParseIntPipe")
  · exact fun _ => nofun

theorem isFlat_requestParam : r.requestParam.IsFlat :=
  ⟨List.forall_mem_singleton.2 (isFlat_bare (by decide)), (by decide : Flat "req"),
    ((by decide : Flat "\x7b user: \x7b id: ").append hr.auditKeyType.flat).append (by decide)⟩

omit hr in
theorem isFlat_bodyParam {type : String} (h : Flat type) : (bodyParam type).IsFlat :=
  ⟨List.forall_mem_singleton.2 (isFlat_bare (by decide)), (by decide : Flat "dto"), h⟩

omit hr in
theorem isFlat_guarded {route : Decorator} (h : route.IsFlat) : ∀ d ∈ r.guarded route, d.IsFlat := by
  refine List.forall_mem_append.2 ⟨?_, List.forall_mem_singleton.2 h⟩
  split
  · refine List.forall_mem_singleton.2 (isFlat_call (by decide) ?_)
    exact List.forall_mem_singleton.2 (by decide : Flat "JwtAuthGuard")
  · exact fun _ => nofun

theorem isFlat_controllerMethods : ∀ m ∈ r.controllerMethods, m.IsFlat := by
  have hid := isFlat_idParam hr
  have hnone : ∀ p ∈ ([] : List Param), p.IsFlat := fun _ => nofun
  have hcall : ∀ {method args : String}, Flat method → Flat args →
      ∀ line ∈ ["return " ++ r.serviceCall method args ++ ";"], Flat line :=
    fun hmethod hargs => List.forall_mem_singleton.2 (flat_return (flat_serviceCall hr hmethod hargs))
  refine List.forall_mem_cons.2 ⟨?_, List.forall_mem_cons.2 ⟨?_, List.forall_mem_cons.2 ⟨?_,
    List.forall_mem_cons.2 ⟨?_, List.forall_mem_singleton.2 ?_⟩⟩⟩⟩
  · refine ⟨isFlat_guarded (isFlat_bare (by decide)), (by decide : Flat "create"), ?_,
      hcall (by decide) ?_⟩
    · refine List.forall_mem_cons.2 ⟨isFlat_bodyParam (flat_exported hr .createDto), ?_⟩
      split
      · exact List.forall_mem_singleton.2 (isFlat_requestParam hr)
      · exact hnone
    · split <;> decide
  · exact ⟨List.forall_mem_singleton.2 (isFlat_bare (by decide)), (by decide : Flat "findAll"), hnone,
      hcall (by decide) (by decide)⟩
  · exact ⟨List.forall_mem_singleton.2 (isFlat_route (by decide) (by decide)),
      (by decide : Flat "findOne"), List.forall_mem_singleton.2 hid, hcall (by decide) (by decide)⟩
  · refine ⟨isFlat_guarded (isFlat_route (by decide) (by decide)), (by decide : Flat "update"), ?_,
      hcall (by decide) (by decide)⟩
    exact List.forall_mem_cons.2
      ⟨hid, List.forall_mem_singleton.2 (isFlat_bodyParam (flat_exported hr .updateDto))⟩
  · exact ⟨isFlat_guarded (isFlat_route (by decide) (by decide)), (by decide : Flat "remove"),
      List.forall_mem_singleton.2 hid, hcall (by decide) (by decide)⟩

theorem isFlat_serviceCreate : r.serviceCreate.IsFlat := by
  refine ⟨fun _ => nofun, (by decide : Flat "create"), ?_, ?_⟩
  · refine List.forall_mem_cons.2 ⟨isFlat_param (by decide) (flat_exported hr .createDto), ?_⟩
    split
    · exact List.forall_mem_singleton.2 (isFlat_param (by decide) hr.auditKeyType.flat)
    · exact fun _ => nofun
  · unfold serviceCreate
    dsimp only
    split
    · refine List.forall_mem_cons.2 ⟨?_, List.forall_mem_cons.2 ⟨?_,
        List.forall_mem_singleton.2 (by decide)⟩⟩
      · exact (((by decide : Flat "return ").append (by decide)).append hr.propertyName.flat).append
          (by decide)
      · exact ((by decide : Flat "  data: \x7b ...dto, ").append hr.auditAssignment).append (by decide)
    · exact List.forall_mem_singleton.2 (flat_return (flat_clientCall hr (by decide) (by decide)))

theorem isFlat_serviceMethods : ∀ m ∈ r.serviceMethods, m.IsFlat := by
  have hid := isFlat_param (by decide : Flat "id") hr.idType.flat
  have hcall : ∀ {method args : String}, Flat method → Flat args →
      ∀ line ∈ ["return " ++ r.clientCall method args ++ ";"], Flat line :=
    fun hmethod hargs => List.forall_mem_singleton.2 (flat_return (flat_clientCall hr hmethod hargs))
  refine List.forall_mem_cons.2 ⟨isFlat_serviceCreate hr, List.forall_mem_cons.2 ⟨?_,
    List.forall_mem_cons.2 ⟨?_, List.forall_mem_cons.2 ⟨?_, List.forall_mem_singleton.2 ?_⟩⟩⟩⟩
  · exact ⟨fun _ => nofun, (by decide : Flat "findAll"), fun _ => nofun, hcall (by decide) (by decide)⟩
  · refine ⟨fun _ => nofun, (by decide : Flat "findOne"), List.forall_mem_singleton.2 hid, ?_⟩
    refine List.forall_mem_cons.2 ⟨?_, List.forall_mem_cons.2 ⟨by decide,
      List.forall_mem_cons.2 ⟨?_, by decide⟩⟩⟩
    · exact ((by decide : Flat "const record = await ").append
        (flat_clientCall hr (by decide) (by decide))).append (by decide)
    · exact ((by decide : Flat "  throw new NotFoundException(`").append hr.className.flat).append
        (by decide)
  · refine ⟨fun _ => nofun, (by decide : Flat "update"), ?_, hcall (by decide) (by decide)⟩
    exact List.forall_mem_cons.2
      ⟨hid, List.forall_mem_singleton.2 (isFlat_param (by decide) (flat_exported hr .updateDto))⟩
  · exact ⟨fun _ => nofun, (by decide : Flat "remove"), List.forall_mem_singleton.2 hid,
      hcall (by decide) (by decide)⟩

theorem isFlat_viewsMethods : ∀ m ∈ r.viewsMethods, m.IsFlat := by
  have hget : (Decorator.mk "Get" [] []).IsFlat := isFlat_bare (by decide)
  have hshown : ∀ {value : String}, Flat value →
      Flat ("return \x7b title: '" ++ r.className ++ "', columns: COLUMNS, " ++ value ++ " \x7d;") :=
    fun hvalue => ((((by decide : Flat "return \x7b title: '").append hr.className.flat).append
      (by decide)).append hvalue).append (by decide)
  have hrender : ∀ {view : String}, Flat view →
      (Decorator.mk "Render" [.text (r.folder ++ view)] []).IsFlat :=
    fun hview => isFlat_route (by decide) (hr.folder.quotable.flat.append hview)
  have hbody : ∀ {front method args value : String}, Flat front → Flat method → Flat args →
      Flat value → ∀ line ∈ [front ++ r.serviceCall method args ++ ";",
        "return \x7b title: '" ++ r.className ++ "', columns: COLUMNS, " ++ value ++ " \x7d;"],
        Flat line :=
    fun hfront hmethod hargs hvalue => List.forall_mem_cons.2
      ⟨(hfront.append (flat_serviceCall hr hmethod hargs)).append (by decide),
        List.forall_mem_singleton.2 (hshown hvalue)⟩
  refine List.forall_mem_cons.2 ⟨?_, List.forall_mem_singleton.2 ?_⟩
  · refine ⟨List.forall_mem_cons.2 ⟨hget, List.forall_mem_singleton.2 (hrender (by decide))⟩,
      (by decide : Flat "index"), fun _ => nofun, hbody (by decide) (by decide) (by decide) (by decide)⟩
  · refine ⟨List.forall_mem_cons.2 ⟨isFlat_route (by decide) (by decide),
      List.forall_mem_singleton.2 (hrender (by decide))⟩, (by decide : Flat "show"),
      List.forall_mem_singleton.2 (isFlat_idParam hr),
      hbody (by decide) (by decide) (by decide) (by decide)⟩

omit hr in
theorem isFlat_members {methods : List Method} {name type : String} (hname : Flat name)
    (htype : Flat type) (hmethods : ∀ m ∈ methods, m.IsFlat) :
    ∀ m ∈ Member.injected name type :: methods.map .method, m.IsFlat :=
  List.forall_mem_cons.2
    ⟨.injected hname htype, List.forall_mem_map.2 fun m hm => .method (hmethods m hm)⟩

/-! ## The files -/

theorem isClean_dtoImports : ∀ i ∈ r.dtoImports, i.IsClean := by
  have hfile : ∀ {front : String}, Quotable front →
      Quotable ("./dto/" ++ (front ++ r.folder ++ ".dto")) :=
    fun hfront => (by decide : Quotable "./dto/").append
      ((hfront.append hr.folder.quotable).append (by decide))
  exact List.forall_mem_cons.2
    ⟨⟨List.forall_mem_singleton.2 (isName_exported hr .createDto), hfile (by decide)⟩,
      List.forall_mem_singleton.2
        ⟨List.forall_mem_singleton.2 (isName_exported hr .updateDto), hfile (by decide)⟩⟩

omit hr in
theorem isName_controllerImports : ∀ name ∈ r.controllerImports, IsName name := by
  unfold controllerImports
  cases r.idIsNumeric <;> cases r.hasCreatedBy <;> cases r.isProtected <;> decide

omit hr in
theorem isName_viewsImports : ∀ name ∈ r.viewsImports, IsName name := by
  unfold viewsImports
  cases r.idIsNumeric <;> decide

theorem isClean_imports (a : Artifact) : ∀ i ∈ (a.file r).imports, i.IsClean := by
  have hclass : ∀ (b : Artifact) {specifier : String}, Quotable specifier →
      (plainImport [(b.file r).exported.name] specifier).IsClean :=
    fun b _ hspecifier => ⟨List.forall_mem_singleton.2 (isName_exported hr b), hspecifier⟩
  have hfixed : ∀ {names : List String} {specifier : String}, (∀ name ∈ names, IsName name) →
      Quotable specifier → (plainImport names specifier).IsClean :=
    fun hnames hspecifier => ⟨hnames, hspecifier⟩
  have hbeside : ∀ {front back : String}, Quotable front → Quotable back →
      Quotable (front ++ (r.folder ++ back)) :=
    fun hfront hback => hfront.append (hr.folder.quotable.append hback)
  cases a with
  | controller =>
    refine List.forall_mem_append.2 ⟨List.forall_mem_append.2 ⟨List.forall_mem_append.2
      ⟨List.forall_mem_singleton.2 ⟨isName_controllerImports, (by decide : Quotable "@nestjs/common")⟩,
        ?_⟩, List.forall_mem_singleton.2 (hclass .service (hbeside (by decide) (by decide)))⟩,
      isClean_dtoImports hr⟩
    split
    · exact List.forall_mem_singleton.2 (hfixed (by decide) (by decide))
    · exact fun _ => nofun
  | service =>
    exact List.forall_mem_append.2 ⟨List.forall_mem_cons.2 ⟨hfixed (by decide) (by decide),
      List.forall_mem_singleton.2 (hfixed (by decide) (by decide))⟩, isClean_dtoImports hr⟩
  | module =>
    exact List.forall_mem_cons.2 ⟨hfixed (by decide) (by decide), List.forall_mem_cons.2
      ⟨hfixed (by decide) (by decide), List.forall_mem_cons.2
        ⟨hclass .controller (hbeside (by decide) (by decide)), List.forall_mem_cons.2
          ⟨hclass .service (hbeside (by decide) (by decide)),
            List.forall_mem_singleton.2 (hclass .views (by decide))⟩⟩⟩⟩
  | createDto =>
    show ∀ i ∈ if r.validatorImports.isEmpty then [] else _, _
    split
    · exact fun _ => nofun
    · exact List.forall_mem_singleton.2 (hfixed hr.validatorImports (by decide))
  | updateDto =>
    refine List.forall_mem_cons.2 ⟨hfixed (by decide) (by decide), List.forall_mem_singleton.2
      (hclass .createDto ?_)⟩
    exact (by decide : Quotable "./").append
      (((by decide : Quotable "create-").append hr.folder.quotable).append (by decide))
  | views =>
    exact List.forall_mem_cons.2 ⟨hfixed isName_viewsImports (by decide),
      List.forall_mem_singleton.2 (hclass .service (hbeside (by decide) (by decide)))⟩

theorem isFlat_decorators (a : Artifact) : ∀ d ∈ (a.file r).exported.decorators, d.IsFlat := by
  cases a with
  | controller => exact List.forall_mem_singleton.2 (isFlat_route (by decide) hr.folder.quotable.flat)
  | service => exact List.forall_mem_singleton.2 (isFlat_bare (by decide))
  | module =>
    have hcontroller := flat_exported hr .controller
    have hservice := List.forall_mem_singleton.2 (flat_exported hr .service)
    have hviews := flat_exported hr .views
    refine List.forall_mem_singleton.2 ⟨(by decide : Flat "Module"), fun _ => nofun, ?_⟩
    refine List.forall_mem_cons.2 ⟨by decide, List.forall_mem_cons.2
      ⟨⟨(by decide : Flat "controllers"), ?_⟩, List.forall_mem_cons.2
        ⟨⟨(by decide : Flat "providers"), hservice⟩, List.forall_mem_singleton.2
          ⟨(by decide : Flat "exports"), hservice⟩⟩⟩⟩
    exact List.forall_mem_cons.2 ⟨hcontroller, List.forall_mem_singleton.2 hviews⟩
  | createDto => exact fun _ => nofun
  | updateDto => exact fun _ => nofun
  | views =>
    exact List.forall_mem_singleton.2
      (isFlat_route (by decide) ((by decide : Flat "views/").append hr.folder.quotable.flat))

omit hr in
theorem isFlat_property {f : FieldView} (h : f.IsFlat) : (property f).IsFlat := ⟨h.decorators, h.name, h.tsType⟩

theorem isFlat_membersOf (a : Artifact) :
    ∀ members ∈ (a.file r).exported.members, ∀ m ∈ members, m.IsFlat := by
  have hservice := flat_exported hr .service
  cases a with
  | controller =>
    rintro _ ⟨⟩
    exact isFlat_members (flat_serviceName hr) hservice (isFlat_controllerMethods hr)
  | service =>
    rintro _ ⟨⟩
    exact isFlat_members (by decide) (by decide) (isFlat_serviceMethods hr)
  | module => exact fun _ => nofun
  | createDto =>
    rintro _ ⟨⟩
    exact List.forall_mem_map.2 fun f hf => .property (isFlat_property (hr.dtoFields f hf))
  | updateDto => exact fun _ => nofun
  | views =>
    rintro _ ⟨⟩
    exact isFlat_members (flat_serviceName hr) hservice (isFlat_viewsMethods hr)

theorem isFlat_base (a : Artifact) : ∀ base ∈ (a.file r).exported.base, Flat base := by
  cases a with
  | updateDto =>
    rintro _ ⟨⟩
    exact ((by decide : Flat "PartialType(").append (flat_exported hr .createDto)).append (by decide)
  | _ => exact fun _ => nofun

theorem isFlat_constants (a : Artifact) :
    ∀ c ∈ (a.file r).constants, Flat c.1 ∧ ∀ value ∈ c.2, Flat value := by
  cases a with
  | views =>
    refine List.forall_mem_singleton.2 ⟨(by decide : Flat "COLUMNS"), ?_⟩
    exact List.forall_mem_map.2 fun f hf => (hr.fields f hf).name
  | _ => exact fun _ => nofun

theorem isFlat_file (a : Artifact) : (a.file r).IsFlat where
  imports := fun i hi => (isClean_imports hr a i hi).isFlat
  constants := isFlat_constants hr a
  exported := ⟨isFlat_decorators hr a, flat_exported hr a, isFlat_base hr a, isFlat_membersOf hr a⟩

/-- The text of an artifact has the imports of its file and no others. -/
theorem imports_text_iff {a : Artifact} {clause specifier : String} :
    Imports (a.text r) clause specifier ↔
      ∃ i ∈ (a.file r).imports, clause = i.clause ∧ specifier = i.source :=
  SourceFile.imports_iff (isFlat_file hr a) fun i hi =>
    ⟨(isClean_imports hr a i hi).clause_unquoted, (isClean_imports hr a i hi).source_unquoted⟩

end

end Resource

end Scaffold
