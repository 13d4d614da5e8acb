import Scaffold.Proofs.Resource.Files
import Scaffold.Proofs.TypeScript.Classes

/-! The classes of a resource, read back from its texts. The arguments of their decorators and the types of
their parameters hold neither a comma nor a parenthesis, so the controllers and the service are read as
they were made. -/

namespace Scaffold
open Text TypeScript

theorem Naming.IsFolderName.isItem {folder : String} (h : IsFolderName folder) : IsItem folder :=
  fun c hc => ⟨ne_of_isFolderChar (h.chars c hc) (by decide), ne_of_isFolderChar (h.chars c hc) (by decide),
    ne_of_isFolderChar (h.chars c hc) (by decide)⟩

namespace Resource

/-! ## Parts of a class -/

theorem isReadable_bare {name : String} (hname : IsName name) : (Decorator.mk name [] []).IsReadable :=
  ⟨hname, fun _ => nofun, rfl⟩

theorem isReadable_route {name path : String} (hname : IsName name) (hpath : IsItem path) :
    (Decorator.mk name [.text path] []).IsReadable :=
  ⟨hname, List.forall_mem_singleton.2 hpath, rfl⟩

theorem isReadable_param {name type : String} (hname : IsName name) (htype : IsItem type) :
    (Param.mk [] name type).IsReadable :=
  ⟨fun _ => nofun, hname, htype⟩

theorem isReadable_guarded {r : Resource} {route : Decorator} (h : route.IsReadable) :
    ∀ d ∈ r.guarded route, d.IsReadable := by
  refine List.forall_mem_append.2 ⟨?_, List.forall_mem_singleton.2 h⟩
  split
  · refine List.forall_mem_singleton.2 ⟨(by decide : IsName "UseGuards"), ?_, rfl⟩
    exact List.forall_mem_singleton.2 (by decide : IsName "JwtAuthGuard")
  · exact fun _ => nofun

theorem isReadable_bodyParam {type : String} (h : IsName type) : (bodyParam type).IsReadable :=
  ⟨List.forall_mem_singleton.2 (isReadable_bare (by decide)), (by decide : IsName "dto"), h.isItem⟩

theorem isReadable_members {methods : List Method} {name type : String} (hname : IsName name)
    (hmethods : ∀ m ∈ methods, m.IsReadable) :
    ∃ members, some (Member.injected name type :: methods.map .method) = some members ∧
      ∀ m ∈ members, m.IsReadable :=
  ⟨_, rfl, List.forall_mem_cons.2 ⟨.injected fun hmem => hname.ne hmem (by decide) rfl,
    List.forall_mem_map.2 fun m hm => .method (hmethods m hm)⟩⟩

section
variable {r : Resource} (hr : r.IsClean)
include hr

theorem isReadable_idParam : r.idParam.IsReadable := by
  refine ⟨List.forall_mem_singleton.2 ⟨(by decide : IsName "Param"), ?_, rfl⟩, (by decide : IsName "id"),
    hr.idType.isItem⟩
  refine List.forall_mem_cons.2 ⟨(by decide : IsItem "id"), ?_⟩
  split
  · exact List.forall_mem_singleton.2 (by decide : IsName "ParseIntPipe")
  · exact fun _ => nofun

theorem isReadable_requestParam : r.requestParam.IsReadable :=
  ⟨List.forall_mem_singleton.2 (isReadable_bare (by decide)), (by decide : IsName "req"),
    ((by decide : IsItem "\x7b user: \x7b id: ").append hr.auditKeyType.isItem).append (by decide)⟩

theorem isReadable_controllerMethods : ∀ m ∈ r.controllerMethods, m.IsReadable := by
  have hid := isReadable_idParam hr
  refine List.forall_mem_cons.2 ⟨?_, List.forall_mem_cons.2 ⟨?_, List.forall_mem_cons.2 ⟨?_,
    List.forall_mem_cons.2 ⟨?_, List.forall_mem_singleton.2 ?_⟩⟩⟩⟩
  · refine ⟨isReadable_guarded (isReadable_bare (by decide)), (by decide : IsName "create"),
      List.forall_mem_cons.2 ⟨isReadable_bodyParam (isName_exported hr .createDto), ?_⟩⟩
    split
    · exact List.forall_mem_singleton.2 (isReadable_requestParam hr)
    · exact fun _ => nofun
  · exact ⟨List.forall_mem_singleton.2 (isReadable_bare (by decide)), (by decide : IsName "findAll"),
      fun _ => nofun⟩
  · exact ⟨List.forall_mem_singleton.2 (isReadable_route (by decide) (by decide)),
      (by decide : IsName "findOne"), List.forall_mem_singleton.2 hid⟩
  · exact ⟨isReadable_guarded (isReadable_route (by decide) (by decide)), (by decide : IsName "update"),
      List.forall_mem_cons.2
        ⟨hid, List.forall_mem_singleton.2 (isReadable_bodyParam (isName_exported hr .updateDto))⟩⟩
  · exact ⟨isReadable_guarded (isReadable_route (by decide) (by decide)), (by decide : IsName "remove"),
      List.forall_mem_singleton.2 hid⟩

theorem isReadable_serviceMethods : ∀ m ∈ r.serviceMethods, m.IsReadable := by
  have hid := isReadable_param (by decide : IsName "id") hr.idType.isItem
  refine List.forall_mem_cons.2 ⟨?_, List.forall_mem_cons.2 ⟨?_, List.forall_mem_cons.2 ⟨?_,
    List.forall_mem_cons.2 ⟨?_, List.forall_mem_singleton.2 ?_⟩⟩⟩⟩
  · refine ⟨fun _ => nofun, (by decide : IsName "create"), List.forall_mem_cons.2
      ⟨isReadable_param (by decide) (isName_exported hr .createDto).isItem, ?_⟩⟩
    split
    · exact List.forall_mem_singleton.2 (isReadable_param (by decide) hr.auditKeyType.isItem)
    · exact fun _ => nofun
  · exact ⟨fun _ => nofun, (by decide : IsName "findAll"), fun _ => nofun⟩
  · exact ⟨fun _ => nofun, (by decide : IsName "findOne"), List.forall_mem_singleton.2 hid⟩
  · exact ⟨fun _ => nofun, (by decide : IsName "update"), List.forall_mem_cons.2 ⟨hid,
      List.forall_mem_singleton.2 (isReadable_param (by decide) (isName_exported hr .updateDto).isItem)⟩⟩
  · exact ⟨fun _ => nofun, (by decide : IsName "remove"), List.forall_mem_singleton.2 hid⟩

theorem isReadable_viewsMethods : ∀ m ∈ r.viewsMethods, m.IsReadable := by
  have hrender : ∀ {view : String}, IsItem view →
      (Decorator.mk "Render" [.text (r.folder ++ view)] []).IsReadable :=
    fun hview => isReadable_route (by decide) (hr.folder.isItem.append hview)
  refine List.forall_mem_cons.2 ⟨?_, List.forall_mem_singleton.2 ?_⟩
  · exact ⟨List.forall_mem_cons.2 ⟨isReadable_bare (by decide),
      List.forall_mem_singleton.2 (hrender (by decide))⟩, (by decide : IsName "index"), fun _ => nofun⟩
  · exact ⟨List.forall_mem_cons.2 ⟨isReadable_route (by decide) (by decide),
      List.forall_mem_singleton.2 (hrender (by decide))⟩, (by decide : IsName "show"),
      List.forall_mem_singleton.2 (isReadable_idParam hr)⟩

/-! ## The classes -/

/-- The files whose classes hold methods. -/
def withMethods : List Artifact := [.controller, .service, .views]

theorem isReadable_exported {a : Artifact} (ha : a ∈ withMethods) : (a.file r).exported.IsReadable := by
  have hname : ' ' ∉ (a.file r).exported.name.toList :=
    fun hmem => (isName_exported hr a).ne hmem (by decide) rfl
  simp only [withMethods, List.mem_cons, List.not_mem_nil, or_false] at ha
  rcases ha with rfl | rfl | rfl
  · exact ⟨List.forall_mem_singleton.2 (isReadable_route (by decide) hr.folder.isItem), hname, rfl,
      isReadable_members (isName_serviceName hr) (isReadable_controllerMethods hr)⟩
  · exact ⟨List.forall_mem_singleton.2 (isReadable_bare (by decide)), hname, rfl,
      isReadable_members (by decide) (isReadable_serviceMethods hr)⟩
  · exact ⟨List.forall_mem_singleton.2
        (isReadable_route (by decide) ((by decide : IsItem "views/").append hr.folder.isItem)), hname, rfl,
      isReadable_members (isName_serviceName hr) (isReadable_viewsMethods hr)⟩

/-- The text of a controller, of a service or of a views controller has the class of its file. -/
theorem exportedClass?_text {a : Artifact} (ha : a ∈ withMethods) :
    exportedClass? (a.text r) = some (a.file r).exported :=
  SourceFile.exportedClass?_print (isFlat_file hr a) (isReadable_exported hr ha)

end

end Resource

end Scaffold
