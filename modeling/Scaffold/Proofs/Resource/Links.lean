import Scaffold.Proofs.Generate.Folder
import Scaffold.Proofs.Resource.Files

/-! The links between the six files of a resource. What they import from each other is exported there,
and beyond their folder they import from three modules only. -/

namespace Scaffold.Resource
open TypeScript Scaffold.Path Generate

/-! ## Where imports lead -/

/-- The module is named by a path from the file that imports it. -/
def IsRelative (specifier : String) : Prop :=
  "./".toList <+: specifier.toList ∨ "../".toList <+: specifier.toList

instance (specifier : String) : Decidable (IsRelative specifier) :=
  inferInstanceAs (Decidable (_ ∨ _))

/-- The place that a path names from the folder at `base`. -/
def placeIn (base : List String) (path : String) : List String := follow base (steps path)

theorem placeIn_here (base : List String) (path : String) :
    placeIn base ("./" ++ path) = placeIn base path := by
  unfold placeIn
  rw [steps_here]

theorem placeIn_above (base : List String) (name path : String) :
    placeIn (base ++ [name]) ("../" ++ path) = placeIn base path := by
  unfold placeIn
  rw [steps_above, follow, List.dropLast_concat]

theorem placeIn_join (base : List String) {dir path : String} (hdir : IsPlain dir)
    (hpath : path.startsWith "/" = false) :
    placeIn base (join dir path) = placeIn (base ++ [dir]) path := by
  unfold placeIn
  rw [steps_join dir hpath, hdir.steps]
  rfl

/-- The place of a module that the file at `file` imports. -/
def resolve (file : List String) (specifier : String) : List String :=
  placeIn file.dropLast (specifier ++ ".ts")

/-- The modules outside of the folder, as named from the folder. -/
def sharedModules : List String :=
  ["../prisma/prisma.module", "../prisma/prisma.service", "../auth/jwt-auth.guard"]

/-- What a file of the resource may import, wherever the folder lies: from a package, the class of
another file, or from a shared module. -/
inductive Links (r : Resource) (a : Artifact) : Import → Prop
  | package {i : Import} : ¬ IsRelative i.source → Links r a i
  | artifact (b : Artifact) {specifier : String} : b ≠ a →
      (∀ base, resolve (placeIn base (a.relativePath r.folder)) specifier =
        placeIn base (b.relativePath r.folder)) →
      Links r a (plainImport [(b.file r).exported.name] specifier)
  | shared {names : List String} {specifier : String} : specifier ∈ sharedModules →
      (∀ base, resolve (placeIn base (a.relativePath r.folder)) specifier =
        placeIn base (specifier ++ ".ts")) →
      Links r a (plainImport names specifier)

theorem file_specifier {folder : String} (ending : String) :
    "./" ++ (folder ++ ending) ++ ".ts" = "./" ++ (folder ++ (ending ++ ".ts")) := by
  simp only [String.append_assoc]

theorem below_specifier {dir name : String} (hdir : IsPlain dir) (hname : name.startsWith "/" = false) :
    "./" ++ dir ++ "/" ++ name = "./" ++ join dir name := by
  rw [hdir.join hname]
  simp only [String.append_assoc]

theorem startsWith_dto {folder front : String} (hfront : IsPlain front) :
    (front ++ folder ++ ".dto.ts").startsWith "/" = false := by
  rw [String.append_assoc]
  exact hfront.startsWith_append _

theorem dto_specifier {folder front : String} (hfront : IsPlain front) :
    "./dto/" ++ (front ++ folder ++ ".dto") ++ ".ts" =
      "./" ++ join "dto" (front ++ folder ++ ".dto.ts") := by
  have hsplit : ".dto" ++ ".ts" = ".dto.ts" := by decide
  rw [← below_specifier isPlain_dto (startsWith_dto hfront), ← hsplit]
  simp only [String.append_assoc]
  rfl

theorem views_specifier :
    "./views/views.controller" ++ ".ts" = "./" ++ join "views" "views.controller.ts" := by
  have hfile : IsPlain "views.controller.ts" := ⟨by decide, by decide, by decide⟩
  rw [← below_specifier isPlain_views hfile.startsWith]
  decide

section
variable {r : Resource} {model : String} (hmodel : Schema.IsIdentifier model.toList)
  (hfolder : r.folder = Naming.kebab model)
include hmodel hfolder

/-- A file's imports start from the directory of its place. -/
theorem resolve_eq {a : Artifact} {name : String} {above : List String}
    (hplace : placeOf r.folder a = name :: above) (base : List String) (specifier : String) :
    resolve (placeIn base (a.relativePath r.folder)) specifier =
      placeIn (base ++ above.reverse) (specifier ++ ".ts") := by
  obtain ⟨name', above', hplace', hnames, -⟩ := names_relativePath hmodel a
  rw [← hfolder] at hplace' hnames
  obtain ⟨rfl, rfl⟩ := List.cons.inj (hplace'.symm.trans hplace)
  have hfile : placeIn base (a.relativePath r.folder) = base ++ above'.reverse ++ [name'] := by
    unfold placeIn
    rw [hnames.steps, follow_names, List.append_assoc]
  unfold resolve
  rw [hfile, List.dropLast_concat]

/-- A file of the folder itself imports another as that is called there. -/
theorem links_here {a b : Artifact} {name : String} (hplace : placeOf r.folder a = [name]) (hne : b ≠ a)
    {specifier : String} (hpath : specifier ++ ".ts" = "./" ++ b.relativePath r.folder) :
    Links r a (plainImport [(b.file r).exported.name] specifier) := by
  refine .artifact b hne fun base => ?_
  rw [resolve_eq hmodel hfolder hplace, hpath, List.reverse_nil, List.append_nil]
  exact placeIn_here base _

theorem links_shared {a : Artifact} {name : String} (hplace : placeOf r.folder a = [name])
    {names : List String} {specifier : String} (hshared : specifier ∈ sharedModules) :
    Links r a (plainImport names specifier) := by
  refine .shared hshared fun base => ?_
  rw [resolve_eq hmodel hfolder hplace, List.reverse_nil, List.append_nil]

theorem links_dtoImports {a : Artifact} {name : String} (hplace : placeOf r.folder a = [name]) :
    ∀ i ∈ r.dtoImports, Links r a i := by
  have hne : ∀ b, (placeOf r.folder b).length = 2 → b ≠ a := by
    rintro b hlength rfl
    rw [hplace] at hlength
    cases hlength
  have hcreate : IsPlain "create-" := ⟨by decide, by decide, by decide⟩
  have hupdate : IsPlain "update-" := ⟨by decide, by decide, by decide⟩
  exact List.forall_mem_cons.2
    ⟨links_here hmodel hfolder hplace (hne .createDto rfl) (dto_specifier hcreate),
      List.forall_mem_singleton.2
        (links_here hmodel hfolder hplace (hne .updateDto rfl) (dto_specifier hupdate))⟩

theorem links_controller : ∀ i ∈ r.controller.imports, Links r .controller i := by
  have hplace : placeOf r.folder .controller = [r.folder ++ ".controller.ts"] := rfl
  refine List.forall_mem_append.2 ⟨List.forall_mem_append.2 ⟨List.forall_mem_append.2
    ⟨List.forall_mem_singleton.2 (.package (by decide : ¬ IsRelative "@nestjs/common")), ?_⟩,
    List.forall_mem_singleton.2 ?_⟩, links_dtoImports hmodel hfolder hplace⟩
  · split
    · exact List.forall_mem_singleton.2 (links_shared hmodel hfolder hplace (by decide))
    · exact fun _ => nofun
  · exact links_here hmodel hfolder hplace (by decide : .service ≠ _) (file_specifier ".service")

theorem links_service : ∀ i ∈ r.service.imports, Links r .service i := by
  have hplace : placeOf r.folder .service = [r.folder ++ ".service.ts"] := rfl
  refine List.forall_mem_append.2 ⟨List.forall_mem_cons.2 ⟨.package (by decide),
    List.forall_mem_singleton.2 ?_⟩, links_dtoImports hmodel hfolder hplace⟩
  exact links_shared hmodel hfolder hplace (by decide)

theorem links_module : ∀ i ∈ r.moduleFile.imports, Links r .module i := by
  have hplace : placeOf r.folder .module = [r.folder ++ ".module.ts"] := rfl
  refine List.forall_mem_cons.2 ⟨.package (by decide), List.forall_mem_cons.2 ⟨?_,
    List.forall_mem_cons.2 ⟨?_, List.forall_mem_cons.2 ⟨?_, List.forall_mem_singleton.2 ?_⟩⟩⟩⟩
  · exact links_shared hmodel hfolder hplace (by decide)
  · exact links_here hmodel hfolder hplace (by decide : .controller ≠ _) (file_specifier ".controller")
  · exact links_here hmodel hfolder hplace (by decide : .service ≠ _) (file_specifier ".service")
  · exact links_here hmodel hfolder hplace (by decide : .views ≠ _) views_specifier

omit hmodel hfolder in
theorem links_createDto : ∀ i ∈ r.createDto.imports, Links r .createDto i := by
  unfold createDto
  dsimp only
  split
  · exact fun _ => nofun
  · exact List.forall_mem_singleton.2 (.package (by decide : ¬ IsRelative "class-validator"))

theorem links_updateDto : ∀ i ∈ r.updateDto.imports, Links r .updateDto i := by
  refine List.forall_mem_cons.2 ⟨.package (by decide), List.forall_mem_singleton.2
    (.artifact .createDto (by decide) fun base => ?_)⟩
  -- both lie in the directory of the DTOs
  have hfront : IsPlain "create-" := ⟨by decide, by decide, by decide⟩
  have hfile : r.createDtoFile ++ ".ts" = "create-" ++ r.folder ++ ".dto.ts" := by
    unfold createDtoFile
    rw [String.append_assoc]
    rfl
  rw [resolve_eq hmodel hfolder rfl, String.append_assoc, placeIn_here, hfile]
  exact (placeIn_join base isPlain_dto (startsWith_dto hfront)).symm

theorem links_views : ∀ i ∈ r.views.imports, Links r .views i := by
  refine List.forall_mem_cons.2 ⟨.package (by decide : ¬ IsRelative "@nestjs/common"),
    List.forall_mem_singleton.2 (.artifact .service (by decide) fun base => ?_)⟩
  have hfile : r.serviceFile ++ ".ts" = r.folder ++ ".service.ts" := by
    unfold serviceFile
    rw [String.append_assoc]
    rfl
  rw [resolve_eq hmodel hfolder rfl, String.append_assoc]
  exact hfile ▸ placeIn_above base "views" _

theorem links_of_mem {a : Artifact} : ∀ i ∈ (a.file r).imports, Links r a i := by
  cases a with
  | controller => exact links_controller hmodel hfolder
  | service => exact links_service hmodel hfolder
  | module => exact links_module hmodel hfolder
  | createDto => exact links_createDto
  | updateDto => exact links_updateDto hmodel hfolder
  | views => exact links_views hmodel hfolder

end

theorem isClean_resourceOf (settings : Settings) {source model : String} {block : ModelBlock}
    (hfind : Schema.findBlock? source model = some block) :
    (resourceOf settings source block).IsClean := by
  have hparse : Schema.parseModel? source block.name = some block.parse := by
    unfold Schema.parseModel?
    rw [Schema.name_of_findBlock? hfind, hfind, Option.map_some]
  exact isClean_ofModel hparse _ _

theorem importedNames_class {r : Resource} (hr : r.IsClean) (b : Artifact) (specifier : String) :
    importedNames (plainImport [(b.file r).exported.name] specifier).clause =
      [(b.file r).exported.name] :=
  importedNames_clause rfl (List.cons_ne_nil _ _)
    (List.forall_mem_singleton.2 (isName_exported hr b))

/-- The files of a resource are closed under their links. What one of them imports by a path is, wherever
the folder lies, the class that another of the six exports, or it comes from a shared module. -/
theorem files_linked (settings : Settings) {source model : String} {block : ModelBlock}
    (hfind : Schema.findBlock? source model = some block) {a : Artifact} {clause specifier : String}
    (himport : Imports (a.text (resourceOf settings source block)) clause specifier)
    (hrelative : IsRelative specifier) :
    let r := resourceOf settings source block
    (∃ b ≠ a, (∀ base, resolve (placeIn base (a.relativePath r.folder)) specifier =
        placeIn base (b.relativePath r.folder)) ∧
      importedNames clause ≠ [] ∧ ∀ name ∈ importedNames clause, Exports (b.text r) name) ∨
    ∃ shared ∈ sharedModules, ∀ base,
      resolve (placeIn base (a.relativePath r.folder)) specifier = placeIn base (shared ++ ".ts") := by
  intro r
  have hclean : r.IsClean := isClean_resourceOf settings hfind
  have hmodel : Schema.IsIdentifier block.name.toList :=
    Schema.isIdentifier_of_mem_blocks (List.mem_of_find?_eq_some hfind)
  obtain ⟨i, hi, rfl, rfl⟩ := (imports_text_iff hclean).1 himport
  cases links_of_mem hmodel rfl i hi with
  | package hpackage => exact absurd hrelative hpackage
  | shared hshared hplace => exact .inr ⟨_, hshared, hplace⟩
  | artifact b hne hplace =>
    refine .inl ⟨b, hne, hplace, ?_⟩
    rw [importedNames_class hclean]
    exact ⟨List.cons_ne_nil _ _, List.forall_mem_singleton.2 (b.file r).exports_print⟩

/-- The views of a document import its service, and one of the other files exports it. -/
theorem files_linked_views :
    let block : ModelBlock := ⟨"Doc", " id Int "⟩
    let r := resourceOf .default "model Doc \x7b id Int \x7d" block
    Schema.findBlock? "model Doc \x7b id Int \x7d" "Doc" = some block ∧
      Imports (Artifact.views.text r) " \x7b DocService \x7d from " "../doc.service" ∧
        IsRelative "../doc.service" ∧ ∃ b ≠ Artifact.views, Exports (b.text r) "DocService" := by
  intro block r
  have hfind : Schema.findBlock? "model Doc \x7b id Int \x7d" "Doc" = some block := by decide +kernel
  have hservice : plainImport [r.serviceClass] ("../" ++ r.serviceFile) ∈ r.views.imports :=
    List.mem_cons_of_mem _ List.mem_cons_self
  have himport : Imports (Artifact.views.text r) " \x7b DocService \x7d from " "../doc.service" :=
    (imports_text_iff (isClean_resourceOf .default hfind)).2
      ⟨_, hservice, by decide +kernel, by decide +kernel⟩
  refine ⟨hfind, himport, by decide, ?_⟩
  rcases files_linked .default hfind himport (by decide) with
    ⟨b, hne, -, -, hexports⟩ | ⟨shared, hshared, hplace⟩
  · exact ⟨b, hne, hexports _ (by decide)⟩
  · -- no shared module lies in the folder of the documents
    have hplace := hplace ["out", "doc"]
    rw [resolve_eq (Schema.isIdentifier_of_findBlock? hfind) rfl rfl] at hplace
    simp only [sharedModules, List.mem_cons, List.not_mem_nil, or_false] at hshared
    rcases hshared with rfl | rfl | rfl <;> exact absurd hplace (by decide +kernel)

end Scaffold.Resource
