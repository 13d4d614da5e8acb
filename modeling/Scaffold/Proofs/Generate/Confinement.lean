import Scaffold.Proofs.Generate.Failure

/-! A generation keeps to one folder below its output directory, whatever text names the model. The
name of the folder has no separator and no dot, so nothing below it leads out again. -/

namespace Scaffold.Generate
open FileTree Scaffold.Path

/-- The paths below its folder that a resource needs. -/
def folderPaths (folder : String) : List String :=
  ["dto", "views"] ++ Artifact.all.map (·.relativePath folder)

/-- The operation makes a directory of the folder or writes one of its files. -/
inductive Confined (outDir folder : String) : FileOp → Prop
  | makeDirs {name : String} : name ∈ ["dto", "views"] →
      Confined outDir folder (.makeDirs (join outDir (folder ++ "/" ++ name)))
  | write (a : Artifact) (text : String) :
      Confined outDir folder (.write (join outDir (folder ++ "/" ++ a.relativePath folder)) text)

/-- The names that the parts of a path spell. -/
def partNames (path : String) : List String := (pieces path).map String.ofList

section
variable {model outDir : String} {r : Resource} (hmodel : Schema.IsIdentifier model.toList)
  (hfolder : r.folder = Naming.kebab model)
include hmodel hfolder

theorem partNames_relativePath (a : Artifact) :
    partNames (r.folder ++ "/" ++ a.relativePath r.folder) =
      r.folder :: (placeOf r.folder a).reverse := by
  rw [hfolder]
  unfold partNames
  rw [(Naming.isPlain_kebab hmodel).pieces_append, pieces_relativePath hmodel]
  simp [Function.comp_def]

theorem partNames_dir {name : String} (hname : IsPlain name) :
    partNames (r.folder ++ "/" ++ name) = [r.folder, name] := by
  rw [hfolder]
  unfold partNames
  rw [(Naming.isPlain_kebab hmodel).pieces_append, hname.pieces]
  simp

/-- No part of the paths is idle or moves up, and none holds a separator. -/
theorem isPlain_part {rest : String} (h : rest ∈ folderPaths r.folder) :
    ∀ name ∈ partNames (r.folder ++ "/" ++ rest), IsPlain name := by
  have hplain : IsPlain r.folder := hfolder ▸ Naming.isPlain_kebab hmodel
  rcases List.mem_append.1 h with hdir | hfile
  · have hrest : IsPlain rest := by
      rcases List.mem_cons.1 hdir with rfl | hdir
      · exact isPlain_dto
      · obtain rfl := List.mem_singleton.1 hdir
        exact isPlain_views
    rw [partNames_dir hmodel hfolder hrest]
    exact List.forall_mem_cons.2 ⟨hplain, List.forall_mem_singleton.2 hrest⟩
  · obtain ⟨a, -, rfl⟩ := List.mem_map.1 hfile
    rw [partNames_relativePath hmodel hfolder]
    refine List.forall_mem_cons.2 ⟨hplain, fun name hname => ?_⟩
    rw [hfolder] at hname
    exact isPlain_of_mem_placeOf hmodel a name (List.mem_reverse.1 hname)

theorem confined_of_mem_plan {op : FileOp} (h : op ∈ plan r outDir) :
    Confined outDir r.folder op := by
  have hplain : IsPlain r.folder := hfolder ▸ Naming.isPlain_kebab hmodel
  have hdir : ∀ name, name ∈ ["dto", "views"] → IsPlain name →
      Confined outDir r.folder (.makeDirs (join (targetDir r outDir) name)) := by
    intro name hname hrest
    unfold targetDir
    rw [hplain.join_join outDir hrest.startsWith]
    exact .makeDirs hname
  rcases of_mem_plan h with ⟨dir, hneeded, rfl⟩ | ⟨a, rfl⟩
  · rcases List.mem_cons.1 hneeded with rfl | hneeded
    · exact hdir "dto" (by simp) isPlain_dto
    · obtain rfl := List.mem_singleton.1 hneeded
      exact hdir "views" (by simp) isPlain_views
  · unfold writing
    rw [artifactPath_within hmodel hfolder, ← hfolder]
    exact .write a _

/-- Where the operations of the plan change the tree. -/
theorem places_changed {done : List FileOp} {t u : FileTree} (hdone : ∀ op ∈ done, op ∈ plan r outDir)
    (h : Shows (plan r outDir) done t u) {loc : Location} (hloc : u.get? loc ≠ t.get? loc) :
    (t.get? loc = none ∧ u.get? loc = some .directory ∧
        ∃ front, front <+: steps outDir ∧ loc = follow [] front) ∨
      loc = place outDir ++ [r.folder] ∨
      ∃ rest ∈ folderPaths r.folder, loc = place outDir ++ partNames (r.folder ++ "/" ++ rest) := by
  have hbelow : ∀ names : List String,
      follow [] (steps outDir ++ names.map .into) = place outDir ++ names := by
    intro names
    rw [follow_append, follow_names]
    rfl
  by_cases hwritten : ∃ path text, .write path text ∈ done ∧ loc = place path
  · obtain ⟨path, text, hwrite, rfl⟩ := hwritten
    obtain ⟨a, rfl, -⟩ := mem_plan_write (hdone _ hwrite)
    have hrest : a.relativePath r.folder ∈ folderPaths r.folder :=
      List.mem_append_right _ (List.mem_map.2 ⟨a, a.mem_all, rfl⟩)
    refine .inr (.inr ⟨_, hrest, ?_⟩)
    rw [partNames_relativePath hmodel hfolder, ← hbelow, artifactPath_eq hfolder, hfolder,
      ← steps_outputPath hmodel]
    rfl
  · rcases h.kept loc fun path text hwrite heq => hwritten ⟨path, text, hwrite, heq⟩ with
      hsame | ⟨hbefore, hnow, dir, front, hdir, hfront, rfl⟩
    · exact absurd hsame hloc
    · have hplain : IsPlain r.folder := hfolder ▸ Naming.isPlain_kebab hmodel
      obtain ⟨name, hname, hsteps⟩ := steps_neededDirs hplain (mem_plan_makeDirs hdir)
      have hsnoc : steps dir = steps outDir ++ [.into r.folder] ++ [.into name] := by
        rw [hsteps, List.append_assoc]
        rfl
      -- the way goes on to the directory itself, to the folder, or not below the output directory
      rw [hsnoc, List.prefix_concat_iff, List.prefix_concat_iff, ← hsnoc] at hfront
      rcases hfront with rfl | rfl | habove
      · have hrest : name ∈ folderPaths r.folder ∧ IsPlain name := by
          rcases hname with rfl | rfl
          · exact ⟨by simp [folderPaths], isPlain_dto⟩
          · exact ⟨by simp [folderPaths], isPlain_views⟩
        refine .inr (.inr ⟨name, hrest.1, ?_⟩)
        rw [partNames_dir hmodel hfolder hrest.2, ← hbelow, hsteps]
      · exact .inr (.inl (hbelow [r.folder]))
      · exact .inl ⟨hbefore, hnow, front, habove, rfl⟩

end

/-- A generation either finds no model of the name and asks for nothing, or it keeps to the folder of its
model: every directory it makes and every file it writes is one of eight below that folder, and nothing
else changes but that the output directory and those above it are made. -/
theorem generation_confined (settings : Settings) (source model outDir : String) (s : Trial) :
    during (fromSource settings source model outDir) s = (.error (.modelNotFound model), s) ∨
      let folder := Naming.kebab model
      let u := (during (fromSource settings source model outDir) s).2
      Naming.IsFolderName folder ∧
        (∀ rest ∈ folderPaths folder, (folder ++ "/" ++ rest).startsWith "/" = false ∧
          ∀ name ∈ partNames (folder ++ "/" ++ rest), IsPlain name) ∧
        (∃ asked, u.asked = s.asked ++ asked ∧ ∀ op ∈ asked, Confined outDir folder op.1) ∧
        ∀ loc, u.tree.get? loc ≠ s.tree.get? loc →
          (s.tree.get? loc = none ∧ u.tree.get? loc = some .directory ∧
              ∃ front, front <+: steps outDir ∧ loc = follow [] front) ∨
            loc = place outDir ++ [folder] ∨
            ∃ rest ∈ folderPaths folder, loc = place outDir ++ partNames (folder ++ "/" ++ rest) := by
  cases hfind : Schema.findBlock? source model with
  | none => exact .inl (during_fromSource_missing s hfind)
  | some block =>
    have hmodel := Schema.isIdentifier_of_findBlock? hfind
    have hfolder : (resourceOf settings source block).folder = Naming.kebab model :=
      folder_resourceOf (Schema.name_of_findBlock? hfind)
    obtain ⟨done, rest, result, u, hduring, hplan, hended, hshows⟩ := exists_course hfind s
    obtain ⟨asked, hasked, hops⟩ := hended.exists_asked
    rw [hduring, ← hfolder]
    refine .inr ⟨hfolder ▸ Naming.isFolderName_kebab hmodel, fun rest hrest => ⟨?_, ?_⟩,
      ⟨asked, hasked, fun op hop => ?_⟩, fun loc hloc => ?_⟩
    · rw [hfolder, String.append_assoc]
      exact (Naming.isPlain_kebab hmodel).startsWith_append _
    · exact isPlain_part hmodel hfolder hrest
    · refine confined_of_mem_plan hmodel hfolder ?_
      rw [hplan]
      exact hops op hop
    · refine places_changed hmodel hfolder (fun op hop => ?_) hshows hloc
      rw [hplan]
      exact List.mem_append_left rest hop

def httpSource : String := "model HTTPServer \x7b\n\x7d"

/-- The paths below the folder of a name of two words. -/
def httpPaths : List String :=
  ["dto", "views", "http-server.controller.ts", "http-server.service.ts", "http-server.module.ts",
    "dto/create-http-server.dto.ts", "dto/update-http-server.dto.ts", "views/views.controller.ts"]

/-- Where the eight operations go, and what they change in an empty tree. -/
theorem generation_confined_http_server :
    let u := (during (fromSource .default httpSource "HTTPServer" "app") ⟨.empty, [], []⟩).2
    u.asked.map (·.1.path) = httpPaths.map ("app/http-server/" ++ ·) ∧
      (∀ op ∈ u.asked, Confined "app" "http-server" op.1) ∧
      ∀ loc, u.tree.get? loc ≠ FileTree.empty.get? loc →
        loc = ["app"] ∨ loc = ["app", "http-server"] ∨
          ∃ path ∈ httpPaths, loc = "app" :: "http-server" :: partNames path := by
  intro u
  have hfolder : Naming.kebab "HTTPServer" = "http-server" := by decide +kernel
  have hpaths : folderPaths "http-server" = httpPaths := by decide +kernel
  have hplain : IsPlain "http-server" := ⟨by decide, by decide, by decide +kernel⟩
  have hparts : ∀ path, place "app" ++ partNames ("http-server" ++ "/" ++ path) =
      "app" :: "http-server" :: partNames path := by
    intro path
    have happ : place "app" = ["app"] := by decide +kernel
    unfold partNames
    rw [hplain.pieces_append, happ]
    simp
  have hsteps : steps "app" = [] ++ [.into "app"] := by decide +kernel
  have hasked : u.asked.map (·.1.path) = httpPaths.map ("app/http-server/" ++ ·) := by decide +kernel
  have hconfined := generation_confined .default httpSource "HTTPServer" "app" ⟨.empty, [], []⟩
  dsimp only at hconfined
  rw [hfolder, hpaths] at hconfined
  rcases hconfined with hmissing | ⟨-, -, ⟨asked, hops, hconfined⟩, hchanged⟩
  · have hnone : u = ⟨.empty, [], []⟩ := congrArg Prod.snd hmissing
    rw [hnone] at hasked
    cases hasked
  · rw [List.nil_append] at hops
    refine ⟨hasked, fun op hop => hconfined op (hops ▸ hop), fun loc hloc => ?_⟩
    rcases hchanged loc hloc with ⟨-, -, front, hfront, rfl⟩ | hfolder | ⟨path, hpath, hplace⟩
    · rw [hsteps, List.prefix_concat_iff, List.prefix_nil] at hfront
      rcases hfront with rfl | rfl
      · exact .inl rfl
      · exact absurd rfl hloc
    · exact .inr (.inl hfolder)
    · exact .inr (.inr ⟨path, hpath, hplace.trans (hparts path)⟩)

end Scaffold.Generate
