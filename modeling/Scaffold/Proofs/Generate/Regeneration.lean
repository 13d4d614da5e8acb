import Scaffold.Proofs.FileTree.Making
import Scaffold.Proofs.Generate.Outputs

/-! Generating again. The directories are there, a write replaces what its file held, and nothing else
is looked at; so a second run succeeds where the first did and leaves the tree that the first one left,
whatever was done to its files in between. -/

namespace Scaffold.Generate
open FileTree Scaffold.Path

variable {limit : Duration} {r : Resource} {outDir : String} {t u v w : FileTree}

/-! ## A run that succeeded -/

theorem makeDirs_of_makeDir {dir : String} (h : onTree (makeDir limit dir) t = (.ok (), u)) :
    t.makeDirs dir = (u, .ok ()) := by
  rw [onTree_makeDir] at h
  obtain ⟨hresult, htree⟩ := Prod.mk.inj h
  refine Prod.ext htree ?_
  cases hdirs : (t.makeDirs dir).2 with
  | ok done => rfl
  | error e =>
    rw [hdirs] at hresult
    cases hresult

/-- Directories that were made are made again without any change, as long as they are kept. -/
theorem makeDirs_again_of_forM {dirs : List String} (hdots : ∀ dir ∈ dirs, endsInDot dir = false)
    (h : onTree (dirs.forM (makeDir limit)) t = (.ok (), u)) :
    Keeps t u ∧ ∀ v, Keeps u v → ∀ dir ∈ dirs, v.makeDirs dir = (v, .ok ()) := by
  induction dirs generalizing t with
  | nil =>
    cases h
    exact ⟨(Grown.refl _).keeps, fun _ _ => nofun⟩
  | cons dir dirs ih =>
    obtain ⟨hdot, hdots⟩ := List.forall_mem_cons.1 hdots
    rw [List.forM] at h
    obtain ⟨⟨⟩, m, hfirst, hrest⟩ := exists_of_bind_ok h
    have hmade := makeDirs_of_makeDir hfirst
    obtain ⟨hkeeps, hagain⟩ := ih hdots hrest
    have hgrown : Keeps t m := by
      have hkept := (grown_makeDirs (t := t) dir).keeps
      rwa [hmade] at hkept
    refine ⟨hgrown.trans hkeeps, fun v hv => List.forall_mem_cons.2 ⟨?_, hagain v hv⟩⟩
    exact makeDirs_again hdot hmade (hkeeps.trans hv)

theorem forM_makeDir_again (limit : Duration) {dirs : List String}
    (h : ∀ dir ∈ dirs, v.makeDirs dir = (v, .ok ())) :
    onTree (dirs.forM (makeDir limit)) v = (.ok (), v) := by
  induction dirs with
  | nil => rfl
  | cons dir dirs ih =>
    obtain ⟨hdir, hdirs⟩ := List.forall_mem_cons.1 h
    rw [List.forM, onTree_bind, onTree_makeDir, hdir]
    exact ih hdirs

theorem endsInDot_neededDirs : ∀ dir ∈ neededDirs r outDir, endsInDot dir = false := by
  have hname : ∀ name, IsPlain name → endsInDot (join (targetDir r outDir) name) = false := by
    intro name hplain
    obtain ⟨front, hfront, -⟩ := exists_pieces_join (targetDir r outDir) hplain.startsWith
    rw [hplain.pieces] at hfront
    exact hplain.endsInDot hfront
  exact List.forall_mem_cons.2 ⟨hname "dto" isPlain_dto,
    List.forall_mem_singleton.2 (hname "views" isPlain_views)⟩

/-- Files that were written one after another may be written again. -/
theorem of_mapM_writeArtifact {artifacts : List Artifact} {paths : List String}
    (h : onTree (artifacts.mapM (writeArtifact limit r outDir)) t = (.ok paths, u)) :
    paths = artifacts.map (artifactPath r outDir) ∧ Keeps t u ∧
      ∀ a ∈ artifacts, u.refuses .write (place (artifactPath r outDir a)) = none := by
  induction artifacts generalizing t paths with
  | nil =>
    cases h
    exact ⟨rfl, (Grown.refl _).keeps, nofun⟩
  | cons a artifacts ih =>
    rw [List.mapM_cons] at h
    obtain ⟨written, v, hwrite, hrest⟩ := exists_of_bind_ok h
    obtain ⟨others, m, hothers, hdone⟩ := exists_of_bind_ok hrest
    cases hdone
    obtain ⟨rfl, htakes, rfl⟩ := writeArtifact_eq_ok.1 hwrite
    obtain ⟨rfl, hkeeps, hpermitted⟩ := ih hothers
    refine ⟨rfl, (keeps_put htakes.free _).trans hkeeps, List.forall_mem_cons.2 ⟨?_, hpermitted⟩⟩
    rw [hkeeps.refuses]
    exact htakes.permitted

/-! ## Changes between two runs -/

/-- `v` is `u` after any edits of the files in these places, or with some of them deleted. -/
structure Edited (places : List Location) (u v : FileTree) : Prop where
  refuses : v.refuses = u.refuses
  elsewhere : ∀ loc, loc ∉ places → v.get? loc = u.get? loc
  files : ∀ loc ∈ places, v.get? loc ≠ some .directory

theorem Edited.keeps {places : List Location} (h : Edited places u v)
    (hfiles : ∀ loc ∈ places, u.get? loc ≠ some .directory) : Keeps u v := by
  refine ⟨h.refuses, fun loc hdir => ?_⟩
  have hout : loc ∉ places := fun hin => hfiles loc hin hdir
  rw [h.elsewhere loc hout, hdir]

theorem Edited.put {places : List Location} (h : Edited places u v) {loc : Location}
    (hloc : loc ∈ places) (hne : loc ≠ []) (content : ByteArray) :
    Edited places u (v.put loc (.file content)) := by
  refine ⟨h.refuses, fun other hother => ?_, fun other hother => ?_⟩
  · rw [get?_put_of_ne v (ne_of_mem_of_not_mem hloc hother).symm]
    exact h.elsewhere other hother
  · by_cases heq : other = loc
    · rw [heq, get?_put_self v hne]
      exact nofun
    · rw [get?_put_of_ne v heq]
      exact h.files other hother

/-- The tree without what stands in a place. -/
def without (t : FileTree) (loc : Location) : FileTree :=
  { t with entries := t.entries.filter (·.1 != loc) }

theorem Edited.without {places : List Location} (h : Edited places u v) {loc : Location}
    (hloc : loc ∈ places) (hne : loc ≠ []) : Edited places u (without v loc) := by
  have hsame : ∀ other, other ≠ loc → (Generate.without v loc).get? other = v.get? other := by
    intro other hother
    unfold Generate.without FileTree.get?
    rw [lookup_filter_ne hother]
  refine ⟨h.refuses, fun other hother => ?_, fun other hother => ?_⟩
  · rw [hsame other (ne_of_mem_of_not_mem hloc hother).symm]
    exact h.elsewhere other hother
  · by_cases heq : other = loc
    · have hgone : (Generate.without v loc).get? loc = none := by
        simp only [Generate.without, FileTree.get?, List.isEmpty_iff, hne, if_false,
          List.lookup_eq_none_iff, List.mem_filter]
        intro entry hentry
        exact bne_iff_ne.2 (bne_iff_ne.1 hentry.2).symm
      rw [heq, hgone]
      exact (Option.some_ne_none _).symm
    · rw [hsame other heq]
      exact h.files other hother

/-- A place that holds again what it held is no longer edited. -/
theorem Edited.restored {places : List Location} {loc : Location} {content : ByteArray}
    (h : Edited (loc :: places) u v) (hne : loc ≠ []) (hthere : u.get? loc = some (.file content)) :
    Edited places u (v.put loc (.file content)) := by
  have hedited := h.put List.mem_cons_self hne content
  refine ⟨h.refuses, fun other hother => ?_, fun other hother => ?_⟩
  · by_cases heq : other = loc
    · rw [heq, get?_put_self v hne, hthere]
    · refine hedited.elsewhere other ?_
      rw [List.mem_cons, not_or]
      exact ⟨heq, hother⟩
  · exact hedited.files other (List.mem_cons_of_mem loc hother)

/-- The file of an artifact is there and may be written again. -/
structure Settled (r : Resource) (outDir : String) (u : FileTree) (a : Artifact) : Prop where
  takes : u.Takes (artifactPath r outDir a)
  there : u.get? (place (artifactPath r outDir a)) = some (.file (a.text r).toUTF8)

theorem settled_of_holds {a : Artifact} (h : HoldsArtifact r outDir u a)
    (hpermitted : u.refuses .write (place (artifactPath r outDir a)) = none) :
    Settled r outDir u a := by
  obtain ⟨loc, hresolve, hget, hfile⟩ := holds_iff.1 h
  obtain rfl := eq_place_of_resolve hresolve
  exact ⟨⟨hresolve, by simp [hget], hfile, hpermitted⟩, hget⟩

/-- Writing the artifacts again brings back their files, one place after another. -/
theorem exists_rewritten (limit : Duration) {artifacts : List Artifact}
    (hfiles : ∀ a ∈ artifacts, Settled r outDir u a)
    (h : Edited (artifacts.map fun a => place (artifactPath r outDir a)) u v) :
    ∃ w, onTree (artifacts.mapM (writeArtifact limit r outDir)) v =
      (.ok (artifacts.map (artifactPath r outDir)), w) ∧ Edited [] u w := by
  induction artifacts generalizing v with
  | nil => exact ⟨v, rfl, h⟩
  | cons a artifacts ih =>
    have hsettled := hfiles a List.mem_cons_self
    have hkeeps : Keeps u v := by
      refine h.keeps fun loc hloc => ?_
      obtain ⟨b, hb, rfl⟩ := List.mem_map.1 hloc
      simp [(hfiles b hb).there]
    have hfree : v.get? (place (artifactPath r outDir a)) ≠ some .directory :=
      h.files _ List.mem_cons_self
    have hwrite : onTree (writeArtifact limit r outDir a) v =
        (.ok (artifactPath r outDir a),
          v.put (place (artifactPath r outDir a)) (.file (a.text r).toUTF8)) :=
      writeArtifact_eq_ok.2 ⟨rfl, hsettled.takes.keeps hkeeps hfree, rfl⟩
    obtain ⟨w, hrest, hw⟩ := ih (fun b hb => hfiles b (List.mem_cons_of_mem a hb))
      (h.restored hsettled.takes.ne_nil hsettled.there)
    refine ⟨w, ?_, hw⟩
    rw [List.mapM_cons, onTree_bind, hwrite]
    dsimp only
    rw [onTree_bind, hrest]
    rfl

/-! ## A second run -/

section
variable {settings : Settings} {source model : String} {paths : List String}

theorem exists_block_of_onTree_ok
    (h : onTree (fromSource settings source model outDir) t = (.ok paths, u)) :
    ∃ block, Schema.findBlock? source model = some block := by
  cases hfind : Schema.findBlock? source model with
  | some block => exact ⟨block, rfl⟩
  | none =>
    unfold fromSource at h
    rw [hfind] at h
    cases h

/-- A generation that succeeded can be done again, after any edits of its six files and with any of them
deleted, and leads back to the tree that it left. -/
theorem regeneration_restores
    (h : onTree (fromSource settings source model outDir) t = (.ok paths, u)) :
    paths = Artifact.all.map (outputPath outDir model) ∧ Edited (paths.map place) u u ∧
      ∀ v, Edited (paths.map place) u v →
        ∃ w, onTree (fromSource settings source model outDir) v = (.ok paths, w) ∧
          w.refuses = u.refuses ∧ ∀ loc, w.get? loc = u.get? loc := by
  obtain ⟨block, hfind⟩ := exists_block_of_onTree_ok h
  have hmodel := Schema.isIdentifier_of_findBlock? hfind
  have hfolder : (resourceOf settings source block).folder = Naming.kebab model :=
    folder_resourceOf (Schema.name_of_findBlock? hfind)
  rw [onTree_fromSource hfind] at h
  unfold writeArtifacts at h
  obtain ⟨⟨⟩, m, hdirs, hwrites⟩ := exists_of_bind_ok h
  obtain ⟨-, hagain⟩ := makeDirs_again_of_forM endsInDot_neededDirs hdirs
  obtain ⟨rfl, hkeeps, hpermitted⟩ := of_mapM_writeArtifact hwrites
  have hsettled : ∀ a ∈ Artifact.all, Settled (resourceOf settings source block) outDir u a :=
    fun a ha => settled_of_holds
      (holds_mapM (fun a b => apart_artifactPath hfolder hmodel) (by decide) hwrites a ha)
      (hpermitted a ha)
  have hfiles : ∀ loc ∈ Artifact.all.map fun a =>
      place (artifactPath (resourceOf settings source block) outDir a),
      u.get? loc ≠ some .directory := by
    intro loc hloc
    obtain ⟨a, ha, rfl⟩ := List.mem_map.1 hloc
    exact (hsettled a ha).takes.free
  rw [List.map_map, Function.comp_def]
  refine ⟨List.map_congr_left fun a _ => artifactPath_eq hfolder outDir a,
    ⟨rfl, fun _ _ => rfl, hfiles⟩, fun v hedited => ?_⟩
  have hmade := forM_makeDir_again settings.ioTimeout
    (hagain v (hkeeps.trans (hedited.keeps hfiles)))
  obtain ⟨w, hrewritten, hw⟩ := exists_rewritten settings.ioTimeout hsettled hedited
  refine ⟨w, ?_, hw.refuses, fun loc => hw.elsewhere loc (List.not_mem_nil)⟩
  rw [onTree_fromSource hfind]
  unfold writeArtifacts
  rw [onTree_bind, hmade]
  dsimp only
  exact hrewritten

end

def emptyDoc : String := "model Doc {
}"

def docTree : FileTree := (onTree (fromSource .default emptyDoc "Doc" "out") .empty).2

def docPaths : List String := Artifact.all.map (outputPath "out" "Doc")

/-- The service is edited by hand and the module deleted. -/
def docEdited : FileTree :=
  without (docTree.put ["out", "doc", "doc.service.ts"] (.file "// by hand".toUTF8))
    ["out", "doc", "doc.module.ts"]

theorem regeneration_restores_edited :
    onTree (fromSource .default emptyDoc "Doc" "out") .empty = (.ok docPaths, docTree) ∧
      Edited (docPaths.map place) docTree docEdited ∧
      ∃ w, onTree (fromSource .default emptyDoc "Doc" "out") docEdited = (.ok docPaths, w) ∧
        w.refuses = docTree.refuses ∧ ∀ loc, w.get? loc = docTree.get? loc := by
  have hok : (onTree (fromSource .default emptyDoc "Doc" "out") .empty).1.toOption =
      some docPaths := by
    decide +kernel
  have hrun : onTree (fromSource .default emptyDoc "Doc" "out") .empty = (.ok docPaths, docTree) := by
    refine Prod.ext ?_ rfl
    cases hresult : (onTree (fromSource .default emptyDoc "Doc" "out") .empty).1 with
    | error e =>
      rw [hresult] at hok
      cases hok
    | ok paths =>
      rw [hresult] at hok
      exact congrArg _ (Option.some.inj hok)
  have hrestores := regeneration_restores hrun
  have hedited : Edited (docPaths.map place) docTree docEdited :=
    (hrestores.2.1.put (by decide +kernel) (by simp) _).without (by decide +kernel) (by simp)
  exact ⟨hrun, hedited, hrestores.2.2 docEdited hedited⟩

end Scaffold.Generate
