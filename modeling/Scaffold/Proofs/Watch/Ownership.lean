import Scaffold.Proofs.Generate.Outputs
import Scaffold.Proofs.Watch.Batch

/-! Who owns a file after a batch: the last model whose name gives its folder. Models with different
folders never touch each other's files, and models with the same folder have the same six paths. -/

namespace Scaffold.Generate
open FileTree Scaffold.Path

variable {settings : Settings} {source outDir model : String} {u : FileTree}

/-- The models of a list, generated one after the other. -/
def runModels (settings : Settings) (source outDir : String) (models : List String) (u : FileTree) :
    List ModelOutcome × FileTree :=
  (models.mapM (batchModel settings source outDir) : StateM FileTree _).run u

def AllSucceed (outcomes : List ModelOutcome) : Prop := ∀ o ∈ outcomes, o.result.isOk = true

/-- The six files of the model hold what it renders by the schema. -/
def Owns (settings : Settings) (source outDir model : String) (u : FileTree) : Prop :=
  ∃ block, Schema.findBlock? source model = some block ∧ ∀ a : Artifact,
    u.Holds (outputPath outDir model a) (a.text (resourceOf settings source block)).toUTF8

theorem outcomes_batch (t : FileTree) :
    ((batch settings source outDir : StateM FileTree BatchReport).run t).1.outcomes =
      (runModels settings source outDir (Schema.modelNames source) t).1 := by
  rw [run_batch]
  rfl

theorem tree_batch (t : FileTree) :
    ((batch settings source outDir : StateM FileTree BatchReport).run t).2 =
      (runModels settings source outDir (Schema.modelNames source) t).2 := by
  rw [run_batch]
  rfl

theorem allSucceed_cons {models : List String}
    (h : AllSucceed (runModels settings source outDir (model :: models) u).1) :
    ∃ paths v, onTree (fromSource settings source model outDir) u = (.ok paths, v) ∧
      AllSucceed (runModels settings source outDir models v).1 ∧
      (runModels settings source outDir (model :: models) u).2 =
        (runModels settings source outDir models v).2 := by
  unfold runModels at h ⊢
  rw [run_models_cons] at h ⊢
  obtain ⟨hfirst, hrest⟩ := List.forall_mem_cons.1 h
  unfold alone at hfirst hrest ⊢
  generalize onTree (fromSource settings source model outDir) u = done at hfirst hrest ⊢
  obtain ⟨result, v⟩ := done
  cases result with
  | ok paths => exact ⟨paths, v, rfl, hrest, rfl⟩
  | error e => cases hfirst

/-- A generation that succeeds makes its model own its files. -/
theorem owns_fromSource (hmodel : model ∈ Schema.modelNames source) {paths : List String}
    {v : FileTree} (h : onTree (fromSource settings source model outDir) u = (.ok paths, v)) :
    Owns settings source outDir model v := by
  obtain ⟨block, hfind, hname⟩ := Schema.exists_findBlock? hmodel
  exact ⟨block, hfind, holds_fromSource hfind hname (Schema.isIdentifier_of_mem_modelNames hmodel) h⟩

theorem Owns.fromSource {other : String} (h : Owns settings source outDir model u)
    (hmodel : model ∈ Schema.modelNames source) (hother : other ∈ Schema.modelNames source)
    (hne : Naming.kebab model ≠ Naming.kebab other) :
    Owns settings source outDir model (onTree (fromSource settings source other outDir) u).2 := by
  obtain ⟨block, hfind, hholds⟩ := h
  obtain ⟨otherBlock, hfindOther, hname⟩ := Schema.exists_findBlock? hother
  refine ⟨block, hfind, fun a => ?_⟩
  exact preserves_fromSource hfindOther hname (Schema.isIdentifier_of_mem_modelNames hother)
    (Schema.isIdentifier_of_mem_modelNames hmodel) hne a _ u (hholds a)

/-- A model that owns its files still does after others, if none of another name has its folder. -/
theorem Owns.runModels {models : List String} (h : Owns settings source outDir model u)
    (hmodel : model ∈ Schema.modelNames source)
    (hmodels : ∀ other ∈ models, other ∈ Schema.modelNames source)
    (hfolders : ∀ other ∈ models, Naming.kebab other = Naming.kebab model → other = model)
    (hok : AllSucceed (runModels settings source outDir models u).1) :
    Owns settings source outDir model (runModels settings source outDir models u).2 := by
  induction models generalizing u with
  | nil => exact h
  | cons other models ih =>
    obtain ⟨paths, v, hrun, hrest, htree⟩ := allSucceed_cons hok
    rw [htree]
    refine ih ?_ (fun m hm => hmodels m (by simp [hm])) (fun m hm => hfolders m (by simp [hm])) hrest
    -- the model itself, met again, writes its files anew; any other one writes in another folder
    by_cases hsame : Naming.kebab other = Naming.kebab model
    · obtain rfl := hfolders other (by simp) hsame
      exact owns_fromSource hmodel hrun
    · have hkept := h.fromSource hmodel (hmodels other (by simp)) (Ne.symm hsame)
      rwa [hrun] at hkept

/-- The last model with its folder owns its files after all of a list. -/
theorem owns_of_last {before after : List String}
    (hmodels : ∀ other ∈ before ++ model :: after, other ∈ Schema.modelNames source)
    (hlast : ∀ other ∈ after, Naming.kebab other = Naming.kebab model → other = model)
    (hok : AllSucceed (runModels settings source outDir (before ++ model :: after) u).1) :
    Owns settings source outDir model
      (runModels settings source outDir (before ++ model :: after) u).2 := by
  -- what came before does not matter: the model's own generation writes all its files
  induction before generalizing u with
  | nil =>
    obtain ⟨paths, v, hrun, hrest, htree⟩ := allSucceed_cons hok
    have hmodel := hmodels model (by simp)
    rw [List.nil_append, htree]
    exact (owns_fromSource hmodel hrun).runModels hmodel (fun m hm => hmodels m (by simp [hm]))
      hlast hrest
  | cons first before ih =>
    rw [List.cons_append] at hmodels hok ⊢
    obtain ⟨paths, v, hrun, hrest, htree⟩ := allSucceed_cons hok
    rw [htree]
    exact ih (fun m hm => hmodels m (List.mem_cons_of_mem first hm)) hrest

/-- Models overwrite each other's output exactly if they share their folder, which two names do if
they have the same small letters and break into the same words; then their six paths are the same.
Otherwise no two of their paths are the same text, nor do they lead to the same place of any tree, wherever the output directory is. And
after a batch in which all file operations succeed, the files of a scanned model hold its own
rendering, unless a later model of another name has the same folder. -/
theorem outputs_kept (settings : Settings) (source outDir : String) (t : FileTree) :
    (∀ a ∈ Schema.modelNames source, ∀ b ∈ Schema.modelNames source,
      (Naming.kebab a = Naming.kebab b ↔
        Naming.spelled none a.toList = Naming.spelled none b.toList) ∧
      ((∀ x y, outputPath outDir a x ≠ outputPath outDir b y) ↔ Naming.kebab a ≠ Naming.kebab b) ∧
      (Naming.kebab a = Naming.kebab b → ∀ x, outputPath outDir a x = outputPath outDir b x) ∧
      (Naming.kebab a ≠ Naming.kebab b → ∀ (x y : Artifact) (u : FileTree) (loc : Location),
        u.resolve (outputPath outDir a x) = .ok loc →
          u.resolve (outputPath outDir b y) ≠ .ok loc)) ∧
    let done := (batch settings source outDir : StateM FileTree BatchReport).run t
    AllSucceed done.1.outcomes →
      ∀ before model after, Schema.modelNames source = before ++ model :: after →
        (∀ other ∈ after, Naming.kebab other = Naming.kebab model → other = model) →
          Owns settings source outDir model done.2 := by
  refine ⟨fun a ha b hb => ?_, ?_⟩
  · have hidA := Schema.isIdentifier_of_mem_modelNames ha
    have hidB := Schema.isIdentifier_of_mem_modelNames hb
    have hapart : Naming.kebab a ≠ Naming.kebab b →
        ∀ x y, Apart (outputPath outDir a x) (outputPath outDir b y) :=
      fun hne x y => apart_outputPath hidA hidB fun heq => absurd heq hne
    have hshared : Naming.kebab a = Naming.kebab b →
        ∀ x, outputPath outDir a x = outputPath outDir b x := by
      intro hsame x
      unfold outputPath
      rw [hsame]
    refine ⟨Naming.kebab_eq_iff hidA hidB, ⟨fun hpaths hsame => ?_, fun hne x y => ?_⟩, hshared, ?_⟩
    · exact hpaths .service .service (hshared hsame .service)
    · exact (hapart hne x y).ne
    · intro hne x y u loc
      exact resolve_ne_of_apart (hapart hne x y)
  · intro done hok before model after hsplit hlast
    rw [outcomes_batch, hsplit] at hok
    rw [tree_batch, hsplit]
    exact owns_of_last (fun other hother => hsplit ▸ hother) hlast hok

/-- Two models with the folder `ui`, and one between them. -/
def sharedFolder : String :=
  "model UI \x7b\n\x7d\nmodel Post \x7b\n\x7d\nmodel Ui \x7b\n\x7d\n"

theorem modelNames_sharedFolder : Schema.modelNames sharedFolder = ["UI", "Post", "Ui"] := by
  decide +kernel

theorem allSucceed_sharedFolder :
    AllSucceed (runModels .default sharedFolder "out" ["UI", "Post", "Ui"] .empty).1 := by
  unfold AllSucceed
  decide +kernel

theorem allSucceed_batch_sharedFolder :
    AllSucceed ((batch .default sharedFolder "out" : StateM FileTree BatchReport).run
      .empty).1.outcomes := by
  rw [outcomes_batch, modelNames_sharedFolder]
  exact allSucceed_sharedFolder

/-- The model in between keeps its files. -/
theorem outputs_kept_between :
    let done := (batch .default sharedFolder "out" : StateM FileTree BatchReport).run .empty
    AllSucceed done.1.outcomes ∧ Owns .default sharedFolder "out" "Post" done.2 := by
  have hok := allSucceed_batch_sharedFolder
  refine ⟨hok, (outputs_kept .default sharedFolder "out" .empty).2 hok ["UI"] "Post" ["Ui"]
    modelNames_sharedFolder ?_⟩
  decide +kernel

/-- The first model's files have become those of the last. -/
theorem outputs_overwritten :
    let done := (batch .default sharedFolder "out" : StateM FileTree BatchReport).run .empty
    AllSucceed done.1.outcomes ∧
      "UI" ∈ Schema.modelNames sharedFolder ∧ "Ui" ∈ Schema.modelNames sharedFolder ∧
      outputPath "out" "UI" .createDto = outputPath "out" "Ui" .createDto ∧
      ¬ Owns .default sharedFolder "out" "UI" done.2 := by
  dsimp only
  rw [tree_batch, modelNames_sharedFolder]
  have hpath : outputPath "out" "UI" .createDto = outputPath "out" "Ui" .createDto := by
    decide +kernel
  have hblocks : Schema.findBlock? sharedFolder "UI" = some ⟨"UI", "\n"⟩ ∧
      Schema.findBlock? sharedFolder "Ui" = some ⟨"Ui", "\n"⟩ := by
    decide +kernel
  refine ⟨allSucceed_batch_sharedFolder, by decide, by decide, hpath, ?_⟩
  rintro ⟨block, hfind, hholds⟩
  have hmodels : ∀ other ∈ ["UI", "Post"] ++ "Ui" :: [], other ∈ Schema.modelNames sharedFolder := by
    rw [modelNames_sharedFolder]
    simp
  obtain ⟨last, hfindLast, hholdsLast⟩ := owns_of_last hmodels (by simp) allSucceed_sharedFolder
  obtain rfl := Option.some_inj.1 (hfind.symm.trans hblocks.1)
  obtain rfl := Option.some_inj.1 (hfindLast.symm.trans hblocks.2)
  have hsame := hholds .createDto
  unfold Holds at hsame
  rw [hpath] at hsame
  have hbytes := Entry.file.inj (Except.ok.inj (hsame.symm.trans (hholdsLast .createDto)))
  have htexts : Artifact.createDto.text (resourceOf .default sharedFolder ⟨"UI", "\n"⟩) ≠
      Artifact.createDto.text (resourceOf .default sharedFolder ⟨"Ui", "\n"⟩) := by
    decide +kernel
  exact htexts (String.toByteArray_inj.1 hbytes)

end Scaffold.Generate
