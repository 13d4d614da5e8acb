import Scaffold.Proofs.FileTree.Holding
import Scaffold.Proofs.Generate.FromSource

/-! Where a model's files go, and that they stay there. The paths of models with different folders
part below the output directory, whatever directory that is; so a generation leaves behind its own six
files and every file of other folders that was there before. -/

namespace Scaffold.Generate
open FileTree Scaffold.Path

/-! ## The paths of a model -/

def outputPath (outDir model : String) (a : Artifact) : String :=
  join (join outDir (Naming.kebab model)) (a.relativePath (Naming.kebab model))

theorem artifactPath_eq {r : Resource} {model : String} (hfolder : r.folder = Naming.kebab model)
    (outDir : String) (a : Artifact) : artifactPath r outDir a = outputPath outDir model a := by
  unfold artifactPath targetDir outputPath
  rw [hfolder]

theorem placeOf_injective {folder : String} {a b : Artifact}
    (h : placeOf folder a = placeOf folder b) : a = b := by
  cases a <;> cases b <;> simp [placeOf, ← String.toList_inj] at h ⊢

section
variable {outDir model other : String} {a b : Artifact}

theorem steps_outputPath (hmodel : Schema.IsIdentifier model.toList) :
    steps (outputPath outDir model a) = steps outDir ++
      (Naming.kebab model :: (placeOf (Naming.kebab model) a).reverse).map .into := by
  obtain ⟨name, above, hplace, hnames, hstart⟩ := names_relativePath hmodel a
  have hplain := Naming.isPlain_kebab hmodel
  unfold outputPath
  rw [steps_join _ hstart, steps_join _ hplain.startsWith, hplain.steps, hnames.steps, hplace,
    List.append_assoc, List.reverse_cons, List.map_cons, List.singleton_append]

theorem apart_outputPath (hmodel : Schema.IsIdentifier model.toList)
    (hother : Schema.IsIdentifier other.toList)
    (hne : Naming.kebab model = Naming.kebab other → a ≠ b) :
    Apart (outputPath outDir model a) (outputPath outDir other b) := by
  refine ⟨_, _, _, steps_outputPath hmodel, steps_outputPath hother, fun heq => ?_⟩
  obtain ⟨hfolder, hplace⟩ := List.cons.inj heq
  rw [hfolder] at hplace
  exact hne hfolder (placeOf_injective (List.reverse_inj.1 hplace))

theorem apart_artifactPath {r : Resource} (hfolder : r.folder = Naming.kebab model)
    (hmodel : Schema.IsIdentifier model.toList) (hne : a ≠ b) :
    Apart (artifactPath r outDir a) (artifactPath r outDir b) := by
  rw [artifactPath_eq hfolder, artifactPath_eq hfolder]
  exact apart_outputPath hmodel hmodel fun _ => hne

end

/-! ## What operations leave in place -/

variable {α β γ : Type}

/-- However the operation ends, it leaves a tree with the property if it starts from one. -/
def Preserves (I : FileTree → Prop) (op : ExceptT GenerateError (StateM FileTree) α) : Prop :=
  ∀ t, I t → I (onTree op t).2

section
variable {I : FileTree → Prop}

theorem preserves_pure (a : α) : Preserves I (pure a) := fun _ h => h

theorem preserves_bind {op : ExceptT GenerateError (StateM FileTree) α}
    {f : α → ExceptT GenerateError (StateM FileTree) β} (hop : Preserves I op)
    (hf : ∀ a, Preserves I (f a)) : Preserves I (op >>= f) := by
  intro t ht
  have hfirst := hop t ht
  rw [onTree_bind]
  generalize onTree op t = done at hfirst
  obtain ⟨result, u⟩ := done
  cases result with
  | ok a => exact hf a u hfirst
  | error e => exact hfirst

theorem preserves_forM {f : γ → ExceptT GenerateError (StateM FileTree) PUnit} {xs : List γ}
    (hf : ∀ x ∈ xs, Preserves I (f x)) : Preserves I (xs.forM f) := by
  induction xs with
  | nil => exact preserves_pure _
  | cons x xs ih =>
    rw [List.forM]
    exact preserves_bind (hf x (by simp)) fun _ => ih fun y hy => hf y (by simp [hy])

theorem preserves_mapM {f : γ → ExceptT GenerateError (StateM FileTree) α} {xs : List γ}
    (hf : ∀ x ∈ xs, Preserves I (f x)) : Preserves I (xs.mapM f) := by
  induction xs with
  | nil => exact preserves_pure _
  | cons x xs ih =>
    rw [List.mapM_cons]
    refine preserves_bind (hf x (by simp)) fun a => ?_
    exact preserves_bind (ih fun y hy => hf y (by simp [hy])) fun as => preserves_pure _

end

/-- An operation in two parts has ended well if both parts have. -/
theorem exists_of_bind_ok {op : ExceptT GenerateError (StateM FileTree) α}
    {f : α → ExceptT GenerateError (StateM FileTree) β} {t u : FileTree} {b : β}
    (h : onTree (op >>= f) t = (.ok b, u)) :
    ∃ a v, onTree op t = (.ok a, v) ∧ onTree (f a) v = (.ok b, u) := by
  rw [onTree_bind] at h
  generalize onTree op t = done at h
  obtain ⟨result, v⟩ := done
  cases result with
  | ok a => exact ⟨a, v, rfl, h⟩
  | error e => cases h

/-! ## A generation and its files -/

section
variable {limit : Duration} {r : Resource} {outDir path : String} {content : ByteArray}
  {t u : FileTree}

theorem preserves_makeDir (dir : String) : Preserves (Holds · path content) (makeDir limit dir) := by
  intro t ht
  rw [onTree_makeDir]
  exact ht.grown (grown_makeDirs dir)

theorem preserves_writeArtifact {a : Artifact} (hapart : Apart path (artifactPath r outDir a)) :
    Preserves (Holds · path content) (writeArtifact limit r outDir a) := by
  intro t ht
  rw [onTree_writeArtifact]
  cases hwrite : t.writeBytes (artifactPath r outDir a) (a.text r).toUTF8 with
  | ok u => exact ht.written hapart hwrite
  | error e => exact ht

theorem preserves_writeArtifacts (hapart : ∀ a, Apart path (artifactPath r outDir a)) :
    Preserves (Holds · path content) (writeArtifacts limit r outDir) := by
  unfold writeArtifacts
  refine preserves_bind (preserves_forM fun dir _ => preserves_makeDir dir) fun _ => ?_
  exact preserves_mapM fun a _ => preserves_writeArtifact (hapart a)

/-- The file that an artifact's write leaves. -/
def HoldsArtifact (r : Resource) (outDir : String) (t : FileTree) (a : Artifact) : Prop :=
  t.Holds (artifactPath r outDir a) (a.text r).toUTF8

theorem writeArtifact_eq_ok {a : Artifact} {written : String} :
    onTree (writeArtifact limit r outDir a) t = (.ok written, u) ↔
      written = artifactPath r outDir a ∧ t.Takes (artifactPath r outDir a) ∧
        u = t.put (place (artifactPath r outDir a)) (.file (a.text r).toUTF8) := by
  rw [onTree_writeArtifact, ← writeBytes_eq_ok]
  cases t.writeBytes (artifactPath r outDir a) (a.text r).toUTF8 with
  | ok v =>
    constructor
    · intro h
      cases h
      exact ⟨rfl, rfl⟩
    · rintro ⟨rfl, hwrite⟩
      cases hwrite
      rfl
  | error e =>
    constructor
    · intro h
      cases h
    · rintro ⟨-, hwrite⟩
      cases hwrite

theorem holds_writeArtifact {a : Artifact} {written : String}
    (h : onTree (writeArtifact limit r outDir a) t = (.ok written, u)) :
    HoldsArtifact r outDir u a := by
  obtain ⟨-, htakes, rfl⟩ := writeArtifact_eq_ok.1 h
  exact htakes.holds _

/-- Artifacts written one after the other are all there in the end. -/
theorem holds_mapM (hapart : ∀ a b, a ≠ b → Apart (artifactPath r outDir a) (artifactPath r outDir b))
    {artifacts : List Artifact} (hdistinct : artifacts.Nodup) {paths : List String}
    (h : onTree (artifacts.mapM (writeArtifact limit r outDir)) t = (.ok paths, u)) :
    ∀ a ∈ artifacts, HoldsArtifact r outDir u a := by
  induction artifacts generalizing t paths with
  | nil => simp
  | cons a artifacts ih =>
    obtain ⟨hfirst, hdistinct⟩ := List.nodup_cons.1 hdistinct
    rw [List.mapM_cons] at h
    obtain ⟨written, v, hwrite, hrest⟩ := exists_of_bind_ok h
    obtain ⟨others, w, hothers, hdone⟩ := exists_of_bind_ok hrest
    cases hdone
    -- the first file stays while the others, which are not it, are written
    have hstays : Preserves (HoldsArtifact r outDir · a)
        (artifacts.mapM (writeArtifact limit r outDir)) := by
      refine preserves_mapM fun b hb => preserves_writeArtifact (hapart a b ?_)
      rintro rfl
      exact hfirst hb
    have hthere := hstays v (holds_writeArtifact hwrite)
    rw [hothers] at hthere
    intro b hb
    rcases List.mem_cons.1 hb with rfl | hb
    · exact hthere
    · exact ih hdistinct hothers b hb

theorem holds_writeArtifacts
    (hapart : ∀ a b, a ≠ b → Apart (artifactPath r outDir a) (artifactPath r outDir b))
    {paths : List String} (h : onTree (writeArtifacts limit r outDir) t = (.ok paths, u))
    (a : Artifact) : HoldsArtifact r outDir u a := by
  obtain ⟨-, v, -, hwrites⟩ := exists_of_bind_ok h
  exact holds_mapM hapart (by decide) hwrites a a.mem_all

end

section
variable {settings : Settings} {source outDir model other : String} {block : ModelBlock}
  {t u : FileTree} (hfind : Schema.findBlock? source model = some block) (hname : block.name = model)
  (hmodel : Schema.IsIdentifier model.toList)
include hfind hname hmodel

/-- A generation that succeeds leaves the six files of its model. -/
theorem holds_fromSource {paths : List String}
    (h : onTree (fromSource settings source model outDir) t = (.ok paths, u)) (a : Artifact) :
    u.Holds (outputPath outDir model a) (a.text (resourceOf settings source block)).toUTF8 := by
  have hfolder : (resourceOf settings source block).folder = Naming.kebab model :=
    folder_resourceOf hname
  rw [onTree_fromSource hfind] at h
  have hholds := holds_writeArtifacts (fun a b => apart_artifactPath hfolder hmodel) h a
  unfold HoldsArtifact at hholds
  rwa [artifactPath_eq hfolder] at hholds

/-- A generation leaves the files in other folders alone. -/
theorem preserves_fromSource (hother : Schema.IsIdentifier other.toList)
    (hne : Naming.kebab other ≠ Naming.kebab model) (a : Artifact) (content : ByteArray) :
    Preserves (Holds · (outputPath outDir other a) content)
      (fromSource settings source model outDir) := by
  intro t ht
  rw [onTree_fromSource hfind]
  refine preserves_writeArtifacts (fun b => ?_) t ht
  rw [artifactPath_eq (folder_resourceOf hname)]
  exact apart_outputPath hother hmodel fun heq => absurd heq hne

end

end Scaffold.Generate
