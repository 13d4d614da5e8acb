import Scaffold.Proofs.Generate.Folder
import Scaffold.Proofs.Schema.Scan

/-! A generation from the text of a schema, for a model that the schema has: it acts alike on trees
that look alike, it touches its folder and what lies above it, and it fails only at a file. -/

namespace Scaffold.Generate
open FileTree Scaffold.Path

variable {α β : Type}

/-! ## Reports -/

/-- Reports leave no trace in the workspace. -/
def Silent (m : Type → Type) [Monad m] [Workspace m] : Prop :=
  ∀ event, (Workspace.report event : m Unit) = pure ()

theorem silent_fileTree : Silent (StateM FileTree) := fun _ => rfl

section
variable {m : Type → Type} [Monad m] [LawfulMonad m] [Workspace m] (hsilent : Silent m)
include hsilent

theorem reports_eq_pure (events : List Event) :
    (events.forM Workspace.report : m Unit) = pure () := by
  induction events with
  | nil => rfl
  | cons event events ih => rw [List.forM, hsilent event, pure_bind, ih]

theorem reports_bind (events : List Event) (op : ExceptT GenerateError m α) :
    (do ExceptT.lift (events.forM Workspace.report); op) = op := by
  rw [reports_eq_pure hsilent]
  refine ExceptT.ext ?_
  rw [ExceptT.run_bind, ExceptT.run_lift, map_pure, pure_bind]

/-- A generation writes the resource of the block that it finds. -/
theorem fromSource_eq {source model : String} {block : ModelBlock}
    (h : Schema.findBlock? source model = some block) (settings : Settings) (outDir : String) :
    (fromSource settings source model outDir : ExceptT GenerateError m (List String)) =
      writeArtifacts settings.ioTimeout (resourceOf settings source block) outDir := by
  unfold fromSource
  rw [h]
  exact reports_bind hsilent _ _

end

/-! ## How a generation fails -/

/-- Whenever the operation fails, it fails with such an error. -/
def FailsWith (E : GenerateError → Prop) (op : ExceptT GenerateError (StateM FileTree) α) : Prop :=
  ∀ t e, (onTree op t).1 = .error e → E e

theorem failsWith_pure (E : GenerateError → Prop) (a : α) : FailsWith E (pure a) := by
  intro t e h
  cases h

theorem failsWith_bind {E : GenerateError → Prop} {op : ExceptT GenerateError (StateM FileTree) α}
    {f : α → ExceptT GenerateError (StateM FileTree) β} (hop : FailsWith E op)
    (hf : ∀ a, FailsWith E (f a)) : FailsWith E (op >>= f) := by
  intro t e h
  rw [onTree_bind] at h
  have hfirst := hop t
  generalize onTree op t = done at h hfirst
  obtain ⟨result, u⟩ := done
  cases result with
  | ok a => exact hf a u e h
  | error e' =>
    cases h
    exact hfirst e rfl

theorem failsWith_forM {γ : Type} {E : GenerateError → Prop}
    {f : γ → ExceptT GenerateError (StateM FileTree) PUnit} (hf : ∀ x, FailsWith E (f x))
    (xs : List γ) : FailsWith E (xs.forM f) := by
  induction xs with
  | nil => exact failsWith_pure E _
  | cons x xs ih =>
    rw [List.forM]
    exact failsWith_bind (hf x) fun _ => ih

theorem failsWith_mapM {γ : Type} {E : GenerateError → Prop}
    {f : γ → ExceptT GenerateError (StateM FileTree) α} (hf : ∀ x, FailsWith E (f x))
    (xs : List γ) : FailsWith E (xs.mapM f) := by
  induction xs with
  | nil => exact failsWith_pure E _
  | cons x xs ih =>
    rw [List.mapM_cons]
    exact failsWith_bind (hf x) fun a => failsWith_bind ih fun as => failsWith_pure E _

/-- A directory could not be made or a file not be written. -/
def IsWriteFailure (e : GenerateError) : Prop := ∃ path cause, e = .artifactWrite path cause

theorem failsWith_makeDir (limit : Duration) (path : String) :
    FailsWith IsWriteFailure (makeDir limit path) := by
  intro t e h
  rw [onTree_makeDir] at h
  cases hdirs : (t.makeDirs path).2 with
  | ok done =>
    rw [hdirs] at h
    cases h
  | error cause =>
    rw [hdirs] at h
    cases h
    exact ⟨path, cause, rfl⟩

theorem failsWith_writeArtifact (limit : Duration) (r : Resource) (outDir : String) (a : Artifact) :
    FailsWith IsWriteFailure (writeArtifact limit r outDir a) := by
  intro t e h
  rw [onTree_writeArtifact] at h
  cases hwrite : t.writeBytes (artifactPath r outDir a) (a.text r).toUTF8 with
  | ok u =>
    rw [hwrite] at h
    cases h
  | error cause =>
    rw [hwrite] at h
    cases h
    exact ⟨_, cause, rfl⟩

theorem failsWith_writeArtifacts (limit : Duration) (r : Resource) (outDir : String) :
    FailsWith IsWriteFailure (writeArtifacts limit r outDir) := by
  unfold writeArtifacts
  refine failsWith_bind (failsWith_forM (failsWith_makeDir limit) _) fun _ => ?_
  exact failsWith_mapM (failsWith_writeArtifact limit r outDir) _

/-! ## A model of the schema -/

section
variable {settings : Settings} {source outDir model : String} {root : Location}

theorem onTree_fromSource {block : ModelBlock} (h : Schema.findBlock? source model = some block)
    (t : FileTree) :
    onTree (fromSource settings source model outDir) t =
      onTree (writeArtifacts settings.ioTimeout (resourceOf settings source block) outDir) t := by
  rw [fromSource_eq silent_fileTree h]

theorem folder_resourceOf {block : ModelBlock} (h : block.name = model) :
    (resourceOf settings source block).folder = Naming.kebab model := by
  rw [← h]
  rfl

theorem fromSource_found (h : model ∈ Schema.modelNames source) (t : FileTree) (missing : String) :
    (onTree (fromSource settings source model outDir) t).1 ≠ .error (.modelNotFound missing) := by
  obtain ⟨block, hfind, -⟩ := Schema.exists_findBlock? h
  rw [onTree_fromSource hfind]
  intro herror
  obtain ⟨path, cause, he⟩ := failsWith_writeArtifacts _ _ _ t _ herror
  cases he

/-- On every tree that looks alike to its layout a generation ends alike and makes the same change. -/
theorem exists_acts_fromSource (h : model ∈ Schema.modelNames source)
    (hout : steps outDir = root.map .into) (t : FileTree) :
    ∃ result c, Acts ((layout root (Naming.kebab model)).Alike t)
        (fromSource settings source model outDir) result c ∧
      c.Proper (layout root (Naming.kebab model)) t := by
  obtain ⟨block, hfind, hname⟩ := Schema.exists_findBlock? h
  have hfolder : (resourceOf settings source block).folder = Naming.kebab model :=
    folder_resourceOf hname
  obtain ⟨result, c, hacts, hproper⟩ := exists_acts_resource
    (Schema.isIdentifier_of_mem_modelNames h) hout hfolder settings.ioTimeout t
  rw [hfolder] at hacts hproper
  refine ⟨result, c, fun u hu => ?_, hproper⟩
  rw [onTree_fromSource hfind]
  exact hacts u hu

end

/-! ## What lies outside a folder -/

theorem files_scope {root loc : Location} {folder : String} (h : loc ∈ (layout root folder).files) :
    root ++ [folder] <+: loc := by
  obtain ⟨a, -, rfl⟩ := List.mem_map.1 h
  refine ⟨(placeOf folder a).reverse, ?_⟩
  rw [List.reverse_append, List.reverse_cons, List.reverse_reverse]

theorem ways_scope {root loc : Location} {folder : String} (h : (layout root folder).OnWay loc) :
    root ++ [folder] <+: loc ∨ loc <+: root := by
  have hbelow : ∀ dir : String, loc.reverse <:+ dir :: folder :: root.reverse →
      root ++ [folder] <+: loc ∨ loc <+: root := by
    intro dir hs
    rcases List.suffix_cons_iff.1 hs with heq | hs
    · refine .inl ⟨[dir], ?_⟩
      rw [← List.reverse_reverse loc, heq, List.reverse_cons, List.reverse_cons, List.reverse_reverse]
    · rcases List.suffix_cons_iff.1 hs with heq | hs
      · refine .inl ⟨[], ?_⟩
        rw [← List.reverse_reverse loc, heq, List.reverse_cons, List.reverse_reverse,
          List.append_nil]
      · exact .inr (List.reverse_suffix.1 hs)
  obtain ⟨rs, hrs, hs⟩ := h
  rcases mem_ways.1 hrs with rfl | rfl
  · exact hbelow "dto" hs
  · exact hbelow "views" hs

theorem not_both_below {root loc : Location} {folder other : String} (hne : folder ≠ other)
    (h : root ++ [folder] <+: loc) : ¬ root ++ [other] <+: loc := by
  intro h'
  have hprefix := List.prefix_of_prefix_length_le h h' (by simp)
  have heq := hprefix.eq_of_length (by simp)
  exact hne (List.cons.inj (List.append_cancel_left heq)).1

theorem not_above_below {root loc : Location} {folder : String} (h : loc <+: root) :
    ¬ root ++ [folder] <+: loc := by
  intro h'
  have hle := h.length_le
  have hle' := h'.length_le
  rw [List.length_append, List.length_singleton] at hle'
  omega

section
variable {root : Location} {folder other : String} {t u v : FileTree} {c : Change}

/-- A generation changes nothing in the folder of another. -/
theorem proper_outside (h : c.Proper (layout root folder) t) (hne : folder ≠ other) {loc : Location}
    (hloc : root ++ [other] <+: loc) : c loc = none := by
  cases hc : c loc with
  | none => rfl
  | some e =>
    have hbelow : ¬ root ++ [folder] <+: loc := fun hfolder => not_both_below hne hfolder hloc
    cases h loc e hc with
    | file hmem _ => exact absurd (files_scope hmem) hbelow
    | directory hway _ =>
      rcases ways_scope hway with hfolder | habove
      · exact absurd hfolder hbelow
      · exact absurd hloc (not_above_below habove)

/-- Above its folder a generation makes nothing but directories. -/
theorem proper_above (h : c.Proper (layout root folder) t) {loc : Location} (hloc : loc <+: root)
    {e : Entry} (he : c loc = some e) : e = .directory ∧ t.bar? loc = none := by
  cases h loc e he with
  | file hmem _ => exact absurd (files_scope hmem) (not_above_below hloc)
  | directory _ hbar => exact ⟨rfl, hbar⟩

/-- What one generation changes makes no difference to another. -/
theorem alike_outside (h : c.Proper (layout root folder) t) (hne : folder ≠ other)
    (hu : (layout root other).Alike t u) (hv : v.Closed) (hturns : c.Turns u v) :
    (layout root other).Alike t v := by
  refine ⟨hv, hturns.refuses.trans hu.refuses, fun loc hloc => ?_, fun loc hloc => ?_⟩
  · rcases Change.turns_cases hturns loc with ⟨-, hsame⟩ | ⟨e, he, hnew⟩
    · rw [bar?_congr hturns.refuses hsame, hu.ways loc hloc]
    · rcases ways_scope hloc with hbelow | habove
      · rw [proper_outside h hne hbelow] at he
        cases he
      · obtain ⟨rfl, hbar⟩ := proper_above h habove he
        rw [bar?_of_directory hnew, hbar]
  · have hsame : v.get? loc = u.get? loc := by
      rw [hturns.entries, proper_outside h hne (files_scope hloc), Option.none_or]
    rw [fault?_congr hturns.refuses hsame, hu.files loc hloc]

end

end Scaffold.Generate
