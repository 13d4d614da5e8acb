import Scaffold.Proofs.FileTree.Making
import Scaffold.Proofs.Generate.FromSource

/-! A generation on a tree whose operations may also fail for reasons of their own, in any choice. It
asks for the operations of its plan one after another, up to the first that fails. -/

namespace Scaffold.Generate
open FileTree Scaffold.Path

variable {α β : Type}

/-! ## Operations that may fail -/

/-- What a generation asks of the files. -/
inductive FileOp where
  | read (path : String)
  | makeDirs (path : String)
  | write (path text : String)
deriving DecidableEq

def FileOp.path : FileOp → String
  | .read path | .makeDirs path | .write path _ => path

/-- A failure that the tree does not account for: how the operation ends and, where it makes
directories, how many at the end of the way it does not come to. -/
structure Trouble where
  error : OpError
  unreached : Nat

/-- How an operation ends on a tree, and the tree it leaves. In trouble it changes no file. -/
def FileOp.perform (t : FileTree) : FileOp → Option Trouble → Except OpError Unit × FileTree
  | .makeDirs path, some trouble =>
    (.error trouble.error, (t.makeDirsRev ((steps path).reverse.drop trouble.unreached)).1)
  | _, some trouble => (.error trouble.error, t)
  | .read path, none => ((t.readText path).mapError .io |>.map fun _ => (), t)
  | .makeDirs path, none => ((t.makeDirs path).2.mapError .io, (t.makeDirs path).1)
  | .write path text, none =>
    match t.writeBytes path text.toUTF8 with
    | .ok u => (.ok (), u)
    | .error e => (.error (.io e), t)

/-- A tree, the trouble that the operations to come will have, in order, and what was asked so far. -/
structure Trial where
  tree : FileTree
  troubles : List (Option Trouble) := []
  asked : List (FileOp × Except OpError Unit) := []

namespace Trial

/-- How the next operation ends, if it is this one. -/
def outcome (s : Trial) (op : FileOp) : Except OpError Unit :=
  (op.perform s.tree s.troubles.head?.join).1

def after (s : Trial) (op : FileOp) : Trial where
  tree := (op.perform s.tree s.troubles.head?.join).2
  troubles := s.troubles.tail
  asked := s.asked ++ [(op, s.outcome op)]

def attempt (op : FileOp) : StateM Trial (Except OpError Unit) := fun s => (s.outcome op, s.after op)

instance : Workspace (StateM Trial) where
  readText _ path := do
    let text := (← get).tree.readText path
    return (← attempt (.read path)).bind fun _ => text.mapError .io
  makeDirs _ path := attempt (.makeDirs path)
  writeText _ path text := attempt (.write path text)
  pathExists path := return (← get).tree.pathExists path
  watchDir path := return (← get).tree.watch path
  report _ := return ()

theorem silent : Silent (StateM Trial) := fun _ => rfl

end Trial

/-- How a generation ends on a tree with troubles, and what it leaves. -/
def during (op : ExceptT GenerateError (StateM Trial) α) (s : Trial) :
    Except GenerateError α × Trial := op.run.run s

theorem during_bind (op : ExceptT GenerateError (StateM Trial) α)
    (f : α → ExceptT GenerateError (StateM Trial) β) (s : Trial) :
    during (op >>= f) s =
      match during op s with
      | (.ok a, u) => during (f a) u
      | (.error e, u) => (.error e, u) := by
  unfold during
  rw [run_run_bind]
  rcases op.run.run s with ⟨_ | _, _⟩ <;> rfl

/-! ## Plans -/

/-- Performs operations one after another, up to the first that fails. -/
def performAll : List FileOp → Trial → Option (FileOp × OpError) × Trial
  | [], s => (none, s)
  | op :: ops, s =>
    match s.outcome op with
    | .ok () => performAll ops (s.after op)
    | .error e => (some (op, e), s.after op)

theorem performAll_append (front back : List FileOp) (s : Trial) :
    performAll (front ++ back) s =
      match performAll front s with
      | (none, u) => performAll back u
      | (some failed, u) => (some failed, u) := by
  induction front generalizing s with
  | nil => rfl
  | cons op front ih =>
    rw [List.cons_append, performAll, performAll]
    cases s.outcome op with
    | ok done => exact ih _
    | error e => rfl

/-- What a failed operation means for a generation that makes directories and writes files. -/
def FileOp.failure (limit : Duration) (op : FileOp) (e : OpError) : GenerateError :=
  e.toGenerateError op.path limit .artifactWrite

/-- The end of a generation whose operations end so, with the value it gives if all succeed. -/
def conclude (limit : Duration) (a : α) : Option (FileOp × OpError) × Trial →
    Except GenerateError α × Trial
  | (none, s) => (.ok a, s)
  | (some (op, e), s) => (.error (op.failure limit e), s)

def writing (r : Resource) (outDir : String) (a : Artifact) : FileOp :=
  .write (artifactPath r outDir a) (a.text r)

/-- The operations that write a resource: its directories are made, then the artifacts written. -/
def plan (r : Resource) (outDir : String) : List FileOp :=
  (neededDirs r outDir).map .makeDirs ++ Artifact.all.map (writing r outDir)

theorem of_mem_plan {r : Resource} {outDir : String} {op : FileOp} (h : op ∈ plan r outDir) :
    (∃ dir ∈ neededDirs r outDir, op = .makeDirs dir) ∨ ∃ a, op = writing r outDir a := by
  rcases List.mem_append.1 h with hdirs | hfiles
  · obtain ⟨dir, hdir, rfl⟩ := List.mem_map.1 hdirs
    exact .inl ⟨dir, hdir, rfl⟩
  · obtain ⟨a, -, rfl⟩ := List.mem_map.1 hfiles
    exact .inr ⟨a, rfl⟩

section
variable (limit : Duration) (r : Resource) (outDir : String) (s : Trial)

theorem during_makeDir (path : String) :
    during (makeDir limit path) s = conclude limit () (performAll [.makeDirs path] s) := by
  have hrun : during (makeDir limit path) s =
      ((s.outcome (.makeDirs path)).mapError (OpError.toGenerateError path limit .artifactWrite),
        s.after (.makeDirs path)) := rfl
  rw [hrun, performAll]
  cases s.outcome (.makeDirs path) <;> rfl

theorem during_writeArtifact (a : Artifact) :
    during (writeArtifact limit r outDir a) s =
      conclude limit (artifactPath r outDir a) (performAll [writing r outDir a] s) := by
  have hrun : during (bounded (artifactPath r outDir a) limit .artifactWrite
      (Workspace.writeText limit (artifactPath r outDir a) (a.text r))) s =
      ((s.outcome (writing r outDir a)).mapError
        (OpError.toGenerateError (artifactPath r outDir a) limit .artifactWrite),
        s.after (writing r outDir a)) := rfl
  unfold writeArtifact
  rw [during_bind, hrun, performAll]
  cases s.outcome (writing r outDir a) <;> rfl

/-- What is done after a plan that ends so. -/
theorem during_bind_conclude {ops more : List FileOp} {op : ExceptT GenerateError (StateM Trial) α}
    {f : α → ExceptT GenerateError (StateM Trial) β} {a : α} {b : β}
    (h : during op s = conclude limit a (performAll ops s))
    (hf : ∀ u, during (f a) u = conclude limit b (performAll more u)) :
    during (op >>= f) s = conclude limit b (performAll (ops ++ more) s) := by
  rw [during_bind, h, performAll_append]
  rcases performAll ops s with ⟨_ | ⟨op, e⟩, u⟩
  · exact hf u
  · rfl

theorem during_forM_makeDir (dirs : List String) :
    during (dirs.forM (makeDir limit)) s = conclude limit () (performAll (dirs.map .makeDirs) s) := by
  induction dirs generalizing s with
  | nil => rfl
  | cons dir dirs ih =>
    rw [List.forM]
    exact during_bind_conclude limit s (during_makeDir limit s dir) ih

theorem during_mapM_writeArtifact (artifacts : List Artifact) :
    during (artifacts.mapM (writeArtifact limit r outDir)) s =
      conclude limit (artifacts.map (artifactPath r outDir))
        (performAll (artifacts.map (writing r outDir)) s) := by
  induction artifacts generalizing s with
  | nil => rfl
  | cons a artifacts ih =>
    rw [List.mapM_cons, List.map_cons, List.map_cons]
    refine during_bind_conclude limit s (during_writeArtifact limit r outDir s a) fun u => ?_
    rw [← List.append_nil (artifacts.map (writing r outDir))]
    exact during_bind_conclude limit u (ih u) fun v => rfl

/-- Writing a resource performs its plan. -/
theorem during_writeArtifacts :
    during (writeArtifacts limit r outDir) s =
      conclude limit (Artifact.all.map (artifactPath r outDir)) (performAll (plan r outDir) s) := by
  unfold writeArtifacts plan
  exact during_bind_conclude limit s (during_forM_makeDir limit s _)
    fun u => during_mapM_writeArtifact limit r outDir u _

end

/-! ## Generations -/

section
variable {settings : Settings} {source model outDir : String} (s : Trial)

theorem during_fromSource_missing (h : Schema.findBlock? source model = none) :
    during (fromSource settings source model outDir) s = (.error (.modelNotFound model), s) := by
  unfold fromSource
  rw [h]
  rfl

theorem during_fromSource {block : ModelBlock} (h : Schema.findBlock? source model = some block) :
    during (fromSource settings source model outDir) s =
      conclude settings.ioTimeout
        (Artifact.all.map (artifactPath (resourceOf settings source block) outDir))
        (performAll (plan (resourceOf settings source block) outDir) s) := by
  rw [fromSource_eq Trial.silent h, during_writeArtifacts]

end

end Scaffold.Generate
