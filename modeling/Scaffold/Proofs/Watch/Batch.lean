import Scaffold.Proofs.Generate.FromSource
import Scaffold.Watch.Batch

/-! A batch against its models generated alone. What a batch has done so far is told by which models
it has finished: their folders are as alone, all others as at the start. -/

namespace Scaffold.Generate
open FileTree Scaffold.Path

variable {settings : Settings} {source outDir : String} {root : Location} {t : FileTree}

/-- A model generated alone, from the tree that the batch starts with. -/
def alone (settings : Settings) (source outDir : String) (t : FileTree) (model : String) :
    Except GenerateError (List String) × FileTree :=
  onTree (fromSource settings source model outDir) t

/-- The tree of a batch that starts at `t` and has finished these models. -/
structure Progress (settings : Settings) (source outDir : String) (root : Location) (t : FileTree)
    (finished : List String) (u : FileTree) : Prop where
  alike : ∀ model ∈ Schema.modelNames source, (layout root (Naming.kebab model)).Alike t u
  folders : ∀ model ∈ Schema.modelNames source, ∀ loc, root ++ [Naming.kebab model] <+: loc →
    u.get? loc = (alone settings source outDir t model).2.get? loc ∨
      model ∉ finished ∧ u.get? loc = t.get? loc

theorem alike_self (ht : t.Closed) (p : Layout) : p.Alike t t :=
  ⟨ht, rfl, fun _ _ => rfl, fun _ _ => rfl⟩

theorem progress_start (ht : t.Closed) : Progress settings source outDir root t [] t :=
  ⟨fun _ _ => alike_self ht _, fun _ _ _ _ => .inr ⟨by simp, rfl⟩⟩

theorem run_batchModel (model : String) (u : FileTree) :
    (batchModel settings source outDir model : StateM FileTree ModelOutcome).run u =
      (⟨model, (alone settings source outDir u model).1⟩, (alone settings source outDir u model).2) := by
  unfold batchModel
  rw [StateT.run_bind]
  change StateT.run (ExceptT.run (fromSource settings source model outDir) >>= _) u = _
  rw [StateT.run_bind]
  change (bind (m := Id) (alone settings source outDir u model) _) = _
  rcases alone settings source outDir u model with ⟨result, v⟩
  cases result <;> rfl

/-- The models of a list one after the other: how each ends, and the tree that the last one leaves. -/
theorem run_models_cons (model : String) (models : List String) (u : FileTree) :
    ((model :: models).mapM (batchModel settings source outDir) : StateM FileTree _).run u =
      let rest := (models.mapM (batchModel settings source outDir) : StateM FileTree _).run
        (alone settings source outDir u model).2
      (⟨model, (alone settings source outDir u model).1⟩ :: rest.1, rest.2) := by
  rw [List.mapM_cons, StateT.run_bind, run_batchModel]
  rfl

theorem run_batch (u : FileTree) :
    (batch settings source outDir : StateM FileTree BatchReport).run u =
      let done := ((Schema.modelNames source).mapM (batchModel settings source outDir) :
        StateM FileTree _).run u
      (⟨done.1⟩, done.2) := by
  unfold batch
  cases Schema.modelNames source <;> rfl

section
variable (ht : t.Closed) (hout : steps outDir = root.map .into)
  (hkebab : ∀ a ∈ Schema.modelNames source, ∀ b ∈ Schema.modelNames source,
    Naming.kebab a = Naming.kebab b → a = b)
include ht hout hkebab

/-- One more model: it ends as alone, and its folder is as alone from then on. -/
theorem progress_step {finished : List String} {u : FileTree} {model : String}
    (h : Progress settings source outDir root t finished u) (hmodel : model ∈ Schema.modelNames source) :
    (alone settings source outDir u model).1 = (alone settings source outDir t model).1 ∧
      Progress settings source outDir root t (model :: finished)
        (alone settings source outDir u model).2 := by
  obtain ⟨result, c, hacts, hproper⟩ : ∃ result c, Acts ((layout root (Naming.kebab model)).Alike t)
      (fromSource settings source model outDir) result c ∧
        c.Proper (layout root (Naming.kebab model)) t := exists_acts_fromSource hmodel hout t
  obtain ⟨hresult, hclosed, hturns⟩ := hacts u (h.alike model hmodel)
  obtain ⟨hresultAlone, -, hturnsAlone⟩ := hacts t (alike_self ht _)
  have hne : ∀ other ∈ Schema.modelNames source, model ≠ other →
      Naming.kebab model ≠ Naming.kebab other :=
    fun other hother hne heq => hne (hkebab model hmodel other hother heq)
  refine ⟨hresult.trans hresultAlone.symm, fun other hother => ?_, fun other hother loc hloc => ?_⟩
  · by_cases heq : model = other
    · rw [← heq]
      exact hproper.alike (h.alike model hmodel) hclosed hturns
    · exact alike_outside hproper (hne other hother heq) (h.alike other hother) hclosed hturns
  · by_cases heq : model = other
    · subst heq
      refine .inl ((hturns.entries loc).trans (Eq.trans ?_ (hturnsAlone.entries loc).symm))
      cases hc : c loc with
      | some e => rfl
      | none =>
        rw [Option.none_or, Option.none_or]
        rcases h.folders model hmodel loc hloc with hdone | ⟨-, hsame⟩
        · rw [hdone]
          refine (hturnsAlone.entries loc).trans ?_
          rw [hc, Option.none_or]
        · exact hsame
    · have hkeeps : (alone settings source outDir u model).2.get? loc = u.get? loc := by
        refine (hturns.entries loc).trans ?_
        rw [proper_outside hproper (hne other hother heq) hloc, Option.none_or]
      rw [hkeeps]
      refine (h.folders other hother loc hloc).imp_right fun hwaiting => ⟨?_, hwaiting.2⟩
      rw [List.mem_cons, not_or]
      exact ⟨fun hsame => heq hsame.symm, hwaiting.1⟩

/-- Every model of a list in its turn ends as alone, and all their folders are as alone. -/
theorem progress_run (models : List String) (hmodels : ∀ model ∈ models, model ∈ Schema.modelNames source)
    {finished : List String} {u : FileTree} (h : Progress settings source outDir root t finished u) :
    ((models.mapM (batchModel settings source outDir) : StateM FileTree _).run u).1 =
        models.map (fun model => ⟨model, (alone settings source outDir t model).1⟩) ∧
      Progress settings source outDir root t (models.reverse ++ finished)
        ((models.mapM (batchModel settings source outDir) : StateM FileTree _).run u).2 := by
  induction models generalizing finished u with
  | nil => exact ⟨rfl, h⟩
  | cons model models ih =>
    obtain ⟨hresult, hstep⟩ := progress_step ht hout hkebab h (hmodels model (by simp))
    obtain ⟨houtcomes, hrun⟩ := ih (fun other hother => hmodels other (by simp [hother])) hstep
    rw [run_models_cons, List.map_cons, List.reverse_cons, List.append_assoc, ← hresult]
    exact ⟨congrArg _ houtcomes, hrun⟩

end

/-- A batch agrees with its models generated alone: one outcome for every block, in source order and
as alone, none of them a missing model, and in every folder what its model alone leaves there. -/
theorem batch_agrees_with_alone (settings : Settings) {source outDir : String} {root : Location}
    {t : FileTree} (ht : t.Closed) (hout : steps outDir = root.map .into)
    (hkebab : ∀ a ∈ Schema.modelNames source, ∀ b ∈ Schema.modelNames source,
      Naming.kebab a = Naming.kebab b → a = b) :
    let done := (batch settings source outDir : StateM FileTree BatchReport).run t
    done.1.outcomes = (Schema.modelNames source).map
        (fun model => ⟨model, (alone settings source outDir t model).1⟩) ∧
      ∀ model ∈ Schema.modelNames source,
        (∀ missing, (alone settings source outDir t model).1 ≠ .error (.modelNotFound missing)) ∧
          ∀ loc, root ++ [Naming.kebab model] <+: loc →
            done.2.get? loc = (alone settings source outDir t model).2.get? loc := by
  obtain ⟨houtcomes, hprogress⟩ := progress_run ht hout hkebab (Schema.modelNames source)
    (fun _ h => h) (progress_start ht)
  rw [run_batch]
  refine ⟨houtcomes, fun model hmodel => ⟨fromSource_found hmodel t, fun loc hloc => ?_⟩⟩
  rcases hprogress.folders model hmodel loc hloc with hdone | ⟨hwaiting, -⟩
  · exact hdone
  · exact absurd (by simpa using hmodel) hwaiting

/-- A tree in which a file stands where the folder `a` needs its directory of views. -/
def blockedTree : FileTree :=
  { entries :=
      [(["out", "a", "views"], .file "".toUTF8), (["out", "a"], .directory), (["out"], .directory)] }

theorem closed_blockedTree : blockedTree.Closed := by
  refine closed_of_entries fun p hp => ?_
  unfold blockedTree at hp
  rcases List.mem_cons.1 hp with rfl | hp
  · rfl
  rcases List.mem_cons.1 hp with rfl | hp
  · rfl
  obtain rfl := List.mem_singleton.1 hp
  rfl

/-- The model `A` fails at its second directory, and `B` does not notice. -/
theorem batch_agrees_with_alone_blocked :
    let source := "model A \x7b\n\x7d\nmodel B \x7b\n\x7d\n"
    let done := (batch Settings.default source "out" : StateM FileTree BatchReport).run blockedTree
    (alone Settings.default source "out" blockedTree "A").1.isOk = false ∧
      done.1.outcomes = (Schema.modelNames source).map
        (fun model => ⟨model, (alone Settings.default source "out" blockedTree model).1⟩) ∧
      done.2.get? ["out", "b", "b.module.ts"] =
        (alone Settings.default source "out" blockedTree "B").2.get? ["out", "b", "b.module.ts"] := by
  have hagrees := @batch_agrees_with_alone Settings.default "model A \x7b\n\x7d\nmodel B \x7b\n\x7d\n"
    "out" ["out"] blockedTree closed_blockedTree (by decide) (by decide +kernel)
  refine ⟨by decide +kernel, hagrees.1, ?_⟩
  exact (hagrees.2 "B" (by decide +kernel)).2 _ ⟨["b.module.ts"], by decide⟩

end Scaffold.Generate
