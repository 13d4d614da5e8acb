import Scaffold.Proofs.Generate.Outputs
import Scaffold.Proofs.Generate.Trial

/-! A generation that fails leaves a prefix of its work. The operations before the first failure have
done what they do, the failed one has changed no file, and those behind it were never asked for. The
operations are eight, written out here with their paths. -/

namespace Scaffold.Generate
open FileTree Scaffold.Path

/-! ## What one operation leaves -/

/-- What may be left of `t` by an operation that ends so. -/
def FileOp.Leaves (t : FileTree) : FileOp → Except OpError Unit → FileTree → Prop
  | .read _, _, u => u = t
  | .makeDirs path, _, u => Extended t u (steps path)
  | .write path text, .ok (), u => t.Takes path ∧ u = t.put (place path) (.file text.toUTF8)
  | .write _ _, .error _, u => u = t

theorem leaves_perform (t : FileTree) (op : FileOp) (trouble? : Option Trouble) :
    op.Leaves t (op.perform t trouble?).1 (op.perform t trouble?).2 := by
  cases op with
  | read path => cases trouble? <;> rfl
  | makeDirs path =>
    cases trouble? with
    | none => exact extended_makeDirs path
    | some trouble => exact extended_makeDirsRev_drop trouble.unreached
  | write path text =>
    cases trouble? with
    | some trouble => rfl
    | none =>
      rw [FileOp.perform]
      cases hwrite : t.writeBytes path text.toUTF8 with
      | ok u => exact writeBytes_eq_ok.1 hwrite
      | error e => rfl

theorem leaves_after (s : Trial) (op : FileOp) :
    op.Leaves s.tree (s.outcome op) (s.after op).tree := leaves_perform s.tree op _

theorem tree_after_read (s : Trial) (path : String) : (s.after (.read path)).tree = s.tree :=
  leaves_after s (.read path)

/-! ## Operations that succeed -/

/-- From `s` the operations succeed, one after another, and lead to `u`. -/
inductive Succeed : List FileOp → Trial → Trial → Prop
  | nil (s : Trial) : Succeed [] s s
  | cons {op : FileOp} {ops : List FileOp} {s u : Trial} :
      s.outcome op = .ok () → Succeed ops (s.after op) u → Succeed (op :: ops) s u

/-- Operations are performed up to the first that fails, and all of them if none does. -/
theorem performAll_spec (ops : List FileOp) (s : Trial) :
    ∃ done rest v, ops = done ++ rest ∧ Succeed done s v ∧
      match rest with
      | [] => performAll ops s = (none, v)
      | op :: _ => ∃ e, v.outcome op = .error e ∧ performAll ops s = (some (op, e), v.after op) := by
  induction ops generalizing s with
  | nil => exact ⟨[], [], s, rfl, .nil s, rfl⟩
  | cons op ops ih =>
    rw [performAll]
    cases hop : s.outcome op with
    | error e => exact ⟨[], op :: ops, s, rfl, .nil s, e, hop, rfl⟩
    | ok result =>
      obtain ⟨done, rest, v, hops, hdone, hrest⟩ := ih (s.after op)
      exact ⟨op :: done, rest, v, by rw [hops, List.cons_append], .cons hop hdone, hrest⟩

theorem Succeed.asked {ops : List FileOp} {s u : Trial} (h : Succeed ops s u) :
    u.asked = s.asked ++ ops.map fun op => (op, .ok ()) := by
  induction h with
  | nil s => exact (List.append_nil _).symm
  | @cons op ops s u hop _ ih =>
    have hafter : (s.after op).asked = s.asked ++ [(op, .ok ())] := by
      rw [← hop]
      rfl
    rw [ih, hafter, List.append_assoc, List.map_cons, List.singleton_append]

/-! ## What the operations of a plan leave -/

/-- Both operations write files, and their paths part, or one of them writes none. -/
def FileOp.Apart : FileOp → FileOp → Prop
  | .write path _, .write other _ => Path.Apart path other
  | _, _ => True

/-- A directory has come to stand where nothing was, on the way to one that the plan makes. -/
structure MadeWay (plan : List FileOp) (t u : FileTree) (loc : Location) : Prop where
  before : t.get? loc = none
  now : u.get? loc = some .directory
  on_way : ∃ dir front, .makeDirs dir ∈ plan ∧ front <+: steps dir ∧ loc = follow [] front

/-- `u` is what operations of the plan leave of `t` when those in `done` succeed. -/
structure Shows (plan done : List FileOp) (t u : FileTree) : Prop where
  keeps : Keeps t u
  holds : ∀ path text, .write path text ∈ done → u.Holds path text.toUTF8
  kept : ∀ loc, (∀ path text, .write path text ∈ done → loc ≠ place path) →
    u.get? loc = t.get? loc ∨ MadeWay plan t u loc

namespace Shows
variable {plan done ops : List FileOp} {op : FileOp} {t u v : FileTree} {s s' : Trial}

theorem refl (plan : List FileOp) (t : FileTree) : Shows plan [] t t :=
  ⟨(Grown.refl t).keeps, fun _ _ h => (List.not_mem_nil h).elim, fun _ _ => .inl rfl⟩

/-- Making directories of the plan changes no file. -/
theorem extended {path : String} (h : Shows plan done t u) (hop : .makeDirs path ∈ plan)
    (hmade : Extended u v (steps path)) : Shows plan done t v := by
  refine ⟨h.keeps.trans hmade.grown.keeps,
    fun file text hfile => (h.holds file text hfile).grown hmade.grown, fun loc hloc => ?_⟩
  rcases h.kept loc hloc with hsame | hway
  · rcases hmade.made loc with hkept | ⟨hdir, front, hfront, hplace⟩
    · exact .inl (hkept.trans hsame)
    · cases hbefore : t.get? loc with
      | none => exact .inr ⟨hbefore, hdir, path, front, hop, hfront, hplace⟩
      | some e =>
        rw [hbefore] at hsame
        exact .inl (hmade.grown.entries loc e hsame)
  · exact .inr ⟨hway.before, hmade.grown.entries loc _ hway.now, hway.on_way⟩

/-- Writing a file leaves it there, and others whose paths part from its own. -/
theorem written {path text : String} (h : Shows plan done t u) (htakes : u.Takes path)
    (hapart : ∀ other ∈ done, other.Apart (.write path text)) :
    Shows plan (done ++ [.write path text]) t (u.put (place path) (.file text.toUTF8)) := by
  refine ⟨h.keeps.trans (keeps_put htakes.free text.toUTF8), fun file words hfile => ?_,
    fun loc hloc => ?_⟩
  · rcases List.mem_append.1 hfile with hearlier | hlast
    · exact (h.holds file words hearlier).written (hapart _ hearlier)
        (writeBytes_eq_ok.2 ⟨htakes, rfl⟩)
    · cases List.mem_singleton.1 hlast
      exact htakes.holds _
  · have hne : loc ≠ place path := hloc path text (by simp)
    have hget := get?_put_of_ne u hne (.file text.toUTF8)
    rcases h.kept loc fun file words hfile => hloc file words (by simp [hfile]) with hsame | hway
    · exact .inl (hget.trans hsame)
    · exact .inr ⟨hway.before, hget.trans hway.now, hway.on_way⟩

/-- An operation that succeeds leaves what it does. -/
theorem step (h : Shows plan done t s.tree) (hop : op ∈ plan) (hok : s.outcome op = .ok ())
    (hapart : ∀ other ∈ done, other.Apart op) : Shows plan (done ++ [op]) t (s.after op).tree := by
  have hleaves := leaves_after s op
  -- an operation that writes no file adds nothing to what is written
  have hquiet : ∀ w, (∀ path text, op ≠ .write path text) → Shows plan done t w →
      Shows plan (done ++ [op]) t w := by
    intro w hno hw
    have hmem : ∀ path text, FileOp.write path text ∈ done ++ [op] → .write path text ∈ done := by
      intro path text hmem
      rcases List.mem_append.1 hmem with hdone | hlast
      · exact hdone
      · exact absurd (List.mem_singleton.1 hlast).symm (hno path text)
    exact ⟨hw.keeps, fun path text hfile => hw.holds path text (hmem path text hfile),
      fun loc hloc => hw.kept loc fun path text hfile => hloc path text (by simp [hfile])⟩
  rw [hok] at hleaves
  cases op with
  | read path =>
    rw [tree_after_read]
    exact hquiet _ nofun h
  | makeDirs path => exact hquiet _ nofun (h.extended hop hleaves)
  | write path text =>
    obtain ⟨htakes, heq⟩ := hleaves
    rw [heq]
    exact h.written htakes hapart

/-- An operation that fails leaves every file. -/
theorem failed {e : OpError} (h : Shows plan done t s.tree) (hop : op ∈ plan)
    (herror : s.outcome op = .error e) : Shows plan done t (s.after op).tree := by
  have hleaves := leaves_after s op
  rw [herror] at hleaves
  cases op with
  | read path =>
    rwa [tree_after_read]
  | makeDirs path => exact h.extended hop hleaves
  | write path text =>
    have heq : (s.after (.write path text)).tree = s.tree := hleaves
    rwa [heq]

/-- Operations that succeed leave what each of them does. -/
theorem run (h : Shows plan done t s.tree) (hops : ∀ op ∈ ops, op ∈ plan)
    (hsucceed : Succeed ops s s') (hapart : (done ++ ops).Pairwise FileOp.Apart) :
    Shows plan (done ++ ops) t s'.tree := by
  induction hsucceed generalizing done with
  | nil s => rwa [List.append_nil]
  | @cons op ops s u hok _ ih =>
    obtain ⟨hop, hops⟩ := List.forall_mem_cons.1 hops
    have hlast : ∀ other ∈ done, other.Apart op :=
      fun other hother => (List.pairwise_append.1 hapart).2.2 other hother op (by simp)
    rw [List.append_cons] at hapart ⊢
    exact ih (h.step hop hok hlast) hops hapart

end Shows

/-! ## The plan of a resource -/

section
variable {r : Resource} {outDir : String}

theorem pairwise_artifactPath {model : String} (hfolder : r.folder = Naming.kebab model)
    (hmodel : Schema.IsIdentifier model.toList) :
    (Artifact.all.map (artifactPath r outDir)).Pairwise Path.Apart := by
  have hapart : ∀ {a b}, a ≠ b → Path.Apart (artifactPath r outDir a) (artifactPath r outDir b) :=
    apart_artifactPath hfolder hmodel
  exact List.pairwise_map.2 (List.Pairwise.imp hapart (by decide))

theorem pairwise_plan {model : String} (hfolder : r.folder = Naming.kebab model)
    (hmodel : Schema.IsIdentifier model.toList) : (plan r outDir).Pairwise FileOp.Apart := by
  have hdirs : ((neededDirs r outDir).map FileOp.makeDirs).Pairwise FileOp.Apart :=
    List.pairwise_map.2 (List.pairwise_of_forall fun _ _ => trivial)
  have hpaths : Artifact.all.Pairwise fun a b =>
      Path.Apart (artifactPath r outDir a) (artifactPath r outDir b) :=
    List.pairwise_map.1 (pairwise_artifactPath hfolder hmodel)
  have hfiles : (Artifact.all.map (writing r outDir)).Pairwise FileOp.Apart := List.pairwise_map.2 hpaths
  refine List.pairwise_append.2 ⟨hdirs, hfiles, fun op hop other _ => ?_⟩
  obtain ⟨dir, -, rfl⟩ := List.mem_map.1 hop
  trivial

theorem mem_plan_write {path text : String} (h : .write path text ∈ plan r outDir) :
    ∃ a, path = artifactPath r outDir a ∧ text = a.text r := by
  rcases of_mem_plan h with ⟨dir, -, hdir⟩ | ⟨a, ha⟩
  · cases hdir
  · cases ha
    exact ⟨a, rfl, rfl⟩

theorem mem_plan_makeDirs {dir : String} (h : .makeDirs dir ∈ plan r outDir) :
    dir ∈ neededDirs r outDir := by
  rcases of_mem_plan h with ⟨needed, hneeded, hdir⟩ | ⟨a, ha⟩
  · cases hdir
    exact hneeded
  · cases ha

theorem steps_neededDirs (hfolder : IsPlain r.folder) {dir : String}
    (h : dir ∈ neededDirs r outDir) :
    ∃ name, (name = "dto" ∨ name = "views") ∧
      steps dir = steps outDir ++ [r.folder, name].map .into := by
  have hsteps : ∀ name, IsPlain name →
      steps (join (targetDir r outDir) name) = steps outDir ++ [r.folder, name].map .into := by
    intro name hname
    rw [steps_join _ hname.startsWith, steps_targetDir hfolder, hname.steps, List.append_assoc]
    rfl
  rcases List.mem_cons.1 h with rfl | h
  · exact ⟨"dto", .inl rfl, hsteps _ isPlain_dto⟩
  · obtain rfl := List.mem_singleton.1 h
    exact ⟨"views", .inr rfl, hsteps _ isPlain_views⟩

end

/-! ## The plan, written out -/

/-- The path below the folder in which a model's files lie. -/
def within (outDir folder path : String) : String := join outDir (folder ++ "/" ++ path)

section
variable {model outDir : String} {r : Resource} (hmodel : Schema.IsIdentifier model.toList)
  (hfolder : r.folder = Naming.kebab model)
include hmodel

include hfolder

theorem artifactPath_within (a : Artifact) :
    artifactPath r outDir a =
      within outDir (Naming.kebab model) (a.relativePath (Naming.kebab model)) := by
  obtain ⟨name, above, -, -, hstart⟩ := names_relativePath hmodel a
  unfold artifactPath targetDir within
  rw [hfolder, (Naming.isPlain_kebab hmodel).join_join outDir hstart]

end

/-- How a generation ends that from `s` has done the operations in `done` and not those that are left:
it has asked for all that it did and for the first that is left, whose failure it gives. -/
inductive Ended (limit : Duration) (paths : List String) (s u : Trial) (done : List FileOp) :
    List FileOp → Except GenerateError (List String) → Prop
  | well : u.asked = s.asked ++ done.map (·, .ok ()) → Ended limit paths s u done [] (.ok paths)
  | failed {op : FileOp} {later : List FileOp} {e : OpError} :
      u.asked = s.asked ++ done.map (·, .ok ()) ++ [(op, .error e)] →
      Ended limit paths s u done (op :: later) (.error (op.failure limit e))

/-- A plan is done up to its first failure. -/
theorem exists_ended {ops : List FileOp} (hapart : ops.Pairwise FileOp.Apart) (limit : Duration)
    (paths : List String) (s : Trial) :
    ∃ done rest result u, conclude limit paths (performAll ops s) = (result, u) ∧
      ops = done ++ rest ∧ Ended limit paths s u done rest result ∧ Shows ops done s.tree u.tree := by
  obtain ⟨done, rest, v, hops, hdone, hrest⟩ := performAll_spec ops s
  have hshows : Shows ops done s.tree v.tree := by
    have hin : ∀ op ∈ done, op ∈ ops := by
      rw [hops]
      exact fun op => List.mem_append_left rest
    have hdone_apart : ([] ++ done).Pairwise FileOp.Apart := by
      rw [hops] at hapart
      exact (List.pairwise_append.1 hapart).1
    exact (Shows.refl ops s.tree).run hin hdone hdone_apart
  cases rest with
  | nil =>
    refine ⟨done, [], .ok paths, v, ?_, hops, .well hdone.asked, hshows⟩
    rw [hrest]
    rfl
  | cons op later =>
    obtain ⟨e, herror, hperform⟩ := hrest
    refine ⟨done, op :: later, .error (op.failure limit e), v.after op, ?_, hops, .failed ?_,
      hshows.failed ?_ herror⟩
    · rw [hperform]
      rfl
    · rw [← hdone.asked, ← herror]
      rfl
    · rw [hops]
      exact List.mem_append_right done List.mem_cons_self

/-- A generation of a model that the schema has does its plan up to the first failure. -/
theorem exists_course {settings : Settings} {source model outDir : String} {block : ModelBlock}
    (hfind : Schema.findBlock? source model = some block) (s : Trial) :
    ∃ done rest result u, during (fromSource settings source model outDir) s = (result, u) ∧
      plan (resourceOf settings source block) outDir = done ++ rest ∧
      Ended settings.ioTimeout
        (Artifact.all.map (artifactPath (resourceOf settings source block) outDir)) s u done rest
        result ∧
      Shows (plan (resourceOf settings source block) outDir) done s.tree u.tree := by
  have hfolder : (resourceOf settings source block).folder = Naming.kebab model :=
    folder_resourceOf (Schema.name_of_findBlock? hfind)
  have hapart : (plan (resourceOf settings source block) outDir).Pairwise FileOp.Apart :=
    pairwise_plan hfolder (Schema.isIdentifier_of_findBlock? hfind)
  rw [during_fromSource s hfind]
  exact exists_ended hapart settings.ioTimeout _ s

/-- A generation asks for operations of its plan only. -/
theorem Ended.exists_asked {limit : Duration} {paths : List String} {s u : Trial}
    {done rest : List FileOp} {result : Except GenerateError (List String)}
    (h : Ended limit paths s u done rest result) :
    ∃ asked, u.asked = s.asked ++ asked ∧ ∀ op ∈ asked, op.1 ∈ done ++ rest := by
  have hdone : ∀ op ∈ done.map fun op => (op, (Except.ok () : Except OpError Unit)),
      op.1 ∈ done := by
    intro op hop
    obtain ⟨performed, hperformed, rfl⟩ := List.mem_map.1 hop
    exact hperformed
  cases h with
  | well hasked => exact ⟨_, hasked, fun op hop => List.mem_append_left _ (hdone op hop)⟩
  | @failed op later e hasked =>
    rw [List.append_assoc] at hasked
    refine ⟨_, hasked, fun asked hmem => ?_⟩
    rcases List.mem_append.1 hmem with hearlier | hlast
    · exact List.mem_append_left _ (hdone asked hearlier)
    · obtain rfl := List.mem_singleton.1 hlast
      exact List.mem_append_right done List.mem_cons_self

theorem MadeWay.file? {plan : List FileOp} {t u : FileTree} {loc : Location}
    (h : MadeWay plan t u loc) : u.file? loc = t.file? loc := by
  rw [file?_of_directory h.now]
  unfold FileTree.file?
  rw [h.before]

section
variable {settings : Settings} {source model outDir : String} {block : ModelBlock} {r : Resource}

/-- Below an output directory whose path does not move up no artifact lies on the way to a directory. -/
theorem place_not_on_way (hmodel : Schema.IsIdentifier model.toList)
    (hfolder : r.folder = Naming.kebab model) (hup : Step.up ∉ steps outDir) {dir : String}
    (hdir : dir ∈ neededDirs r outDir) {front : List Step} (hfront : front <+: steps dir)
    (a : Artifact) : place (artifactPath r outDir a) ≠ follow [] front := by
  obtain ⟨root, hroot⟩ := exists_names hup
  obtain ⟨name, hname, hsteps⟩ := steps_neededDirs (hfolder ▸ Naming.isPlain_kebab hmodel) hdir
  rw [hsteps, hroot, ← List.map_append] at hfront
  obtain ⟨names, hnames, rfl⟩ := List.prefix_map_iff.1 hfront
  have hplace : place (artifactPath r outDir a) =
      root ++ r.folder :: (placeOf r.folder a).reverse := by
    unfold place
    rw [artifactPath_eq hfolder, steps_outputPath hmodel, hroot, ← hfolder, ← List.map_append,
      follow_names, List.nil_append]
  rw [hplace, follow_names, List.nil_append]
  rintro rfl
  -- read backwards, the place would end the way to the directory
  have hsuffix := List.reverse_suffix.2 hnames
  have hdot : '.' ∉ name.toList := by
    rcases hname with rfl | rfl
    · decide
    · decide
  refine placeOf_apart r.folder a hdot (r.folder :: root.reverse) ?_
  simpa using hsuffix

/-- What a generation leaves of `t` that has done the operations in `done` and has `rest` left. -/
structure LeavesPrefix (outDir : String) (done rest : List FileOp) (t u : FileTree) : Prop where
  written : ∀ path text, .write path text ∈ done → u.Holds path text.toUTF8
  unwritten : ∀ path text, .write path text ∈ rest → u.file? (place path) = t.file? (place path)
  /-- Not even a directory comes to stand there, unless the output directory itself goes astray. -/
  untouched : Step.up ∉ steps outDir → ∀ path text, .write path text ∈ rest →
    u.get? (place path) = t.get? (place path)
  elsewhere : ∀ loc, (∀ path text, .write path text ∈ done ++ rest → loc ≠ place path) →
    u.file? loc = t.file? loc

theorem leavesPrefix_of_shows (hmodel : Schema.IsIdentifier model.toList)
    (hfolder : r.folder = Naming.kebab model) {done rest : List FileOp} {t u : FileTree}
    (hplan : plan r outDir = done ++ rest) (h : Shows (plan r outDir) done t u) :
    LeavesPrefix outDir done rest t u := by
  have hplaces : ∀ path text, .write path text ∈ rest →
      ∀ other words, .write other words ∈ done → place path ≠ place other := by
    intro path text hpath other words hother
    have hapart : (plan r outDir).Pairwise FileOp.Apart := pairwise_plan hfolder hmodel
    rw [hplan] at hapart
    have hpair : Path.Apart other path := (List.pairwise_append.1 hapart).2.2 _ hother _ hpath
    exact hpair.place_ne.symm
  refine ⟨h.holds, fun path text hpath => ?_, fun hup path text hpath => ?_, fun loc hloc => ?_⟩
  · rcases h.kept _ (hplaces path text hpath) with hsame | hway
    · exact file?_congr hsame
    · exact hway.file?
  · rcases h.kept _ (hplaces path text hpath) with hsame | hway
    · exact hsame
    · obtain ⟨dir, front, hdir, hfront, hplace⟩ := hway.on_way
      obtain ⟨a, rfl, -⟩ := mem_plan_write (hplan ▸ List.mem_append_right done hpath)
      exact absurd hplace (place_not_on_way hmodel hfolder hup (mem_plan_makeDirs hdir) hfront a)
  · rcases h.kept loc fun path text hpath => hloc path text (List.mem_append_left rest hpath) with
      hsame | hway
    · exact file?_congr hsame
    · exact hway.file?

end

/-- A tree with a file of `Doc` from before, on which the third write does not end in time. -/
def interrupted : Trial where
  tree := ((empty.put ["out"] .directory).put ["out", "doc"] .directory).put
    ["out", "doc", "doc.module.ts"] (.file "old".toUTF8)
  troubles := [none, none, none, none, some ⟨.expired, 0⟩]

end Scaffold.Generate
