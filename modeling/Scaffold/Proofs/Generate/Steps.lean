import Scaffold.Generate
import Scaffold.Proofs.Generate.Layout
import Scaffold.Proofs.Outcome

/-! The steps of a generation on trees. From all trees that look alike to its layout, a step ends
alike and makes the same change. -/

namespace Scaffold.Generate
open FileTree Scaffold.Path

variable {α β : Type}

/-! ## Operations on trees -/

/-- How an operation ends on a tree, and the tree it leaves. -/
def onTree (op : ExceptT GenerateError (StateM FileTree) α) (t : FileTree) :
    Except GenerateError α × FileTree := op.run.run t

theorem onTree_bind (op : ExceptT GenerateError (StateM FileTree) α)
    (f : α → ExceptT GenerateError (StateM FileTree) β) (t : FileTree) :
    onTree (op >>= f) t =
      match onTree op t with
      | (.ok a, u) => onTree (f a) u
      | (.error e, u) => (.error e, u) := by
  unfold onTree
  rw [run_run_bind]
  rcases op.run.run t with ⟨_ | _, _⟩ <;> rfl

/-- On every tree of a class an operation ends with `r` and makes the change `c`. -/
def Acts (P : FileTree → Prop) (op : ExceptT GenerateError (StateM FileTree) α)
    (r : Except GenerateError α) (c : Change) : Prop :=
  ∀ u, P u → (onTree op u).1 = r ∧ (onTree op u).2.Closed ∧ c.Turns u (onTree op u).2

section
variable {P Q : FileTree → Prop}

theorem acts_pure (hclosed : ∀ u, P u → u.Closed) (a : α) : Acts P (pure a) (.ok a) .none := by
  intro u hu
  exact ⟨rfl, hclosed u hu, Change.none_turns u⟩

theorem acts_bind_error {op : ExceptT GenerateError (StateM FileTree) α} {e : GenerateError}
    {c : Change} (h : Acts P op (.error e) c) (f : α → ExceptT GenerateError (StateM FileTree) β) :
    Acts P (op >>= f) (.error e) c := by
  intro u hu
  obtain ⟨hresult, hrest⟩ := h u hu
  rw [onTree_bind]
  generalize onTree op u = done at hresult hrest
  obtain ⟨result, v⟩ := done
  obtain rfl : result = .error e := hresult
  exact ⟨rfl, hrest⟩

theorem acts_bind_ok {op : ExceptT GenerateError (StateM FileTree) α} {a : α}
    {f : α → ExceptT GenerateError (StateM FileTree) β} {r : Except GenerateError β} {c d : Change}
    (h : Acts P op (.ok a) c) (hnext : ∀ u v, P u → v.Closed → c.Turns u v → Q v)
    (hf : Acts Q (f a) r d) : Acts P (op >>= f) r (c.next d) := by
  intro u hu
  obtain ⟨hresult, hclosed, hturns⟩ := h u hu
  rw [onTree_bind]
  generalize onTree op u = done at hresult hclosed hturns
  obtain ⟨result, v⟩ := done
  obtain rfl : result = .ok a := hresult
  obtain ⟨hresult, hclosed, hturns'⟩ := hf v (hnext u v hu hclosed hturns)
  exact ⟨hresult, hclosed, hturns.next hturns'⟩

end

/-! ## Making directories -/

/-- `path` names the place that `rs` gives last name first. -/
def Leads (path : String) : List String → Prop
  | [] => False
  | name :: above => Names path above.reverse name

/-- The change makes all of a way that was clear. -/
def Built (t : FileTree) (c : Change) (rs : List String) : Prop :=
  t.obstacle? rs = none ∧ ∀ ss, ss <:+ rs → c ss.reverse = some .directory

theorem built_next {p : Layout} {t : FileTree} {c d : Change} {rs : List String}
    (h : Built t c rs) (hrs : rs ∈ p.ways) (hd : d.Proper p t) : Built t (c.next d) rs := by
  refine ⟨h.1, fun ss hs => ?_⟩
  unfold Change.next
  cases hdirs : d ss.reverse with
  | none => rw [Option.none_or, h.2 ss hs]
  | some e =>
    have hway : p.OnWay ss.reverse := ⟨rs, hrs, by rwa [List.reverse_reverse]⟩
    rw [(hd.on_way hway hdirs).1]
    rfl

theorem built_of_next {t : FileTree} {c d : Change} {rs : List String} (h : Built t d rs) :
    Built t (c.next d) rs := by
  refine ⟨h.1, fun ss hs => ?_⟩
  unfold Change.next
  rw [h.2 ss hs]
  rfl

theorem onTree_makeDir (limit : Duration) (path : String) (t : FileTree) :
    onTree (makeDir limit path) t =
      ((t.makeDirs path).2.mapError (.artifactWrite path), (t.makeDirs path).1) := by
  have hrun : onTree (makeDir limit path) t =
      (((t.makeDirs path).2.mapError OpError.io).mapError
        (OpError.toGenerateError path limit .artifactWrite), (t.makeDirs path).1) := rfl
  rw [hrun]
  cases (t.makeDirs path).2 <;> rfl

section
variable {p : Layout} {t : FileTree} (limit : Duration)

/-- The change that making a way makes: directories up to the first obstacle. -/
def paving (t : FileTree) (rs : List String) : Change := fun loc =>
  if loc.reverse <:+ rs ∧ t.obstacle? loc.reverse = none then some .directory else none

theorem paving_turns {u v : FileTree} {rs : List String} (h : Paved u v rs)
    (hsame : ∀ ss, ss <:+ rs → u.obstacle? ss = t.obstacle? ss) : (paving t rs).Turns u v := by
  refine ⟨fun loc => ?_, h.refuses⟩
  unfold paving
  split
  · rename_i hmade
    have hdir := h.made loc.reverse hmade.1 ((hsame _ hmade.1).trans hmade.2)
    rwa [List.reverse_reverse] at hdir
  · rename_i hmade
    refine h.kept loc fun hs hclear => hmade ⟨hs, ?_⟩
    rw [← hsame _ hs, hclear]

theorem paving_proper {rs : List String} (hrs : rs ∈ p.ways) : (paving t rs).Proper p t := by
  intro loc e he
  unfold paving at he
  split at he
  · rename_i hmade
    cases he
    have hbar := bar?_of_clear hmade.2
    rw [List.reverse_reverse] at hbar
    exact .directory ⟨rs, hrs, hmade.1⟩ hbar
  · cases he

theorem alike_obstacle? {u : FileTree} (hu : p.Alike t u) {rs ss : List String} (hrs : rs ∈ p.ways)
    (hs : ss <:+ rs) : u.obstacle? ss = t.obstacle? ss := by
  refine obstacle?_congr hu.refuses fun ss' hs' => hu.ways _ ⟨rs, hrs, ?_⟩
  rw [List.reverse_reverse]
  exact hs'.trans hs

theorem exists_acts_makeDir {path : String} {rs : List String} (hpath : Leads path rs)
    (hrs : rs ∈ p.ways) :
    ∃ r c, Acts (p.Alike t) (makeDir limit path) r c ∧ c.Proper p t ∧ (r = .ok () → Built t c rs) := by
  obtain ⟨name, above, rfl⟩ : ∃ name above, rs = name :: above := by
    cases rs with
    | nil => exact absurd hpath id
    | cons name above => exact ⟨name, above, rfl⟩
  rcases Nat.lt_or_ge pathLimit path.utf8ByteSize with hlong | hshort
  · refine ⟨.error (.artifactWrite path .nameTooLong), .none, fun u hu => ?_,
      Change.none_proper p t, fun h => nomatch h⟩
    rw [onTree_makeDir, makeDirs_of_long hlong]
    exact ⟨rfl, hu.closed, Change.none_turns u⟩
  · refine ⟨(verdict (t.obstacle? (name :: above))).mapError (.artifactWrite path),
      paving t (name :: above), fun u hu => ?_, paving_proper hrs, fun hok => ?_⟩
    · obtain ⟨hpaved, hresult⟩ := makeDirsRev_spec hu.closed (name :: above)
      rw [onTree_makeDir, makeDirs_of_names hpath hshort, hresult,
        alike_obstacle? hu hrs (List.suffix_refl _)]
      exact ⟨rfl, hpaved.closed hu.closed, paving_turns hpaved fun ss hs => alike_obstacle? hu hrs hs⟩
    · have hclear : t.obstacle? (name :: above) = none := by
        cases hobstacle : t.obstacle? (name :: above) with
        | none => rfl
        | some e =>
          rw [hobstacle] at hok
          cases hok
      refine ⟨hclear, fun ss hs => ?_⟩
      unfold paving
      rw [List.reverse_reverse]
      exact if_pos ⟨hs, clear_of_suffix hs hclear⟩

/-- Making several directories: alike everywhere, and if all succeed, all of them are made. -/
theorem exists_acts_makeDirs (dirs : List (String × List String))
    (hdirs : ∀ d ∈ dirs, Leads d.1 d.2 ∧ d.2 ∈ p.ways) :
    ∃ r c, Acts (p.Alike t) ((dirs.map (·.1)).forM (makeDir limit)) r c ∧ c.Proper p t ∧
      (r = .ok () → ∀ d ∈ dirs, Built t c d.2) := by
  induction dirs with
  | nil =>
    exact ⟨.ok (), .none, acts_pure (fun u hu => hu.closed) (), Change.none_proper p t, by simp⟩
  | cons d dirs ih =>
    obtain ⟨hpath, hway⟩ := hdirs d (by simp)
    obtain ⟨r, c, hacts, hproper, hbuilt⟩ := exists_acts_makeDir (t := t) limit hpath hway
    obtain ⟨r', c', hacts', hproper', hbuilt'⟩ := ih fun d hd => hdirs d (by simp [hd])
    rw [List.map_cons, List.forM]
    cases r with
    | error e => exact ⟨.error e, c, acts_bind_error hacts _, hproper, fun h => nomatch h⟩
    | ok a =>
      refine ⟨r', c.next c', acts_bind_ok hacts ?_ hacts', hproper.next hproper', fun hok => ?_⟩
      · intro u v hu hv hturns
        exact hproper.alike hu hv hturns
      · intro d' hd'
        rcases List.mem_cons.1 hd' with rfl | hd'
        · exact built_next (hbuilt rfl) hway hproper'
        · exact built_of_next (hbuilt' hok d' hd')

/-! ## Writing files -/

/-- A tree that looks alike and in which every way is there. -/
def Prepared (p : Layout) (t u : FileTree) : Prop := p.Alike t u ∧ p.Ready u

theorem prepared_turns {c : Change} {u v : FileTree} (hc : c.Proper p t) (hu : Prepared p t u)
    (hv : v.Closed) (hturns : c.Turns u v) : Prepared p t v :=
  ⟨hc.alike hu.1 hv hturns, hc.ready hu.2 hturns⟩

/-- The change of a single place. -/
def placing (loc : Location) (e : Entry) : Change := fun l => if l = loc then some e else none

theorem placing_turns (t : FileTree) {loc : Location} (hne : loc ≠ []) (e : Entry) :
    (placing loc e).Turns t (t.put loc e) := by
  refine ⟨fun l => ?_, rfl⟩
  unfold placing
  by_cases heq : l = loc
  · rw [heq, if_pos rfl, get?_put_self t hne]
    rfl
  · rw [if_neg heq, get?_put_of_ne t heq]
    rfl

theorem placing_proper {loc : Location} {e : Entry} (h : p.Fits t loc e) :
    (placing loc e).Proper p t := by
  intro l e' he
  unfold placing at he
  split at he
  · rename_i heq
    cases he
    rw [heq]
    exact h
  · cases he

theorem run_writeText (path text : String) (t : FileTree) :
    (Workspace.writeText (m := StateM FileTree) limit path text).run t =
      match t.writeBytes path text.toUTF8 with
      | .ok u => (.ok (), u)
      | .error e => (.error (.io e), t) := by
  have hrun : (Workspace.writeText (m := StateM FileTree) limit path text).run t =
      (match t.writeBytes path text.toUTF8 with
        | .ok u => (do set u; return .ok () : StateM FileTree (Except OpError Unit))
        | .error e => return .error (.io e)).run t := rfl
  rw [hrun]
  cases t.writeBytes path text.toUTF8 <;> rfl

theorem onTree_writeArtifact (r : Resource) (outDir : String) (a : Artifact) (t : FileTree) :
    onTree (writeArtifact limit r outDir a) t =
      match t.writeBytes (artifactPath r outDir a) (a.text r).toUTF8 with
      | .ok u => (.ok (artifactPath r outDir a), u)
      | .error e => (.error (.artifactWrite (artifactPath r outDir a) e), t) := by
  have hwrite : onTree (bounded (artifactPath r outDir a) limit .artifactWrite
      (Workspace.writeText limit (artifactPath r outDir a) (a.text r))) t =
      match t.writeBytes (artifactPath r outDir a) (a.text r).toUTF8 with
      | .ok u => (.ok (), u)
      | .error e => (.error (.artifactWrite (artifactPath r outDir a) e), t) := by
    unfold onTree bounded
    rw [ExceptT.run_mk, StateT.run_bind, run_writeText]
    cases t.writeBytes (artifactPath r outDir a) (a.text r).toUTF8 <;> rfl
  unfold writeArtifact
  rw [onTree_bind, hwrite]
  cases t.writeBytes (artifactPath r outDir a) (a.text r).toUTF8 <;> rfl

theorem exists_acts_writeArtifact {r : Resource} {outDir : String} {a : Artifact} {name : String}
    {above : List String} (hpath : Names (artifactPath r outDir a) above.reverse name)
    (hfile : (name :: above).reverse ∈ p.files) (hway : ∃ rs ∈ p.ways, above <:+ rs) :
    ∃ result c, Acts (Prepared p t) (writeArtifact limit r outDir a) result c ∧ c.Proper p t := by
  obtain ⟨rs, hrs, hsuffix⟩ := hway
  have hready : ∀ u, Prepared p t u → u.Open above ∧ u.get? above.reverse = some .directory := by
    intro u hu
    obtain ⟨hopen, hlast⟩ := hu.2 rs hrs
    refine ⟨open_of_suffix hopen hsuffix, ?_⟩
    by_cases heq : above = rs
    · rw [heq]
      exact hlast
    · exact directory_of_open hopen hsuffix heq
  rw [List.reverse_cons] at hfile
  have hsame : ∀ u, Prepared p t u → u.writeFault? (artifactPath r outDir a) name above.reverse =
      t.writeFault? (artifactPath r outDir a) name above.reverse :=
    fun u hu => writeFault?_congr hu.1.refuses (hu.1.files _ hfile) _
  cases hfault : t.writeFault? (artifactPath r outDir a) name above.reverse with
  | some e =>
    refine ⟨.error (.artifactWrite (artifactPath r outDir a) e), .none, fun u hu => ?_,
      Change.none_proper p t⟩
    obtain ⟨hopen, hdir⟩ := hready u hu
    rw [onTree_writeArtifact, writeBytes_spec hpath hopen hdir, hsame u hu, hfault]
    exact ⟨rfl, hu.1.closed, Change.none_turns u⟩
  | none =>
    have hplace := fault?_of_writable hfault
    refine ⟨.ok (artifactPath r outDir a), placing (above.reverse ++ [name]) (.file (a.text r).toUTF8),
      fun u hu => ?_, placing_proper (.file hfile hplace)⟩
    obtain ⟨hopen, hdir⟩ := hready u hu
    rw [onTree_writeArtifact, writeBytes_spec hpath hopen hdir, hsame u hu, hfault, List.reverse_cons]
    refine ⟨rfl, closed_put_file hu.1.closed hdir ?_ _, placing_turns u (by simp) _⟩
    rw [← hu.1.files _ hfile] at hplace
    exact not_directory_of_fault? hplace

/-! ## One step after another -/

theorem exists_acts_bind {P : FileTree → Prop} {op : ExceptT GenerateError (StateM FileTree) α}
    {f : α → ExceptT GenerateError (StateM FileTree) β}
    (hstable : ∀ c : Change, c.Proper p t → ∀ u v, P u → v.Closed → c.Turns u v → P v)
    (hop : ∃ r c, Acts P op r c ∧ c.Proper p t) (hf : ∀ a, ∃ r c, Acts P (f a) r c ∧ c.Proper p t) :
    ∃ r c, Acts P (op >>= f) r c ∧ c.Proper p t := by
  obtain ⟨r, c, hacts, hproper⟩ := hop
  cases r with
  | error e => exact ⟨.error e, c, acts_bind_error hacts f, hproper⟩
  | ok a =>
    obtain ⟨r', c', hacts', hproper'⟩ := hf a
    exact ⟨r', c.next c', acts_bind_ok hacts (hstable c hproper) hacts', hproper.next hproper'⟩

theorem exists_acts_writeArtifacts {r : Resource} {outDir : String} (artifacts : List Artifact)
    (h : ∀ a ∈ artifacts, ∃ name above, Names (artifactPath r outDir a) above.reverse name ∧
      (name :: above).reverse ∈ p.files ∧ ∃ rs ∈ p.ways, above <:+ rs) :
    ∃ result c, Acts (Prepared p t) (artifacts.mapM (writeArtifact limit r outDir)) result c ∧
      c.Proper p t := by
  have hdone : ∀ paths : List String, ∃ result c,
      Acts (Prepared p t) (pure paths) result c ∧ c.Proper p t :=
    fun paths => ⟨.ok paths, .none, acts_pure (fun u hu => hu.1.closed) paths, Change.none_proper p t⟩
  induction artifacts with
  | nil => exact hdone []
  | cons a artifacts ih =>
    obtain ⟨name, above, hpath, hfile, hway⟩ := h a (by simp)
    have hstable : ∀ c : Change, c.Proper p t → ∀ u v, Prepared p t u → v.Closed → c.Turns u v →
        Prepared p t v := fun c hc u v => prepared_turns hc
    rw [List.mapM_cons]
    refine exists_acts_bind hstable (exists_acts_writeArtifact limit hpath hfile hway) fun path => ?_
    refine exists_acts_bind hstable (ih fun b hb => h b (by simp [hb])) fun paths => ?_
    exact hdone (path :: paths)

end

end Scaffold.Generate
