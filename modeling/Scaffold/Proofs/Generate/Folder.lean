import Scaffold.Proofs.Generate.Steps
import Scaffold.Proofs.Naming

/-! The layout of a resource: everything lies in its folder or on the way to it. A generation from
the text of a schema acts alike on all trees that look alike there. -/

namespace Scaffold.Generate
open FileTree Scaffold.Path

/-! ## Where the artifacts lie -/

/-- The place of an artifact below the folder of its resource, last name first. -/
def placeOf (folder : String) : Artifact → List String
  | .controller => [folder ++ ".controller.ts"]
  | .service => [folder ++ ".service.ts"]
  | .module => [folder ++ ".module.ts"]
  | .createDto => ["create-" ++ folder ++ ".dto.ts", "dto"]
  | .updateDto => ["update-" ++ folder ++ ".dto.ts", "dto"]
  | .views => ["views.controller.ts", "views"]

theorem isPlain_dto : IsPlain "dto" := ⟨by decide, by decide, by decide⟩

theorem isPlain_views : IsPlain "views" := ⟨by decide, by decide, by decide⟩

theorem names_below {dir name : String} (hdir : IsPlain dir) (hname : IsPlain name) :
    Names (join dir name) [dir] name ∧ (join dir name).startsWith "/" = false := by
  have hsteps : steps dir = [dir].map .into := hdir.steps
  have hnames := hname.names.join hsteps hname.startsWith
  refine ⟨hnames, startsWith_join ?_ hdir.startsWith hname.startsWith⟩
  rintro rfl
  exact hdir.ne_nil rfl

theorem isPlain_of_mem_placeOf {model : String} (h : Schema.IsIdentifier model.toList)
    (a : Artifact) : ∀ name ∈ placeOf (Naming.kebab model) a, IsPlain name := by
  have hplain : ∀ front back : String, '/' ∉ front.toList → '/' ∉ back.toList →
      IsPlain (front ++ Naming.kebab model ++ back) :=
    fun front back => Naming.isPlain_around_kebab h
  have hfile : ∀ back : String, '/' ∉ back.toList → IsPlain (Naming.kebab model ++ back) := by
    intro back hback
    have hempty := hplain "" back (by decide) hback
    rwa [String.empty_append] at hempty
  cases a with
  | controller => exact List.forall_mem_singleton.2 (hfile ".controller.ts" (by decide))
  | service => exact List.forall_mem_singleton.2 (hfile ".service.ts" (by decide))
  | module => exact List.forall_mem_singleton.2 (hfile ".module.ts" (by decide))
  | createDto =>
    exact List.forall_mem_cons.2 ⟨hplain "create-" ".dto.ts" (by decide) (by decide),
      List.forall_mem_singleton.2 isPlain_dto⟩
  | updateDto =>
    exact List.forall_mem_cons.2 ⟨hplain "update-" ".dto.ts" (by decide) (by decide),
      List.forall_mem_singleton.2 isPlain_dto⟩
  | views =>
    exact List.forall_mem_cons.2 ⟨⟨by decide, by decide, by decide⟩,
      List.forall_mem_singleton.2 isPlain_views⟩

/-- The path of an artifact names its place. -/
theorem names_relativePath {model : String} (h : Schema.IsIdentifier model.toList) (a : Artifact) :
    ∃ name above, placeOf (Naming.kebab model) a = name :: above ∧
      Names (a.relativePath (Naming.kebab model)) above.reverse name ∧
      (a.relativePath (Naming.kebab model)).startsWith "/" = false := by
  have hplain := isPlain_of_mem_placeOf h a
  cases a with
  | controller =>
    have hname := hplain _ List.mem_cons_self
    exact ⟨_, _, rfl, hname.names, hname.startsWith⟩
  | service =>
    have hname := hplain _ List.mem_cons_self
    exact ⟨_, _, rfl, hname.names, hname.startsWith⟩
  | module =>
    have hname := hplain _ List.mem_cons_self
    exact ⟨_, _, rfl, hname.names, hname.startsWith⟩
  | createDto => exact ⟨_, _, rfl, names_below isPlain_dto (hplain _ List.mem_cons_self)⟩
  | updateDto => exact ⟨_, _, rfl, names_below isPlain_dto (hplain _ List.mem_cons_self)⟩
  | views => exact ⟨_, _, rfl, names_below isPlain_views (hplain _ List.mem_cons_self)⟩

/-- The parts of an artifact's path are the names of its place. -/
theorem pieces_relativePath {model : String} (h : Schema.IsIdentifier model.toList) (a : Artifact) :
    pieces (a.relativePath (Naming.kebab model)) =
      (placeOf (Naming.kebab model) a).reverse.map (·.toList) := by
  have hplain := isPlain_of_mem_placeOf h a
  have hbelow : ∀ dir name, IsPlain dir → IsPlain name →
      pieces (join dir name) = [dir.toList, name.toList] := by
    intro dir name hdir hname
    rw [hdir.join hname.startsWith, hdir.pieces_append, hname.pieces]
  cases a with
  | controller => exact (hplain _ List.mem_cons_self).pieces
  | service => exact (hplain _ List.mem_cons_self).pieces
  | module => exact (hplain _ List.mem_cons_self).pieces
  | createDto => exact hbelow _ _ isPlain_dto (hplain _ List.mem_cons_self)
  | updateDto => exact hbelow _ _ isPlain_dto (hplain _ List.mem_cons_self)
  | views => exact hbelow _ _ isPlain_views (hplain _ List.mem_cons_self)

theorem placeOf_dot (folder : String) (a : Artifact) :
    ∃ name above, placeOf folder a = name :: above ∧ '.' ∈ name.toList := by
  cases a <;> exact ⟨_, _, rfl, by simp⟩

theorem placeOf_apart (folder : String) (a : Artifact) {dir : String} (hdir : '.' ∉ dir.toList)
    (base : List String) : ¬ placeOf folder a ++ base <:+ dir :: base := by
  obtain ⟨name, above, hplace, hdot⟩ := placeOf_dot folder a
  rw [hplace]
  intro hs
  rcases List.suffix_cons_iff.1 hs with heq | hs
  · rw [(List.cons.inj heq).1] at hdot
    exact hdir hdot
  · have hle := hs.length_le
    rw [List.length_append, List.length_cons] at hle
    omega

/-- The layout of a resource whose folder lies in `root`. -/
def layout (root : Location) (folder : String) : Layout where
  ways := [["dto", folder] ++ root.reverse, ["views", folder] ++ root.reverse]
  files := Artifact.all.map fun a => (placeOf folder a ++ folder :: root.reverse).reverse
  apart := by
    intro rs hrs loc hloc hs
    obtain ⟨a, -, rfl⟩ := List.mem_map.1 hloc
    rw [List.reverse_reverse] at hs
    rcases List.mem_cons.1 hrs with rfl | hrs
    · exact placeOf_apart folder a (by decide) _ hs
    · obtain rfl := List.mem_singleton.1 hrs
      exact placeOf_apart folder a (by decide) _ hs

theorem mem_ways {root : Location} {folder : String} {rs : List String} :
    rs ∈ (layout root folder).ways ↔
      rs = "dto" :: folder :: root.reverse ∨ rs = "views" :: folder :: root.reverse := by
  constructor
  · intro h
    exact (List.mem_cons.1 h).imp_right List.mem_singleton.1
  · rintro (rfl | rfl)
    · exact List.mem_cons_self
    · exact List.mem_cons_of_mem _ List.mem_cons_self

/-! ## A generation -/

section
variable {settings : Settings} {source outDir model : String} {root : Location}

theorem steps_targetDir {r : Resource} (hfolder : IsPlain r.folder) (outDir : String) :
    steps (targetDir r outDir) = steps outDir ++ [.into r.folder] := by
  unfold targetDir
  rw [steps_join outDir hfolder.startsWith, hfolder.steps]

theorem steps_targetDir_of_names (hout : steps outDir = root.map .into) {r : Resource}
    (hfolder : IsPlain r.folder) :
    steps (targetDir r outDir) = (root ++ [r.folder]).map .into := by
  rw [steps_targetDir hfolder, hout, List.map_append]
  rfl

/-- The directories that a resource needs, each with its way. -/
def neededWays (root : Location) (outDir : String) (r : Resource) : List (String × List String) :=
  [(join (targetDir r outDir) "dto", ["dto", r.folder] ++ root.reverse),
    (join (targetDir r outDir) "views", ["views", r.folder] ++ root.reverse)]

theorem leads_neededWays (hout : steps outDir = root.map .into) {r : Resource}
    (hfolder : IsPlain r.folder) :
    ∀ d ∈ neededWays root outDir r, Leads d.1 d.2 ∧ d.2 ∈ (layout root r.folder).ways := by
  have htarget := steps_targetDir_of_names hout hfolder
  have hnames : ∀ dir : String, IsPlain dir →
      Leads (join (targetDir r outDir) dir) (dir :: r.folder :: root.reverse) := by
    intro dir hdir
    have hjoin := hdir.names.join htarget hdir.startsWith
    change Names _ (r.folder :: root.reverse).reverse dir
    rwa [List.reverse_cons, List.reverse_reverse, ← List.append_nil (root ++ [r.folder])]
  intro d hd
  rcases List.mem_cons.1 hd with rfl | hd
  · exact ⟨hnames "dto" isPlain_dto, mem_ways.2 (.inl rfl)⟩
  · obtain rfl := List.mem_singleton.1 hd
    exact ⟨hnames "views" isPlain_views, mem_ways.2 (.inr rfl)⟩

theorem placeOf_on_way (root : Location) {folder name : String} {a : Artifact} {above : List String}
    (h : placeOf folder a = name :: above) :
    ∃ rs ∈ (layout root folder).ways, above ++ folder :: root.reverse <:+ rs := by
  have hdto := mem_ways.2 (.inl (Eq.refl ("dto" :: folder :: root.reverse)))
  have hviews := mem_ways.2 (.inr (Eq.refl ("views" :: folder :: root.reverse)))
  cases a <;> cases h
  case controller => exact ⟨_, hdto, List.suffix_cons _ _⟩
  case service => exact ⟨_, hdto, List.suffix_cons _ _⟩
  case module => exact ⟨_, hdto, List.suffix_cons _ _⟩
  case createDto => exact ⟨_, hdto, List.suffix_refl _⟩
  case updateDto => exact ⟨_, hdto, List.suffix_refl _⟩
  case views => exact ⟨_, hviews, List.suffix_refl _⟩

theorem names_artifactPath (hmodel : Schema.IsIdentifier model.toList)
    (hout : steps outDir = root.map .into) {r : Resource} (hfolder : r.folder = Naming.kebab model)
    (a : Artifact) :
    ∃ name above, Names (artifactPath r outDir a) above.reverse name ∧
      (name :: above).reverse ∈ (layout root r.folder).files ∧
      ∃ rs ∈ (layout root r.folder).ways, above <:+ rs := by
  obtain ⟨name, above, hplace, hnames, hstart⟩ := names_relativePath hmodel a
  rw [← hfolder] at hplace hnames hstart
  have hplain : IsPlain r.folder := hfolder ▸ Naming.isPlain_kebab hmodel
  have hjoin := hnames.join (steps_targetDir_of_names hout hplain) hstart
  refine ⟨name, above ++ r.folder :: root.reverse, ?_, ?_, placeOf_on_way root hplace⟩
  · rw [List.reverse_append, List.reverse_cons, List.reverse_reverse]
    exact hjoin
  · refine List.mem_map.2 ⟨a, a.mem_all, ?_⟩
    rw [hplace]
    rfl

theorem ready_of_built {p : Layout} {t u v : FileTree} {c : Change} (hturns : c.Turns u v)
    (hrefuses : u.refuses = t.refuses) (hbuilt : ∀ rs ∈ p.ways, Built t c rs) : p.Ready v := by
  intro rs hrs
  obtain ⟨hclear, hdirs⟩ := hbuilt rs hrs
  have hget : ∀ ss, ss <:+ rs → v.get? ss.reverse = some .directory := by
    intro ss hs
    rw [hturns.entries, hdirs ss hs]
    rfl
  exact ⟨open_of_clear (hturns.refuses.trans hrefuses) hclear hget, hget rs (List.suffix_refl rs)⟩

/-- The files of a resource: alike on all trees that look alike to its layout. -/
theorem exists_acts_resource (hmodel : Schema.IsIdentifier model.toList)
    (hout : steps outDir = root.map .into) {r : Resource} (hfolder : r.folder = Naming.kebab model)
    (limit : Duration) (t : FileTree) :
    ∃ result c, Acts ((layout root r.folder).Alike t) (writeArtifacts limit r outDir) result c ∧
      c.Proper (layout root r.folder) t := by
  have hplain : IsPlain r.folder := hfolder ▸ Naming.isPlain_kebab hmodel
  have hways := leads_neededWays hout hplain
  obtain ⟨result, c, hacts, hproper, hbuilt⟩ :=
    exists_acts_makeDirs (t := t) limit (neededWays root outDir r) hways
  unfold writeArtifacts
  cases result with
  | error e => exact ⟨.error e, c, acts_bind_error hacts _, hproper⟩
  | ok done =>
    obtain ⟨result, d, hacts', hproper'⟩ :=
      exists_acts_writeArtifacts (p := layout root r.folder) (t := t) limit Artifact.all
        fun a _ => names_artifactPath hmodel hout hfolder a
    refine ⟨result, c.next d, acts_bind_ok hacts ?_ hacts', hproper.next hproper'⟩
    intro u v hu hv hturns
    refine ⟨hproper.alike hu hv hturns, ready_of_built hturns hu.refuses fun rs hrs => ?_⟩
    rcases mem_ways.1 hrs with rfl | rfl
    · exact hbuilt rfl _ List.mem_cons_self
    · exact hbuilt rfl _ (List.mem_cons_of_mem _ List.mem_cons_self)

end

end Scaffold.Generate
