import Scaffold.Proofs.Resource.Links
import Scaffold.Proofs.TypeScript.Methods

/-! Guards in the text of a controller. The three methods that change data are guarded if the settings
list the class of the model, and otherwise none of them is. A model that begins with a small letter does
not have the name of its class. -/

namespace Scaffold
open Text TypeScript

namespace Naming

theorem toUpper_eq_self_iff {c : Char} (h : Schema.isNameChar c = true) :
    c.toUpper = c ↔ c.isLower = false :=
  of_ascii (p := fun c => c.toUpper = c ↔ c.isLower = false) (by decide +kernel)
    (isAscii_of_isNameChar h)

/-- A model has the name of its class if it does not begin with a small letter. -/
theorem className_eq_self_iff {model : String} (h : Schema.IsIdentifier model.toList) :
    className model = model ↔ ∀ c ∈ model.toList.head?, c.isLower = false := by
  have hchars := Schema.isNameChar_of_mem h
  obtain ⟨first, more, heq, -⟩ := h
  have hfirst : Schema.isNameChar first = true := hchars first (heq ▸ List.mem_cons_self)
  unfold className
  rw [← String.toList_inj, String.toList_ofList, heq, capitalize,
    toUpper_of_ascii (isAscii_of_isNameChar hfirst), List.head?_cons]
  simpa using toUpper_eq_self_iff hfirst

end Naming

namespace Resource
open Generate

/-- The methods of a controller that change data. -/
def mutations : List String := ["create", "update", "remove"]

/-- A decorator of the method lets requests through the guard only. -/
def IsGuarded (text method : String) : Prop := Decorates text "@UseGuards(JwtAuthGuard)" method

theorem mem_guarded_iff (r : Resource) {route : Decorator}
    (hroute : route.print ≠ "@UseGuards(JwtAuthGuard)") :
    "@UseGuards(JwtAuthGuard)" ∈ (r.guarded route).map Decorator.print ↔ r.isProtected = true := by
  unfold guarded
  cases r.isProtected with
  | true =>
    have hguard : Decorator.print ⟨"UseGuards", [.ident "JwtAuthGuard"], []⟩ =
        "@UseGuards(JwtAuthGuard)" := by decide
    simp [hguard]
  | false => simpa using hroute.symm

theorem map_name_controllerMethods (r : Resource) :
    r.controllerMethods.map (·.name) = ["create", "findAll", "findOne", "update", "remove"] := rfl

theorem isAsync_of_mem_controllerMethods {r : Resource} {m : Method} (hm : m ∈ r.controllerMethods) :
    m.isAsync = false := by
  have hall : r.controllerMethods.map (·.isAsync) = List.replicate 5 false := rfl
  exact List.eq_of_mem_replicate (hall ▸ List.mem_map_of_mem hm)

section
variable {r : Resource} (hr : r.IsClean)
include hr

/-- A method of the controller whose route is guarded in a protected resource. -/
theorem isGuarded_method_iff {m : Method} (hm : m ∈ r.controllerMethods) {route : Decorator}
    (hdecorators : m.decorators = r.guarded route)
    (hroute : route.print ≠ "@UseGuards(JwtAuthGuard)") :
    IsGuarded (Artifact.controller.text r) m.name ↔ r.isProtected = true := by
  have hplain : ∀ name ∈ r.controllerMethods.map (·.name), IsName name ∧ name ≠ "constructor" := by
    rw [map_name_controllerMethods]
    decide
  have hdistinct : (r.controllerMethods.map (·.name)).Nodup := by
    rw [map_name_controllerMethods]
    decide
  have hname := hplain m.name (List.mem_map_of_mem hm)
  have hsync := isAsync_of_mem_controllerMethods hm
  obtain ⟨above, below, hmethods⟩ := List.append_of_mem hm
  rw [hmethods] at hplain hdistinct
  have hothers : ∀ other ∈ above ++ below, IsName other.name ∧ other.name ≠ m.name := by
    intro other hother
    have hin : other ∈ above ++ m :: below :=
      (List.mem_append.1 hother).elim (List.mem_append_left _) fun h =>
        List.mem_append_right _ (List.mem_cons_of_mem _ h)
    refine ⟨(hplain other.name (List.mem_map_of_mem hin)).1, fun heq => ?_⟩
    rw [(List.perm_middle.map _).nodup_iff, List.map_cons, List.nodup_cons, ← heq] at hdistinct
    exact hdistinct.1 (List.mem_map_of_mem hother)
  have hmembers : r.controller.exported.members =
      some (.injected r.serviceName r.serviceClass :: (above ++ m :: below).map .method) := by
    rw [← hmethods]
    rfl
  rw [← mem_guarded_iff r hroute, ← hdecorators]
  exact SourceFile.decorates_iff hmembers (List.forall_mem_singleton.2 rfl)
    (isClean_imports hr .controller) hname.1 hsync hname.2 hothers (isFlat_file hr .controller)

theorem isGuarded_iff {method : String} (hmethod : method ∈ mutations) :
    IsGuarded (Artifact.controller.text r) method ↔ r.isProtected = true := by
  have hlength : 4 < r.controllerMethods.length := by
    unfold controllerMethods
    exact Nat.lt_succ_self 4
  simp only [mutations, List.mem_cons, List.not_mem_nil, or_false] at hmethod
  rcases hmethod with rfl | rfl | rfl
  · have hroute : Decorator.print ⟨"Post", [], []⟩ ≠ "@UseGuards(JwtAuthGuard)" := by decide
    exact isGuarded_method_iff hr (m := r.controllerCreate) List.mem_cons_self rfl hroute
  · have hroute : Decorator.print ⟨"Patch", [.text ":id"], []⟩ ≠ "@UseGuards(JwtAuthGuard)" := by decide
    exact isGuarded_method_iff hr (m := r.controllerMethods[3]) (List.getElem_mem _) rfl hroute
  · have hroute : Decorator.print ⟨"Delete", [.text ":id"], []⟩ ≠ "@UseGuards(JwtAuthGuard)" := by decide
    exact isGuarded_method_iff hr (m := r.controllerMethods[4]) (List.getElem_mem _) rfl hroute

end

theorem isProtected_iff (settings : Settings) (source : String) (block : ModelBlock) :
    (resourceOf settings source block).isProtected = true ↔
      Naming.className block.name ∈ settings.protectedModels :=
  List.contains_iff_mem

/-- The controller of a model guards its mutations if the settings list the name of its class, and
otherwise none of them. A model that does not begin with a small letter is listed as it is declared. -/
theorem mutations_guarded_iff (settings : Settings) {source model : String}
    (hmodel : model ∈ Schema.modelNames source) :
    ∃ block, Schema.findBlock? source model = some block ∧
      let controller := Artifact.controller.text (resourceOf settings source block)
      (∀ method ∈ mutations,
        IsGuarded controller method ↔ Naming.className model ∈ settings.protectedModels) ∧
      ((∀ c ∈ model.toList.head?, c.isLower = false) → model ∈ settings.protectedModels →
        ∀ method ∈ mutations, IsGuarded controller method) := by
  obtain ⟨block, hfind, hname⟩ := Schema.exists_findBlock? hmodel
  have hguarded : ∀ method ∈ mutations,
      IsGuarded (Artifact.controller.text (resourceOf settings source block)) method ↔
        Naming.className model ∈ settings.protectedModels := by
    intro method hmethod
    rw [isGuarded_iff (isClean_resourceOf settings hfind) hmethod, isProtected_iff, hname]
  refine ⟨block, hfind, hguarded, fun hfirst hlisted method hmethod => ?_⟩
  have hclass : Naming.className model = model :=
    (Naming.className_eq_self_iff (Schema.isIdentifier_of_mem_modelNames hmodel)).2 hfirst
  exact (hguarded method hmethod).2 (hclass.symm ▸ hlisted)

/-- The settings list users unless they say otherwise. -/
theorem mutations_guarded_user :
    "User" ∈ Schema.modelNames "model User \x7b id Int \x7d" ∧
      ∃ block, Schema.findBlock? "model User \x7b id Int \x7d" "User" = some block ∧
        IsGuarded (Artifact.controller.text
          (resourceOf .default "model User \x7b id Int \x7d" block)) "remove" := by
  have hmodel : "User" ∈ Schema.modelNames "model User \x7b id Int \x7d" := by decide +kernel
  obtain ⟨block, hfind, -, hlisted⟩ := mutations_guarded_iff .default hmodel
  have hfirst : ∀ c ∈ "User".toList.head?, c.isLower = false := by
    rintro _ ⟨⟩
    decide
  exact ⟨hmodel, block, hfind, hlisted hfirst (by decide) "remove" (by decide)⟩

/-- A list that names a model as it is declared may leave it unguarded: it is the name of the class that
counts. -/
theorem mutations_unguarded_lower :
    ¬ ∀ (settings : Settings) (source model : String) (block : ModelBlock),
      Schema.findBlock? source model = some block → model ∈ settings.protectedModels →
        ∀ method ∈ mutations,
          IsGuarded (Artifact.controller.text (resourceOf settings source block)) method := by
  intro hall
  let settings : Settings := { Settings.default with protectedModels := ["user"] }
  have hfind : Schema.findBlock? "model user \x7b\n  id Int\n\x7d" "user" =
      some ⟨"user", "\n  id Int\n"⟩ := by decide +kernel
  have hguarded := hall settings _ _ _ hfind (by decide) "create" (by decide)
  rw [isGuarded_iff (isClean_resourceOf settings hfind) (by decide), isProtected_iff] at hguarded
  exact absurd hguarded (by decide)

end Resource

end Scaffold
