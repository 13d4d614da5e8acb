import Scaffold.Proofs.FileTree.Operations

/-! The places that a generation touches, directories on its ways and files at their ends, when two
trees look alike there, and the changes of a tree that keep it so. -/

namespace Scaffold.Generate
open FileTree

/-- The places of a generation: the ways to the directories it makes, last name first, and the
files it writes, none of which lies on a way. -/
structure Layout where
  ways : List (List String)
  files : List Location
  apart : ∀ rs ∈ ways, ∀ loc ∈ files, ¬ loc.reverse <:+ rs

namespace Layout

def OnWay (p : Layout) (loc : Location) : Prop := ∃ rs ∈ p.ways, loc.reverse <:+ rs

/-- `u` differs from `t` in nothing that decides how the generation ends. -/
structure Alike (p : Layout) (t u : FileTree) : Prop where
  closed : u.Closed
  refuses : u.refuses = t.refuses
  ways : ∀ loc, p.OnWay loc → u.bar? loc = t.bar? loc
  files : ∀ loc ∈ p.files, u.fault? loc = t.fault? loc

/-- Every way is there. -/
def Ready (p : Layout) (t : FileTree) : Prop :=
  ∀ rs ∈ p.ways, t.Open rs ∧ t.get? rs.reverse = some .directory

/-- What may come to stand in a place: a directory on a way that is not barred, a file in a place
for files where it can be written. -/
inductive Fits (p : Layout) (t : FileTree) (loc : Location) : Entry → Prop
  | directory : p.OnWay loc → t.bar? loc = none → p.Fits t loc .directory
  | file {content : ByteArray} :
      loc ∈ p.files → t.fault? loc = none → p.Fits t loc (.file content)

end Layout

/-- A change of a tree: the entries that come to stand in the places that change. -/
abbrev Change := Location → Option Entry

namespace Change

def none : Change := fun _ => .none

/-- One change after another. -/
def next (first second : Change) : Change := fun loc => (second loc).or (first loc)

/-- The change makes `u` of `t`. -/
structure Turns (c : Change) (t u : FileTree) : Prop where
  entries : ∀ loc, u.get? loc = (c loc).or (t.get? loc)
  refuses : u.refuses = t.refuses

def Proper (c : Change) (p : Layout) (t : FileTree) : Prop :=
  ∀ loc e, c loc = some e → p.Fits t loc e

theorem none_turns (t : FileTree) : none.Turns t t := ⟨fun _ => rfl, rfl⟩

theorem none_proper (p : Layout) (t : FileTree) : none.Proper p t := by
  intro loc e h
  cases h

theorem Turns.next {first second : Change} {t u v : FileTree} (h : first.Turns t u)
    (h' : second.Turns u v) : (first.next second).Turns t v := by
  refine ⟨fun loc => ?_, h'.refuses.trans h.refuses⟩
  rw [h'.entries, h.entries, Change.next, Option.or_assoc]

theorem Proper.next {first second : Change} {p : Layout} {t : FileTree} (h : first.Proper p t)
    (h' : second.Proper p t) : (first.next second).Proper p t := by
  intro loc e heq
  unfold Change.next at heq
  rcases Option.or_eq_some_iff.1 heq with hsecond | ⟨-, hfirst⟩
  · exact h' loc e hsecond
  · exact h loc e hfirst

theorem turns_cases {c : Change} {t u : FileTree} (h : c.Turns t u) (loc : Location) :
    c loc = .none ∧ u.get? loc = t.get? loc ∨ ∃ e, c loc = some e ∧ u.get? loc = some e := by
  cases hc : c loc with
  | none => exact .inl ⟨rfl, by rw [h.entries, hc, Option.none_or]⟩
  | some e => exact .inr ⟨e, rfl, by rw [h.entries, hc, Option.some_or]⟩

/-- On a way nothing comes to stand but directories. -/
theorem Proper.on_way {c : Change} {p : Layout} {t : FileTree} (h : c.Proper p t) {loc : Location}
    (hloc : p.OnWay loc) {e : Entry} (he : c loc = some e) : e = .directory ∧ t.bar? loc = .none := by
  cases h loc e he with
  | directory _ hbar => exact ⟨rfl, hbar⟩
  | file hmem _ =>
    obtain ⟨rs, hrs, hs⟩ := hloc
    exact absurd hs (p.apart rs hrs loc hmem)

theorem Proper.at_file {c : Change} {p : Layout} {t : FileTree} (h : c.Proper p t) {loc : Location}
    (hloc : loc ∈ p.files) {e : Entry} (he : c loc = some e) :
    (∃ content, e = .file content) ∧ t.fault? loc = .none := by
  cases h loc e he with
  | directory hway _ =>
    obtain ⟨rs, hrs, hs⟩ := hway
    exact absurd hs (p.apart rs hrs loc hloc)
  | file _ hfault => exact ⟨⟨_, rfl⟩, hfault⟩

/-- A proper change keeps a tree alike. -/
theorem Proper.alike {c : Change} {p : Layout} {t u v : FileTree} (h : c.Proper p t)
    (hu : p.Alike t u) (hv : v.Closed) (hturns : c.Turns u v) : p.Alike t v := by
  refine ⟨hv, hturns.refuses.trans hu.refuses, fun loc hloc => ?_, fun loc hloc => ?_⟩
  · rcases turns_cases hturns loc with ⟨-, hsame⟩ | ⟨e, he, hnew⟩
    · rw [bar?_congr hturns.refuses hsame, hu.ways loc hloc]
    · obtain ⟨rfl, hbar⟩ := h.on_way hloc he
      rw [bar?_of_directory hnew, hbar]
  · rcases turns_cases hturns loc with ⟨-, hsame⟩ | ⟨e, he, hnew⟩
    · rw [fault?_congr hturns.refuses hsame, hu.files loc hloc]
    · obtain ⟨⟨content, rfl⟩, hfault⟩ := h.at_file hloc he
      have hrefused := refuses_of_fault? hfault
      rw [← hu.refuses, ← hturns.refuses] at hrefused
      rw [fault?_of_file hnew, hrefused, hfault]
      rfl

/-- A proper change keeps the ways there. -/
theorem Proper.ready {c : Change} {p : Layout} {t u v : FileTree} (h : c.Proper p t)
    (hu : p.Ready u) (hturns : c.Turns u v) : p.Ready v := by
  have hdir : ∀ loc, p.OnWay loc → u.get? loc = some .directory → v.get? loc = some .directory := by
    intro loc hloc hget
    rcases turns_cases hturns loc with ⟨-, hsame⟩ | ⟨e, he, hnew⟩
    · rw [hsame, hget]
    · obtain ⟨rfl, -⟩ := h.on_way hloc he
      exact hnew
  intro rs hrs
  obtain ⟨hopen, hlast⟩ := hu rs hrs
  refine ⟨open_mono hturns.refuses hopen fun ss hs => hdir _ ⟨rs, hrs, by rwa [List.reverse_reverse]⟩, ?_⟩
  exact hdir _ ⟨rs, hrs, by simp⟩ hlast

end Change

end Scaffold.Generate
