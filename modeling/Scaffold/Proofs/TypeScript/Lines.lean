import Scaffold.TypeScript.Printer
import Scaffold.Proofs.Text.Words

/-! The lines of a printed file. If no text that a file is made of holds a line feed, none of its lines
does, one case for each kind of part. -/

namespace Scaffold.TypeScript
open Text

/-! ## Texts of one line -/

/-- The text holds no line feed. -/
def Flat (text : String) : Prop := '\n' ∉ text.toList

instance (text : String) : Decidable (Flat text) := inferInstanceAs (Decidable ('\n' ∉ text.toList))

section
variable {a b text : String} {items : List String}

theorem flat_append : Flat (a ++ b) ↔ Flat a ∧ Flat b := by
  unfold Flat
  rw [String.toList_append, List.mem_append, not_or]

theorem Flat.append (ha : Flat a) (hb : Flat b) : Flat (a ++ b) := flat_append.2 ⟨ha, hb⟩

theorem Flat.quote (h : Flat text) : Flat (quote text) :=
  ((by decide : Flat "'").append h).append (by decide)

theorem Flat.braces (h : Flat text) : Flat (braces text) :=
  ((by decide : Flat "\x7b ").append h).append (by decide)

theorem Flat.indent (h : Flat text) : Flat (indent text) := (by decide : Flat "  ").append h

theorem not_mem_commas {c : Char} (hc : c ∉ ", ".toList) (h : ∀ item ∈ items, c ∉ item.toList) :
    c ∉ (commas items).toList := by
  unfold commas
  rw [String.toList_intercalate]
  intro hmem
  rcases mem_intercalate hmem with hcomma | ⟨piece, hpiece, hin⟩
  · exact hc hcomma
  · obtain ⟨item, hitem, rfl⟩ := List.mem_map.1 hpiece
    exact h item hitem hin

theorem not_mem_join {c : Char} (h : ∀ item ∈ items, c ∉ item.toList) :
    c ∉ (String.join items).toList := by
  rw [String.toList_join]
  intro hmem
  obtain ⟨item, hitem, hin⟩ := List.mem_flatMap.1 hmem
  exact h item hitem hin

theorem flat_commas (h : ∀ item ∈ items, Flat item) : Flat (commas items) :=
  not_mem_commas (by decide) h

end

/-! ## The parts of a file -/

def Arg.IsFlat : Arg → Prop
  | .text value => Flat value
  | .ident name => Flat name

structure Import.IsFlat (i : Import) : Prop where
  names : ∀ name ∈ i.names, Flat name
  source : Flat i.source

structure Decorator.IsFlat (d : Decorator) : Prop where
  name : Flat d.name
  args : ∀ arg ∈ d.args, arg.IsFlat
  lists : ∀ l ∈ d.lists, Flat l.1 ∧ ∀ name ∈ l.2, Flat name

structure Param.IsFlat (p : Param) : Prop where
  decorators : ∀ d ∈ p.decorators, d.IsFlat
  name : Flat p.name
  type : Flat p.type

structure Method.IsFlat (m : Method) : Prop where
  decorators : ∀ d ∈ m.decorators, d.IsFlat
  name : Flat m.name
  params : ∀ p ∈ m.params, p.IsFlat
  body : ∀ line ∈ m.body, Flat line

structure Property.IsFlat (p : Property) : Prop where
  decorators : ∀ d ∈ p.decorators, Flat d
  name : Flat p.name
  type : Flat p.type

inductive Member.IsFlat : Member → Prop
  | injected {name type : String} : Flat name → Flat type → IsFlat (.injected name type)
  | method {m : Method} : m.IsFlat → IsFlat (.method m)
  | property {p : Property} : p.IsFlat → IsFlat (.property p)

structure ClassDecl.IsFlat (c : ClassDecl) : Prop where
  decorators : ∀ d ∈ c.decorators, d.IsFlat
  name : Flat c.name
  base : ∀ base ∈ c.base, Flat base
  members : ∀ members ∈ c.members, ∀ m ∈ members, m.IsFlat

/-- No text in the file holds a line feed. -/
structure SourceFile.IsFlat (f : SourceFile) : Prop where
  imports : ∀ i ∈ f.imports, i.IsFlat
  constants : ∀ c ∈ f.constants, Flat c.1 ∧ ∀ value ∈ c.2, Flat value
  exported : f.exported.IsFlat

/-! ## Their lines -/

theorem Import.IsFlat.lines {i : Import} (h : i.IsFlat) : ∀ line ∈ i.lines, Flat line := by
  unfold Import.lines
  split
  · refine List.forall_mem_cons.2 ⟨by decide, List.forall_mem_append.2 ⟨?_, ?_⟩⟩
    · exact List.forall_mem_map.2 fun name hname => ((h.names name hname).append (by decide)).indent
    · refine List.forall_mem_singleton.2 ?_
      exact ((by decide : Flat "\x7d from ").append h.source.quote).append (by decide)
  · refine List.forall_mem_singleton.2 ?_
    exact ((((by decide : Flat "import ").append (flat_commas h.names).braces).append
      (by decide)).append h.source.quote).append (by decide)

theorem Arg.IsFlat.print {a : Arg} (h : a.IsFlat) : Flat a.print := by
  cases a with
  | text value => exact Flat.quote h
  | ident name => exact h

theorem Decorator.IsFlat.print {d : Decorator} (h : d.IsFlat) : Flat d.print := by
  have hargs : ∀ arg ∈ d.args.map Arg.print, Flat arg :=
    List.forall_mem_map.2 fun arg harg => (h.args arg harg).print
  exact ((((by decide : Flat "@").append h.name).append (by decide)).append
    (flat_commas hargs)).append (by decide)

theorem Decorator.IsFlat.lines {d : Decorator} (h : d.IsFlat) : ∀ line ∈ d.lines, Flat line := by
  unfold Decorator.lines
  split
  · exact List.forall_mem_singleton.2 h.print
  · refine List.forall_mem_cons.2 ⟨?_, List.forall_mem_append.2 ⟨?_, ?_⟩⟩
    · exact ((by decide : Flat "@").append h.name).append (by decide)
    · refine List.forall_mem_map.2 fun l hl => Flat.indent ?_
      obtain ⟨hkey, hnames⟩ := h.lists l hl
      exact ((hkey.append (by decide)).append (flat_commas hnames)).append (by decide)
    · exact List.forall_mem_singleton.2 (by decide)

theorem Param.IsFlat.print {p : Param} (h : p.IsFlat) : Flat p.print := by
  have hdecorators : ∀ d ∈ p.decorators.map (·.print ++ " "), Flat d :=
    List.forall_mem_map.2 fun d hd => (h.decorators d hd).print.append (by decide)
  have hjoined : Flat (String.join (p.decorators.map (·.print ++ " "))) := not_mem_join hdecorators
  exact ((hjoined.append h.name).append (by decide)).append h.type

theorem Method.IsFlat.lines {m : Method} (h : m.IsFlat) : ∀ line ∈ m.lines, Flat line := by
  have hstart : Flat ((if m.isAsync then "async " else "") ++ m.name ++ "(") := by
    refine (Flat.append ?_ h.name).append (by decide)
    split <;> decide
  have hparams : ∀ p ∈ m.params.map Param.print, Flat p :=
    List.forall_mem_map.2 fun p hp => (h.params p hp).print
  unfold Method.lines
  dsimp only
  refine List.forall_mem_append.2 ⟨List.forall_mem_append.2 ⟨List.forall_mem_append.2 ⟨?_, ?_⟩, ?_⟩, ?_⟩
  · exact List.forall_mem_map.2 fun d hd => (h.decorators d hd).print
  · split
    · refine List.forall_mem_cons.2 ⟨hstart, List.forall_mem_append.2 ⟨?_, ?_⟩⟩
      · exact List.forall_mem_map.2 fun p hp => ((hparams p hp).append (by decide)).indent
      · exact List.forall_mem_singleton.2 (by decide)
    · exact List.forall_mem_singleton.2 ((hstart.append (flat_commas hparams)).append (by decide))
  · exact List.forall_mem_map.2 fun line hline => (h.body line hline).indent
  · exact List.forall_mem_singleton.2 (by decide)

theorem Property.IsFlat.lines {p : Property} (h : p.IsFlat) : ∀ line ∈ p.lines, Flat line := by
  unfold Property.lines
  refine List.forall_mem_append.2 ⟨h.decorators, List.forall_mem_singleton.2 ?_⟩
  refine (((h.name.append ?_).append (by decide)).append h.type).append (by decide)
  split <;> decide

theorem Member.IsFlat.lines {m : Member} (h : m.IsFlat) : ∀ line ∈ m.lines, Flat line := by
  cases h with
  | injected hname htype =>
    refine List.forall_mem_singleton.2 ?_
    exact ((((by decide : Flat "constructor(private readonly ").append hname).append
      (by decide)).append htype).append (by decide)
  | method hm => exact hm.lines
  | property hp => exact hp.lines

/-- The line that opens a class. -/
def ClassDecl.header (c : ClassDecl) : String :=
  "export class " ++ c.name ++ ((c.base.map (" extends " ++ ·)).getD "")

theorem ClassDecl.IsFlat.header {c : ClassDecl} (h : c.IsFlat) : Flat c.header := by
  refine ((by decide : Flat "export class ").append h.name).append ?_
  cases hbase : c.base with
  | none => decide
  | some base => exact (by decide : Flat " extends ").append (h.base base hbase)

theorem mem_intersperse {α : Type} {sep x : α} {xs : List α} (h : x ∈ xs.intersperse sep) :
    x = sep ∨ x ∈ xs := by
  induction xs with
  | nil => exact .inr h
  | cons y ys ih =>
    cases ys with
    | nil => exact .inr h
    | cons z zs =>
      rcases List.mem_cons.1 h with rfl | h
      · exact .inr List.mem_cons_self
      · rcases List.mem_cons.1 h with rfl | h
        · exact .inl rfl
        · exact (ih h).imp_right (List.mem_cons_of_mem y)

/-- What stands between the braces of a class. -/
def ClassDecl.inner (members : List Member) : List String :=
  ((members.map (·.lines.map TypeScript.indent)).intersperse [""]).flatten

theorem of_mem_inner {members : List Member} {line : String} (h : line ∈ ClassDecl.inner members) :
    line = "" ∨ ∃ m ∈ members, ∃ l ∈ m.lines, line = indent l := by
  obtain ⟨block, hblock, hline⟩ := List.mem_flatten.1 h
  rcases mem_intersperse hblock with rfl | hblock
  · exact .inl (List.mem_singleton.1 hline)
  · obtain ⟨m, hm, rfl⟩ := List.mem_map.1 hblock
    obtain ⟨l, hl, rfl⟩ := List.mem_map.1 hline
    exact .inr ⟨m, hm, l, hl, rfl⟩

theorem ClassDecl.IsFlat.lines {c : ClassDecl} (h : c.IsFlat) : ∀ line ∈ c.lines, Flat line := by
  refine List.forall_mem_append.2 ⟨?_, ?_⟩
  · exact List.forall_mem_flatMap.2 fun d hd => (h.decorators d hd).lines
  · cases hmembers : c.members with
    | none => exact List.forall_mem_singleton.2 (h.header.append (by decide))
    | some members =>
      refine List.forall_mem_cons.2 ⟨h.header.append (by decide), List.forall_mem_append.2 ⟨?_, ?_⟩⟩
      · intro line hline
        rcases of_mem_inner hline with rfl | ⟨m, hm, l, hl, rfl⟩
        · decide
        · exact ((h.members members hmembers m hm).lines l hl).indent
      · exact List.forall_mem_singleton.2 (by decide)

theorem SourceFile.IsFlat.lines {f : SourceFile} (h : f.IsFlat) : ∀ line ∈ f.lines, Flat line := by
  unfold SourceFile.lines
  refine List.forall_mem_append.2 ⟨List.forall_mem_append.2 ⟨List.forall_mem_append.2 ⟨?_, ?_⟩, ?_⟩, ?_⟩
  · exact List.forall_mem_flatMap.2 fun i hi => (h.imports i hi).lines
  · split
    · exact fun _ => nofun
    · exact List.forall_mem_singleton.2 (by decide)
  · refine List.forall_mem_flatMap.2 fun c hc => ?_
    obtain ⟨hname, hvalues⟩ := h.constants c hc
    have hquoted : ∀ value ∈ c.2.map quote, Flat value :=
      List.forall_mem_map.2 fun value hvalue => (hvalues value hvalue).quote
    refine List.forall_mem_cons.2 ⟨?_, List.forall_mem_singleton.2 (by decide)⟩
    exact (((((by decide : Flat "const ").append hname).append (by decide)).append
      (flat_commas hquoted)).append (by decide))
  · exact h.exported.lines

/-! ## What lines begin with -/

def BeginsWith (c : Char) (line : String) : Prop := line.toList.head? = some c

instance (c : Char) (line : String) : Decidable (BeginsWith c line) :=
  inferInstanceAs (Decidable (line.toList.head? = some c))

theorem BeginsWith.of_head {c d : Char} {line : String} (hhead : line.toList.head? = some c)
    (h : BeginsWith d line) : d = c :=
  Option.some.inj (h.symm.trans hhead)

theorem BeginsWith.of_append {c d : Char} {front back : String} (hfront : front.toList.head? = some c)
    (h : BeginsWith d (front ++ back)) : d = c := by
  refine h.of_head ?_
  rw [String.toList_append, List.head?_append, hfront, Option.some_or]

theorem BeginsWith.of_indent {c : Char} {line : String} (h : BeginsWith c (indent line)) : c = ' ' :=
  h.of_append rfl

end Scaffold.TypeScript
