import Scaffold.Proofs.TypeScript.Signatures

/-! The exported class of a text, read from its lines alone. Members stand between empty lines; the last
line of each tells which kind it is. A printed class is read back as it was. -/

namespace Scaffold.TypeScript
open Text

/-! ## Members of a text -/

def unindent? (line : String) : Option String := inside? "  " "" line

/-- The lines before the brace that closes a block. -/
def block? (lines : List String) : Option (List String) :=
  if lines.getLast? = some "\x7d" then some lines.dropLast else none

/-- A name and its type, as declarations have them. -/
def readTyped? (text : String) : Option (String × String) := do
  let (name, typed) ← cut? ':' text
  let type ← inside? " " "" typed
  return (name, type)

/-- Whether a method is asynchronous, and its name. -/
def readName (text : String) : Bool × String :=
  match inside? "async " "" text with
  | some name => (true, name)
  | none => (false, text)

/-- Whether the parameters stand one a line, the parameters, and the lines behind them; from the end of
the line that opens a method and the lines below it. -/
def readHeader? (opened : String) (below : List String) : Option (Bool × List Param × List String) :=
  if opened = "" then do
    let lines ← (below.takeWhile (· ≠ ") \x7b")).mapM (inside? "  " ",")
    let params ← lines.mapM readParam?
    return (true, params, (below.dropWhile (· ≠ ") \x7b")).drop 1)
  else do
    let params ← readParams? (← inside? "" ") \x7b" opened)
    return (false, params, below)

def readMethod? (lines : List String) : Option Method := do
  let decorators ← (lines.takeWhile (BeginsWith '@' ·)).mapM readDecorator?
  match lines.dropWhile (BeginsWith '@' ·) with
  | [] => none
  | opening :: below => do
    let (start, opened) ← cut? '(' opening
    let (onePerLine, params, behind) ← readHeader? opened below
    let body ← (← block? behind).mapM unindent?
    let (isAsync, name) := readName start
    return { decorators, isAsync, name, params, onePerLine, body }

def readProperty? (decorators : List String) (line : String) : Option Property := do
  let (front, type) ← readTyped? (← inside? "" ";" line)
  return match inside? "" "?" front with
    | some name => ⟨decorators, name, true, type⟩
    | none => ⟨decorators, front, false, type⟩

def readInjected? (line : String) : Option Member := do
  let (name, type) ← readTyped? (← inside? "constructor(private readonly " ") \x7b\x7d" line)
  return .injected name type

/-- A method ends in a line of its own, and a property in a semicolon. -/
def readMember? (lines : List String) : Option Member := do
  let last ← lines.getLast?
  if last = "\x7d" then (readMethod? lines).map .method
  else ((readProperty? lines.dropLast last).map .property).or (readInjected? last)

def readMembers? (lines : List String) : Option (List Member) :=
  if lines.isEmpty then some []
  else (lines.splitOn "").mapM fun lines => do readMember? (← lines.mapM unindent?)

/-! ## The class of a text -/

def readClass? (lines : List String) : Option ClassDecl := do
  let decorators ← (lines.takeWhile (BeginsWith '@' ·)).mapM readDecorator?
  match lines.dropWhile (BeginsWith '@' ·) with
  | [] => none
  | header :: below => do
    let name ← inside? "export class " " \x7b" header
    let members ← readMembers? (← block? below)
    if ' ' ∈ name.toList then none else return { decorators, name, members := some members }

/-- The line is the first one of a class, a decorator or the declaration. -/
def OpensClass (line : String) : Prop := BeginsWith '@' line ∨ "export class ".toList <+: line.toList

instance (line : String) : Decidable (OpensClass line) := inferInstanceAs (Decidable (_ ∨ _))

def exportedClass? (text : String) : Option ClassDecl :=
  readClass? ((linesOf text).dropWhile (¬ OpensClass ·))

/-! ## Blocks -/

theorem unindent?_indent (line : String) : unindent? (indent line) = some line :=
  inside?_eq_some_iff.2 (by simp [indent])

theorem mapM_unindent? (lines : List String) : (lines.map indent).mapM unindent? = some lines :=
  mapM_map_eq_some fun line _ => unindent?_indent line

theorem block?_append (lines : List String) : block? (lines ++ ["\x7d"]) = some lines := by
  unfold block?
  rw [List.getLast?_concat, if_pos rfl, List.dropLast_concat]

theorem readTyped?_append {name : String} (h : ':' ∉ name.toList) (type : String) :
    readTyped? (name ++ ": " ++ type) = some (name, type) := by
  have hsplit : name ++ ": " ++ type = name ++ (String.singleton ':' ++ (" " ++ type)) := by
    rw [← String.toList_inj]
    simp
  have htype : inside? " " "" (" " ++ type) = some type := inside?_eq_some_iff.2 (by simp)
  unfold readTyped?
  rw [hsplit, cut?_append h]
  simp only [Option.bind_eq_bind, Option.bind_some, htype]
  rfl

/-! ## Methods -/

structure Method.IsReadable (m : Method) : Prop where
  decorators : ∀ d ∈ m.decorators, d.IsReadable
  name : IsName m.name
  params : ∀ p ∈ m.params, p.IsReadable

namespace Method
variable {m : Method}

/-- What stands before the parenthesis that opens the parameters. -/
def start (m : Method) : String := (if m.isAsync then "async " else "") ++ m.name

/-- What stands behind it, and the lines of parameters below. -/
def opened (m : Method) : String :=
  if m.onePerLine then "" else commas (m.params.map Param.print) ++ ") \x7b"

def paramLines (m : Method) : List String :=
  if m.onePerLine then (m.params.map Param.print).map (fun p => indent (p ++ ",")) ++ [") \x7b"] else []

theorem lines_eq (m : Method) :
    m.lines = m.decorators.map Decorator.print ++
      (m.start ++ (String.singleton '(' ++ m.opened)) ::
        (m.paramLines ++ (m.body.map indent ++ ["\x7d"])) := by
  have hparen : String.singleton '(' = "(" := rfl
  unfold Method.lines opened paramLines start
  rw [hparen]
  cases m.onePerLine <;> simp [String.append_assoc]

theorem IsReadable.paren_not_mem (h : m.IsReadable) : '(' ∉ m.start.toList := by
  have hname : '(' ∉ m.name.toList := fun hmem => (h.name.ne hmem (by decide)) rfl
  unfold start
  rw [String.toList_append, List.mem_append, not_or]
  refine ⟨?_, hname⟩
  split <;> decide

theorem IsReadable.readName_start (h : m.IsReadable) : readName m.start = (m.isAsync, m.name) := by
  unfold readName start
  cases m.isAsync with
  | true =>
    have hname : inside? "async " "" ("async " ++ m.name) = some m.name :=
      inside?_eq_some_iff.2 String.append_empty.symm
    simp only [if_true, hname]
  | false =>
    have hnone : inside? "async " "" m.name = none := by
      refine inside?_eq_none fun inner hname => ?_
      have hspace : ' ' ∈ m.name.toList := hname ▸ by simp
      exact h.name.ne hspace (by decide) rfl
    simp only [Bool.false_eq_true, if_false, String.empty_append, hnone]

theorem IsReadable.readHeader?_opened (h : m.IsReadable) (behind : List String) :
    readHeader? m.opened (m.paramLines ++ behind) = some (m.onePerLine, m.params, behind) := by
  unfold readHeader? opened paramLines
  cases m.onePerLine with
  | true =>
    have hline : ∀ p ∈ m.params.map Param.print, inside? "  " "," (indent (p ++ ",")) = some p :=
      fun p _ => inside?_eq_some_iff.2 (by simp [indent, String.append_assoc])
    have hparams := mapM_map_eq_some fun p hp => (h.params p hp).readParam?_print
    have hbefore : ∀ line ∈ (m.params.map Param.print).map (fun p => indent (p ++ ",")),
        decide (line ≠ ") \x7b") = true := by
      refine List.forall_mem_map.2 fun p _ => decide_eq_true fun heq => ?_
      have hhead : BeginsWith ')' (indent (p ++ ",")) := heq ▸ (by decide : BeginsWith ')' ") \x7b")
      exact absurd hhead.of_indent (by decide)
    simp only [if_true, List.append_assoc, List.singleton_append,
      List.takeWhile_append_of_pos hbefore, List.dropWhile_append_of_pos hbefore]
    rw [List.takeWhile_cons_of_neg (by simp), List.dropWhile_cons_of_neg (by simp), List.append_nil,
      mapM_map_eq_some hline]
    simp only [Option.bind_eq_bind, Option.bind_some, hparams]
    rfl
  | false =>
    have hopened : commas (m.params.map Param.print) ++ ") \x7b" ≠ "" := by
      rw [← String.toList_inj.ne, String.toList_append]
      exact List.append_ne_nil_of_right_ne_nil _ (by decide)
    have hinner : inside? "" ") \x7b" (commas (m.params.map Param.print) ++ ") \x7b") =
        some (commas (m.params.map Param.print)) := inside?_eq_some_iff.2 (by simp)
    simp only [Bool.false_eq_true, if_false, hopened, hinner, Option.bind_eq_bind, Option.bind_some,
      readParams?_commas h.params]
    rfl

theorem IsReadable.readMethod?_lines (h : m.IsReadable) : readMethod? m.lines = some m := by
  have hat : ∀ line ∈ m.decorators.map Decorator.print, BeginsWith '@' line :=
    List.forall_mem_map.2 fun d _ => d.beginsWith_print
  have hstart : ¬ BeginsWith '@' (m.start ++ (String.singleton '(' ++ m.opened)) := by
    obtain ⟨c, cs, heq, hc⟩ := h.name.exists_head
    intro hbegins
    unfold start at hbegins
    split at hbegins
    · rw [String.append_assoc] at hbegins
      exact absurd (hbegins.of_append rfl) (by decide)
    · rw [String.empty_append] at hbegins
      have hc' : '@' = c := hbegins.of_append (by rw [heq]; rfl)
      exact absurd hc (by rw [← hc']; decide)
  have hdecorators := mapM_map_eq_some fun d hd => (h.decorators d hd).readDecorator?_print
  unfold readMethod?
  rw [m.lines_eq, takeWhile_at hat hstart, dropWhile_at hat hstart, hdecorators]
  simp only [Option.bind_eq_bind, Option.bind_some, cut?_append h.paren_not_mem,
    h.readHeader?_opened, block?_append, mapM_unindent?, h.readName_start]
  rfl

end Method

/-! ## Properties and constructors -/

structure Property.IsReadable (p : Property) : Prop where
  name : ∀ c ∈ p.name.toList, c ≠ ':' ∧ c ≠ '?'

inductive Member.IsReadable : Member → Prop
  | injected {name type : String} : ':' ∉ name.toList → IsReadable (.injected name type)
  | method {m : Method} : m.IsReadable → IsReadable (.method m)
  | property {p : Property} : p.IsReadable → IsReadable (.property p)

/-- The line of a property. -/
def Property.line (p : Property) : String :=
  p.name ++ (if p.isOptional then "?" else "") ++ ": " ++ p.type ++ ";"

theorem Property.lines_eq (p : Property) : p.lines = p.decorators ++ [p.line] := rfl

theorem Property.IsReadable.readProperty?_line {p : Property} (h : p.IsReadable) :
    readProperty? p.decorators p.line = some p := by
  have hinner : inside? "" ";" p.line =
      some (p.name ++ (if p.isOptional then "?" else "") ++ ": " ++ p.type) :=
    inside?_eq_some_iff.2 (by simp [Property.line])
  have hname : ':' ∉ p.name.toList := fun hmem => (h.name _ hmem).1 rfl
  unfold readProperty?
  rw [hinner]
  simp only [Option.bind_eq_bind, Option.bind_some]
  cases hoptional : p.isOptional with
  | true =>
    have hfront : ':' ∉ (p.name ++ "?").toList := by
      rw [String.toList_append, List.mem_append, not_or]
      exact ⟨hname, by decide⟩
    have hmark : inside? "" "?" (p.name ++ "?") = some p.name := inside?_eq_some_iff.2 (by simp)
    rw [if_pos rfl, readTyped?_append hfront]
    simp only [Option.bind_some, hmark, ← hoptional]
    rfl
  | false =>
    have hmark : inside? "" "?" p.name = none := by
      refine inside?_eq_none fun inner heq => ?_
      have hmem : '?' ∈ p.name.toList := heq ▸ by simp
      exact (h.name '?' hmem).2 rfl
    rw [if_neg (by decide), String.append_empty, readTyped?_append hname]
    simp only [Option.bind_some, hmark, ← hoptional]
    rfl

/-- Texts that end in different characters differ. -/
theorem ne_of_last {a b : String} {c d : Char} (h : c ≠ d) {front back : List Char}
    (ha : a.toList = front ++ [c]) (hb : b.toList = back ++ [d]) : a ≠ b := by
  rintro rfl
  exact h (List.append_inj_right' (ha.symm.trans hb) rfl |> List.singleton_inj.1)

theorem Member.IsReadable.readMember?_lines {m : Member} (h : m.IsReadable) :
    readMember? m.lines = some m := by
  unfold readMember?
  cases h with
  | @injected name type hname =>
    have hline : inside? "constructor(private readonly " ") \x7b\x7d"
        ("constructor(private readonly " ++ name ++ ": " ++ type ++ ") \x7b\x7d") =
          some (name ++ ": " ++ type) :=
      inside?_eq_some_iff.2 (by simp [String.append_assoc])
    have hclosed : ("constructor(private readonly " ++ name ++ ": " ++ type ++ ") \x7b\x7d").toList =
        ("constructor(private readonly " ++ name ++ ": " ++ type ++ ") \x7b").toList ++ ['\x7d'] := by
      simp
    have hnone : inside? "" ";"
        ("constructor(private readonly " ++ name ++ ": " ++ type ++ ") \x7b\x7d") = none := by
      refine inside?_eq_none fun inner => ?_
      have hback : ("" ++ inner ++ ";").toList = inner.toList ++ [';'] := by simp
      exact ne_of_last (by decide) hclosed hback
    have hread : readInjected? ("constructor(private readonly " ++ name ++ ": " ++ type ++ ") \x7b\x7d") =
        some (.injected name type) := by
      unfold readInjected?
      rw [hline]
      simp only [Option.bind_eq_bind, Option.bind_some, readTyped?_append hname]
      rfl
    have hlines : (Member.injected name type).lines =
        [] ++ ["constructor(private readonly " ++ name ++ ": " ++ type ++ ") \x7b\x7d"] := rfl
    have hbrace : "constructor(private readonly " ++ name ++ ": " ++ type ++ ") \x7b\x7d" ≠ "\x7d" := by
      rw [← String.toList_inj.ne]
      simp
    rw [hlines, List.getLast?_concat]
    simp only [Option.bind_eq_bind, Option.bind_some, if_neg hbrace, readProperty?, hnone, Option.bind_none,
      Option.map_none, Option.none_or, hread]
  | @method m hm =>
    have hlast : m.lines.getLast? = some "\x7d" := by
      unfold Method.lines
      simp
    have hlines : (Member.method m).lines = m.lines := rfl
    rw [hlines, hlast]
    simp only [Option.bind_eq_bind, Option.bind_some, if_true, hm.readMethod?_lines, Option.map_some]
  | @property p hp =>
    have hlines : (Member.property p).lines = p.decorators ++ [p.line] := rfl
    have hsemi : p.line.toList =
        (p.name ++ (if p.isOptional then "?" else "") ++ ": " ++ p.type).toList ++ [';'] := by
      simp [Property.line]
    have hbrace : p.line ≠ "\x7d" := ne_of_last (by decide) hsemi (by decide : _ = [] ++ ['\x7d'])
    rw [hlines, List.getLast?_concat]
    simp only [Option.bind_eq_bind, Option.bind_some, if_neg hbrace, List.dropLast_concat,
      hp.readProperty?_line, Option.map_some, Option.some_or]

/-! ## Classes -/

structure ClassDecl.IsReadable (c : ClassDecl) : Prop where
  decorators : ∀ d ∈ c.decorators, d.IsReadable
  name : ' ' ∉ c.name.toList
  base : c.base = none
  members : ∃ members, c.members = some members ∧ ∀ m ∈ members, m.IsReadable

theorem Member.lines_ne_nil (m : Member) : m.lines ≠ [] := by
  cases m with
  | injected name type => exact List.cons_ne_nil _ _
  | method m => exact List.append_ne_nil_of_right_ne_nil _ (List.cons_ne_nil _ _)
  | property p => exact List.append_ne_nil_of_right_ne_nil _ (List.cons_ne_nil _ _)

theorem readMembers?_inner {members : List Member} (h : ∀ m ∈ members, m.IsReadable) :
    readMembers? (ClassDecl.inner members) = some members := by
  have hinner : ClassDecl.inner members = [""].intercalate (members.map (·.lines.map indent)) := rfl
  have hblank : ∀ block ∈ members.map (·.lines.map indent), "" ∉ block := by
    refine List.forall_mem_map.2 fun m _ hmem => ?_
    obtain ⟨line, -, hline⟩ := List.mem_map.1 hmem
    have htext := congrArg String.toList hline
    simp [indent] at htext
  have hread : ∀ m ∈ members,
      ((m.lines.map indent).mapM unindent? >>= fun lines => readMember? lines) = some m := by
    intro m hm
    rw [mapM_unindent?]
    exact (h m hm).readMember?_lines
  cases members with
  | nil => rfl
  | cons m members =>
    have hne : ¬ (ClassDecl.inner (m :: members)).isEmpty = true := by
      rw [List.isEmpty_iff, ClassDecl.inner, List.map_cons]
      cases members <;> simp [m.lines_ne_nil]
    unfold readMembers?
    rw [if_neg hne, hinner, List.splitOn_intercalate "" hblank (List.cons_ne_nil _ _)]
    exact mapM_map_eq_some hread

theorem ClassDecl.IsReadable.lines_eq {c : ClassDecl} (h : c.IsReadable) :
    ∃ members, c.members = some members ∧ (∀ m ∈ members, m.IsReadable) ∧
      c.lines = c.decorators.map Decorator.print ++
        ("export class " ++ c.name ++ " \x7b") :: (ClassDecl.inner members ++ ["\x7d"]) := by
  obtain ⟨members, hmembers, hreadable⟩ := h.members
  have hdecorators : c.decorators.flatMap Decorator.lines = c.decorators.map Decorator.print := by
    rw [← List.flatMap_singleton' (c.decorators.map Decorator.print), List.flatMap_map]
    refine List.flatMap_congr fun d hd => ?_
    unfold Decorator.lines
    rw [(h.decorators d hd).lists]
    rfl
  refine ⟨members, hmembers, hreadable, ?_⟩
  unfold ClassDecl.lines
  rw [hmembers, hdecorators, h.base, Option.map_none, Option.getD_none, String.append_empty]
  rfl

theorem ClassDecl.IsReadable.readClass?_lines {c : ClassDecl} (h : c.IsReadable) :
    readClass? c.lines = some c := by
  obtain ⟨members, hmembers, hreadable, hlines⟩ := h.lines_eq
  have hat : ∀ line ∈ c.decorators.map Decorator.print, BeginsWith '@' line :=
    List.forall_mem_map.2 fun d _ => d.beginsWith_print
  have hheader : ¬ BeginsWith '@' ("export class " ++ c.name ++ " \x7b") := by
    rw [String.append_assoc]
    exact fun hbegins => absurd (hbegins.of_append rfl) (by decide)
  have hname : inside? "export class " " \x7b" ("export class " ++ c.name ++ " \x7b") = some c.name :=
    inside?_eq_some_iff.2 rfl
  have hdecorators := mapM_map_eq_some fun d hd => (h.decorators d hd).readDecorator?_print
  unfold readClass?
  rw [hlines, takeWhile_at hat hheader, dropWhile_at hat hheader, hdecorators]
  simp only [Option.bind_eq_bind, Option.bind_some, hname, block?_append, readMembers?_inner hreadable,
    if_neg h.name]
  rw [← hmembers, ← h.base]
  rfl

/-! ## Texts -/

theorem not_opensClass_append {front : String} {c : Char} (hfront : front.toList.head? = some c)
    (hc : c ≠ '@' ∧ c ≠ 'e') (back : String) : ¬ OpensClass (front ++ back) := by
  rintro (h | ⟨rest, heq⟩)
  · exact hc.1 (h.of_append hfront).symm
  · have hexport : BeginsWith 'e' (front ++ back) := by
      unfold BeginsWith
      rw [← heq]
      rfl
    exact hc.2 (hexport.of_append hfront).symm

theorem Import.not_opensClass (i : Import) : ∀ line ∈ i.lines, ¬ OpensClass line := by
  unfold Import.lines
  simp only [String.append_assoc]
  split
  · refine List.forall_mem_cons.2 ⟨by decide, List.forall_mem_append.2 ⟨?_, ?_⟩⟩
    · exact List.forall_mem_map.2 fun n _ => not_opensClass_append rfl (by decide) _
    · exact List.forall_mem_singleton.2 (not_opensClass_append rfl (by decide) _)
  · exact List.forall_mem_singleton.2 (not_opensClass_append rfl (by decide) _)

/-- The class of a file begins at the first line that opens one. -/
theorem SourceFile.dropWhile_lines {f : SourceFile} (h : f.exported.IsReadable) :
    f.lines.dropWhile (¬ OpensClass ·) = f.exported.lines := by
  obtain ⟨members, -, -, hlines⟩ := h.lines_eq
  unfold SourceFile.lines
  rw [List.dropWhile_append_of_pos, hlines]
  · cases f.exported.decorators with
    | nil =>
      have hopens : OpensClass ("export class " ++ f.exported.name ++ " \x7b") :=
        .inr ⟨(f.exported.name ++ " \x7b").toList, by simp⟩
      exact List.dropWhile_cons_of_neg (by simpa using hopens)
    | cons d ds =>
      have hopens : OpensClass d.print := .inl d.beginsWith_print
      exact List.dropWhile_cons_of_neg (by simpa using hopens)
  · -- neither imports nor constants open a class
    simp only [decide_eq_true_eq]
    refine List.forall_mem_append.2 ⟨List.forall_mem_append.2 ⟨?_, ?_⟩, ?_⟩
    · exact List.forall_mem_flatMap.2 fun i _ => i.not_opensClass
    · split
      · exact fun _ => nofun
      · exact List.forall_mem_singleton.2 (by decide)
    · refine List.forall_mem_flatMap.2 fun c _ => List.forall_mem_cons.2
        ⟨?_, List.forall_mem_singleton.2 (by decide)⟩
      unfold constantLine
      simp only [String.append_assoc]
      exact not_opensClass_append rfl (by decide) _

theorem SourceFile.exportedClass?_print {f : SourceFile} (hflat : f.IsFlat) (h : f.exported.IsReadable) :
    exportedClass? f.print = some f.exported := by
  unfold exportedClass?
  rw [SourceFile.linesOf_print hflat, f.dropWhile_lines h]
  exact h.readClass?_lines

end Scaffold.TypeScript
