import Scaffold.Proofs.TypeScript.Imports

/-! The methods of a text, as a reader finds them: one line opens a method, and the lines right above it
are its decorators. In a printed class these are the decorators that the method is declared with. -/

namespace Scaffold.TypeScript
open Text

/-! ## Methods of a text -/

/-- The line opens a method of this name in a class. -/
def OpensMethod (name line : String) : Prop := (indent (name ++ "(")).toList <+: line.toList

/-- The line is a decorator of a member of a class. -/
def IsDecoratorLine (line : String) : Prop := (indent "@").toList <+: line.toList

instance (line : String) : Decidable (IsDecoratorLine line) :=
  inferInstanceAs (Decidable ((indent "@").toList <+: line.toList))

/-- A single line of the text opens the method, and this decorator is among those above it. -/
def Decorates (text decorator method : String) : Prop :=
  ∃ before decorators opening after,
    linesOf text = before ++ decorators ++ opening :: after ∧
      OpensMethod method opening ∧ (∀ line ∈ before ++ after, ¬ OpensMethod method line) ∧
      (∀ line ∈ decorators, IsDecoratorLine line) ∧ indent decorator ∈ decorators

/-! ## What a line begins with -/

section
variable {name line : String}

theorem indent_prefix_indent {front : String} :
    (indent front).toList <+: (indent line).toList ↔ front.toList <+: line.toList := by
  unfold indent
  rw [String.toList_append, String.toList_append]
  exact List.prefix_append_right_inj _

/-- A word before a parenthesis begins a line only if it is the first word of the line. -/
theorem word_prefix_iff {word other rest : List Char} {c : Char}
    (hword : ∀ d ∈ word, Schema.isNameChar d = true) (hother : ∀ d ∈ other, Schema.isNameChar d = true)
    (hc : Schema.isNameChar c = false) :
    word ++ ['('] <+: other ++ c :: rest ↔ word = other ∧ c = '(' := by
  constructor
  · rintro ⟨back, h⟩
    rw [List.append_assoc] at h
    obtain ⟨hsame, hparen, -⟩ := eq_of_first (p := (Schema.isNameChar · = false))
      (fun d hd => by simp [hword d hd]) (fun d hd => by simp [hother d hd]) (by decide) hc h
    exact ⟨hsame, hparen.symm⟩
  · rintro ⟨rfl, rfl⟩
    exact ⟨rest, by simp⟩

theorem opensMethod_indent_iff (hname : IsName name) {other : String} {c : Char} {rest : List Char}
    (hother : ∀ d ∈ other.toList, Schema.isNameChar d = true) (hc : Schema.isNameChar c = false)
    (hline : line.toList = other.toList ++ c :: rest) :
    OpensMethod name (indent line) ↔ name = other ∧ c = '(' := by
  unfold OpensMethod
  rw [indent_prefix_indent, String.toList_append, hline, ← String.toList_inj]
  exact word_prefix_iff hname.2 hother hc

/-- The line opens no method and is no decorator. -/
structure IsInert (line : String) : Prop where
  decorator : ¬ IsDecoratorLine line
  method : ∀ name, IsName name → ¬ OpensMethod name line

theorem isInert_of_head (h : ¬ BeginsWith ' ' line) : IsInert line := by
  have hindent : ∀ front : String, ¬ (indent front).toList <+: line.toList := by
    rintro front ⟨back, hback⟩
    refine h ?_
    unfold BeginsWith
    rw [← hback]
    simp [indent]
  exact ⟨hindent _, fun name _ => hindent _⟩

theorem isInert_empty : IsInert "" := isInert_of_head (by decide)

theorem isInert_append {front : String} {c : Char} (hfront : front.toList.head? = some c) (hc : ' ' ≠ c)
    (back : String) : IsInert (front ++ back) :=
  isInert_of_head fun h => hc (h.of_append hfront)

theorem isInert_indent {other : String} {c : Char} {rest : List Char}
    (hother : ∀ d ∈ other.toList, Schema.isNameChar d = true) (hc : Schema.isNameChar c = false)
    (hat : c ≠ '@') (hparen : c ≠ '(') (hline : line.toList = other.toList ++ c :: rest) :
    IsInert (indent line) := by
  refine ⟨fun h => ?_, fun name hname h => hparen ((opensMethod_indent_iff hname hother hc hline).1 h).2⟩
  unfold IsDecoratorLine at h
  rw [indent_prefix_indent, hline] at h
  cases hword : other.toList with
  | nil =>
    rw [hword] at h
    exact hat (List.cons_prefix_cons.1 h).1.symm
  | cons d ds =>
    rw [hword] at h hother
    rw [← (List.cons_prefix_cons.1 h).1] at hother
    exact absurd (hother '@' List.mem_cons_self) (by decide)

theorem isInert_indent_of_head {c : Char} {rest : List Char} (hc : Schema.isNameChar c = false)
    (hat : c ≠ '@') (hparen : c ≠ '(') (hline : line.toList = c :: rest) : IsInert (indent line) := by
  have hsplit : line.toList = "".toList ++ c :: rest := hline
  exact isInert_indent (List.all_eq_true.1 (by decide)) hc hat hparen hsplit

theorem isDecoratorLine_print (d : Decorator) : IsDecoratorLine (indent d.print) := by
  unfold IsDecoratorLine Decorator.print
  simp only [indent_prefix_indent, String.append_assoc]
  exact ⟨_, String.toList_append.symm⟩

theorem not_opensMethod_of_decorator (hname : IsName name) (h : IsDecoratorLine line) :
    ¬ OpensMethod name line := by
  obtain ⟨back, hback⟩ := h
  have hline : line = indent (String.ofList ('@' :: back)) := by
    rw [← String.toList_inj, ← hback]
    simp [indent]
  have hsplit : (String.ofList ('@' :: back)).toList = "".toList ++ '@' :: back := by simp
  intro hopens
  rw [hline] at hopens
  have hword :=
    (opensMethod_indent_iff hname (List.all_eq_true.1 (by decide)) (by decide) hsplit).1 hopens
  exact absurd hword.2 (by decide)

end

/-! ## The lines around the members of a class -/

theorem Import.IsClean.isInert {i : Import} (h : i.IsClean) : ∀ line ∈ i.lines, IsInert line := by
  unfold Import.lines
  simp only [String.append_assoc]
  split
  · refine List.forall_mem_cons.2 ⟨isInert_of_head (by decide), List.forall_mem_append.2 ⟨?_, ?_⟩⟩
    · refine List.forall_mem_map.2 fun name hname => ?_
      exact isInert_indent (h.names name hname).2 (by decide : Schema.isNameChar ',' = false)
        (by decide) (by decide) String.toList_append
    · exact List.forall_mem_singleton.2 (isInert_append rfl (by decide) _)
  · exact List.forall_mem_singleton.2 (isInert_append rfl (by decide) _)

theorem isInert_constants (constants : List (String × List String)) :
    ∀ line ∈ constants.flatMap (fun (name, values) => [constantLine name values, ""]), IsInert line := by
  refine List.forall_mem_flatMap.2 fun c _ => List.forall_mem_cons.2
    ⟨?_, List.forall_mem_singleton.2 isInert_empty⟩
  unfold constantLine
  simp only [String.append_assoc]
  exact isInert_append rfl (by decide) _

/-- What stands before the members of a file's class. -/
theorem SourceFile.exists_front {f : SourceFile} {members : List Member}
    (hmembers : f.exported.members = some members) (himports : ∀ i ∈ f.imports, i.IsClean)
    (hplain : ∀ d ∈ f.exported.decorators, d.lists = []) :
    ∃ front, f.lines = front ++ (ClassDecl.inner members ++ ["\x7d"]) ∧ ∀ line ∈ front, IsInert line := by
  refine ⟨f.imports.flatMap Import.lines ++ (if f.imports.isEmpty then [] else [""]) ++
    f.constants.flatMap (fun (name, values) => [constantLine name values, ""]) ++
    f.exported.decorators.flatMap Decorator.lines ++ [f.exported.header ++ " \x7b"], ?_, ?_⟩
  · unfold SourceFile.lines ClassDecl.lines
    rw [hmembers]
    simp only [List.append_assoc, List.singleton_append]
    rfl
  · refine List.forall_mem_append.2 ⟨List.forall_mem_append.2 ⟨List.forall_mem_append.2
      ⟨List.forall_mem_append.2 ⟨?_, ?_⟩, isInert_constants _⟩, ?_⟩, ?_⟩
    · exact List.forall_mem_flatMap.2 fun i hi => (himports i hi).isInert
    · split
      · exact fun _ => nofun
      · exact List.forall_mem_singleton.2 isInert_empty
    · refine List.forall_mem_flatMap.2 fun d hd => ?_
      unfold Decorator.lines Decorator.print
      rw [hplain d hd]
      simp only [String.append_assoc]
      exact List.forall_mem_singleton.2 (isInert_append rfl (by decide) _)
    · unfold ClassDecl.header
      simp only [String.append_assoc]
      exact List.forall_mem_singleton.2 (isInert_append rfl (by decide) _)

theorem inner_append {front back : List Member} (hfront : front ≠ []) (hback : back ≠ []) :
    ClassDecl.inner (front ++ back) = ClassDecl.inner front ++ "" :: ClassDecl.inner back := by
  obtain ⟨b, back, rfl⟩ := List.exists_cons_of_ne_nil hback
  induction front with
  | nil => exact absurd rfl hfront
  | cons a front ih =>
    cases front with
    | nil => simp [ClassDecl.inner]
    | cons a' front =>
      have hrest := ih (List.cons_ne_nil a' front)
      unfold ClassDecl.inner at hrest ⊢
      simp only [List.cons_append, List.map_cons, List.intersperse_cons_cons,
        List.flatten_cons] at hrest ⊢
      rw [hrest]
      simp only [List.append_assoc, List.cons_append]

/-- The lines of a member behind others: they follow an empty line. -/
theorem exists_inner_of_mem {front : List Member} (hfront : front ≠ []) (m : Member)
    (back : List Member) :
    ∃ below, ClassDecl.inner (front ++ m :: back) =
        ClassDecl.inner front ++ "" :: (m.lines.map indent ++ below) ∧
      ∀ line ∈ below, line = "" ∨ line ∈ ClassDecl.inner back := by
  have hsingle : ClassDecl.inner [m] = m.lines.map indent := by simp [ClassDecl.inner]
  rw [inner_append hfront (List.cons_ne_nil m back)]
  by_cases hback : back = []
  · refine ⟨[], ?_, fun _ => nofun⟩
    rw [hback, hsingle, List.append_nil]
  · refine ⟨"" :: ClassDecl.inner back, ?_, fun line hline => List.mem_cons.1 hline⟩
    have hrest := inner_append (List.cons_ne_nil m []) hback
    rw [hsingle, List.singleton_append] at hrest
    rw [hrest]

/-! ## The lines of a method -/

theorem Method.exists_lines (m : Method) :
    ∃ opening below rest, m.lines = m.decorators.map Decorator.print ++ opening :: below ∧
      opening = (if m.isAsync then "async " else "") ++ m.name ++ "(" ++ rest ∧
      ∀ line ∈ below, IsInert (indent line) := by
  have hindent : ∀ line, IsInert (indent (indent line)) := by
    intro line
    have hline : (indent line).toList = ' ' :: ' ' :: line.toList := String.toList_append
    exact isInert_indent_of_head (by decide) (by decide) (by decide) hline
  have hbody : ∀ line ∈ m.body.map indent ++ ["\x7d"], IsInert (indent line) :=
    List.forall_mem_append.2 ⟨List.forall_mem_map.2 fun line _ => hindent line,
      List.forall_mem_singleton.2
        (isInert_indent_of_head (c := '}') (by decide) (by decide) (by decide) rfl)⟩
  unfold Method.lines
  dsimp only
  split
  · refine ⟨_, (m.params.map Param.print).map (fun p => indent (p ++ ",")) ++ [") \x7b"] ++
      (m.body.map indent ++ ["\x7d"]), "", ?_, String.append_empty.symm, ?_⟩
    · simp only [List.append_assoc, List.cons_append]
    · refine List.forall_mem_append.2 ⟨List.forall_mem_append.2 ⟨?_, ?_⟩, hbody⟩
      · exact List.forall_mem_map.2 fun p _ => hindent _
      · exact List.forall_mem_singleton.2
          (isInert_indent_of_head (c := ')') (by decide) (by decide) (by decide) rfl)
  · refine ⟨_, m.body.map indent ++ ["\x7d"], commas (m.params.map Param.print) ++ ") \x7b", ?_, rfl,
      hbody⟩
    simp only [List.append_assoc, List.cons_append, List.nil_append, String.append_assoc]

/-- A method opens under its own name only. -/
theorem Method.name_of_opensMethod {m : Method} {name line : String} (hm : IsName m.name)
    (hname : IsName name) (hline : line ∈ m.lines) (h : OpensMethod name (indent line)) :
    name = m.name := by
  obtain ⟨opening, below, rest, hlines, hopening, hbelow⟩ := m.exists_lines
  rw [hlines] at hline
  rcases List.mem_append.1 hline with hline | hline
  · obtain ⟨d, -, rfl⟩ := List.mem_map.1 hline
    exact absurd h (not_opensMethod_of_decorator hname (isDecoratorLine_print d))
  · rcases List.mem_cons.1 hline with rfl | hline
    · cases hsync : m.isAsync with
      | false =>
        have hsplit : line.toList = m.name.toList ++ '(' :: rest.toList := by
          rw [hopening, hsync]
          simp
        exact ((opensMethod_indent_iff hname hm.2 (by decide) hsplit).1 h).1
      | true =>
        have hsplit : line.toList = "async".toList ++ ' ' :: (m.name ++ "(" ++ rest).toList := by
          rw [hopening, hsync]
          simp
        have hword :=
          (opensMethod_indent_iff hname (List.all_eq_true.1 (by decide)) (by decide) hsplit).1 h
        exact absurd hword.2 (by decide)
    · exact absurd h ((hbelow line hline).method name hname)

/-- The constructor opens no method of another name. -/
theorem not_opensMethod_of_injected {name service type line : String} (hname : IsName name)
    (hconstructor : name ≠ "constructor") (hline : line ∈ (Member.injected service type).lines) :
    ¬ OpensMethod name (indent line) := by
  obtain rfl := List.mem_singleton.1 hline
  have hsplit : ("constructor(private readonly " ++ service ++ ": " ++ type ++ ") \x7b\x7d").toList =
      "constructor".toList ++
        '(' :: ("private readonly " ++ service ++ ": " ++ type ++ ") \x7b\x7d").toList := by
    simp
  intro hopens
  exact hconstructor
    ((opensMethod_indent_iff hname (List.all_eq_true.1 (by decide)) (by decide) hsplit).1 hopens).1

theorem not_opensMethod_inner {members : List Member} {name : String} (hname : IsName name)
    (h : ∀ m ∈ members, ∀ line ∈ m.lines, ¬ OpensMethod name (indent line)) :
    ∀ line ∈ ClassDecl.inner members, ¬ OpensMethod name line := by
  intro line hline
  rcases of_mem_inner hline with rfl | ⟨member, hmember, l, hl, rfl⟩
  · exact isInert_empty.method _ hname
  · exact h member hmember l hl

/-! ## Methods of a printed class -/

theorem suffix_of_append_eq {α : Type} {p : α → Prop} {as bs cs ds : List α} {x : α}
    (hbs : ∀ b ∈ bs, p b) (hx : ¬ p x) (h : as ++ bs = cs ++ x :: ds) : bs <:+ ds := by
  rcases List.append_eq_append_iff.1 h with ⟨more, -, hrest⟩ | ⟨more, -, hrest⟩
  · rw [hrest] at hbs
    exact absurd (hbs x (by simp)) hx
  · cases more with
    | nil =>
      rw [List.nil_append] at hrest
      rw [← hrest] at hbs
      exact absurd (hbs x List.mem_cons_self) hx
    | cons y more => exact ⟨more, (List.cons.inj hrest).2.symm⟩

section
variable {f : SourceFile} {m : Method} {above below : List Method} {service type : String}
  (hmembers : f.exported.members = some (.injected service type :: (above ++ m :: below).map .method))
  (hplain : ∀ d ∈ f.exported.decorators, d.lists = []) (himports : ∀ i ∈ f.imports, i.IsClean)
  (hname : IsName m.name) (hsync : m.isAsync = false) (hconstructor : m.name ≠ "constructor")
  (hothers : ∀ other ∈ above ++ below, IsName other.name ∧ other.name ≠ m.name)
include hmembers hplain himports hname hsync hconstructor hothers

/-- The line that opens a method, the lines of its decorators, and an empty line before them. -/
theorem SourceFile.exists_lines_of_method :
    ∃ front opening back,
      f.lines = front ++ "" :: (m.decorators.map (indent ∘ Decorator.print) ++ opening :: back) ∧
      OpensMethod m.name opening ∧ ∀ line ∈ front ++ back, ¬ OpensMethod m.name line := by
  obtain ⟨front, hlines, hfront⟩ := f.exists_front hmembers himports hplain
  obtain ⟨opening, inside, rest, hmethod, hopening, hinside⟩ := m.exists_lines
  obtain ⟨behind, hinner, hbehind⟩ := exists_inner_of_mem
    (List.cons_ne_nil (Member.injected service type) (above.map .method)) (.method m) (below.map .method)
  have hother : ∀ other ∈ above ++ below, ∀ line ∈ other.lines, ¬ OpensMethod m.name (indent line) := by
    intro other hmem line hline hopens
    obtain ⟨hword, hne⟩ := hothers other hmem
    exact hne (other.name_of_opensMethod hword hname hline hopens).symm
  obtain ⟨hotherAbove, hotherBelow⟩ := List.forall_mem_append.1 hother
  have habove : ∀ line ∈ ClassDecl.inner (.injected service type :: above.map .method),
      ¬ OpensMethod m.name line :=
    not_opensMethod_inner hname (List.forall_mem_cons.2
      ⟨fun _ => not_opensMethod_of_injected hname hconstructor, List.forall_mem_map.2 hotherAbove⟩)
  have hbelow : ∀ line ∈ behind, ¬ OpensMethod m.name line := by
    intro line hline
    rcases hbehind line hline with rfl | hline
    · exact isInert_empty.method _ hname
    · exact not_opensMethod_inner hname (List.forall_mem_map.2 hotherBelow) line hline
  refine ⟨front ++ ClassDecl.inner (.injected service type :: above.map .method), indent opening,
    inside.map indent ++ behind ++ ["\x7d"], ?_, ?_, ?_⟩
  · have hsplit : Member.injected service type :: (above ++ m :: below).map Member.method =
        (Member.injected service type :: above.map .method) ++ .method m :: below.map .method := by
      simp
    rw [hlines, hsplit, hinner]
    unfold Member.lines
    dsimp only
    rw [hmethod]
    simp
  · have hsplit : opening.toList = m.name.toList ++ '(' :: rest.toList := by
      rw [hopening, hsync]
      simp
    exact (opensMethod_indent_iff hname hname.2 (by decide) hsplit).2 ⟨rfl, rfl⟩
  · refine List.forall_mem_append.2 ⟨List.forall_mem_append.2 ⟨?_, habove⟩,
      List.forall_mem_append.2 ⟨List.forall_mem_append.2 ⟨?_, hbelow⟩, ?_⟩⟩
    · exact fun line hline => (hfront line hline).method _ hname
    · exact List.forall_mem_map.2 fun line hline => (hinside line hline).method _ hname
    · exact List.forall_mem_singleton.2 ((isInert_of_head (by decide)).method _ hname)

/-- In the text of a file a method has the decorators that it is declared with. -/
theorem SourceFile.decorates_iff (hflat : f.IsFlat) {decorator : String} :
    Decorates f.print decorator m.name ↔ decorator ∈ m.decorators.map Decorator.print := by
  obtain ⟨front, opening, back, hlines, hopening, hothers⟩ := f.exists_lines_of_method hmembers hplain
    himports hname hsync hconstructor hothers
  have hprinted : ∀ line ∈ m.decorators.map (indent ∘ Decorator.print), IsDecoratorLine line :=
    List.forall_mem_map.2 fun d _ => isDecoratorLine_print d
  have hclosed : ∀ line ∈ front ++ "" :: m.decorators.map (indent ∘ Decorator.print),
      ¬ OpensMethod m.name line := by
    refine List.forall_mem_append.2 ⟨(List.forall_mem_append.1 hothers).1, List.forall_mem_cons.2
      ⟨isInert_empty.method _ hname, fun line hline =>
        not_opensMethod_of_decorator hname (hprinted line hline)⟩⟩
  unfold Decorates
  rw [SourceFile.linesOf_print hflat]
  constructor
  · rintro ⟨before, decorators, opening', after, hlines', hopening', hothers', hdecorators, hmem⟩
    have hclosed' : ∀ line ∈ before ++ decorators, ¬ OpensMethod m.name line :=
      List.forall_mem_append.2 ⟨(List.forall_mem_append.1 hothers').1, fun line hline =>
        not_opensMethod_of_decorator hname (hdecorators line hline)⟩
    have hsame : before ++ decorators ++ opening' :: after =
        (front ++ "" :: m.decorators.map (indent ∘ Decorator.print)) ++ opening :: back := by
      rw [← hlines', hlines]
      simp
    obtain ⟨hfront, -, -⟩ := eq_of_first hclosed' hclosed hopening' hopening hsame
    have hin := (suffix_of_append_eq hdecorators isInert_empty.decorator hfront).subset hmem
    obtain ⟨d, hd, heq⟩ := List.mem_map.1 hin
    exact List.mem_map.2 ⟨d, hd, (String.append_right_inj _).1 heq⟩
  · intro hmem
    obtain ⟨d, hd, rfl⟩ := List.mem_map.1 hmem
    refine ⟨front ++ [""], m.decorators.map (indent ∘ Decorator.print), opening, back, ?_, hopening, ?_,
      hprinted, List.mem_map.2 ⟨d, hd, rfl⟩⟩
    · rw [hlines]
      simp
    · intro line hline
      simp only [List.append_assoc, List.mem_append, List.mem_singleton] at hline
      rcases hline with hline | rfl | hline
      · exact hothers line (List.mem_append_left _ hline)
      · exact isInert_empty.method _ hname
      · exact hothers line (List.mem_append_right _ hline)

end

/-! ## Decorator lines of a printed class -/

/-- The lines right behind those that are `line`. -/
def linesBehind (line : String) : List String → List String
  | [] => []
  | first :: rest => (if first = line then rest.head?.toList else []) ++ linesBehind line rest

theorem linesBehind_of_not_mem {line : String} {lines : List String} (h : line ∉ lines) :
    linesBehind line lines = [] := by
  induction lines with
  | nil => rfl
  | cons first rest ih =>
    rw [List.mem_cons, not_or] at h
    rw [linesBehind, if_neg fun heq => h.1 heq.symm, ih h.2]
    rfl

theorem linesBehind_append {line : String} {front : List String} (h : front.getLast? ≠ some line)
    (back : List String) :
    linesBehind line (front ++ back) = linesBehind line front ++ linesBehind line back := by
  induction front with
  | nil => rfl
  | cons first rest ih =>
    cases rest with
    | nil =>
      have hne : first ≠ line := fun heq => h (heq ▸ rfl)
      simp [linesBehind, hne]
    | cons second rest =>
      rw [List.getLast?_cons_cons] at h
      have hrest := ih h
      rw [List.cons_append, linesBehind, hrest, ← List.append_assoc]
      rfl

namespace Method
variable {m : Method}

def decoratorLines (m : Method) : List String := m.decorators.map (indent ∘ Decorator.print)

/-- The lines of a method below its decorators. -/
def restLines (m : Method) : List String := (m.lines.map indent).drop m.decorators.length

theorem map_indent_lines (m : Method) : m.lines.map indent = m.decoratorLines ++ m.restLines := by
  obtain ⟨opening, below, rest, hlines, -, -⟩ := m.exists_lines
  unfold decoratorLines restLines
  rw [hlines, List.map_append, List.map_map, List.drop_left' (by simp)]

theorem restLines_spec (hname : IsName m.name) :
    m.restLines ≠ [] ∧ ∀ line ∈ m.restLines, ¬ IsDecoratorLine line := by
  obtain ⟨opening, below, rest, hlines, hopening, hbelow⟩ := m.exists_lines
  have heq : m.restLines = (opening :: below).map indent := by
    unfold restLines
    rw [hlines, List.map_append, List.map_map, List.drop_left' (by simp)]
  rw [heq]
  refine ⟨List.cons_ne_nil _ _, List.forall_mem_cons.2 ⟨?_, List.forall_mem_map.2 fun line hline =>
    (hbelow line hline).decorator⟩⟩
  unfold IsDecoratorLine
  rw [indent_prefix_indent, hopening]
  cases m.isAsync with
  | true => simp
  | false =>
    obtain ⟨c, cs, hhead, hc⟩ := hname.exists_head
    have hat : '@' ≠ c := by
      rintro rfl
      exact absurd hc (by decide)
    simp [hhead, hat]

end Method

theorem inner_cons (first : Member) (members : List Member) :
    ClassDecl.inner (first :: members) =
      first.lines.map indent ++ members.flatMap fun m => "" :: m.lines.map indent := by
  induction members generalizing first with
  | nil => simp [ClassDecl.inner]
  | cons next members ih =>
    have happend := inner_append (List.cons_ne_nil first []) (List.cons_ne_nil next members)
    have hsingle : ClassDecl.inner [first] = first.lines.map indent := by simp [ClassDecl.inner]
    rw [List.singleton_append, hsingle, ih next] at happend
    rw [happend, List.flatMap_cons, List.cons_append]

theorem ne_of_isDecoratorLine {line : String} (hline : IsDecoratorLine line) : "" ≠ line ∧ "\x7d" ≠ line :=
  ⟨fun heq => isInert_empty.decorator (heq ▸ hline),
    fun heq => (isInert_of_head (by decide)).decorator (heq ▸ hline)⟩

theorem linesBehind_methods {methods : List Method} {line : String} (hnames : ∀ m ∈ methods, IsName m.name)
    (hline : IsDecoratorLine line) (hlast : ∀ m ∈ methods, m.decoratorLines.getLast? ≠ some line) :
    linesBehind line ((methods.flatMap fun m => "" :: (m.decoratorLines ++ m.restLines)) ++ ["\x7d"]) =
      methods.flatMap fun m => linesBehind line m.decoratorLines := by
  obtain ⟨hempty, hbrace⟩ := ne_of_isDecoratorLine hline
  induction methods with
  | nil => exact linesBehind_of_not_mem (by simpa using hbrace.symm)
  | cons m methods ih =>
    obtain ⟨hm, hnames'⟩ := List.forall_mem_cons.1 hnames
    obtain ⟨hmLast, hlast'⟩ := List.forall_mem_cons.1 hlast
    obtain ⟨hne, hrest⟩ := Method.restLines_spec hm
    have hend : (m.decoratorLines ++ m.restLines).getLast? ≠ some line := by
      rw [List.getLast?_append, List.getLast?_eq_some_getLast hne, Option.some_or]
      rintro heq
      exact hrest line (Option.some_inj.1 heq ▸ List.getLast_mem hne) hline
    have hbehind : linesBehind line m.restLines = [] :=
      linesBehind_of_not_mem fun hmem => hrest line hmem hline
    rw [List.flatMap_cons, List.cons_append, List.cons_append, linesBehind, if_neg hempty, List.nil_append,
      List.append_assoc, linesBehind_append hend, linesBehind_append hmLast, hbehind, List.append_nil,
      ih hnames' hlast', List.flatMap_cons]

section
variable {f : SourceFile} {methods : List Method} {service type line : String}
  (hmembers : f.exported.members = some (.injected service type :: methods.map .method))
  (hplain : ∀ d ∈ f.exported.decorators, d.lists = []) (himports : ∀ i ∈ f.imports, i.IsClean)
  (hnames : ∀ m ∈ methods, IsName m.name)
include hmembers hplain himports

/-- The methods of a class, each behind an empty line, and what stands before the first. -/
theorem SourceFile.exists_lines_of_methods :
    ∃ front, f.lines =
        front ++ (methods.flatMap fun m => "" :: (m.decoratorLines ++ m.restLines)) ++ ["\x7d"] ∧
      ∀ line ∈ front, ¬ IsDecoratorLine line := by
  obtain ⟨front, hlines, hfront⟩ := f.exists_front hmembers himports hplain
  have hmethods : (methods.map Member.method).flatMap (fun m => "" :: m.lines.map indent) =
      methods.flatMap fun m => "" :: (m.decoratorLines ++ m.restLines) := by
    have hblock : (fun m : Method => "" :: (Member.method m).lines.map indent) =
        fun m => "" :: (m.decoratorLines ++ m.restLines) :=
      funext fun m => congrArg _ m.map_indent_lines
    rw [List.flatMap_map, hblock]
  refine ⟨front ++ (Member.injected service type).lines.map indent, ?_, ?_⟩
  · rw [hlines, inner_cons, hmethods]
    simp only [List.append_assoc]
  · refine List.forall_mem_append.2 ⟨fun line hline => (hfront line hline).decorator, ?_⟩
    refine List.forall_mem_singleton.2 ?_
    unfold IsDecoratorLine
    rw [indent_prefix_indent]
    simp

variable (hline : IsDecoratorLine line)
include hnames hline

/-- A decorator stands in the text as often as the methods have it. -/
theorem SourceFile.count_decoratorLine :
    f.lines.count line = (methods.flatMap Method.decoratorLines).count line := by
  obtain ⟨front, hlines, hfront⟩ := f.exists_lines_of_methods hmembers hplain himports
  obtain ⟨hempty, hbrace⟩ := ne_of_isDecoratorLine hline
  have hmethod : methods.map (List.count line ∘ fun m => "" :: (m.decoratorLines ++ m.restLines)) =
      methods.map (List.count line ∘ Method.decoratorLines) := by
    refine List.map_congr_left fun m hm => ?_
    show ("" :: (m.decoratorLines ++ m.restLines)).count line = m.decoratorLines.count line
    have hrest : m.restLines.count line = 0 :=
      List.count_eq_zero.2 fun hmem => (Method.restLines_spec (hnames m hm)).2 line hmem hline
    rw [List.count_cons_of_ne hempty, List.count_append, hrest, Nat.add_zero]
  rw [hlines, List.count_append, List.count_append, List.count_flatMap, List.count_flatMap,
    hmethod, List.count_eq_zero.2 fun hmem => hfront line hmem hline,
    List.count_singleton]
  simp [hbrace]

/-- The lines behind a decorator that is never the last of its method stand behind it there. -/
theorem SourceFile.linesBehind_decoratorLine (hlast : ∀ m ∈ methods, m.decoratorLines.getLast? ≠ some line) :
    linesBehind line f.lines = methods.flatMap fun m => linesBehind line m.decoratorLines := by
  obtain ⟨front, hlines, hfront⟩ := f.exists_lines_of_methods hmembers hplain himports
  have hnot : line ∉ front := fun hmem => hfront line hmem hline
  rw [hlines, List.append_assoc, linesBehind_append fun hmem => hnot (List.mem_of_getLast? hmem),
    linesBehind_of_not_mem hnot, List.nil_append, linesBehind_methods hnames hline hlast]

end

end Scaffold.TypeScript
