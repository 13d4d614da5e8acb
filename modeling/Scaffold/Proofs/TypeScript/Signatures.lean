import Mathlib.Data.List.Infix
import Scaffold.Proofs.Outcome
import Scaffold.Proofs.TypeScript.Imports

/-! Decorators and parameters, read from the text of a line alone. A comma or a space separates only
outside parentheses, so the arguments of a decorator stay with it; what was printed is read back. -/

namespace Scaffold.TypeScript
open Text

/-! ## Parts of a text -/

/-- What stands between a beginning and an end of the text. -/
def inside? (front back text : String) : Option String :=
  ((front.toList.isPrefixOf? text.toList).bind back.toList.isSuffixOf?).map String.ofList

/-- What stands before the first such character, and what behind it. -/
def cut? (c : Char) (text : String) : Option (String × String) :=
  match text.toList.dropWhile (· ≠ c) with
  | [] => none
  | _ :: back => some (String.ofList (text.toList.takeWhile (· ≠ c)), String.ofList back)

/-- How many parentheses are open behind a character. -/
def nesting (depth : Nat) (c : Char) : Nat :=
  if c = '(' then depth + 1 else if c = ')' then depth - 1 else depth

/-- The pieces of a text between the separators that stand outside parentheses. -/
def piecesOutside (sep : Char) : Nat → List Char → List (List Char)
  | _, [] => [[]]
  | depth, c :: cs =>
    if depth = 0 ∧ c = sep then [] :: piecesOutside sep 0 cs
    else (piecesOutside sep (nesting depth c) cs).modifyHead (c :: ·)

/-- The entries of a list such as stands between parentheses. -/
def items (text : String) : List String :=
  (((piecesOutside ',' 0 text.toList).map trimStart).filter (!·.isEmpty)).map String.ofList

/-! ## Decorators and parameters of a text -/

/-- A text between quotes, else a name. -/
def readArg (text : String) : Arg :=
  match inside? "'" "'" text with
  | some value => .text value
  | none => .ident text

def readDecorator? (text : String) : Option Decorator := do
  let inner ← inside? "@" ")" text
  let (name, args) ← cut? '(' inner
  return ⟨name, (items args).map readArg, []⟩

/-- Decorators, each followed by a space, then a name and its type. -/
def readParam? (text : String) : Option Param := do
  let words := (piecesOutside ' ' 0 text.toList).map String.ofList
  let decorators ← (words.takeWhile (BeginsWith '@' ·)).mapM readDecorator?
  let (name, typed) ← cut? ':' (" ".intercalate (words.dropWhile (BeginsWith '@' ·)))
  let type ← inside? " " "" typed
  return ⟨decorators, name, type⟩

def readParams? (text : String) : Option (List Param) := (items text).mapM readParam?

/-! ## Fronts and first characters -/

theorem inside?_eq_some_iff {front back text inner : String} :
    inside? front back text = some inner ↔ text = front ++ inner ++ back := by
  unfold inside?
  rw [← String.toList_inj]
  constructor
  · intro h
    obtain ⟨cs, hcs, rfl⟩ := Option.map_eq_some_iff.1 h
    obtain ⟨rest, hrest, hback⟩ := Option.bind_eq_some_iff.1 hcs
    rw [List.isPrefixOf?_eq_some_iff_append_eq] at hrest
    rw [List.isSuffixOf?_eq_some_iff_append_eq] at hback
    simp [← hrest, ← hback]
  · intro h
    refine Option.map_eq_some_iff.2 ⟨inner.toList, Option.bind_eq_some_iff.2
      ⟨inner.toList ++ back.toList, ?_, ?_⟩, String.ofList_toList⟩
    · rw [List.isPrefixOf?_eq_some_iff_append_eq, h]
      simp
    · rw [List.isSuffixOf?_eq_some_iff_append_eq]

theorem inside?_eq_none {front back text : String} (h : ∀ inner, text ≠ front ++ inner ++ back) :
    inside? front back text = none :=
  Option.eq_none_iff_forall_ne_some.2 fun inner hinner => h inner (inside?_eq_some_iff.1 hinner)

theorem cut?_append {c : Char} {front : String} (h : c ∉ front.toList) (back : String) :
    cut? c (front ++ (String.singleton c ++ back)) = some (front, back) := by
  have hfront : ∀ d ∈ front.toList, decide (d ≠ c) = true :=
    fun d hd => decide_eq_true fun heq => h (heq ▸ hd)
  have htext : (front ++ (String.singleton c ++ back)).toList = front.toList ++ c :: back.toList := by
    simp
  unfold cut?
  rw [htext, List.dropWhile_append_of_pos hfront, List.takeWhile_append_of_pos hfront,
    List.dropWhile_cons_of_neg (by simp), List.takeWhile_cons_of_neg (by simp)]
  simp

section
variable {front back : List String} {text : String} (hfront : ∀ word ∈ front, BeginsWith '@' word)
  (htext : ¬ BeginsWith '@' text)
include hfront htext

theorem takeWhile_at : (front ++ text :: back).takeWhile (BeginsWith '@' ·) = front := by
  rw [List.takeWhile_append_of_pos fun word hword => decide_eq_true (hfront word hword),
    List.takeWhile_cons_of_neg (by simpa using htext), List.append_nil]

theorem dropWhile_at : (front ++ text :: back).dropWhile (BeginsWith '@' ·) = text :: back := by
  rw [List.dropWhile_append_of_pos fun word hword => decide_eq_true (hfront word hword),
    List.dropWhile_cons_of_neg (by simpa using htext)]

end

/-! ## Pieces outside parentheses -/

/-- A text that holds the separator between parentheses only, none of them within others. -/
inductive Closed (sep : Char) : List Char → Prop
  | nil : Closed sep []
  | char {c : Char} {cs : List Char} :
      c ≠ sep → c ≠ '(' → c ≠ ')' → Closed sep cs → Closed sep (c :: cs)
  | group {inner cs : List Char} :
      (∀ c ∈ inner, c ≠ '(' ∧ c ≠ ')') → Closed sep cs → Closed sep ('(' :: (inner ++ ')' :: cs))

section
variable {sep : Char} {cs ds : List Char}

theorem Closed.append (h : Closed sep cs) (hds : Closed sep ds) : Closed sep (cs ++ ds) := by
  induction h with
  | nil => exact hds
  | char hsep hopen hclose _ ih => exact .char hsep hopen hclose ih
  | group hinner _ ih =>
    rw [List.cons_append, List.append_assoc]
    exact .group hinner ih

theorem closed_of_forall (h : ∀ c ∈ cs, c ≠ sep ∧ c ≠ '(' ∧ c ≠ ')') : Closed sep cs := by
  induction cs with
  | nil => exact .nil
  | cons c cs ih =>
    obtain ⟨⟨hsep, hopen, hclose⟩, hrest⟩ := List.forall_mem_cons.1 h
    exact .char hsep hopen hclose (ih hrest)

theorem piecesOutside_ne_nil (sep : Char) (depth : Nat) (cs : List Char) : piecesOutside sep depth cs ≠ [] := by
  induction cs generalizing depth with
  | nil => exact List.cons_ne_nil [] []
  | cons c cs ih =>
    unfold piecesOutside
    split
    · exact List.cons_ne_nil _ _
    · obtain ⟨piece, pieces, heq⟩ := List.exists_cons_of_ne_nil (ih (nesting depth c))
      rw [heq]
      exact List.cons_ne_nil _ _

theorem intercalate_piecesOutside (sep : Char) (depth : Nat) (cs : List Char) :
    [sep].intercalate (piecesOutside sep depth cs) = cs := by
  induction cs generalizing depth with
  | nil => exact List.intercalate_singleton
  | cons c cs ih =>
    unfold piecesOutside
    split
    · rename_i hsep
      obtain ⟨piece, pieces, heq⟩ := List.exists_cons_of_ne_nil (piecesOutside_ne_nil sep 0 cs)
      have hrest := ih 0
      rw [heq] at hrest ⊢
      rw [List.intercalate_cons_cons, hrest, hsep.2]
      rfl
    · obtain ⟨piece, pieces, heq⟩ :=
        List.exists_cons_of_ne_nil (piecesOutside_ne_nil sep (nesting depth c) cs)
      have hrest := ih (nesting depth c)
      rw [heq] at hrest ⊢
      rw [← hrest]
      cases pieces <;> rfl

theorem piecesOutside_sep (sep : Char) (cs : List Char) :
    piecesOutside sep 0 (sep :: cs) = [] :: piecesOutside sep 0 cs := by
  rw [piecesOutside, if_pos ⟨rfl, rfl⟩]

theorem piecesOutside_within {depth : Nat} {inner : List Char}
    (h : ∀ c ∈ inner, c ≠ '(' ∧ c ≠ ')') (rest : List Char) :
    piecesOutside sep (depth + 1) (inner ++ rest) =
      (piecesOutside sep (depth + 1) rest).modifyHead (inner ++ ·) := by
  induction inner with
  | nil =>
    rw [List.nil_append]
    cases piecesOutside sep (depth + 1) rest <;> rfl
  | cons c inner ih =>
    obtain ⟨⟨hopen, hclose⟩, hinner⟩ := List.forall_mem_cons.1 h
    rw [List.cons_append, piecesOutside, if_neg (by simp), nesting, if_neg hopen, if_neg hclose,
      ih hinner, List.modifyHead_modifyHead]
    rfl

/-- A closed text joins the first piece of what follows it. -/
theorem Closed.piecesOutside_append (hsep : sep ≠ '(') (h : Closed sep cs) (rest : List Char) :
    piecesOutside sep 0 (cs ++ rest) = (piecesOutside sep 0 rest).modifyHead (cs ++ ·) := by
  induction h with
  | nil =>
    rw [List.nil_append]
    cases piecesOutside sep 0 rest <;> rfl
  | @char c cs hc hopen hclose _ ih =>
    rw [List.cons_append, piecesOutside, if_neg (by simp [hc]), nesting, if_neg hopen, if_neg hclose,
      ih, List.modifyHead_modifyHead]
    rfl
  | @group inner cs hinner _ ih =>
    have hopened : piecesOutside sep 1 (inner ++ (')' :: (cs ++ rest))) =
        (piecesOutside sep 1 (')' :: (cs ++ rest))).modifyHead (inner ++ ·) :=
      piecesOutside_within hinner _
    have hclosed : piecesOutside sep 1 (')' :: (cs ++ rest)) =
        (piecesOutside sep 0 (cs ++ rest)).modifyHead (')' :: ·) := by
      rw [piecesOutside, if_neg (by simp)]
      rfl
    rw [List.cons_append, List.append_assoc, List.cons_append, piecesOutside,
      if_neg (by simp [hsep.symm]), nesting, if_pos rfl, hopened, hclosed, ih]
    simp only [List.modifyHead_modifyHead]
    congr 1
    funext piece
    simp

theorem Closed.piecesOutside_eq (hsep : sep ≠ '(') (h : Closed sep cs) :
    piecesOutside sep 0 cs = [cs] := by
  have hrest := h.piecesOutside_append hsep []
  rw [List.append_nil] at hrest
  rw [hrest]
  simp [piecesOutside]

theorem Closed.piecesOutside_cons (hsep : sep ≠ '(') (h : Closed sep cs) (rest : List Char) :
    piecesOutside sep 0 (cs ++ sep :: rest) = cs :: piecesOutside sep 0 rest := by
  rw [h.piecesOutside_append hsep, piecesOutside_sep]
  simp

end

theorem piecesOutside_commas {x : List Char} {xs : List (List Char)}
    (h : ∀ y ∈ x :: xs, Closed ',' y) :
    piecesOutside ',' 0 ([',', ' '].intercalate (x :: xs)) = x :: xs.map (' ' :: ·) := by
  have hsep : ',' ≠ '(' := by decide
  have hspace : Closed ',' [' '] := .char (by decide) (by decide) (by decide) .nil
  induction xs generalizing x with
  | nil =>
    rw [List.intercalate_singleton, (h x List.mem_cons_self).piecesOutside_eq hsep]
    rfl
  | cons y ys ih =>
    obtain ⟨hx, hrest⟩ := List.forall_mem_cons.1 h
    have hsplit : [',', ' '].intercalate (x :: y :: ys) =
        x ++ ',' :: ([' '] ++ [',', ' '].intercalate (y :: ys)) := by
      rw [List.intercalate_cons_cons]
      simp
    rw [hsplit, hx.piecesOutside_cons hsep, hspace.piecesOutside_append hsep, ih hrest]
    rfl

/-- An entry of a list between parentheses: closed, and white space does not begin it. -/
structure IsEntry (text : String) : Prop where
  closed : Closed ',' text.toList
  head : ∃ c cs, text.toList = c :: cs ∧ isBlank c = false

theorem items_commas {texts : List String} (h : ∀ text ∈ texts, IsEntry text) :
    items (commas texts) = texts := by
  have htrim : ∀ text ∈ texts, ∀ front : List Char, (∀ c ∈ front, isBlank c = true) →
      trimStart (front ++ text.toList) = text.toList := by
    intro text htext front hfront
    obtain ⟨c, cs, heq, hc⟩ := (h text htext).head
    rw [trimStart_append_of_blank hfront, heq, trimStart_of_not_blank hc]
  have hkept : ∀ cs ∈ texts.map String.toList, (!cs.isEmpty) = true := by
    refine List.forall_mem_map.2 fun text htext => ?_
    obtain ⟨c, cs, heq, -⟩ := (h text htext).head
    rw [heq]
    rfl
  cases texts with
  | nil => rfl
  | cons text texts =>
    have hclosed : ∀ y ∈ text.toList :: texts.map String.toList, Closed ',' y := by
      rw [← List.map_cons]
      exact List.forall_mem_map.2 fun other hother => (h other hother).closed
    have htrimmed : (text.toList :: (texts.map String.toList).map (' ' :: ·)).map trimStart =
        (text :: texts).map String.toList := by
      rw [List.map_map, List.map_cons, List.map_map, List.map_cons]
      congr 1
      · exact htrim text List.mem_cons_self [] nofun
      · exact List.map_congr_left fun other hother =>
          htrim other (List.mem_cons_of_mem text hother) [' '] (List.forall_mem_singleton.2 (by decide))
    have htext : (commas (text :: texts)).toList =
        [',', ' '].intercalate (text.toList :: texts.map String.toList) := by
      unfold commas
      rw [String.toList_intercalate]
      rfl
    unfold items
    rw [htext, piecesOutside_commas hclosed, htrimmed, List.filter_eq_self.2 hkept, List.map_map]
    simp [Function.comp_def]

/-! ## What was printed is read back -/

/-- The text can stand among others between parentheses: it holds neither a comma nor a parenthesis. -/
def IsItem (text : String) : Prop := ∀ c ∈ text.toList, c ≠ ',' ∧ c ≠ '(' ∧ c ≠ ')'

instance (text : String) : Decidable (IsItem text) :=
  decidable_of_iff (text.toList.all (fun c => c ≠ ',' ∧ c ≠ '(' ∧ c ≠ ')') = true) (by simp [IsItem])

theorem IsItem.append {a b : String} (ha : IsItem a) (hb : IsItem b) : IsItem (a ++ b) := by
  unfold IsItem
  rw [String.toList_append]
  exact List.forall_mem_append.2 ⟨ha, hb⟩

theorem IsName.isItem {name : String} (h : IsName name) : IsItem name :=
  fun _ hc => ⟨h.ne hc (by decide), h.ne hc (by decide), h.ne hc (by decide)⟩

theorem IsName.closed {name : String} (h : IsName name) {sep : Char}
    (hsep : Schema.isNameChar sep = false) : Closed sep name.toList :=
  closed_of_forall fun _ hc => ⟨h.ne hc hsep, h.ne hc (by decide), h.ne hc (by decide)⟩

def Arg.IsReadable : Arg → Prop
  | .text value => IsItem value
  | .ident name => IsName name

structure Decorator.IsReadable (d : Decorator) : Prop where
  name : IsName d.name
  args : ∀ a ∈ d.args, a.IsReadable
  lists : d.lists = []

structure Param.IsReadable (p : Param) : Prop where
  decorators : ∀ d ∈ p.decorators, d.IsReadable
  name : IsName p.name
  type : IsItem p.type

theorem Arg.IsReadable.isItem {a : Arg} (h : a.IsReadable) : IsItem a.print := by
  cases a with
  | text value => exact ((by decide : IsItem "'").append h).append (by decide)
  | ident name => exact IsName.isItem h

theorem Arg.IsReadable.isEntry {a : Arg} (h : a.IsReadable) : IsEntry a.print := by
  refine ⟨closed_of_forall h.isItem, ?_⟩
  cases a with
  | text value => exact ⟨'\'', value.toList ++ ['\''], by simp [print, quote], by decide⟩
  | ident name =>
    obtain ⟨c, cs, heq, hc⟩ := IsName.exists_head h
    exact ⟨c, cs, heq, Schema.not_blank_of_isNameChar hc⟩

theorem Arg.IsReadable.readArg_print {a : Arg} (h : a.IsReadable) : readArg a.print = a := by
  unfold readArg
  cases a with
  | text value =>
    have hinside : inside? "'" "'" (Arg.text value).print = some value := inside?_eq_some_iff.2 rfl
    rw [hinside]
  | ident name =>
    have hnone : inside? "'" "'" (Arg.ident name).print = none := by
      refine inside?_eq_none fun inner (hname : name = _) => ?_
      have hquote : '\'' ∈ name.toList := hname ▸ by simp
      exact h.ne hquote (by decide) rfl
    rw [hnone]
    rfl

theorem Decorator.print_eq (d : Decorator) :
    d.print = "@" ++ (d.name ++ (String.singleton '(' ++ commas (d.args.map Arg.print))) ++ ")" := by
  unfold Decorator.print
  rw [← String.toList_inj]
  simp

section
variable {d : Decorator} {p : Param} {sep : Char}

theorem Decorator.IsReadable.readDecorator?_print (h : d.IsReadable) :
    readDecorator? d.print = some d := by
  have hname : '(' ∉ d.name.toList := fun hmem => (h.name.ne hmem (by decide)) rfl
  have hargs : items (commas (d.args.map Arg.print)) = d.args.map Arg.print :=
    items_commas (List.forall_mem_map.2 fun a ha => (h.args a ha).isEntry)
  have hread : (d.args.map Arg.print).map readArg = d.args := by
    rw [List.map_map]
    exact (List.map_congr_left fun a ha => (h.args a ha).readArg_print).trans (List.map_id _)
  have hd : d = ⟨d.name, d.args, []⟩ := by
    rw [← h.lists]
  unfold readDecorator?
  rw [inside?_eq_some_iff.2 d.print_eq]
  simp only [Option.bind_eq_bind, Option.bind_some, cut?_append hname, hargs, hread]
  exact congrArg some hd.symm

/-- The arguments of a decorator are between its parentheses. -/
theorem Decorator.IsReadable.closed (h : d.IsReadable) (hsep : Schema.isNameChar sep = false)
    (hat : sep ≠ '@') : Closed sep d.print.toList := by
  have hinner : ∀ c ∈ (commas (d.args.map Arg.print)).toList, c ≠ '(' ∧ c ≠ ')' := by
    have hnone : ∀ paren ∈ ['(', ')'], paren ∉ (commas (d.args.map Arg.print)).toList := by
      intro paren hparen
      simp only [List.mem_cons, List.not_mem_nil, or_false] at hparen
      refine not_mem_commas ?_ (List.forall_mem_map.2 fun a ha hmem => ?_)
      · rcases hparen with rfl | rfl <;> decide
      · have hitem := (h.args a ha).isItem paren hmem
        exact hparen.elim hitem.2.1 hitem.2.2
    exact fun c hc => ⟨fun heq => hnone '(' (by simp) (heq ▸ hc), fun heq => hnone ')' (by simp) (heq ▸ hc)⟩
  have hprint : d.print.toList =
      '@' :: (d.name.toList ++ '(' :: ((commas (d.args.map Arg.print)).toList ++ ')' :: [])) := by
    rw [d.print_eq]
    simp
  rw [hprint]
  exact .char hat.symm (by decide) (by decide) ((h.name.closed hsep).append (.group hinner .nil))

theorem Decorator.beginsWith_print (d : Decorator) : BeginsWith '@' d.print := by
  unfold BeginsWith
  rw [d.print_eq]
  simp

/-- The text of decorators before a declaration. -/
def decorated (decorators : List Decorator) (rest : List Char) : List Char :=
  decorators.flatMap (fun d => d.print.toList ++ [' ']) ++ rest

theorem decorated_cons (d : Decorator) (ds : List Decorator) (rest : List Char) :
    decorated (d :: ds) rest = d.print.toList ++ ' ' :: decorated ds rest := by
  unfold decorated
  rw [List.flatMap_cons, List.append_assoc, List.append_assoc]
  rfl

theorem Param.toList_print (p : Param) :
    p.print.toList = decorated p.decorators ((p.name ++ ":").toList ++ ' ' :: p.type.toList) := by
  unfold Param.print decorated
  simp [String.toList_join, List.flatMap_map]

theorem closed_decorated {ds : List Decorator} (h : ∀ d ∈ ds, d.IsReadable) {rest : List Char}
    (hrest : Closed ',' rest) : Closed ',' (decorated ds rest) := by
  induction ds with
  | nil => exact hrest
  | cons d ds ih =>
    obtain ⟨hd, hds⟩ := List.forall_mem_cons.1 h
    rw [decorated_cons]
    exact (hd.closed (by decide) (by decide)).append
      (.char (by decide) (by decide) (by decide) (ih hds))

theorem piecesOutside_decorated {ds : List Decorator} (h : ∀ d ∈ ds, d.IsReadable)
    (rest : List Char) :
    piecesOutside ' ' 0 (decorated ds rest) =
      ds.map (fun d => d.print.toList) ++ piecesOutside ' ' 0 rest := by
  induction ds with
  | nil => rfl
  | cons d ds ih =>
    obtain ⟨hd, hds⟩ := List.forall_mem_cons.1 h
    rw [decorated_cons, (hd.closed (by decide) (by decide)).piecesOutside_cons (by decide), ih hds]
    rfl

theorem Param.IsReadable.isEntry (h : p.IsReadable) : IsEntry p.print := by
  have hdeclared : Closed ',' ((p.name ++ ":").toList ++ ' ' :: p.type.toList) := by
    have htype : Closed ',' (':' :: ' ' :: p.type.toList) :=
      .char (by decide) (by decide) (by decide)
        (.char (by decide) (by decide) (by decide) (closed_of_forall h.type))
    rw [String.toList_append, List.append_assoc]
    exact (h.name.closed (by decide)).append htype
  refine ⟨p.toList_print ▸ closed_decorated h.decorators hdeclared, ?_⟩
  rw [p.toList_print]
  cases p.decorators with
  | nil =>
    obtain ⟨c, cs, heq, hc⟩ := h.name.exists_head
    refine ⟨c, cs ++ ':' :: ' ' :: p.type.toList, ?_, Schema.not_blank_of_isNameChar hc⟩
    simp [decorated, heq]
  | cons d ds =>
    obtain ⟨back, hback⟩ : ∃ back, d.print.toList = '@' :: back := List.head?_eq_some_iff.1 d.beginsWith_print
    exact ⟨'@', _, by rw [decorated_cons, hback, List.cons_append], by decide⟩

theorem Param.IsReadable.readParam?_print (h : p.IsReadable) : readParam? p.print = some p := by
  have hname : ':' ∉ p.name.toList := fun hmem => (h.name.ne hmem (by decide)) rfl
  have hclosed : Closed ' ' (p.name ++ ":").toList := by
    have hcolon : Closed ' ' [':'] := .char (by decide) (by decide) (by decide) .nil
    rw [String.toList_append]
    exact (h.name.closed (by decide)).append hcolon
  have hpieces : piecesOutside ' ' 0 p.print.toList =
      p.decorators.map (fun d => d.print.toList) ++
        (p.name ++ ":").toList :: piecesOutside ' ' 0 p.type.toList := by
    rw [p.toList_print, piecesOutside_decorated h.decorators, hclosed.piecesOutside_cons (by decide)]
  have hwords : (piecesOutside ' ' 0 p.print.toList).map String.ofList =
      p.decorators.map Decorator.print ++
        (p.name ++ ":") :: (piecesOutside ' ' 0 p.type.toList).map String.ofList := by
    rw [hpieces]
    simp
  have hat : ∀ word ∈ p.decorators.map Decorator.print, BeginsWith '@' word :=
    List.forall_mem_map.2 fun d _ => d.beginsWith_print
  have hstop : ¬ BeginsWith '@' (p.name ++ ":") := by
    obtain ⟨c, cs, heq, hc⟩ := h.name.exists_head
    intro hbegins
    have hc' : '@' = c := hbegins.of_append (by rw [heq]; rfl)
    exact absurd hc (by rw [← hc']; decide)
  have htyped : " ".intercalate ((p.name ++ ":") :: (piecesOutside ' ' 0 p.type.toList).map String.ofList) =
      p.name ++ (String.singleton ':' ++ (" " ++ p.type)) := by
    obtain ⟨piece, pieces, heq⟩ :=
      List.exists_cons_of_ne_nil (piecesOutside_ne_nil ' ' 0 p.type.toList)
    have hjoined := intercalate_piecesOutside ' ' 0 p.type.toList
    rw [heq] at hjoined ⊢
    rw [← String.toList_inj, String.toList_intercalate]
    simp [← hjoined, Function.comp_def]
  have htype : inside? " " "" (" " ++ p.type) = some p.type := inside?_eq_some_iff.2 (by simp)
  have hread := mapM_map_eq_some fun d hd => (h.decorators d hd).readDecorator?_print
  unfold readParam?
  rw [hwords]
  dsimp only
  rw [takeWhile_at hat hstop, dropWhile_at hat hstop, hread, htyped, cut?_append hname]
  simp only [Option.bind_eq_bind, Option.bind_some, htype]
  rfl

theorem readParams?_commas {params : List Param} (h : ∀ p ∈ params, p.IsReadable) :
    readParams? (commas (params.map Param.print)) = some params := by
  unfold readParams?
  rw [items_commas (List.forall_mem_map.2 fun p hp => (h p hp).isEntry)]
  exact mapM_map_eq_some fun p hp => (h p hp).readParam?_print

end

/-- A comma between the parentheses of a decorator parts nothing. -/
example : readParams? "@Param('id', ParseIntPipe) id: number, @Body() dto: UpdateItemDto" =
    some [⟨[⟨"Param", [.text "id", .ident "ParseIntPipe"], []⟩], "id", "number"⟩,
      ⟨[⟨"Body", [], []⟩], "dto", "UpdateItemDto"⟩] := by decide +kernel

end Scaffold.TypeScript
