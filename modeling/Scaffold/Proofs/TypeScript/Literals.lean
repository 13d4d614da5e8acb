import Mathlib.Algebra.GroupWithZero.Nat
import Mathlib.Algebra.Order.BigOperators.Group.List
import Mathlib.Algebra.Order.Group.Nat
import Scaffold.Proofs.TypeScript.Imports
import Scaffold.Settings.Toml

/-! String literals of the language, read as it reads them. A quote or a backslash in a value takes two
characters of the literal, so a text that stands in a literal as it is means itself only without them. -/

namespace Scaffold.TypeScript
open Text

/-! ## Values -/

/-- The UTF-16 code units of a code point. -/
def pointUnits (n : Nat) : List Nat :=
  if n < 0x10000 then [n] else [0xD800 + (n - 0x10000) / 0x400, 0xDC00 + (n - 0x10000) % 0x400]

/-- The value that a text is: its UTF-16 code units. -/
def units (cs : List Char) : List Nat := cs.flatMap fun c => pointUnits c.toNat

/-! ## Escapes -/

/-- An escape of so many hexadecimal digits. -/
def hexUnit? (count : Nat) (cs : List Char) : Option (List Nat × List Char) :=
  if count ≤ cs.length then (Toml.hexValue? (cs.take count)).map fun n => ([n], cs.drop count) else none

/-- An escape of hexadecimal digits up to a brace. -/
def codePoint? (cs : List Char) : Option (List Nat × List Char) :=
  match cs.takeWhile (· ≠ '}'), cs.dropWhile (· ≠ '}') with
  | digits@(_ :: _), '}' :: rest =>
    (Toml.hexValue? digits).bind fun n => if n ≤ 0x10FFFF then some (pointUnits n, rest) else none
  | _, _ => none

/-- An escape of a single character: a line end means nothing, and digits are not escaped. -/
def escapeUnits? (c : Char) (next : Option Char) : Option (List Nat) :=
  match c with
  | '\n' | '\r' | '\u2028' | '\u2029' => some []
  | 'b' => some [8]
  | 't' => some [9]
  | 'n' => some [10]
  | 'v' => some [11]
  | 'f' => some [12]
  | 'r' => some [13]
  | '0' => if next.any Char.isDigit then none else some [0]
  | 'x' | 'u' => none
  | c => if c.isDigit then none else some (pointUnits c.toNat)

/-- What stands after a backslash: what it means, and the text behind it. -/
def escape? : List Char → Option (List Nat × List Char)
  | 'x' :: rest => hexUnit? 2 rest
  | 'u' :: '{' :: rest => codePoint? rest
  | 'u' :: rest => hexUnit? 4 rest
  | '\r' :: '\n' :: rest => some ([], rest)
  | c :: rest => (escapeUnits? c rest.head?).map (·, rest)
  | [] => none

/-! ## What a literal costs -/

/-- The characters of a source text that are not blank, as code units. -/
def size (cs : List Char) : Nat := (units cs).countP (· ≠ 0x20)

/-- The characters that a value takes in a source text: blanks are free, quotes and backslashes
double. -/
def cost (us : List Nat) : Nat := us.countP (· ≠ 0x20) + us.count 0x27 + us.count 0x5C

@[simp]
theorem units_append (as bs : List Char) : units (as ++ bs) = units as ++ units bs :=
  List.flatMap_append

@[simp]
theorem size_append (as bs : List Char) : size (as ++ bs) = size as + size bs := by
  simp [size]

@[simp]
theorem cost_append (us vs : List Nat) : cost (us ++ vs) = cost us + cost vs := by
  simp only [cost, List.countP_append, List.count_append]
  omega

theorem size_cons (c : Char) (cs : List Char) : size (c :: cs) = size [c] + size cs :=
  size_append [c] cs

theorem count_pointUnits {u : Nat} (h : u < 0x80) (n : Nat) :
    (pointUnits n).count u = if n = u then 1 else 0 := by
  unfold pointUnits
  split
  · rw [List.count_singleton]
    simp
  · have hfirst : (0xD800 + (n - 0x10000) / 0x400 == u) = false := beq_false_of_ne (by omega)
    have hsecond : (0xDC00 + (n - 0x10000) % 0x400 == u) = false := beq_false_of_ne (by omega)
    rw [if_neg (by omega)]
    simp [List.count_cons, hfirst, hsecond]

/-- A text costs its own characters, and one more for each quote and each backslash. -/
theorem cost_units (cs : List Char) : cost (units cs) = size cs + cs.count '\'' + cs.count '\\' := by
  have hcount : ∀ d : Char, d.toNat < 0x80 → (units cs).count d.toNat = cs.count d := by
    intro d hd
    induction cs with
    | nil => rfl
    | cons c cs ih =>
      have hsame : c.toNat = d.toNat ↔ c = d := Char.toNat_inj
      unfold units at ih ⊢
      rw [List.flatMap_cons, List.count_append, ih, count_pointUnits hd, List.count_cons]
      simp [hsame, Nat.add_comm]
  unfold cost size
  rw [← hcount '\'' (by decide), ← hcount '\\' (by decide)]
  rfl

theorem length_pointUnits (n : Nat) : (pointUnits n).length = if n < 0x10000 then 1 else 2 := by
  unfold pointUnits
  split <;> rfl

theorem cost_pointUnits_le (n : Nat) : cost (pointUnits n) ≤ 2 := by
  have hlength := List.countP_le_length (p := fun u => decide (u ≠ 0x20)) (l := pointUnits n)
  rw [length_pointUnits] at hlength
  unfold cost
  rw [count_pointUnits (by decide), count_pointUnits (by decide)]
  split at hlength <;> split <;> split <;> omega

/-- A single character costs one more than itself at most. -/
theorem cost_pointUnits_char (c : Char) : cost (pointUnits c.toNat) ≤ size [c] + 1 := by
  have hunits : pointUnits c.toNat = units [c] := by simp [units]
  rw [hunits, cost_units, List.count_singleton, List.count_singleton]
  simp only [beq_iff_eq]
  split
  · rename_i hquote
    subst hquote
    decide
  · split <;> omega

theorem cost_singleton_le (n : Nat) : cost [n] ≤ 2 := by
  have hlength := List.countP_le_length (p := fun u => decide (u ≠ 0x20)) (l := [n])
  unfold cost
  rw [List.count_singleton, List.count_singleton]
  rw [List.length_singleton] at hlength
  simp only [beq_iff_eq]
  split <;> split <;> omega

theorem exists_of_hexUnit? {count : Nat} {cs rest : List Char} {us : List Nat}
    (h : hexUnit? count cs = some (us, rest)) : ∃ used, cs = used ++ rest ∧ cost us ≤ 2 := by
  unfold hexUnit? at h
  split at h
  · obtain ⟨n, -, heq⟩ := Option.map_eq_some_iff.1 h
    obtain ⟨rfl, rfl⟩ := Prod.mk.inj heq
    exact ⟨cs.take count, (List.take_append_drop count cs).symm, cost_singleton_le n⟩
  · cases h

theorem exists_of_codePoint? {cs rest : List Char} {us : List Nat}
    (h : codePoint? cs = some (us, rest)) : ∃ used, cs = used ++ rest ∧ cost us ≤ 2 := by
  unfold codePoint? at h
  split at h
  · rename_i d ds tail hdigits htail
    obtain ⟨n, -, hn⟩ := Option.bind_eq_some_iff.1 h
    split at hn
    · obtain ⟨rfl, rfl⟩ := Prod.mk.inj (Option.some.inj hn)
      have hcs := List.takeWhile_append_dropWhile (p := fun c => decide (c ≠ '}')) (l := cs)
      rw [hdigits, htail, List.append_cons] at hcs
      exact ⟨_, hcs.symm, cost_pointUnits_le n⟩
    · cases hn
  · cases h

theorem cost_le_of_escapeUnits? {c : Char} {next : Option Char} {us : List Nat}
    (h : escapeUnits? c next = some us) : cost us ≤ size [c] + 1 := by
  unfold escapeUnits? at h
  split at h
  case h_11 =>
    split at h
    · cases h
    · obtain rfl := Option.some.inj h
      decide
  case h_14 =>
    split at h
    · cases h
    · obtain rfl := Option.some.inj h
      exact cost_pointUnits_char c
  all_goals first | (obtain rfl := Option.some.inj h; decide) | cases h

/-- An escape leaves an end of the text, and costs no more than it takes with its backslash. -/
theorem exists_of_escape? {cs rest : List Char} {us : List Nat} (h : escape? cs = some (us, rest)) :
    ∃ used, cs = used ++ rest ∧ cost us ≤ size used + 1 := by
  -- a letter in front of hexadecimal digits is character enough
  have hletter : ∀ {front used : List Char}, size front = 1 → cost us ≤ 2 →
      cost us ≤ size (front ++ used) + 1 := by
    intro front used hfront hcost
    rw [size_append]
    omega
  unfold escape? at h
  split at h
  · obtain ⟨used, rfl, hcost⟩ := exists_of_hexUnit? h
    exact ⟨['x'] ++ used, rfl, hletter rfl hcost⟩
  · obtain ⟨used, rfl, hcost⟩ := exists_of_codePoint? h
    exact ⟨['u'] ++ '{' :: used, rfl, hletter rfl hcost⟩
  · obtain ⟨used, rfl, hcost⟩ := exists_of_hexUnit? h
    exact ⟨['u'] ++ used, rfl, hletter rfl hcost⟩
  · obtain ⟨rfl, rfl⟩ := Prod.mk.inj (Option.some.inj h)
    exact ⟨['\r', '\n'], rfl, Nat.zero_le _⟩
  · rename_i c tail _ _ _ _
    obtain ⟨vs, hvs, heq⟩ := Option.map_eq_some_iff.1 h
    obtain ⟨rfl, rfl⟩ := Prod.mk.inj heq
    exact ⟨[c], rfl, cost_le_of_escapeUnits? hvs⟩
  · cases h

/-! ## Reading a literal -/

/-- A literal behind its opening quote: its value, and the text behind the closing quote. -/
def literal? (cs : List Char) : Option (List Nat × List Char) :=
  match cs with
  | [] => none
  | '\'' :: rest => some ([], rest)
  | '\\' :: rest =>
    match _hescape : escape? rest with
    | none => none
    | some (us, after) => (literal? after).map fun (vs, rest) => (us ++ vs, rest)
  | c :: rest =>
    if c = '\n' ∨ c = '\r' then none
    else (literal? rest).map fun (vs, rest) => (pointUnits c.toNat ++ vs, rest)
termination_by cs.length
decreasing_by
  · obtain ⟨used, rfl, -⟩ := exists_of_escape? _hescape
    simp only [List.length_cons, List.length_append]
    omega
  · simp

/-- Where white space and comments have been skipped. -/
inductive Gap where
  | between
  | inLine
  | inBlock

/-- White space of the language: it has no U+0085, but the byte order mark. -/
def isSpace (c : Char) : Bool := (isBlank c && c != '\u0085') || c == '\uFEFF'

def endsLine (c : Char) : Bool := c == '\n' || c == '\r' || c == '\u2028' || c == '\u2029'

/-- What follows white space and comments. -/
def skipGap : Gap → List Char → List Char
  | .between, '/' :: '*' :: rest => skipGap .inBlock rest
  | .between, '/' :: '/' :: rest => skipGap .inLine rest
  | .between, c :: rest => if isSpace c then skipGap .between rest else c :: rest
  | .inLine, c :: rest => skipGap (if endsLine c then .between else .inLine) rest
  | .inBlock, '*' :: '/' :: rest => skipGap .between rest
  | .inBlock, _ :: rest => skipGap .inBlock rest
  | _, [] => []

theorem skipGap_suffix (gap : Gap) (cs : List Char) : skipGap gap cs <:+ cs := by
  have hpair : ∀ {front rest : List Char} {c d : Char}, front <:+ rest → front <:+ c :: d :: rest :=
    fun h => h.trans ((List.suffix_cons _ _).trans (List.suffix_cons _ _))
  fun_induction skipGap gap cs with
  | case1 rest ih => exact hpair ih
  | case2 rest ih => exact hpair ih
  | case3 c rest _ _ _ ih => exact ih.trans (List.suffix_cons c rest)
  | case4 c rest => exact List.suffix_refl _
  | case5 c rest ih => exact ih.trans (List.suffix_cons c rest)
  | case6 rest ih => exact hpair ih
  | case7 c rest _ ih => exact ih.trans (List.suffix_cons c rest)
  | case8 => exact List.suffix_refl _

/-- The characters that a literal is read from are as many at least as its value costs. -/
theorem exists_of_literal? {cs rest : List Char} {us : List Nat} (h : literal? cs = some (us, rest)) :
    ∃ body, cs = body ++ '\'' :: rest ∧ cost us ≤ size body := by
  fun_induction literal? cs generalizing us rest with
  | case1 => cases h
  | case2 tail =>
    obtain ⟨rfl, rfl⟩ := Prod.mk.inj (Option.some.inj h)
    exact ⟨[], rfl, Nat.zero_le _⟩
  | case3 => cases h
  | case4 tail vs after hescape ih =>
    obtain ⟨⟨ws, rest'⟩, hafter, heq⟩ := Option.map_eq_some_iff.1 h
    obtain ⟨rfl, rfl⟩ := Prod.mk.inj heq
    obtain ⟨used, rfl, hused⟩ := exists_of_escape? hescape
    obtain ⟨body, rfl, hbody⟩ := ih hafter
    refine ⟨'\\' :: (used ++ body), by simp, ?_⟩
    have hbackslash : size ['\\'] = 1 := rfl
    rw [cost_append, size_cons, size_append]
    omega
  | case5 => cases h
  | case6 c tail hquote hbackslash _ ih =>
    obtain ⟨⟨ws, rest'⟩, hafter, heq⟩ := Option.map_eq_some_iff.1 h
    obtain ⟨rfl, rfl⟩ := Prod.mk.inj heq
    obtain ⟨body, rfl, hbody⟩ := ih hafter
    have hc : cost (pointUnits c.toNat) = size [c] := by
      have hunits := cost_units [c]
      rw [List.count_eq_zero.2 (by simpa using fun h => hquote h.symm),
        List.count_eq_zero.2 (by simpa using fun h => hbackslash h.symm)] at hunits
      simpa [units] using hunits
    refine ⟨c :: body, rfl, ?_⟩
    rw [cost_append, size_cons, hc]
    omega

/-- The literals of an array behind its bracket or a comma, and the text behind the array. -/
def items? (cs : List Char) : Option (List (List Nat) × List Char) :=
  match _hstart : skipGap .between cs with
  | ']' :: rest => some ([], rest)
  | '\'' :: rest =>
    match _hliteral : literal? rest with
    | none => none
    | some (us, after) =>
      match _hend : skipGap .between after with
      | ']' :: rest => some ([us], rest)
      | ',' :: rest => (items? rest).map fun (values, rest) => (us :: values, rest)
      | _ => none
  | _ => none
termination_by cs.length
decreasing_by
  have hstart := (skipGap_suffix .between cs).length_le
  have hend := (skipGap_suffix .between after).length_le
  obtain ⟨body, rfl, -⟩ := exists_of_literal? _hliteral
  rw [_hstart] at hstart
  rw [_hend] at hend
  simp only [List.length_cons, List.length_append] at hstart hend
  omega

/-- An array of string literals: their values, and the text behind it. -/
def array? : List Char → Option (List (List Nat) × List Char)
  | '[' :: rest => items? rest
  | _ => none

/-! ## Characters that mean themselves -/

theorem literal?_quote (rest : List Char) : literal? ('\'' :: rest) = some ([], rest) := by
  rw [literal?]

theorem literal?_escapedQuote (cs : List Char) : literal? ('\\' :: '\'' :: cs) =
    (literal? cs).map fun (us, rest) => (units ['\''] ++ us, rest) := by
  have hescape : escape? ('\'' :: cs) = some (units ['\''], cs) := rfl
  rw [literal?]
  split
  · rename_i hnone
    rw [hescape] at hnone
    cases hnone
  · rename_i us after hsome
    rw [hescape] at hsome
    obtain ⟨rfl, rfl⟩ := Prod.mk.inj (Option.some.inj hsome)
    rfl

/-- The character means itself in a literal. -/
structure IsPlain (c : Char) : Prop where
  quote : c ≠ '\''
  backslash : c ≠ '\\'
  lineFeed : c ≠ '\n'
  carriageReturn : c ≠ '\r'

theorem literal?_cons {c : Char} (hc : IsPlain c) (cs : List Char) : literal? (c :: cs) =
    (literal? cs).map fun (us, rest) => (units [c] ++ us, rest) := by
  have hunits : units [c] = pointUnits c.toNat := by simp [units]
  rw [literal?, if_neg (by simp [hc.lineFeed, hc.carriageReturn]), hunits]
  · exact hc.quote
  · exact hc.backslash

theorem literal?_plain {cs : List Char} (hcs : ∀ c ∈ cs, IsPlain c) (rest : List Char) :
    literal? (cs ++ '\'' :: rest) = some (units cs, rest) := by
  induction cs with
  | nil => exact literal?_quote rest
  | cons c cs ih =>
    obtain ⟨hc, hcs⟩ := List.forall_mem_cons.1 hcs
    rw [List.cons_append, literal?_cons hc, ih hcs]
    exact congrArg (fun us => some (us, rest)) (units_append [c] cs).symm

/-! ## Arrays -/

theorem items?_of_literal {cs start after : List Char} {us : List Nat}
    (hstart : skipGap .between cs = '\'' :: start) (hliteral : literal? start = some (us, after)) :
    items? cs =
      match skipGap .between after with
      | ']' :: rest => some ([us], rest)
      | ',' :: rest => (items? rest).map fun (values, rest) => (us :: values, rest)
      | _ => none := by
  rw [items?]
  split
  · simp_all
  · rename_i start' hstart'
    obtain rfl : start = start' := (List.cons.inj (hstart.symm.trans hstart')).2
    split
    · simp_all
    · rename_i us' after' hliteral'
      obtain ⟨rfl, rfl⟩ := Prod.mk.inj (Option.some.inj (hliteral.symm.trans hliteral'))
      split <;> simp_all
  · simp_all

/-- An item of an array up to the character behind it: there are its quotes beside its value. -/
theorem exists_of_item {cs start after tail : List Char} {us : List Nat} {stop : Char}
    (hstart : skipGap .between cs = '\'' :: start) (hliteral : literal? start = some (us, after))
    (hend : skipGap .between after = stop :: tail) :
    ∃ item, cs = item ++ stop :: tail ∧ cost us + 2 ≤ size item := by
  have hquote : size ['\''] = 1 := rfl
  obtain ⟨front, hfront⟩ := skipGap_suffix .between cs
  obtain ⟨gap, hgap⟩ := skipGap_suffix .between after
  obtain ⟨body, hbody, hcost⟩ := exists_of_literal? hliteral
  refine ⟨front ++ ['\''] ++ body ++ ['\''] ++ gap, ?_, ?_⟩
  · rw [← hfront, hstart, hbody, ← hgap, hend]
    simp
  · simp only [size_append]
    omega

/-- What an array is read from has room for the values, with their quotes and the commas between. -/
theorem exists_of_items? {cs rest : List Char} {values : List (List Nat)}
    (h : items? cs = some (values, rest)) :
    ∃ inside, cs = inside ++ ']' :: rest ∧ (values.map (cost · + 3)).sum ≤ size inside + 1 := by
  fun_induction items? cs generalizing values rest with
  | case1 cs tail hstart =>
    obtain ⟨rfl, rfl⟩ := Prod.mk.inj (Option.some.inj h)
    obtain ⟨front, hfront⟩ := skipGap_suffix .between cs
    rw [hstart] at hfront
    exact ⟨front, hfront.symm, Nat.zero_le _⟩
  | case2 => cases h
  | case3 cs start hstart us after hliteral tail hend =>
    obtain ⟨rfl, rfl⟩ := Prod.mk.inj (Option.some.inj h)
    obtain ⟨item, hitem, hcost⟩ := exists_of_item hstart hliteral hend
    refine ⟨item, hitem, ?_⟩
    simp only [List.map_cons, List.map_nil, List.sum_cons, List.sum_nil]
    omega
  | case4 cs start hstart us after hliteral tail hend ih =>
    obtain ⟨⟨values, rest'⟩, htail, heq⟩ := Option.map_eq_some_iff.1 h
    obtain ⟨rfl, rfl⟩ := Prod.mk.inj heq
    obtain ⟨item, hitem, hcost⟩ := exists_of_item hstart hliteral hend
    obtain ⟨inside, hinside, hvalues⟩ := ih htail
    have hcomma : size [','] = 1 := rfl
    refine ⟨item ++ [','] ++ inside, ?_, ?_⟩
    · rw [hitem, hinside]
      simp
    · simp only [size_append, List.map_cons, List.sum_cons]
      omega
  | case5 => cases h
  | case6 => cases h

/-! ## Printed arrays -/

section
variable {names : List String}

theorem toList_quote (name : String) : (quote name).toList = '\'' :: (name.toList ++ ['\'']) := by
  simp [quote]

theorem size_quote (name : String) : size (quote name).toList = size name.toList + 2 := by
  have hquote : size ['\''] = 1 := rfl
  rw [toList_quote, size_cons, size_append]
  omega

theorem commas_cons_cons (item next : String) (items : List String) :
    (commas (item :: next :: items)).toList =
      item.toList ++ [',', ' '] ++ (commas (next :: items)).toList := by
  unfold commas
  rw [String.toList_intercalate, String.toList_intercalate]
  simp only [List.map_cons, List.intercalate_cons_cons]
  rfl

theorem commas_singleton (item : String) : commas [item] = item := by
  unfold commas
  simp

theorem size_commas (hne : names ≠ []) :
    size (commas (names.map quote)).toList + 1 = (names.map (size ·.toList + 3)).sum := by
  have hcomma : size [',', ' '] = 1 := rfl
  obtain ⟨name, names, rfl⟩ := List.exists_cons_of_ne_nil hne
  induction names generalizing name with
  | nil =>
    rw [List.map_singleton, commas_singleton, size_quote, List.map_singleton, List.sum_singleton]
  | cons next names ih =>
    have hrest := ih next (List.cons_ne_nil next names)
    rw [List.map_cons, List.map_cons, commas_cons_cons, size_append, size_append, size_quote,
      ← List.map_cons, List.map_cons (l := next :: names), List.sum_cons]
    omega

theorem exists_commas_quote (name : String) (names : List String) :
    ∃ tail, (commas ((name :: names).map quote)).toList = '\'' :: tail := by
  cases names with
  | nil =>
    rw [List.map_singleton, commas_singleton, toList_quote]
    exact ⟨_, rfl⟩
  | cons next names =>
    rw [List.map_cons, List.map_cons, commas_cons_cons, toList_quote]
    exact ⟨_, rfl⟩

/-- The array of texts without quotes and backslashes, from its first quote on. -/
theorem items?_of_commas {name : String} (hplain : ∀ n ∈ name :: names, ∀ c ∈ n.toList, IsPlain c)
    {cs rest : List Char}
    (hcs : skipGap .between cs = (commas ((name :: names).map quote)).toList ++ ']' :: rest) :
    items? cs = some ((name :: names).map (units ·.toList), rest) := by
  obtain ⟨hname, hnames⟩ := List.forall_mem_cons.1 hplain
  have hquote : ∀ (n : String) (after : List Char),
      (quote n).toList ++ after = '\'' :: (n.toList ++ '\'' :: after) := by
    intro n after
    rw [toList_quote, List.cons_append, List.append_assoc]
    rfl
  induction names generalizing name cs with
  | nil =>
    rw [List.map_singleton, commas_singleton, hquote] at hcs
    rw [items?_of_literal hcs (literal?_plain hname _)]
    rfl
  | cons next names ih =>
    obtain ⟨hnext, hmore⟩ := List.forall_mem_cons.1 hnames
    rw [List.map_cons, List.map_cons, commas_cons_cons, ← List.map_cons, List.append_assoc,
      List.append_assoc, hquote] at hcs
    rw [items?_of_literal hcs (literal?_plain hname _)]
    have hblank :
        skipGap .between (' ' :: ((commas ((next :: names).map quote)).toList ++ ']' :: rest)) =
          (commas ((next :: names).map quote)).toList ++ ']' :: rest := by
      obtain ⟨tail, htail⟩ := exists_commas_quote next names
      rw [htail]
      rfl
    have hrest := ih hnames hblank hnext hmore
    show (items? (' ' :: ((commas ((next :: names).map quote)).toList ++ ']' :: rest))).map _ = _
    rw [hrest]
    rfl

/-- An array of texts as they are reads as these texts if they hold no quote and no backslash. -/
theorem array?_quoted_iff (hlines : ∀ name ∈ names, '\n' ∉ name.toList ∧ '\r' ∉ name.toList)
    (rest : String) :
    array? ("[" ++ commas (names.map quote) ++ "]" ++ rest).toList =
        some (names.map (units ·.toList), rest.toList) ↔
      ∀ name ∈ names, '\'' ∉ name.toList ∧ '\\' ∉ name.toList := by
  have htext : ("[" ++ commas (names.map quote) ++ "]" ++ rest).toList =
      '[' :: ((commas (names.map quote)).toList ++ ']' :: rest.toList) := by
    simp
  rw [htext]
  show items? _ = _ ↔ _
  constructor
  · intro h
    obtain ⟨inside, hinside, hcost⟩ := exists_of_items? h
    obtain rfl := List.append_cancel_right hinside
    intro name hname
    rw [← not_or]
    intro hmem
    have hle : ∀ n ∈ names, size n.toList + 3 ≤ cost (units n.toList) + 3 := by
      intro n _
      rw [cost_units]
      omega
    have hlt : size name.toList + 3 < cost (units name.toList) + 3 := by
      have hcount := hmem.imp List.count_pos_iff.2 List.count_pos_iff.2
      rw [cost_units]
      omega
    have hsum := List.sum_lt_sum _ _ hle ⟨name, hname, hlt⟩
    rw [← size_commas (List.ne_nil_of_mem hname)] at hsum
    rw [List.map_map] at hcost
    exact absurd hcost (Nat.not_le.2 hsum)
  · intro h
    cases names with
    | nil =>
      rw [items?]
      rfl
    | cons name names =>
      obtain ⟨tail, htail⟩ := exists_commas_quote name names
      refine items?_of_commas (fun n hn c hc => ?_) ?_
      · obtain ⟨hquote, hbackslash⟩ := h n hn
        obtain ⟨hfeed, hreturn⟩ := hlines n hn
        exact ⟨ne_of_mem_of_not_mem hc hquote, ne_of_mem_of_not_mem hc hbackslash,
          ne_of_mem_of_not_mem hc hfeed, ne_of_mem_of_not_mem hc hreturn⟩
      · rw [htail]
        rfl

end

/-! ## Constants of a text -/

/-- A single line of the text declares the constant, by this value. -/
def Declares (text name value : String) : Prop :=
  ∃ before after, linesOf text = before ++ ("const " ++ name ++ " = " ++ value) :: after ∧
    ∀ line ∈ before ++ after, ¬ ("const " ++ name ++ " ").toList <+: line.toList

/-- In a file with one constant no other line begins as its declaration. -/
theorem SourceFile.exists_lines_of_constant {f : SourceFile} {name : String} {values : List String}
    (hconstants : f.constants = [(name, values)]) :
    ∃ before after, f.lines = before ++
        ("const " ++ name ++ " = " ++ ("[" ++ commas (values.map quote) ++ "]" ++ ";")) :: after ∧
      ∀ line ∈ before ++ after, ¬ BeginsWith 'c' line := by
  refine ⟨f.imports.flatMap Import.lines ++ (if f.imports.isEmpty then [] else [""]),
    "" :: f.exported.lines, ?_, ?_⟩
  · have hconstant : constantLine name values =
        "const " ++ name ++ " = " ++ ("[" ++ commas (values.map quote) ++ "]" ++ ";") := by
      unfold constantLine
      rw [← String.toList_inj]
      simp
    unfold SourceFile.lines
    rw [hconstants, ← hconstant]
    simp
  · refine List.forall_mem_append.2 ⟨List.forall_mem_append.2
      ⟨List.forall_mem_flatMap.2 fun i _ line hline hbegins => ?_, ?_⟩, List.forall_mem_cons.2
        ⟨by decide, fun line hline hbegins =>
          absurd (f.exported.head_mem line hline _ hbegins) (by decide)⟩⟩
    · cases hlines : i.lines with
      | nil => simp [hlines] at hline
      | cons first more =>
        obtain ⟨hfirst, hmore⟩ := Import.heads hlines
        rw [hlines] at hline
        rcases List.mem_cons.1 hline with rfl | hline
        · exact absurd (hfirst.of_head hbegins) (by decide)
        · exact absurd (hmore line hline _ hbegins) (by decide)
    · split
      · exact fun _ => nofun
      · exact List.forall_mem_singleton.2 (by decide)

/-- A file with one constant declares it by the array of its texts as they are. -/
theorem SourceFile.declares_iff {f : SourceFile} (hflat : f.IsFlat) {name : String}
    {values : List String} (hconstants : f.constants = [(name, values)]) {value : String} :
    Declares f.print name value ↔ value = "[" ++ commas (values.map quote) ++ "]" ++ ";" := by
  obtain ⟨before, after, hlines, hothers⟩ := f.exists_lines_of_constant hconstants
  have hline : ∀ value,
      ("const " ++ name ++ " ").toList <+: ("const " ++ name ++ " = " ++ value).toList :=
    fun value => ⟨("= " ++ value).toList, by simp⟩
  have hclosed : ∀ line ∈ before ++ after, ¬ ("const " ++ name ++ " ").toList <+: line.toList := by
    rintro line hmem ⟨back, hback⟩
    refine hothers line hmem ?_
    unfold BeginsWith
    rw [← hback]
    simp
  unfold Declares
  rw [SourceFile.linesOf_print hflat]
  constructor
  · rintro ⟨before', after', hlines', hclosed'⟩
    obtain ⟨-, hsame, -⟩ := eq_of_first (List.forall_mem_append.1 hclosed').1
      (List.forall_mem_append.1 hclosed).1 (hline _) (hline _) (hlines'.symm.trans hlines)
    exact (String.append_right_inj _).1 hsame
  · rintro rfl
    exact ⟨before, after, hlines, hclosed⟩

end Scaffold.TypeScript
