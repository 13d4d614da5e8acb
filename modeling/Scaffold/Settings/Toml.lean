import Scaffold.Settings.Basic

/-!
The settings file: TOML with three optional keys, a list of texts and two whole numbers. Whatever is
not such a document is refused, be it malformed or valid TOML of another shape.
-/

namespace Scaffold.Toml

/-- Reads a value off the front of a text. -/
abbrev Reader (α : Type) := List Char → Option (α × List Char)

def isSpace (c : Char) : Bool := c == ' ' || c == '\t'

/-- Characters that may stand in comments and strings. -/
def isPlain (c : Char) : Bool := c == '\t' || (0x20 ≤ c.toNat && c.toNat != 0x7F)

def skipSpaces (cs : List Char) : List Char := cs.dropWhile isSpace

/-- What follows a line feed, or a carriage return and a line feed. -/
def newline? : List Char → Option (List Char)
  | '\n' :: rest => some rest
  | '\r' :: '\n' :: rest => some rest
  | _ => none

/-- What follows the end of a line: spaces, a comment if there is one, and a newline or the end of
the text. -/
def lineEnd? (cs : List Char) : Option (List Char) :=
  let rest := match skipSpaces cs with
    | '#' :: comment => comment.dropWhile isPlain
    | rest => rest
  if rest.isEmpty then some [] else newline? rest

/-- Skips spaces, newlines and comments, as they may stand between the items of a list. -/
def skipGap : (inComment : Bool) → List Char → Option (List Char)
  | _, [] => some []
  | _, '\n' :: rest => skipGap false rest
  | _, '\r' :: '\n' :: rest => skipGap false rest
  | true, c :: rest => if isPlain c then skipGap true rest else none
  | false, c :: rest =>
    if isSpace c then skipGap false rest
    else if c = '#' then skipGap true rest
    else some (c :: rest)

/-! ## Strings -/

def hexValue? (cs : List Char) : Option Nat :=
  cs.foldlM (fun n c =>
    if c.isDigit then some (16 * n + (c.toNat - '0'.toNat))
    else if 'a' ≤ c && c ≤ 'f' then some (16 * n + (c.toNat - 'a'.toNat + 10))
    else if 'A' ≤ c && c ≤ 'F' then some (16 * n + (c.toNat - 'A'.toNat + 10))
    else none) 0

/-- The character with this number in hexadecimal. -/
def numbered? (cs : List Char) : Option Char := do
  let n ← hexValue? cs
  if n.isValidChar then some (Char.ofNat n) else none

def escape? : Char → Option Char
  | 'b' => some '\x08'
  | 't' => some '\t'
  | 'n' => some '\n'
  | 'f' => some '\x0c'
  | 'r' => some '\r'
  | 'e' => some '\x1b'
  | '"' => some '"'
  | '\\' => some '\\'
  | _ => none

/-- What stands after a backslash. -/
def escaped? : Reader Char
  | 'x' :: a :: b :: rest => (numbered? [a, b]).map (·, rest)
  | 'u' :: a :: b :: c :: d :: rest => (numbered? [a, b, c, d]).map (·, rest)
  | 'U' :: a :: b :: c :: d :: e :: f :: g :: h :: rest =>
    (numbered? [a, b, c, d, e, f, g, h]).map (·, rest)
  | c :: rest => (escape? c).map (·, rest)
  | [] => none

/-- What is left after the spaces and newlines at the front. -/
def skipFold : List Char → List Char
  | '\n' :: rest => skipFold rest
  | '\r' :: '\n' :: rest => skipFold rest
  | c :: rest => if isSpace c then skipFold rest else c :: rest
  | [] => []

/-- How a kind of string is written. -/
structure Style where
  quote : Char
  hasEscapes : Bool
  isMultiline : Bool

/-- The quotes at the end of a string: a multi-line one ends in three, before which two more may
belong to it. Gives the quotes that belong to the string and what follows. -/
def closing? (style : Style) (cs : List Char) : Option (List Char × List Char) :=
  let q := style.quote
  let run := (cs.takeWhile (· == q)).length
  if style.isMultiline then
    if run < 3 then none
    else
      let kept := min (run - 3) 2
      some (List.replicate kept q, cs.drop (kept + 3))
  else if run = 0 then none else some ([], cs.drop 1)

/-- The next piece of a string that has not ended, and what follows it. -/
def piece? (style : Style) : Reader (List Char)
  | [] => none
  | c :: rest =>
    if c = '\\' && style.hasEscapes then
      match newline? (skipSpaces rest) with
      | some folded => if style.isMultiline then some ([], skipFold folded) else none
      | none => (escaped? rest).map fun (c, rest) => ([c], rest)
    else if isPlain c then some ([c], rest)
    else if style.isMultiline then
      (newline? (c :: rest)).map fun after => ((c :: rest).take (rest.length + 1 - after.length), after)
    else none

/-- The rest of a string, up to its closing quotes. -/
def stringRest? (style : Style) (cs : List Char) : Option (List Char × List Char) :=
  match closing? style cs with
  | some closed => some closed
  | none =>
    match piece? style cs with
    | none => none
    | some (piece, rest) =>
      if rest.length < cs.length then
        (stringRest? style rest).map fun (text, rest) => (piece ++ text, rest)
      else none
termination_by cs.length

/-- A string of any of the four kinds. A newline right after three opening quotes does not count. -/
def string? : Reader (List Char) := fun cs =>
  match cs with
  | [] => none
  | q :: rest =>
    if q != '"' && q != '\'' then none
    else
      let hasEscapes := q == '"'
      match rest with
      | a :: b :: more =>
        if a == q && b == q then
          stringRest? ⟨q, hasEscapes, true⟩ ((newline? more).getD more)
        else stringRest? ⟨q, hasEscapes, false⟩ rest
      | _ => stringRest? ⟨q, hasEscapes, false⟩ rest

/-- The items of a list after its opening bracket or after a comma. -/
def items? (cs : List Char) : Option (List (List Char) × List Char) :=
  match skipGap false cs with
  | none => none
  | some (']' :: rest) => some ([], rest)
  | some start =>
    match string? start with
    | none => none
    | some (item, rest) =>
      match skipGap false rest with
      | some (']' :: rest) => some ([item], rest)
      | some (',' :: rest) =>
        if rest.length < cs.length then (items? rest).map fun (items, rest) => (item :: items, rest)
        else none
      | _ => none
termination_by cs.length

/-! ## Numbers -/

def radixDigit? (radix : Nat) (c : Char) : Option Nat :=
  (hexValue? [c]).bind fun n => if n < radix then some n else none

/-- Digits in groups with single underscores between them. -/
def grouped? (radix : Nat) (cs : List Char) : Option Nat :=
  let groups := cs.splitOn '_'
  if groups.any List.isEmpty then none
  else groups.flatten.foldlM (fun n c => (radixDigit? radix c).map (radix * n + ·)) 0

def decimal? (cs : List Char) : Option Nat :=
  match cs with
  | '0' :: _ :: _ => none
  | _ => grouped? 10 cs

/-- A whole number as it is written. Only zero may be negative. -/
def numeral? : List Char → Option Nat
  | '0' :: 'x' :: digits => grouped? 16 digits
  | '0' :: 'o' :: digits => grouped? 8 digits
  | '0' :: 'b' :: digits => grouped? 2 digits
  | '+' :: digits => decimal? digits
  | '-' :: digits => (decimal? digits).bind fun n => if n = 0 then some 0 else none
  | digits => decimal? digits

def endsNumber (c : Char) : Bool := isSpace c || c == '\n' || c == '\r' || c == '#'

def number? : Reader Nat := fun cs => do
  let n ← numeral? (cs.takeWhile (!endsNumber ·))
  if n < Text.word64Bound then some (n, cs.dropWhile (!endsNumber ·)) else none

/-! ## The document -/

def isBareKey (c : Char) : Bool := c.isAlphanum || c == '_' || c == '-'

def key? : Reader (List Char) := fun cs =>
  match cs.takeWhile isBareKey with
  | [] =>
    match cs with
    | '"' :: rest => stringRest? ⟨'"', true, false⟩ rest
    | '\'' :: rest => stringRest? ⟨'\'', false, false⟩ rest
    | _ => none
  | key => some (key, cs.dropWhile isBareKey)

/-- Reads the value of a key into its setting. A key that is given already is refused. -/
def value? (file : SettingsFile) (key : String) : Reader SettingsFile := fun cs =>
  match key with
  | "protected_models" =>
    match file.protectedModels, cs with
    | none, '[' :: rest => (items? rest).map fun (items, rest) =>
      ({ file with protectedModels := some (items.map String.ofList) }, rest)
    | _, _ => none
  | "io_timeout_ms" =>
    if file.ioTimeoutMs.isSome then none
    else (number? cs).map fun (n, rest) => ({ file with ioTimeoutMs := some n }, rest)
  | "debounce_ms" =>
    if file.debounceMs.isSome then none
    else (number? cs).map fun (n, rest) => ({ file with debounceMs := some n }, rest)
  | _ => none

/-- Reads one line: nothing, or a key and its value. -/
def entry? (file : SettingsFile) (cs : List Char) : Option (SettingsFile × List Char) :=
  match lineEnd? cs with
  | some rest => some (file, rest)
  | none => do
    let (key, rest) ← key? (skipSpaces cs)
    match skipSpaces rest with
    | '=' :: rest =>
      let (file, rest) ← value? file (String.ofList key) (skipSpaces rest)
      let rest ← lineEnd? rest
      some (file, rest)
    | _ => none

def entries? (file : SettingsFile) (cs : List Char) : Option SettingsFile :=
  if cs.isEmpty then some file
  else
    match entry? file cs with
    | none => none
    | some (file, rest) => if rest.length < cs.length then entries? file rest else none
termination_by cs.length

/-- Reads a settings file. A byte order mark at its start does not count. -/
def read? (text : String) : Option SettingsFile :=
  match text.toList with
  | '\uFEFF' :: rest => entries? {} rest
  | cs => entries? {} cs

end Scaffold.Toml
