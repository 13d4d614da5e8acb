import Scaffold.Logging.Level
import Scaffold.Text.Alphanumeric
import Scaffold.Text.Blank
import Scaffold.Text.Numeral

/-!
Log filters. The settings ask little of the language that filters are written in, and leave it open.
In its plain part a directive lets events up to a threshold pass, for one target or, without a
target, for all; a filter holds at most one directive a target. The first directive in the filter's
order that names a prefix of an event's source decides about it.
-/

namespace Scaffold

/-- What the settings ask of a language of filters: to read one directive, to make a filter of some,
and to add one to a filter. -/
structure FilterLanguage (Directive Filter : Type) where
  parse? : List Char → Option Directive
  ofDirectives : List Directive → Filter
  add : Filter → Directive → Filter

/-- The least severe level that passes, `none` if nothing does. -/
abbrev Threshold := Option Level

namespace Threshold

def text : Threshold → String
  | none => "off"
  | some .error => "error"
  | some .warn => "warn"
  | some .info => "info"
  | some .debug => "debug"
  | some .trace => "trace"

def rank : Threshold → Nat
  | none => 0
  | some level => level.rank

def all : List Threshold := none :: Level.all.map some

/-- A threshold is written as its name in any case of ASCII letters, or as its rank. -/
def ofChars? (cs : List Char) : Option Threshold :=
  match Text.word64? cs with
  | some n => all.find? (·.rank == n)
  | none => all.find? (·.text.toList == cs.map Char.toLower)

end Threshold

/-- A plain directive: it names a target or everything, and no spans or fields. -/
structure Directive where
  target : Option String
  threshold : Threshold
deriving DecidableEq, Repr

namespace Directive

def print (d : Directive) : String :=
  match d.target with
  | some target => target ++ "=" ++ d.threshold.text
  | none => d.threshold.text

def mayStart (c : Char) : Bool :=
  c == '-' || c == ':' || c == '_' || Text.isAlphanumeric c

/-- The longest part of the text that takes at most `bytes` bytes in UTF-8. -/
def takeBytes : (bytes : Nat) → List Char → List Char
  | _, [] => []
  | bytes, c :: cs =>
    if c.utf8Size ≤ bytes then c :: takeBytes (bytes - c.utf8Size) cs else []

def byteLength (cs : List Char) : Nat := (String.ofList cs).utf8ByteSize

/-- Reads a plain directive: `LEVEL`, `TARGET` or `TARGET=LEVEL`. One with a bracket, which names spans
or fields, is none. White space around a directive is looked past to see its first character and its
`=`, but counts when the parts are cut out: they are taken at the same distance from the start of the
text as it stands. -/
def parse? (cs : List Char) : Option Directive :=
  match Text.trim cs with
  | [] => none
  | first :: rest =>
    if mayStart first && !rest.contains '[' then
      let target := first :: rest.takeWhile (· != '=')
      if rest.contains '=' then
        let size := byteLength target
        let before := takeBytes size cs
        let level := cs.drop (takeBytes (size + 1) cs).length
        let threshold? := if level.isEmpty then some (some .trace) else Threshold.ofChars? level
        threshold?.map fun threshold => ⟨some (String.ofList before), threshold⟩
      else
        match Threshold.ofChars? cs with
        | some threshold => some ⟨none, threshold⟩
        | none => some ⟨some (String.ofList cs), some .trace⟩
    else none

/-- Longer targets come first, among targets of one length the later in the alphabet, and the
directive without a target last. -/
def comesBefore (a b : Directive) : Bool :=
  match a.target, b.target with
  | some s, some t =>
    if s.utf8ByteSize = t.utf8ByteSize then t < s else t.utf8ByteSize < s.utf8ByteSize
  | some _, none => true
  | none, _ => false

/-- Whether the directive speaks about events of this source. -/
def covers (d : Directive) (source : String) : Bool :=
  match d.target with
  | some target => source.startsWith target
  | none => true

end Directive

/-- The directives of a filter in order. -/
structure LogFilter where
  directives : List Directive
deriving DecidableEq, Repr

namespace LogFilter

def empty : LogFilter := ⟨[]⟩

def insertDirective (d : Directive) : List Directive → List Directive
  | [] => [d]
  | e :: es => if d.comesBefore e then d :: e :: es else e :: insertDirective d es

/-- Adds a directive, which takes the place of the one with the same target. -/
def add (f : LogFilter) (d : Directive) : LogFilter :=
  ⟨insertDirective d (f.directives.filter (·.target != d.target))⟩

def ofDirectives (ds : List Directive) : LogFilter := ds.foldl add empty

/-- The plain part of the language. -/
def plain : FilterLanguage Directive LogFilter := ⟨Directive.parse?, ofDirectives, add⟩

def print (f : LogFilter) : String := ",".intercalate (f.directives.map Directive.print)

/-- Whether an event of this level and source passes. -/
def admits (f : LogFilter) (level : Level) (source : String) : Bool :=
  match f.directives.find? (·.covers source) with
  | some d => level.rank ≤ d.threshold.rank
  | none => false

end LogFilter

end Scaffold
