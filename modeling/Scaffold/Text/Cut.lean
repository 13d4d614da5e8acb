/-!
Cutting a text up: into lines, before a `//` comment, and around the first occurrence of a piece.
-/

namespace Scaffold.Text

/-- A line without the carriage return that ends it, if there is one. -/
def dropReturn (line : List Char) : List Char :=
  match line.getLast? with
  | some '\r' => line.dropLast
  | _ => line

/-- The lines of a text. A line ends at a line feed, or at a carriage return and a line feed; what
follows the last line feed is a line only if it is not empty, and keeps a carriage return. -/
def lines (cs : List Char) : List (List Char) :=
  let pieces := cs.splitOn '\n'
  pieces.dropLast.map dropReturn ++ pieces.getLast?.toList.filter (!·.isEmpty)

/-- What stands before the first `//`, the whole text if there is none. -/
def beforeComment : List Char → List Char
  | [] => []
  | '/' :: '/' :: _ => []
  | c :: cs => c :: beforeComment cs

def occursIn (piece : List Char) : List Char → Bool
  | [] => piece.isEmpty
  | c :: cs => piece.isPrefixOf (c :: cs) || occursIn piece cs

/-- The text without the first occurrence of `piece`. -/
def removeFirst (piece : List Char) : List Char → List Char
  | [] => []
  | c :: cs =>
    if piece.isPrefixOf (c :: cs) then (c :: cs).drop piece.length
    else c :: removeFirst piece cs

/-- The entries of a comma-separated list, trimmed, without the blank ones. -/
def parts (p : List Char → List Char) (cs : List Char) : List (List Char) :=
  ((cs.splitOn ',').map p).filter (!·.isEmpty)

end Scaffold.Text
