import Scaffold.Text.CaseTable

/-!
Upper and lower case of a character, which may be several characters (`ß` becomes `SS`), and of the
first character of a word.
-/

namespace Scaffold.Text

def mapCase (expansions : List (Nat × List Nat)) (runs : List CaseRun) (c : Char) : List Char :=
  match expansions.lookup c.toNat with
  | some ns => ns.map Char.ofNat
  | none =>
    match runs.find? (·.covers c.toNat) with
    | some r => [Char.ofNat (c.toNat + r.shift).toNat]
    | none => [c]

def toUpper (c : Char) : List Char :=
  if c.toNat < 0x80 then [c.toUpper] else mapCase upperExpansions upperRuns c

def toLower (c : Char) : List Char :=
  if c.toNat < 0x80 then [c.toLower] else mapCase lowerExpansions lowerRuns c

/-- Every character in lower case, each on its own. -/
def lowercase (cs : List Char) : List Char := cs.flatMap toLower

/-- The word with its first character in upper case. -/
def capitalize : List Char → List Char
  | [] => []
  | c :: cs => toUpper c ++ cs

/-- The word with its first character in lower case. -/
def uncapitalize : List Char → List Char
  | [] => []
  | c :: cs => toLower c ++ cs

theorem toUpper_of_ascii {c : Char} (h : c.toNat < 0x80) : toUpper c = [c.toUpper] := by
  simp [toUpper, h]

theorem toLower_of_ascii {c : Char} (h : c.toNat < 0x80) : toLower c = [c.toLower] := by
  simp [toLower, h]

end Scaffold.Text
