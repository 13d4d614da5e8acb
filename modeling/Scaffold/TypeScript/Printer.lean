import Scaffold.TypeScript.Syntax

/-!
The text of a source file, line by line: two spaces of indentation a level, a blank line between the
members of a class and after the imports and each constant, and no line feed at the end.
-/

namespace Scaffold.TypeScript

def commas (items : List String) : String := ", ".intercalate items

def braces (inner : String) : String := "\x7b " ++ inner ++ " \x7d"

def indent (line : String) : String := "  " ++ line

/-- A text between single quotes, as it is. -/
def quote (text : String) : String := "'" ++ text ++ "'"

def Import.lines (i : Import) : List String :=
  if i.onePerLine then
    "import \x7b" :: i.names.map (fun n => indent (n ++ ",")) ++ ["\x7d from " ++ quote i.source ++ ";"]
  else ["import " ++ braces (commas i.names) ++ " from " ++ quote i.source ++ ";"]

def Arg.print : Arg → String
  | .text value => quote value
  | .ident name => name

def Decorator.print (d : Decorator) : String :=
  "@" ++ d.name ++ "(" ++ commas (d.args.map Arg.print) ++ ")"

def Decorator.lines (d : Decorator) : List String :=
  if d.lists.isEmpty then [d.print]
  else
    ("@" ++ d.name ++ "(\x7b") ::
      d.lists.map (fun (key, names) => indent (key ++ ": [" ++ commas names ++ "],")) ++ ["\x7d)"]

def Param.print (p : Param) : String :=
  String.join (p.decorators.map (·.print ++ " ")) ++ p.name ++ ": " ++ p.type

def Method.lines (m : Method) : List String :=
  let start := (if m.isAsync then "async " else "") ++ m.name ++ "("
  let params := m.params.map Param.print
  let header :=
    if m.onePerLine then start :: params.map (fun p => indent (p ++ ",")) ++ [") \x7b"]
    else [start ++ commas params ++ ") \x7b"]
  m.decorators.map Decorator.print ++ header ++ m.body.map indent ++ ["\x7d"]

def Property.lines (p : Property) : List String :=
  p.decorators ++ [p.name ++ (if p.isOptional then "?" else "") ++ ": " ++ p.type ++ ";"]

def Member.lines : Member → List String
  | .injected name type =>
    ["constructor(private readonly " ++ name ++ ": " ++ type ++ ") \x7b\x7d"]
  | .method m => m.lines
  | .property p => p.lines

def ClassDecl.lines (c : ClassDecl) : List String :=
  let header := "export class " ++ c.name ++ ((c.base.map (" extends " ++ ·)).getD "")
  c.decorators.flatMap Decorator.lines ++
    match c.members with
    | none => [header ++ " \x7b\x7d"]
    | some members =>
      (header ++ " \x7b") ::
        ((members.map (·.lines.map indent)).intersperse [""]).flatten ++ ["\x7d"]

def constantLine (name : String) (values : List String) : String :=
  "const " ++ name ++ " = [" ++ commas (values.map quote) ++ "];"

def SourceFile.lines (f : SourceFile) : List String :=
  f.imports.flatMap Import.lines ++ (if f.imports.isEmpty then [] else [""]) ++
    f.constants.flatMap (fun (name, values) => [constantLine name values, ""]) ++
    f.exported.lines

def SourceFile.print (f : SourceFile) : String := "\n".intercalate f.lines

end Scaffold.TypeScript
