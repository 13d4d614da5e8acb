/-!
The part of TypeScript that generated files are made of: imports, constants, and one exported class
with decorated members.
-/

namespace Scaffold.TypeScript

/-- `import { … } from '…';`, on one line or with one name a line. -/
structure Import where
  names : List String
  source : String
  onePerLine : Bool := false
deriving DecidableEq, Repr

inductive Arg where
  | text (value : String)
  | ident (name : String)
deriving DecidableEq, Repr

/-- A decorator with its arguments, or with an object of lists as its only argument. -/
structure Decorator where
  name : String
  args : List Arg := []
  lists : List (String × List String) := []
deriving DecidableEq, Repr

structure Param where
  decorators : List Decorator := []
  name : String
  type : String
deriving DecidableEq, Repr

structure Method where
  decorators : List Decorator := []
  isAsync : Bool := false
  name : String
  params : List Param
  onePerLine : Bool := false
  body : List String
deriving DecidableEq, Repr

/-- A property with its decorators as source text. -/
structure Property where
  decorators : List String
  name : String
  isOptional : Bool
  type : String
deriving DecidableEq, Repr

inductive Member where
  | injected (name type : String)
  | method (m : Method)
  | property (p : Property)
deriving DecidableEq, Repr

/-- An exported class. One that declares no members at all is written on a single line. -/
structure ClassDecl where
  decorators : List Decorator := []
  name : String
  base : Option String := none
  members : Option (List Member) := none
deriving DecidableEq, Repr

/-- A file: imports, constants that hold lists of texts, and the class that it exports. -/
structure SourceFile where
  imports : List Import
  constants : List (String × List String) := []
  exported : ClassDecl
deriving DecidableEq, Repr

/-! What the parts of a class refer to by name. -/

def Arg.ident? : Arg → Option String
  | .text _ => none
  | .ident name => some name

def Decorator.uses (d : Decorator) : List String := d.name :: d.args.filterMap Arg.ident?

def Param.uses (p : Param) : List String := p.decorators.flatMap Decorator.uses

def Member.method? : Member → Option Method
  | .method m => some m
  | _ => none

def ClassDecl.methods (c : ClassDecl) : List Method := (c.members.getD []).filterMap Member.method?

end Scaffold.TypeScript
