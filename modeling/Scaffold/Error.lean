import Scaffold.Duration

/-!
What can go wrong while a resource is generated, and the texts that report it.
-/

namespace Scaffold

/-- Why the file system refused an operation. -/
inductive IoError where
  | notFound
  | alreadyExists
  | notDirectory
  | isDirectory
  | nameTooLong
  | invalidUtf8
  | other (text : String)
deriving DecidableEq, Repr

def IoError.text : IoError → String
  | .notFound => "No such file or directory (os error 2)"
  | .alreadyExists => "File exists (os error 17)"
  | .notDirectory => "Not a directory (os error 20)"
  | .isDirectory => "Is a directory (os error 21)"
  | .nameTooLong => "File name too long (os error 36)"
  | .invalidUtf8 => "stream did not contain valid UTF-8"
  | .other text => text

/-- Why one model was not generated. -/
inductive GenerateError where
  | modelNotFound (model : String)
  | schemaRead (path : String) (cause : IoError)
  | artifactWrite (path : String) (cause : IoError)
  | timeout (path : String) (limit : Duration)
deriving DecidableEq, Repr

namespace GenerateError

def message : GenerateError → String
  | .modelNotFound model => "model " ++ model ++ " not found in schema"
  | .schemaRead path cause => "failed to read schema " ++ path ++ ": " ++ cause.text
  | .artifactWrite path cause => "failed to write artifact " ++ path ++ ": " ++ cause.text
  | .timeout path limit =>
    "filesystem operation on " ++ path ++ " timed out after " ++ limit.text

def cause? : GenerateError → Option IoError
  | .schemaRead _ cause | .artifactWrite _ cause => some cause
  | _ => none

end GenerateError

end Scaffold
