set_option autoImplicit false

namespace ScriptSuite.FileSystem

inductive IoError where
  | notFound
  | permissionDenied
  | alreadyExists
  | notADirectory
  | isADirectory
  | notEmpty
  | tooManyLinks
  | execFormat
  -- The content is not UTF-8.
  | notText
  | notARegularFile
deriving DecidableEq, Repr

namespace IoError

def numbered (text : String) (code : Nat) : String :=
  text ++ " (os error " ++ toString code ++ ")"

def message : IoError → String
  | .notFound => numbered "No such file or directory" 2
  | .permissionDenied => numbered "Permission denied" 13
  | .alreadyExists => numbered "File exists" 17
  | .notADirectory => numbered "Not a directory" 20
  | .isADirectory => numbered "Is a directory" 21
  | .notEmpty => numbered "Directory not empty" 39
  | .tooManyLinks => numbered "Too many levels of symbolic links" 40
  | .execFormat => numbered "Exec format error" 8
  | .notText => "stream did not contain valid UTF-8"
  | .notARegularFile => "the source path is neither a regular file nor a symlink to a regular file"

end IoError

end ScriptSuite.FileSystem
