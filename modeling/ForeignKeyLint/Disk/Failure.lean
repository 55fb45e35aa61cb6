import ForeignKeyLint.Path

/-!
Why a file cannot be read, and why a directory cannot be walked.
-/

namespace ForeignKeyLint.Disk

inductive ReadError where
  | notFound
  /-- A file stands where the path needs a directory. -/
  | notADirectory
  | isADirectory
  | tooManyLinks
  | nameTooLong
  /-- The path holds the character that ends a path. -/
  | notAPath
  /-- The content is not text. -/
  | notText
  | other (reason : String)
deriving Repr, DecidableEq

def ReadError.message : ReadError → String
  | .notFound => "No such file or directory (os error 2)"
  | .notADirectory => "Not a directory (os error 20)"
  | .isADirectory => "Is a directory (os error 21)"
  | .tooManyLinks => "Too many levels of symbolic links (os error 40)"
  | .nameTooLong => "File name too long (os error 36)"
  | .notAPath => "file name contained an unexpected NUL byte"
  | .notText => "stream did not contain valid UTF-8"
  | .other reason => reason

inductive WalkError where
  /-- A link leads back to a directory it is found in. -/
  | loop (link ancestor : Path)
  | unreadable (path : Path) (error : ReadError)
deriving Repr, DecidableEq

def WalkError.message : WalkError → String
  | .loop link ancestor =>
    "File system loop found: " ++ link.text ++ " points to an ancestor " ++ ancestor.text
  | .unreadable path error => "IO error for operation on " ++ path.text ++ ": " ++ error.message

end ForeignKeyLint.Disk
