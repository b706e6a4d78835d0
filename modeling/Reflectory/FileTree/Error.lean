/-
Why a file operation fails, and how paths are written in messages.
-/

import Reflectory.Text.Trim

namespace Reflectory

/-- The causes of failing file operations. -/
inductive FileError where
  | notFound | refused | alreadyExists | notDirectory | isDirectory | notUtf8
  /-- Any other cause, in words of its own. -/
  | other (text : String)
  deriving DecidableEq, Repr

/-- The text of a cause. -/
def FileError.message : FileError → String
  | notFound => "No such file or directory (os error 2)"
  | refused => "Permission denied (os error 13)"
  | alreadyExists => "File exists (os error 17)"
  | notDirectory => "Not a directory (os error 20)"
  | isDirectory => "Is a directory (os error 21)"
  | notUtf8 => "stream did not contain valid UTF-8"
  | other text => text

/-- The text of a cause for which a directory cannot be scanned. -/
def FileError.scanMessage (path : String) (e : FileError) : String :=
  "IO error for operation on " ++ path ++ ": " ++ e.message

/-- The path `path` as seen from `dir`: an absolute one stays, any other is
appended after a slash. -/
def joinPath (dir path : String) : String :=
  if path.toList.head? = some '/' || dir.isEmpty then path
  else if dir.toList.getLast? = some '/' then dir ++ path
  else dir ++ "/" ++ path

end Reflectory
