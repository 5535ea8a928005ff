/-!
# Why a file cannot be used

The ways in which looking up a path or reading a file fails, with the texts of the operating
system. Most of them say that a path leads nowhere. An obstacle says nothing of the kind: what is
asked for may well be there.
-/

namespace Stratum

/-- What keeps a machine from using what it has. -/
inductive Obstacle where
  /-- It may not. -/
  | denied
  /-- The device fails. -/
  | broken
deriving DecidableEq, Repr

namespace Obstacle

/-- What is wrong, in the words of the operating system. -/
def message : Obstacle → String
  | denied => "Permission denied (os error 13)"
  | broken => "Input/output error (os error 5)"

end Obstacle

/-- A failure of reading. -/
inductive IoError where
  | notFound
  | notADirectory
  | isADirectory
  | nameTooLong
  | tooManyLinks
  /-- A path with a NUL character in it. -/
  | nulInName
  | obstacle (o : Obstacle)
  /-- Text was asked for, and the bytes are none. -/
  | notUtf8
  /-- A failure of some other source, in its own words. -/
  | other (text : String)
deriving DecidableEq, Repr

namespace IoError

/-- What is wrong, in the words of the operating system. -/
def message : IoError → String
  | notFound => "No such file or directory (os error 2)"
  | notADirectory => "Not a directory (os error 20)"
  | isADirectory => "Is a directory (os error 21)"
  | nameTooLong => "File name too long (os error 36)"
  | tooManyLinks => "Too many levels of symbolic links (os error 40)"
  | nulInName => "file name contained an unexpected NUL byte"
  | obstacle o => o.message
  | notUtf8 => "stream did not contain valid UTF-8"
  | other text => text

end IoError

end Stratum
