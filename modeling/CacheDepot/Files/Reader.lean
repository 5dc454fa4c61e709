/-!
# Reading files

Why operations on files fail, and what it is to read a whole file by its path.
-/

namespace CacheDepot.Files

/-- Why an operation on a file failed. -/
inductive FileError where
  | notFound
  | notADirectory
  | isADirectory
  | invalidArgument
  | illegalSeek
  | nameTooLong
  | nulInName
  /-- Any other error of the system, by its text and number. -/
  | system (text : String) (number : Nat)
  deriving DecidableEq, Repr

namespace FileError

/-- An error of the system with its number. -/
def numbered (text : String) (number : Nat) : String :=
  text ++ " (os error " ++ toString number ++ ")"

def message : FileError → String
  | .notFound => numbered "No such file or directory" 2
  | .notADirectory => numbered "Not a directory" 20
  | .isADirectory => numbered "Is a directory" 21
  | .invalidArgument => numbered "Invalid argument" 22
  | .illegalSeek => numbered "Illegal seek" 29
  | .nameTooLong => numbered "File name too long" 36
  | .nulInName => "file name contained an unexpected NUL byte"
  | .system text number => numbered text number

/-- The error of a number, whose text is used only if nothing more is known of it. -/
def ofNumber (number : Nat) (text : String) : FileError :=
  match number with
  | 2 => .notFound
  | 20 => .notADirectory
  | 21 => .isADirectory
  | 22 => .invalidArgument
  | 29 => .illegalSeek
  | 36 => .nameTooLong
  | _ => .system text number

/-- Whether an error on looking a path up means that there is no such path. -/
def meansAbsent : FileError → Bool
  | .notFound | .notADirectory | .nameTooLong | .nulInName => true
  -- A path that leads round in circles through links.
  | .system _ 40 => true
  | _ => false

end FileError

/-- Gives the content of the file at a path; nothing if there is no such path. -/
abbrev Reader := String → Except FileError (Option ByteArray)

end CacheDepot.Files
