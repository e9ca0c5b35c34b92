import SchemaPages.Text.Cut

/-!
Paths as texts. Slashes part the names, empty names do not count, and a path that starts with a
slash starts at the root instead of the working directory. A path may be one that is refused
whatever the files are.
-/

namespace SchemaPages.Files

inductive FileError where
  | noEntry
  | alreadyExists
  | notDirectory
  | isDirectory
  | nameTooLong
  | zeroInPath
  | notText
  | reported (text : String)
deriving DecidableEq

def FileError.message : FileError → String
  | .noEntry => "No such file or directory (os error 2)"
  | .alreadyExists => "File exists (os error 17)"
  | .notDirectory => "Not a directory (os error 20)"
  | .isDirectory => "Is a directory (os error 21)"
  | .nameTooLong => "File name too long (os error 36)"
  | .zeroInPath => "file name contained an unexpected NUL byte"
  | .notText => "stream did not contain valid UTF-8"
  | .reported text => text

abbrev Path := String

namespace Path

def names (path : Path) : List String :=
  ((Text.cut '/' path.toList).filter (!·.isEmpty)).map String.ofList

def isAbsolute (path : Path) : Bool :=
  path.toList.head? == some '/'

def endsInSlash (path : Path) : Bool :=
  path.toList.getLast? == some '/'

/-- The longest path that is taken, in bytes. -/
def limit : Nat := 4095

/-- Why a path is not taken, if it is not. -/
def refusal? (path : Path) : Option FileError :=
  if path.toList.contains '\x00' then some .zeroInPath
  else if path = "" then some .noEntry
  else if limit < path.utf8ByteSize then some .nameTooLong
  else none

def join (directory : Path) (name : String) : Path :=
  if directory = "" || endsInSlash directory then directory ++ name
  else directory ++ "/" ++ name

def ofNames (absolute : Bool) (names : List String) : Path :=
  (if absolute then "/" else "") ++ "/".intercalate names

/-- The lists of names, the last one first, that are left as names are taken off one by one. Dots
are taken off with the name before them. -/
def shortened : List String → List (List String)
  | [] => []
  | name :: up => if name = "." then shortened up else (name :: up) :: shortened up

/-- The paths above a path, the nearest one first. -/
def above (path : Path) : List Path :=
  (shortened path.names.reverse).tail.map fun names => ofNames path.isAbsolute names.reverse

example : above "/srv/./site//a/." = ["/srv/./site", "/srv"] := by decide

/-- The last name, if it is the name of an entry. -/
def fileName? (path : Path) : Option String :=
  match ((names path).filter (· ≠ ".")).getLast? with
  | some ".." => none
  | last => last

/-- What follows the last dot of the last name, if anything comes before that dot. -/
def extension? (path : Path) : Option String :=
  match fileName? path with
  | none => none
  | some name =>
    let reversed := name.toList.reverse
    match reversed.dropWhile (· ≠ '.') with
    | _ :: _ :: _ => some (String.ofList (reversed.takeWhile (· ≠ '.')).reverse)
    | _ => none

example : extension? "conf/..toml" = some "toml" := by decide

example : extension? ".toml" = none := by decide

end Path

end SchemaPages.Files
