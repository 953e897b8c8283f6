import ApiClient.Text.Edit

/-!
# Paths of files

A path is a root and a list of names. Empty names and names that stand for the same place are
left out; a name that stands for the place above is kept.
-/

namespace ApiClient

structure FilePath where
  /-- Empty for a path from the working folder; otherwise one slash, or exactly two. -/
  root : String
  names : List String
  deriving DecidableEq

namespace FilePath

def rootOf : List Char → String
  | '/' :: '/' :: '/' :: _ => "/"
  | '/' :: '/' :: _ => "//"
  | '/' :: _ => "/"
  | _ => ""

def ofText (s : String) : FilePath where
  root := rootOf s.toList
  names := ((s.toList.splitOn '/').map String.ofList).filter fun n => n ≠ "" && n ≠ "."

def text (p : FilePath) : String :=
  let s := p.root ++ "/".intercalate p.names
  if s = "" then "." else s

def parent (p : FilePath) : FilePath := { p with names := p.names.dropLast }

/-- The last name, empty when there is none. -/
def name (p : FilePath) : String := p.names.getLastD ""

end FilePath

end ApiClient
