import ApiClient.FilePath
import ApiClient.Text.Quoted
import ApiClient.Text.Utf8

/-!
# Folders

A folder as a value: the files in it and below it with their octets, and the folders that hold
none. Paths begin at the folder itself or at the root. Of what lies above the folder only the
folders on the way to it are known, and what is written there.
-/

namespace ApiClient

/-- Why a file could not be read or written. -/
inductive FileFailure where
  | notFound
  | notAFolder
  | isAFolder
  | alreadyExists
  | nameTooLong
  /-- The path holds a null character, which no name can. -/
  | unnameable
  deriving DecidableEq

namespace FileFailure

/-- The account of a failure at a path, unless the path itself is at fault. -/
def text? (path : FilePath) (f : FileFailure) : Option String :=
  (match f with
    | notFound => some "[Errno 2] No such file or directory: "
    | alreadyExists => some "[Errno 17] File exists: "
    | notAFolder => some "[Errno 20] Not a directory: "
    | isAFolder => some "[Errno 21] Is a directory: "
    | nameTooLong => some "[Errno 36] File name too long: "
    | unnameable => none).map (· ++ quote path.text)

end FileFailure

/-- Files and folders are known by their places: names from the folder down, after one `..` for
every folder above it that is passed, or after `/` from the root. -/
structure Folder where
  files : List (List String × List UInt8)
  folders : List (List String)

namespace Folder

inductive Entry where
  | file (octets : List UInt8)
  | folder
  | absent

/-- Whether a place is the folder itself, a folder above it or the root. -/
def isAbove (place : List String) : Bool := place.all fun name => name = ".." || name = "/"

/-- Whether a place is in the folder or below it. -/
def isInside (place : List String) : Bool := !place.any fun name => name = ".." || name = "/"

def entry (d : Folder) (place : List String) : Entry :=
  match d.files.lookup place with
  | some octets => .file octets
  | none =>
    if isAbove place || d.folders.contains place || d.files.any (place.isPrefixOf ·.1)
        || d.folders.any (place.isPrefixOf ·) then .folder
    else .absent

/-- The place above another; nothing is above the root. -/
def above (place : List String) : List String :=
  match place.getLast? with
  | none | some ".." => place ++ [".."]
  | some "/" => place
  | some _ => place.dropLast

/-- Follows names from a place in the folder; the place of the last name need not exist. -/
def walk (d : Folder) : List String → List String → Except FileFailure (List String)
  | here, [] => .ok here
  | here, name :: names =>
    match d.entry here with
    | .file _ => .error .notAFolder
    | .absent => .error .notFound
    | .folder =>
      if 255 < Text.octetCount name.toList then .error .nameTooLong
      else d.walk (if name = ".." then above here else here ++ [name]) names

def locate (d : Folder) (p : FilePath) : Except FileFailure (List String) :=
  if p.names.any (·.contains '\x00') then .error .unnameable
  else if 4095 < Text.octetCount p.text.toList then .error .nameTooLong
  else d.walk (if p.root = "" then [] else ["/"]) p.names

def read (d : Folder) (p : FilePath) : Except FileFailure (List UInt8) := do
  match d.entry (← d.locate p) with
  | .file octets => .ok octets
  | .folder => .error .isAFolder
  | .absent => .error .notFound

/-- Makes a folder, and those above it that do not exist. A failure comes with its path. -/
def makeFolder (d : Folder) (root : String) (names : List String) :
    Except (FilePath × FileFailure) Folder :=
  let p : FilePath := { root, names }
  match d.locate p with
  | .ok place =>
    match d.entry place with
    | .folder => .ok d
    | .file _ => .error (p, .alreadyExists)
    | .absent => .ok { d with folders := place :: d.folders }
  | .error .notFound =>
    match _h : names with
    | [] => .error (p, .notFound)
    | _ :: _ => do
      let d ← d.makeFolder root names.dropLast
      match d.locate p with
      | .ok place => .ok { d with folders := place :: d.folders }
      | .error f => .error (p, f)
  | .error f => .error (p, f)
termination_by names.length
decreasing_by simp_all

/-- Writes a file, in a folder that is made on demand. -/
def write (d : Folder) (p : FilePath) (octets : List UInt8) :
    Except (FilePath × FileFailure) Folder := do
  let d ← d.makeFolder p.root p.parent.names
  let place ← (d.locate p).mapError fun f => (p, f)
  match d.entry place with
  | .folder => .error (p, .isAFolder)
  | .file _ | .absent =>
    .ok { d with files := d.files.filter (·.1 ≠ place) ++ [(place, octets)] }

end Folder

end ApiClient
