import RangeSort.Table.Location
import RangeSort.Table.Storage

/-! A storage of files. A file is written under another name beside its place and then moved
there, so a write that fails leaves no file behind, though it may leave directories. -/

namespace RangeSort

inductive Content where
  | table (t : Table)
  /-- Octets that are no table. -/
  | raw (octets : Octets)

/-- Later files hide earlier ones of the same path. The directories above a file exist
with it. -/
structure FileStore where
  base : List String
  directories : List (List String)
  files : List (List String × Content)

namespace FileStore

def empty : FileStore := ⟨[], [], []⟩

/-- The longest name, in octets. -/
def maxName : Nat := 255

/-- The longest path, in octets. -/
def maxPath : Nat := 4095

/-- What the name of a file ends with until the file is complete. -/
def draftSuffix : String := "#1"

/-- Names that end like a drive, with a letter and a colon or a bar, are for directories. -/
def isDirectoryName (name : String) : Bool :=
  match name.toList.reverse with
  | d :: c :: _ => Location.isDrive [c, d]
  | _ => false

/-- The path under which a file is written at first. -/
def draftPath (path : List String) : List String :=
  match path.getLast? with
  | none => [draftSuffix]
  | some name =>
    if isDirectoryName name then path ++ [draftSuffix] else path.dropLast ++ [name ++ draftSuffix]

def isNameFit (name : String) : Bool :=
  name.utf8ByteSize ≤ maxName

def isPathFit (path : List String) : Bool :=
  path.foldl (fun size name => size + name.utf8ByteSize + 1) 0 ≤ maxPath

def find? (s : FileStore) (path : List String) : Option Content :=
  s.files.lookup path

def isDirectory (s : FileStore) (path : List String) : Bool :=
  s.directories.any (path.isPrefixOf ·) || s.files.any fun f => path != f.1 && path.isPrefixOf f.1

/-- Makes the directories on a path, down to the first name that is too long. -/
def makeDirectories (s : FileStore) (path : List String) : FileStore :=
  { s with directories := path.takeWhile isNameFit :: s.directories }

/-- Missing directories are made, unless a file is in their place. A directory cannot be
overwritten. -/
def put (s : FileStore) (path : List String) (content : Content) : Except Error Unit × FileStore :=
  let draft := draftPath path
  let isBlocked := s.files.any fun f => f.1.isPrefixOf draft.dropLast
  if !isPathFit draft || isBlocked then (.error .storage, s)
  else
    let made := s.makeDirectories draft.dropLast
    if !draft.all isNameFit || made.isDirectory path then (.error .storage, made)
    else (.ok (), { made with files := (path, content) :: made.files })

def write (s : FileStore) (location : String) (content : Content) : Except Error Unit × FileStore :=
  match Location.resolve s.base location with
  | .ok (.file path) => s.put path content
  | .ok .memory => (.ok (), s)
  | .error e => (.error e, s)

def read (s : FileStore) (location : String) : Except Error Content := do
  match ← Location.resolve s.base location with
  | .file path => (s.find? path).elim (.error .storage) .ok
  | .memory => .error .storage

end FileStore

instance : Storage FileStore where
  Content := Content
  ofTable := .table
  toTable
    | .table t => .ok t
    | .raw _ => .error .format
  put := FileStore.write
  get := FileStore.read

end RangeSort
