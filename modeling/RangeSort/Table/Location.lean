import RangeSort.Error
import RangeSort.Table.Authority

/-! Where a table is kept. A location is a URL or else a path of the file system; of the
URLs, only those of files and of memory can be used. -/

namespace RangeSort

inductive Location where
  | file (path : List String)
  /-- A place that is new, and empty, each time it is used. -/
  | memory
  deriving DecidableEq, Repr

namespace Location

/-- The scheme in lower case and what follows its colon. -/
def scheme? (s : List Char) : Option (String × List Char) :=
  let inScheme (c : Char) : Bool := c.isAlphanum || c == '+' || c == '-' || c == '.'
  match s.head?, s.dropWhile inScheme with
  | some c, ':' :: rest =>
    if c.isAlpha then some (String.ofList ((s.takeWhile inScheme).map Char.toLower), rest) else none
  | _, _ => none

/-- A URL without the blanks around it and the line breaks in it. -/
def tidied (s : List Char) : List Char :=
  let outer (c : Char) : Bool := c.toNat ≤ 0x20
  ((s.dropWhile outer).reverse.dropWhile outer).reverse.filter fun c =>
    !(c == '\t' || c == '\n' || c == '\r')

def isSlash (special : Bool) (c : Char) : Bool :=
  c == '/' || (special && c == '\\')

/-- The part before a query or a fragment. -/
def pathPart (s : List Char) : List Char :=
  s.takeWhile fun c => !(c == '?' || c == '#')

def splitSegments (special : Bool) (s : List Char) : List (List Char) :=
  (s.map fun c => if isSlash special c then '/' else c).splitOn '/'

/-- How many dots a segment of dots has. They may be written with a percent sign. -/
def dots? : List Char → Option Nat
  | [] => some 0
  | '.' :: s => (dots? s).map (· + 1)
  | '%' :: '2' :: 'e' :: s => (dots? s).map (· + 1)
  | '%' :: '2' :: 'E' :: s => (dots? s).map (· + 1)
  | _ => none

/-- Whether a segment names a drive: a letter and a colon, or a bar for it. -/
def isDrive : List Char → Bool
  | [c, d] => c.isAlpha && (d == ':' || d == '|')
  | _ => false

/-- Resolves segments of one and of two dots. At the end they leave an empty segment. A
drive is not left by dots. -/
def withoutDots : (done : List (List Char)) → List (List Char) → List (List Char)
  | done, [] => done.reverse
  | done, s :: rest =>
    let last := rest.isEmpty
    match dots? s with
    | some 1 => withoutDots (if last then [] :: done else done) rest
    | some 2 =>
      let above := if done.head?.any isDrive then done else done.tail
      withoutDots (if last then [] :: above else above) rest
    | _ => withoutDots (s :: done) rest

/-- The segments of a decoded path. One slash at either end is dropped; empty segments,
dots and control characters are refused. -/
def segments (path : Octets) : Except Error (List String) :=
  let s := Utf8.decode path
  if Utf8.encode s ≠ path then .error .storage
  else
    let s := if s.head? = some '/' then s.tail else s
    if s.isEmpty then .ok []
    else
      let s := if s.getLast? = some '/' then s.dropLast else s
      let parts := s.splitOn '/'
      let refused (p : List Char) : Bool :=
        p.isEmpty || p == ['.'] || p == ['.', '.'] || p.any fun c => c.toNat < 0x20 || c.toNat == 0x7F
      if parts.any refused then .error .storage else .ok (parts.map String.ofList)

/-- A name whose first hash is followed by nothing but digits is set aside for unfinished
files. -/
def isReserved (name : String) : Bool :=
  match name.toList.dropWhile (· != '#') with
  | _ :: suffix => !suffix.isEmpty && suffix.all Char.isDigit
  | [] => false

/-- At the head of a path, a drive is written with a colon. -/
def withDrive : List String → List String
  | [] => []
  | name :: rest =>
    if isDrive name.toList then String.ofList (name.toList.take 1 ++ [':']) :: rest
    else name :: rest

def file? (path : List String) : Except Error Location :=
  match path.getLast? with
  | some name => if isReserved name then .error .storage else .ok (.file (withDrive path))
  | none => .error .storage

/-- A path of the file system, below `base` unless it starts with a slash. -/
def ofPath (base : List String) (s : List Char) : Except Error Location := do
  let own := (s.splitOn '/').filter fun p => !p.isEmpty && p != ['.']
  let above := if s.head? = some '/' then [] else base.map String.toList
  let path ← segments (Utf8.encode (['/'].intercalate (above ++ own)))
  file? path

def resolvedSegments (special : Bool) (s : List Char) : List (List Char) :=
  withoutDots [] (splitSegments special s)

def ofSegments (path : List (List Char)) : Except Error (List String) :=
  segments (percentDecodeText ('/' :: ['/'].intercalate path))

def dropSlash (special : Bool) (s : List Char) : List Char :=
  if s.head?.any (isSlash special) then s.tail else s

/-- The path of a file URL, after its first slash. -/
def ofFilePath (s : List Char) : Except Error Location := do
  let path ← ofSegments ((resolvedSegments true (pathPart s)).dropWhile List.isEmpty)
  file? path

/-- What follows `file:`. Only this machine may be named as the host, unless the path starts
with a drive. A drive may also stand in the place of the host. -/
def ofFileUrl (s : List Char) : Except Error Location :=
  let slashes := (s.take 2).takeWhile (isSlash true)
  let body := s.drop slashes.length
  let host := body.takeWhile fun c => !Authority.isEnd true c
  if slashes.length < 2 ∨ isDrive host then ofFilePath body
  else
    let path := dropSlash true (body.drop host.length)
    if host.isEmpty then ofFilePath path
    else match Host.ofName? host with
      | none => .error .badUrl
      | some name =>
        let isDrivePath := (resolvedSegments true (pathPart path)).head?.any isDrive
        if name = "localhost".toList ∨ isDrivePath then ofFilePath path else .error .storage

/-- What follows `memory:`. -/
def ofMemoryUrl (s : List Char) : Except Error Location := do
  let _ ← match s with
    | '/' :: '/' :: body =>
      match Authority.read? false body with
      | none => .error .badUrl
      | some (true, _) => .error .storage
      | some (false, rest) => ofSegments (resolvedSegments false (dropSlash false (pathPart rest)))
    | '/' :: body => ofSegments (resolvedSegments false (pathPart body))
    | body => segments (percentDecodeText (pathPart body))
  return .memory

/-- URLs of other schemes are refused, either way. -/
def refuse (name : String) (s : List Char) : Error :=
  let special := ["http", "https", "ws", "wss", "ftp"].contains name
  let isWellFormed :=
    if special then (Authority.read? true (s.dropWhile (isSlash true))).isSome
    else s.take 2 != ['/', '/'] || (Authority.read? false (s.drop 2)).isSome
  if isWellFormed then .storage else .badUrl

/-- The place that `text` names, for a process whose working directory is `base`. -/
def resolve (base : List String) (text : String) : Except Error Location :=
  match scheme? (tidied text.toList) with
  | none => if text.isEmpty then .error .emptyLocation else ofPath base text.toList
  | some ("file", rest) => ofFileUrl rest
  | some ("memory", rest) => ofMemoryUrl rest
  | some (name, rest) => .error (refuse name rest)

end Location

end RangeSort
