import RangeSort.Table.ColumnType
import RangeSort.Value.Reader
import RangeSort.Value.Text

/-! What can go wrong with schemas, sort keys, tables and settings. -/

namespace RangeSort

inductive SchemaFault where
  | bagElement (name : String) (fields : Nat)
  | notNested (name : String) (kind : Kind)
  | keyOutOfRange (key fields : Nat)
  | orderCount (keys orders : Nat)
  | emptyPath
  | pathOutOfRange (path : List Nat) (fields : Nat)
  | pathThrough (path : List Nat) (name : String) (kind : Kind)
  | noFieldAt (path : List Nat) (offset : Nat) (name : String)
  | mapKey (name : String)
  | mapColumn (name : String)
  | cannotStore (value : Value) (column : ColumnType)
  | notTuple (kind : Kind)
  | unknownColumn (column : ColumnType)
  deriving Inhabited

def pathText (path : List Nat) : String :=
  "[" ++ ", ".intercalate (path.map fun n => String.ofList (natChars n)) ++ "]"

def SchemaFault.message : SchemaFault → String
  | .bagElement name fields =>
    s!"Invalid schema for bag '{name}': bag schema must have tuple as its only field, " ++
      s!"found {fields} field(s)"
  | .notNested name kind =>
    s!"Field '{name}' of type {kind.name} cannot have a nested schema"
  | .keyOutOfRange key fields =>
    s!"Sort key {key} is out of range for a schema with {fields} field(s)"
  | .orderCount keys orders => s!"Got {keys} sort key(s) but {orders} sort order(s)"
  | .emptyPath => "Empty sort key path"
  | .pathOutOfRange path fields =>
    s!"Sort key {pathText path} is out of range for a schema with {fields} field(s)"
  | .pathThrough path name kind =>
    s!"Sort key {pathText path} descends into field '{name}' of type {kind.name}, " ++
      "only tuples can be traversed"
  | .noFieldAt path offset name =>
    s!"Sort key {pathText path} has no field at offset {offset} of '{name}'"
  | .mapKey name => s!"Field '{name}' of type map cannot be used as a sort key"
  | .mapColumn name => s!"Unsupported sort key type map for field '{name}'"
  | .cannotStore value column =>
    s!"Cannot store value {value.render} of type {value.kind.name} in a column of type {column.short}"
  | .notTuple kind => s!"Bag elements must be tuples, found {kind.name}"
  | .unknownColumn column => s!"Unsupported boundary column type {column.short}"

mutual

inductive ConfigFault where
  | missing (key : String)
  | notBoolean (key : String)
  | noPartitions
  | keyTypes (location : String) (stored expected : List ColumnType)
  | unreadable (location : String) (cause : Error)
  | corrupt (location : String) (cause : Error)
  | logSetup (path : String)

inductive Error where
  | config (cause : ConfigFault)
  | schema (cause : SchemaFault)
  | unsorted (first second : Row)
  | malformed (cause : ReadError)
  /-- A table that cannot be formed or decoded. -/
  | format
  /-- A location that cannot be used, or holds nothing. -/
  | storage
  | emptyLocation
  | badUrl

end

def typesText (types : List ColumnType) : String :=
  "[" ++ ", ".intercalate (types.map ColumnType.full) ++ "]"

mutual

def ConfigFault.message : ConfigFault → String
  | .missing key => s!"Required configuration '{key}' is missing or empty"
  | .notBoolean key =>
    s!"Invalid value for '{key}': provided string was not \x60true\x60 or \x60false\x60"
  | .noPartitions => "Number of partitions must be positive"
  | .keyTypes location stored expected =>
    s!"Boundary table at {location} holds keys of types {typesText stored} " ++
      s!"but the sort key has types {typesText expected}"
  | .unreadable location cause =>
    s!"Unable to read partition boundaries from {location}: {cause.message}"
  | .corrupt location cause => s!"Corrupt boundary table at {location}: {cause.message}"
  | .logSetup path => s!"Unable to read the log configuration {path}"
termination_by structural e => e

/-- The text of an error. Those of storage and table format have none of their own. -/
def Error.message : Error → String
  | .config cause => "Configuration Error: " ++ cause.message
  | .schema cause => "Schema Error: " ++ cause.message
  | .unsorted first second =>
    s!"Quill Internal Error: Boundaries are not sorted: {first.render} is followed by {second.render}"
  | .malformed cause => cause.message
  | .format | .storage | .emptyLocation | .badUrl => ""
termination_by structural e => e

end

end RangeSort
