import RangeSort.Error
import RangeSort.Text.Blank
import RangeSort.Value.KeyMap

/-! Settings of a job: text by key. -/

namespace RangeSort

abbrev Settings := List (String × String)

namespace Settings

/-- Where the boundary table is kept. -/
def boundariesKey : String := "quill.sort.quantiles.location"

/-- The log configuration to install in place of the default one. -/
def logKey : String := "quill.log.config"

def set (s : Settings) (key value : String) : Settings :=
  KeyMap.insert key value s

def get? (s : Settings) (key : String) : Option String :=
  KeyMap.get? key s

/-- The value of a key that is not blank. -/
def nonEmpty? (s : Settings) (key : String) : Option String :=
  (s.get? key).filter fun v => !(trimBlank v.toList).isEmpty

def required (s : Settings) (key : String) : Except ConfigFault String :=
  match s.nonEmpty? key with
  | some v => .ok v
  | none => .error (.missing key)

/-- A missing flag is off. -/
def flag (s : Settings) (key : String) : Except ConfigFault Bool :=
  let word := trimBlank ((s.get? key).getD "false").toList
  if word = "true".toList then .ok true
  else if word = "false".toList then .ok false
  else .error (.notBoolean key)

end Settings

end RangeSort
