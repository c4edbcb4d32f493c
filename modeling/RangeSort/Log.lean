import RangeSort.Settings

/-! What a job reports, and the set-up of reporting. -/

namespace RangeSort

inductive LogLevel where
  | trace
  | debug
  | info
  | warn
  deriving DecidableEq, Repr

namespace LogLevel

def name : LogLevel → String
  | .trace => "TRACE"
  | .debug => "DEBUG"
  | .info => "INFO"
  | .warn => "WARN"

def severity : LogLevel → Nat
  | .trace => 0
  | .debug => 1
  | .info => 2
  | .warn => 3

end LogLevel

structure LogLine where
  level : LogLevel
  text : String
  deriving DecidableEq, Repr

/-- The lines that a log set to `threshold` shows. -/
def shownLines (threshold : LogLevel) (lines : List LogLine) : List LogLine :=
  lines.filter fun l => threshold.severity ≤ l.level.severity

/-- A result with the lines reported on the way to it, also when it is an error. -/
structure Logged (α : Type) where
  result : Except Error α
  log : List LogLine

namespace Logged

variable {α β : Type}

def bind (x : Logged α) (f : α → Logged β) : Logged β :=
  match x.result with
  | .error e => ⟨.error e, x.log⟩
  | .ok a => ⟨(f a).result, x.log ++ (f a).log⟩

instance : Monad Logged where
  pure a := ⟨.ok a, []⟩
  bind := bind

def ofExcept (x : Except Error α) : Logged α := ⟨x, []⟩

def say (level : LogLevel) (text : String) : Logged Unit := ⟨.ok (), [⟨level, text⟩]⟩

end Logged

/-- Sets up reporting, once: the first success lasts and later settings are ignored.
`readable` tells which log configurations can be loaded. -/
def setUpLog (readable : String → Bool) (installed : Bool) (s : Settings) :
    Except ConfigFault Unit × Bool :=
  if installed then (.ok (), true)
  else match s.nonEmpty? Settings.logKey with
    | some path => if readable path then (.ok (), true) else (.error (.logSetup path), false)
    | none => (.ok (), true)

end RangeSort
