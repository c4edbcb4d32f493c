import RangeSort.Schema.RowCoercion

/-! Rows that are coerced one after the other by the same converter. It has a parser, which keeps
the octets that it was last given, and collects the warnings of all rows. -/

namespace RangeSort

/-- A parser between two values. -/
structure Parser where
  buffer : Octets
  position : Nat
  deriving DecidableEq, Repr

namespace Parser

def fresh : Parser := ⟨[], 0⟩

def load (p : Parser) (octets : Octets) : Parser :=
  { p with buffer := octets, position := 0 }

/-- Where the parser is left: behind a value, and at the fault of a malformed one. Where it is
left by a value that nests too deep makes no difference. -/
def leave (p : Parser) : Except ReadError Value → Parser
  | .ok _ => { p with position := p.buffer.length }
  | .error (.malformed position _) => { p with position := position }
  | .error _ => p

/-- Reads new octets from their start. -/
def parse (p : Parser) (octets : Octets) : Except ReadError Value × Parser :=
  let loaded := p.load octets
  let result := Value.read (loaded.buffer.drop loaded.position)
  (result, loaded.leave result)

end Parser

structure Converter where
  parser : Parser
  /-- All warnings so far. -/
  warnings : List Warning

namespace Converter

def fresh : Converter := ⟨.fresh, []⟩

def keep {α : Type} (c : Converter) (coerced : Coerced α) : Except ReadError α × Converter :=
  (coerced.result, { c with warnings := c.warnings ++ coerced.warnings })

/-- Only composite values go through the parser. -/
def coerce (c : Converter) (target : Kind) (octets : Option Octets) :
    Except ReadError Value × Converter :=
  match octets with
  | none => (.ok .null, c)
  | some b =>
    if target.isComposite then
      let (read, parser) := c.parser.parse b
      { c with parser }.keep (.ofRead target read)
    else c.keep (.present b target)

def coerceFields (c : Converter) :
    List Field → List (Option Octets) → Except ReadError Row × Converter
  | [], raw => (.ok (raw.map fun b => b.elim .null .bytes), c)
  | f :: fs, raw =>
    match c.coerce f.kind (raw.head?.getD none) with
    | (.error e, c) => (.error e, c)
    | (.ok v, c) =>
      let (rest, c) := c.coerceFields fs raw.tail
      (rest.map (v :: ·), c)

def coerceRow (c : Converter) (s : Schema) (raw : List (Option Octets)) :
    Except ReadError Row × Converter :=
  c.coerceFields s.fields raw

def coerceRows (c : Converter) (s : Schema) :
    List (List (Option Octets)) → List (Except ReadError Row) × Converter
  | [] => ([], c)
  | raw :: rows =>
    let (row, c) := c.coerceRow s raw
    let (rest, c) := c.coerceRows s rows
    (row :: rest, c)

end Converter

end RangeSort
