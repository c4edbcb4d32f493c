import RangeSort.Kind
import RangeSort.Text.Utf8
import RangeSort.Value.KeyMap

/-! Typed, possibly null field values. Floating-point numbers are kept as bit
patterns, so that every pattern survives and equality is equality of patterns. -/

namespace RangeSort

inductive Value where
  | null
  | boolean (b : Bool)
  | int (n : Int32)
  | long (n : Int64)
  | float (bits : UInt32)
  | double (bits : UInt64)
  | bytes (octets : Octets)
  | text (s : String)
  | map (entries : List (String × Value))
  | tuple (items : List Value)
  | bag (rows : List (List Value))
  deriving Inhabited

/-- A record, or the key of one. -/
abbrev Row := List Value

/-- Induction over values: the hypotheses of a composite speak of the values right
inside it. -/
@[elab_as_elim, induction_eliminator]
theorem Value.induction {motive : Value → Prop}
    (null : motive .null) (boolean : ∀ b, motive (.boolean b))
    (int : ∀ n, motive (.int n)) (long : ∀ n, motive (.long n))
    (float : ∀ bits, motive (.float bits)) (double : ∀ bits, motive (.double bits))
    (bytes : ∀ octets, motive (.bytes octets)) (text : ∀ s, motive (.text s))
    (map : ∀ entries : List (String × Value),
      (∀ e ∈ entries, motive e.2) → motive (.map entries))
    (tuple : ∀ items : List Value, (∀ v ∈ items, motive v) → motive (.tuple items))
    (bag : ∀ rows : List (List Value),
      (∀ r ∈ rows, ∀ v ∈ r, motive v) → motive (.bag rows))
    (v : Value) : motive v := by
  refine @Value.rec motive (fun es => ∀ e ∈ es, motive e.2) (fun vs => ∀ v ∈ vs, motive v)
    (fun rs => ∀ r ∈ rs, ∀ v ∈ r, motive v) (fun e => motive e.2)
    null boolean int long float double bytes text map tuple bag ?_ ?_ ?_ ?_ ?_ ?_ ?_ v
  all_goals simp +contextual

namespace Value

/-- Null has no kind of its own. -/
def kind : Value → Kind
  | .null => .unknown
  | .boolean _ => .boolean
  | .int _ => .int
  | .long _ => .long
  | .float _ => .float
  | .double _ => .double
  | .bytes _ => .bytes
  | .text _ => .text
  | .map _ => .map
  | .tuple _ => .tuple
  | .bag _ => .bag

def isNull : Value → Bool
  | .null => true
  | _ => false

def text? : Value → Option String
  | .text s => some s
  | _ => none

end Value

/-- The value at a position of a row; positions past its end are null. -/
def Row.item (row : Row) (i : Nat) : Value :=
  row[i]?.getD .null

theorem Row.item_zero (row : Row) : row.item 0 = row.headD .null := by
  cases row <;> rfl

theorem Row.item_succ (row : Row) (i : Nat) : row.item (i + 1) = Row.item row.tail i := by
  cases row <;> rfl

end RangeSort
