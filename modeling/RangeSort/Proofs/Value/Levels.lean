import RangeSort.Value.Text

/-! What a value holds, level by level, and what becomes of it when its text is read. -/

namespace RangeSort

/-- The values inside a value and how far below it they lie. A bag's fields lie two levels
below it, and the null of a tuple of one null has no level. -/
inductive Value.Holds : Value → Nat → Value → Prop
  | self (v : Value) : Holds v 0 v
  | item {items : List Value} {v w : Value} {level : Nat} (hlone : isLoneNull items = false)
      (hv : v ∈ items) (h : Holds v level w) : Holds (.tuple items) (level + 1) w
  | entry {entries : List (String × Value)} {e : String × Value} {w : Value} {level : Nat}
      (he : e ∈ entries) (h : Holds e.2 level w) : Holds (.map entries) (level + 1) w
  | field {rows : List Row} {r : Row} {v w : Value} {level : Nat} (hr : r ∈ rows)
      (hlone : isLoneNull r = false) (hv : v ∈ r) (h : Holds v level w) :
      Holds (.bag rows) (level + 2) w

def Value.isComposite : Value → Bool
  | .map _ | .tuple _ | .bag _ => true
  | _ => false

mutual

/-- A nested value after its text has been read: octets have become text, and all that is
no number is the quiet pattern. -/
def Value.reread : Value → Value
  | .float bits =>
    .float (if binary32.isNan bits.toNat then UInt32.ofNat binary32.quietNan else bits)
  | .double bits =>
    .double (if binary64.isNan bits.toNat then UInt64.ofNat binary64.quietNan else bits)
  | .bytes b => .text (Utf8.decodeText b)
  | .map entries => .map (rereadEntries entries)
  | .tuple items => .tuple (rereadItems items)
  | .bag rows => .bag (rereadRows rows)
  | .null => .null
  | .boolean b => .boolean b
  | .int n => .int n
  | .long n => .long n
  | .text s => .text s
termination_by structural v => v

def rereadItems : List Value → List Value
  | [] => []
  | v :: vs => v.reread :: rereadItems vs
termination_by structural vs => vs

def rereadRows : List (List Value) → List (List Value)
  | [] => []
  | r :: rs => rereadItems r :: rereadRows rs
termination_by structural rs => rs

def rereadEntries : List (String × Value) → List (String × Value)
  | [] => []
  | e :: es => rereadEntry e :: rereadEntries es
termination_by structural es => es

def rereadEntry : String × Value → String × Value
  | (k, v) => (k, v.reread)
termination_by structural e => e

end

theorem rereadItems_eq_map (items : List Value) : rereadItems items = items.map Value.reread := by
  induction items with
  | nil => rfl
  | cons v vs ih => rw [rereadItems, ih, List.map_cons]

theorem rereadRows_eq_map (rows : List Row) :
    rereadRows rows = rows.map (List.map Value.reread) := by
  induction rows with
  | nil => rfl
  | cons r rs ih => rw [rereadRows, ih, rereadItems_eq_map, List.map_cons]

theorem rereadEntries_eq_map (entries : List (String × Value)) :
    rereadEntries entries = entries.map fun e => (e.1, e.2.reread) := by
  induction entries with
  | nil => rfl
  | cons e es ih =>
    obtain ⟨k, v⟩ := e
    rw [rereadEntries, rereadEntry, ih, List.map_cons]

/-- Values that are read back as they are. -/
def Value.Steady : Value → Prop
  | .bytes _ => False
  | .float bits => binary32.isNan bits.toNat = true → bits = UInt32.ofNat binary32.quietNan
  | .double bits => binary64.isNan bits.toNat = true → bits = UInt64.ofNat binary64.quietNan
  | _ => True

theorem eq_null_of_isLoneNull {items : List Value} (h : isLoneNull items = true) :
    items = [.null] := by
  unfold isLoneNull at h
  split at h
  · rfl
  · cases h

namespace Value

theorem Holds.eq_self {v w : Value} {level : Nat} (h : v.Holds level w)
    (hv : v.isComposite = false) : level = 0 ∧ w = v := by
  cases h with
  | self => exact ⟨rfl, rfl⟩
  | item => cases hv
  | entry => cases hv
  | field => cases hv

theorem map_reread_eq_self {r : Row}
    (h : isLoneNull r = false → ∀ v ∈ r, v.reread = v) : r.map reread = r := by
  cases hlone : isLoneNull r with
  | true =>
    rw [eq_null_of_isLoneNull hlone]
    rfl
  | false => exact (List.map_congr_left (h hlone)).trans (List.map_id r)

theorem reread_eq_self {v : Value} (h : ∀ level w, v.Holds level w → w.Steady) :
    v.reread = v := by
  induction v with
  | null => rfl
  | boolean => rfl
  | int => rfl
  | long => rfl
  | text => rfl
  | bytes => exact (h 0 _ (.self _)).elim
  | float bits =>
    have hsteady := h 0 _ (.self _)
    rw [reread]
    split
    · rename_i hnan
      rw [← hsteady hnan]
    · rfl
  | double bits =>
    have hsteady := h 0 _ (.self _)
    rw [reread]
    split
    · rename_i hnan
      rw [← hsteady hnan]
    · rfl
  | map entries ih =>
    rw [reread, rereadEntries_eq_map]
    congr 1
    have hself : ∀ e ∈ entries, (e.1, e.2.reread) = e := by
      intro e he
      rw [ih e he fun level w hw => h (level + 1) w (.entry he hw)]
    exact (List.map_congr_left hself).trans (List.map_id entries)
  | tuple items ih =>
    rw [reread, rereadItems_eq_map]
    congr 1
    exact map_reread_eq_self fun hlone v hv =>
      ih v hv fun level w hw => h (level + 1) w (.item hlone hv hw)
  | bag rows ih =>
    rw [reread, rereadRows_eq_map]
    congr 1
    have hself : ∀ r ∈ rows, r.map reread = r := by
      intro r hr
      exact map_reread_eq_self fun hlone v hv =>
        ih r hr v hv fun level w hw => h (level + 2) w (.field hr hlone hv hw)
    exact (List.map_congr_left hself).trans (List.map_id rows)

/-- Everything in the value lies above the given level. -/
def Below (n : Nat) (v : Value) : Prop :=
  ∀ level w, v.Holds level w → level < n

end Value

def Row.Below (n : Nat) (r : Row) : Prop :=
  isLoneNull r = false → ∀ v ∈ r, v.Below n

namespace Value

theorem not_below_zero (v : Value) : ¬ v.Below 0 :=
  fun h => absurd (h 0 v (.self v)) (Nat.lt_irrefl 0)

theorem below_succ {v : Value} (hv : v.isComposite = false) (n : Nat) : v.Below (n + 1) := by
  intro level w hw
  rw [(hw.eq_self hv).1]
  exact Nat.succ_pos n

theorem below_tuple {n : Nat} {items : List Value} :
    (Value.tuple items).Below (n + 1) ↔ Row.Below n items := by
  constructor
  · intro h hlone v hv level w hw
    exact Nat.lt_of_succ_lt_succ (h (level + 1) w (.item hlone hv hw))
  · intro h level w hw
    cases hw with
    | self => exact Nat.succ_pos n
    | item hlone hv hw => exact Nat.succ_lt_succ (h hlone _ hv _ w hw)

theorem below_map {n : Nat} {entries : List (String × Value)} :
    (Value.map entries).Below (n + 1) ↔ ∀ e ∈ entries, e.2.Below n := by
  constructor
  · intro h e he level w hw
    exact Nat.lt_of_succ_lt_succ (h (level + 1) w (.entry he hw))
  · intro h level w hw
    cases hw with
    | self => exact Nat.succ_pos n
    | entry he hw => exact Nat.succ_lt_succ (h _ he _ w hw)

theorem below_bag {n : Nat} {rows : List Row} :
    (Value.bag rows).Below (n + 1) ↔ ∀ r ∈ rows, Row.Below (n - 1) r := by
  constructor
  · intro h r hr hlone v hv level w hw
    have := h (level + 2) w (.field hr hlone hv hw)
    omega
  · intro h level w hw
    cases hw with
    | self => exact Nat.succ_pos n
    | field hr hlone hv hw =>
      have := h _ hr hlone _ hv _ w hw
      omega

end Value

end RangeSort
