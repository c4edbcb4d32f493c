import Mathlib.Data.List.Basic
import RangeSort.Table.Agreement
import RangeSort.Table.Basic

/-! Comparing types as names are no part of them. -/

namespace RangeSort

mutual

/-- The type without the names in it. -/
def ColumnType.unnamed : ColumnType → ColumnType
  | .struct fields => .struct (unnamedFields fields)
  | .list item => .list item.unnamed
  | t => t
termination_by structural t => t

def unnamedFields : List ColumnField → List ColumnField
  | [] => []
  | f :: fs => f.unnamed :: unnamedFields fs
termination_by structural fs => fs

def ColumnField.unnamed : ColumnField → ColumnField
  | .mk _ type nullable => .mk "" type.unnamed nullable
termination_by structural f => f

end

/-- The column of some field has the type. -/
def ColumnType.OfField (t : ColumnType) : Prop :=
  ∃ f : Field, f.column = .ok t

/-- Types are equal to that of a field when nothing but names tells them apart. -/
class LawfulTypeEquality [TypeEquality] : Prop where
  agrees_iff (t : ColumnType) {u : ColumnType} (hu : u.OfField) :
    TypeEquality.agrees t u = true ↔ t.unnamed = u.unnamed

section

variable [TypeEquality] [LawfulTypeEquality]

theorem typesAgree_iff {ts us : List ColumnType} (hus : ∀ u ∈ us, u.OfField) :
    typesAgree ts us = true ↔ ts.map ColumnType.unnamed = us.map ColumnType.unnamed := by
  induction ts generalizing us with
  | nil => cases us <;> simp [typesAgree]
  | cons t ts ih =>
    cases us with
    | nil => simp [typesAgree]
    | cons u us =>
      obtain ⟨hu, hus⟩ := List.forall_mem_cons.mp hus
      rw [List.map_cons, List.map_cons, List.cons.injEq, ← LawfulTypeEquality.agrees_iff t hu,
        ← ih hus]
      simp [typesAgree, and_left_comm]

theorem typesAgree_self {types : List ColumnType} (h : ∀ t ∈ types, t.OfField) :
    typesAgree types types = true :=
  (typesAgree_iff h).mpr rfl

end

mutual

theorem ColumnType.agrees_iff : (t u : ColumnType) →
    (t.agrees u = true ↔ t.unnamed = u.unnamed)
  | .struct a, u => by
    cases u with
    | struct b =>
      rw [ColumnType.agrees, ColumnType.unnamed, ColumnType.unnamed, ColumnType.struct.injEq]
      exact agreesAll_iff a b
    | _ => exact iff_of_false nofun nofun
  | .list a, u => by
    cases u with
    | list b =>
      rw [ColumnType.agrees, ColumnType.unnamed, ColumnType.unnamed, ColumnType.list.injEq]
      exact a.agrees_iff b
    | _ => exact iff_of_false nofun nofun
  | .other a, u => by
    cases u with
    | other b =>
      show (a == b) = true ↔ ColumnType.other a = .other b
      rw [ColumnType.other.injEq, beq_iff_eq]
    | _ => exact iff_of_false nofun nofun
  | .boolean, u | .int32, u | .int64, u | .float32, u | .float64, u | .utf8, u | .binary, u => by
    cases u <;> first | exact iff_of_true rfl rfl | exact iff_of_false nofun nofun
termination_by structural t => t

theorem agreesAll_iff : (as bs : List ColumnField) →
    (agreesAll as bs = true ↔ unnamedFields as = unnamedFields bs)
  | [], bs => by
    cases bs with
    | nil => exact iff_of_true rfl rfl
    | cons => exact iff_of_false nofun nofun
  | a :: as, bs => by
    cases bs with
    | nil => exact iff_of_false nofun nofun
    | cons b bs =>
      rw [agreesAll, Bool.and_eq_true, a.agrees_iff b, agreesAll_iff as bs, unnamedFields,
        unnamedFields, List.cons.injEq]
termination_by structural as => as

theorem ColumnField.agrees_iff : (a b : ColumnField) →
    (a.agrees b = true ↔ a.unnamed = b.unnamed)
  | .mk name t n, .mk name' u m => by
    rw [ColumnField.agrees, Bool.and_eq_true, beq_iff_eq, t.agrees_iff u, ColumnField.unnamed,
      ColumnField.unnamed, ColumnField.mk.injEq]
    exact ⟨fun ⟨hn, ht⟩ => ⟨rfl, ht, hn⟩, fun ⟨_, ht, hn⟩ => ⟨hn, ht⟩⟩
termination_by structural a => a

end

instance : LawfulTypeEquality where
  agrees_iff t _ _ := t.agrees_iff _

end RangeSort
