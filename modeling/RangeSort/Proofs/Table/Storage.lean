import RangeSort.Proofs.Except
import RangeSort.Table.Storage

/-! What is expected of a storage. Content is found where it was put, and the content that a table
was put as is that table again. -/

namespace RangeSort

/-- Tables come back from the form in which they are put. -/
class LawfulStorage (σ : Type) [Storage σ] : Prop where
  toTable_ofTable (t : Table) : Storage.toTable (Storage.ofTable t : Storage.Content σ) = .ok t

namespace Storage

variable {σ : Type} [Storage σ] {s : σ} {location : String}

/-- Content that is put at the location is found there. -/
def Keeps (s : σ) (location : String) : Prop :=
  ∀ content, (put s location content).1 = .ok () →
    get (put s location content).2 location = .ok content

/-- Any content can be put at the location and is found there. -/
structure Usable (s : σ) (location : String) : Prop where
  put_eq : ∀ content, (put s location content).1 = .ok ()
  keeps : Keeps s location

theorem Usable.write_eq (h : Usable s location) (t : Table) : (write s location t).1 = .ok () :=
  h.put_eq _

theorem Keeps.read_write [LawfulStorage σ] (h : Keeps s location) {t : Table}
    (hwritten : (write s location t).1 = .ok ()) :
    read (write s location t).2 location = .ok t := by
  rw [read, write, h _ hwritten, Except.ok_bind]
  exact LawfulStorage.toTable_ofTable t

theorem readTable_of_read [TypeEquality] {t : Table} (h : read s location = .ok t)
    (schema : Schema) : readTable s location schema = t.rows location schema := by
  rw [readTable, h, Except.ok_bind]

end Storage

end RangeSort
