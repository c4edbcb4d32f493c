import RangeSort.Proofs.Table.Storage
import RangeSort.Table.FileStore

/-! What is read after a write to a file. -/

namespace RangeSort

instance : LawfulStorage FileStore where
  toTable_ofTable _ := rfl

namespace FileStore

variable {s : FileStore} {location : String} {path : List String} {content : Content}

/-- A write either fails and leaves the files as they are, or adds its file. -/
theorem put_cases (s : FileStore) (path : List String) (content : Content) :
    ((s.put path content).1 = .error .storage ∧ (s.put path content).2.base = s.base ∧
      (s.put path content).2.files = s.files) ∨
    ((s.put path content).1 = .ok () ∧ (s.put path content).2.base = s.base ∧
      (s.put path content).2.files = (path, content) :: s.files) := by
  simp only [put]
  split
  · exact .inl ⟨rfl, rfl, rfl⟩
  · split
    · exact .inl ⟨rfl, rfl, rfl⟩
    · exact .inr ⟨rfl, rfl, rfl⟩

theorem base_put (s : FileStore) (path : List String) (content : Content) :
    (s.put path content).2.base = s.base := by
  rcases s.put_cases path content with ⟨-, hbase, -⟩ | ⟨-, hbase, -⟩
  · exact hbase
  · exact hbase

theorem find?_put (h : (s.put path content).1 = .ok ()) :
    (s.put path content).2.find? path = some content := by
  rcases s.put_cases path content with ⟨herr, -⟩ | ⟨-, -, hfiles⟩
  · rw [herr] at h
    cases h
  · rw [find?, hfiles, List.lookup_cons_self]

theorem write_of_file (hpath : Location.resolve s.base location = .ok (.file path))
    (content : Content) : s.write location content = s.put path content := by
  simp only [write, hpath]

/-- Locations of the file system keep what is put there. -/
theorem keeps_of_file (hpath : Location.resolve s.base location = .ok (.file path)) :
    Storage.Keeps s location := by
  intro content h
  show (s.write location content).2.read location = .ok content
  have hput : (s.put path content).1 = .ok () := by
    rw [← write_of_file hpath]
    exact h
  rw [write_of_file hpath]
  simp only [read, base_put, hpath, Except.ok_bind, find?_put hput]
  rfl

theorem usable_of_file (hpath : Location.resolve s.base location = .ok (.file path))
    (hput : ∀ content, (s.put path content).1 = .ok ()) : Storage.Usable s location where
  put_eq content := by
    show (s.write location content).1 = .ok ()
    rw [write_of_file hpath, hput]
  keeps := keeps_of_file hpath

theorem usable_empty : Storage.Usable empty "b" := by
  have hpath : Location.resolve empty.base "b" = .ok (.file ["b"]) := rfl
  exact usable_of_file hpath fun _ => rfl

end FileStore

end RangeSort
