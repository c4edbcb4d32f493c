/-! Maps as lists of entries in ascending key order. -/

namespace RangeSort.KeyMap

variable {α : Type}

/-- A later value replaces an earlier one of the same key. -/
def insert (key : String) (value : α) : List (String × α) → List (String × α)
  | [] => [(key, value)]
  | e :: rest =>
    match Ord.compare key e.1 with
    | .lt => (key, value) :: e :: rest
    | .eq => (key, value) :: rest
    | .gt => e :: insert key value rest

def get? (key : String) : List (String × α) → Option α
  | [] => none
  | e :: rest => if e.1 = key then some e.2 else get? key rest

def ofList (entries : List (String × α)) : List (String × α) :=
  entries.foldl (fun m e => insert e.1 e.2 m) []

/-- Every key is below the next one. -/
def Ascending (entries : List (String × α)) : Prop :=
  entries.Pairwise fun a b => Ord.compare a.1 b.1 = .lt

theorem Ascending.head_lt {e : String × α} {rest : List (String × α)}
    (h : Ascending (e :: rest)) : ∀ f ∈ rest, Ord.compare e.1 f.1 = .lt :=
  (List.pairwise_cons.mp h).1

theorem Ascending.tail {e : String × α} {rest : List (String × α)}
    (h : Ascending (e :: rest)) : Ascending rest :=
  (List.pairwise_cons.mp h).2

theorem get?_eq_none {key : String} {entries : List (String × α)}
    (h : ∀ e ∈ entries, Ord.compare key e.1 = .lt) : get? key entries = none := by
  induction entries with
  | nil => rfl
  | cons e rest ih =>
    have hne : e.1 ≠ key := fun he => by simpa [he] using h e List.mem_cons_self
    rw [get?, if_neg hne, ih fun f hf => h f (List.mem_cons_of_mem e hf)]

/-- A map is determined by what it has under each key. -/
theorem Ascending.ext {m n : List (String × α)} (hm : Ascending m) (hn : Ascending n)
    (h : ∀ key, get? key m = get? key n) : m = n := by
  induction m generalizing n with
  | nil =>
    cases n with
    | nil => rfl
    | cons f n => simpa [get?] using h f.1
  | cons e m ih =>
    cases n with
    | nil => simpa [get?] using h e.1
    | cons f n =>
      have below {x y : String × α} {l : List (String × α)} (hl : Ascending (y :: l))
          (hxy : Ord.compare x.1 y.1 = .lt) : get? x.1 (y :: l) = none := by
        refine get?_eq_none fun z hz => ?_
        rcases List.mem_cons.mp hz with rfl | hz
        · exact hxy
        · exact Std.TransCmp.lt_trans hxy (hl.head_lt z hz)
      cases hc : Ord.compare e.1 f.1 with
      | lt =>
        have he := h e.1
        rw [below hn hc] at he
        simp [get?] at he
      | gt =>
        have hf := h f.1
        rw [below hm (Std.OrientedCmp.gt_iff_lt.mp hc)] at hf
        simp [get?] at hf
      | eq =>
        have he : e.1 = f.1 := Std.LawfulEqCmp.eq_of_compare hc
        have hv : e.2 = f.2 := by simpa [get?, he] using h e.1
        have hrest : m = n := by
          refine ih hm.tail hn.tail fun key => ?_
          by_cases hk : e.1 = key
          · rw [← hk, get?_eq_none hm.head_lt, he, get?_eq_none hn.head_lt]
          · simpa [get?, hk, he ▸ hk] using h key
        rw [hrest, Prod.ext he hv]

theorem insert_eq_append {key : String} {value : α} {m : List (String × α)}
    (h : ∀ e ∈ m, Ord.compare e.1 key = .lt) : insert key value m = m ++ [(key, value)] := by
  induction m with
  | nil => rfl
  | cons e m ih =>
    have he : Ord.compare key e.1 = .gt := Std.OrientedCmp.gt_iff_lt.mpr (h e List.mem_cons_self)
    rw [insert, he]
    dsimp only
    rw [ih fun f hf => h f (List.mem_cons_of_mem e hf), List.cons_append]

theorem Ascending.ofList_eq {m : List (String × α)} (h : Ascending m) : ofList m = m := by
  have hfold (acc l : List (String × α)) (hl : Ascending (acc ++ l)) :
      l.foldl (fun m e => insert e.1 e.2 m) acc = acc ++ l := by
    induction l generalizing acc with
    | nil => rw [List.foldl_nil, List.append_nil]
    | cons e l ih =>
      have hbelow : ∀ f ∈ acc, Ord.compare f.1 e.1 = .lt :=
        fun f hf => (List.pairwise_append.mp hl).2.2 f hf e List.mem_cons_self
      rw [List.foldl_cons, insert_eq_append hbelow, ih _ (by simpa using hl), List.append_assoc,
        List.singleton_append]
  exact hfold [] m h

theorem mem_insert {key : String} {value : α} {m : List (String × α)} {f : String × α}
    (h : f ∈ insert key value m) : f = (key, value) ∨ f ∈ m := by
  induction m with
  | nil => exact .inl (List.mem_singleton.mp h)
  | cons e m ih =>
    rw [insert] at h
    split at h
    · exact List.mem_cons.mp h
    · exact (List.mem_cons.mp h).imp id (List.mem_cons_of_mem e)
    · rcases List.mem_cons.mp h with rfl | h
      · exact .inr List.mem_cons_self
      · exact (ih h).imp id (List.mem_cons_of_mem e)

theorem Ascending.insert {m : List (String × α)} (h : Ascending m) (key : String) (value : α) :
    Ascending (insert key value m) := by
  induction m with
  | nil => exact List.pairwise_singleton _ _
  | cons e m ih =>
    rw [KeyMap.insert]
    split
    · rename_i hlt
      refine List.pairwise_cons.mpr ⟨fun f hf => ?_, h⟩
      rcases List.mem_cons.mp hf with rfl | hf
      · exact hlt
      · exact Std.TransCmp.lt_trans hlt (h.head_lt f hf)
    · rename_i heq
      have hkey : key = e.1 := Std.LawfulEqCmp.eq_of_compare heq
      exact List.pairwise_cons.mpr ⟨fun f hf => hkey ▸ h.head_lt f hf, h.tail⟩
    · rename_i hgt
      refine List.pairwise_cons.mpr ⟨fun f hf => ?_, ih h.tail⟩
      rcases mem_insert hf with rfl | hf
      · exact Std.OrientedCmp.gt_iff_lt.mp hgt
      · exact h.head_lt f hf

/-- Whatever is inserted in turn, keys ascend, and every entry is one that was inserted. -/
theorem ofList_spec (entries : List (String × α)) :
    Ascending (ofList entries) ∧ ∀ e ∈ ofList entries, e ∈ entries := by
  have hfold (l m : List (String × α)) (hm : Ascending m) :
      Ascending (l.foldl (fun m e => KeyMap.insert e.1 e.2 m) m) ∧
        ∀ e ∈ l.foldl (fun m e => KeyMap.insert e.1 e.2 m) m, e ∈ m ∨ e ∈ l := by
    induction l generalizing m with
    | nil => exact ⟨hm, fun e he => .inl he⟩
    | cons d l ih =>
      obtain ⟨hascending, hmem⟩ := ih _ (hm.insert d.1 d.2)
      refine ⟨hascending, fun e he => ?_⟩
      rcases hmem e he with he | he
      · rcases mem_insert he with rfl | he
        · exact .inr List.mem_cons_self
        · exact .inl he
      · exact .inr (List.mem_cons_of_mem d he)
  obtain ⟨hascending, hmem⟩ := hfold entries [] List.Pairwise.nil
  exact ⟨hascending, fun e he => (hmem e he).resolve_left List.not_mem_nil⟩

end RangeSort.KeyMap
