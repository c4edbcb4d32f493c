import RangeSort.Proofs.Except
import RangeSort.Table.Column

/-! Columns give back what they take, and take nothing else. The laws of nested columns are
built from those of the columns inside them. -/

namespace RangeSort.Column

/-- Columns of `type` take lists of the values that `takes` names and no others; `cut` is
what they keep of a value. -/
structure KeepsValues (type : ColumnType) (takes : Value → Prop) (cut : Value → Value) : Prop where
  encode (values : List Value) : (∀ v ∈ values, takes v) →
    ∃ c, encode type values = .ok c ∧ c.cells = (values.map cut).map .ok
  takes {values : List Value} {c : Column} : Column.encode type values = .ok c →
    ∀ v ∈ values, takes v

/-- Columns of `fields` take lists of the rows that `takes` names and no others. The empty row,
which stands for null, is one of them. -/
structure KeepsRows (fields : List ColumnField) (takes : Row → Prop) (cut : Row → Row) : Prop where
  empty : takes []
  encode (rows : List Row) : (∀ r ∈ rows, takes r) →
    ∃ columns, encodeFields fields rows = .ok columns ∧
      acrossColumns rows.length (cellsOfAll columns) = (rows.map cut).map .ok
  takes {rows : List Row} {columns : List Column} : encodeFields fields rows = .ok columns →
    ∀ r ∈ rows, takes r

theorem KeepsValues.congr {type : ColumnType} {takes takes' : Value → Prop}
    {cut cut' : Value → Value} (h : KeepsValues type takes cut)
    (htakes : ∀ v, takes' v ↔ takes v) (hcut : ∀ v, takes v → cut' v = cut v) :
    KeepsValues type takes' cut' where
  encode values hv := by
    have hv' : ∀ v ∈ values, takes v := fun v hmem => (htakes v).mp (hv v hmem)
    obtain ⟨c, hc, hcells⟩ := h.encode values hv'
    refine ⟨c, hc, ?_⟩
    rw [hcells, List.map_congr_left fun v hmem => hcut v (hv' v hmem)]
  takes hc v hmem := (htakes v).mpr (h.takes hc v hmem)

theorem KeepsRows.congr {fields : List ColumnField} {takes takes' : Row → Prop}
    {cut cut' : Row → Row} (h : KeepsRows fields takes cut) (htakes : ∀ r, takes' r ↔ takes r)
    (hcut : ∀ r, cut' r = cut r) : KeepsRows fields takes' cut' where
  empty := (htakes []).mpr h.empty
  encode rows hr := by
    rw [funext hcut]
    exact h.encode rows fun r hmem => (htakes r).mp (hr r hmem)
  takes hc r hmem := (htakes r).mpr (h.takes hc r hmem)

/-- `pick` finds what `wrap` made, which are the values of a kind, and nothing else. -/
structure Picks {α : Type} (kind : Kind) (pick : Value → Option α) (wrap : α → Value) : Prop where
  made (a : α) : pick (wrap a) = some a
  found (v : Value) (a : α) : pick v = some a → v = wrap a
  null : pick .null = none
  kind_wrap (a : α) : (wrap a).kind = kind
  ofKind (v : Value) : v.kind = kind → ∃ a, v = wrap a

section Atoms

variable {α : Type} {kind : Kind} {pick : Value → Option α} {wrap : α → Value}

theorem Picks.pickCells_eq_ok (h : Picks kind pick wrap) {type : ColumnType} {values : List Value}
    (hv : ∀ v ∈ values, v = .null ∨ ∃ a, v = wrap a) :
    pickCells type pick values = .ok (values.map pick) := by
  apply Except.mapM_eq_ok
  intro v hmem
  rcases hv v hmem with rfl | ⟨a, rfl⟩
  · rw [h.null]
  · have hne : wrap a ≠ .null := fun he => by simpa [he, h.null] using h.made a
    rw [h.made]
    split
    · contradiction
    · rename_i ha _
      cases ha
      rfl
    · rename_i ha _
      cases ha

theorem Picks.of_pickCells (h : Picks kind pick wrap) {type : ColumnType} {values : List Value}
    {cells : List (Option α)} (hc : pickCells type pick values = .ok cells) :
    ∀ v ∈ values, v = .null ∨ ∃ a, v = wrap a := by
  intro v hmem
  obtain ⟨cell, -, hcell⟩ := (Except.exists_of_mapM_eq_ok hc).1 v hmem
  split at hcell
  · exact .inl rfl
  · rename_i ha
    exact .inr ⟨_, h.found _ _ ha⟩
  · cases hcell

theorem Picks.plainCells_map (h : Picks kind pick wrap) {values : List Value}
    (hv : ∀ v ∈ values, v = .null ∨ ∃ a, v = wrap a) :
    plainCells wrap (values.map pick) = values.map .ok := by
  rw [plainCells, List.map_map]
  apply List.map_congr_left
  intro v hmem
  rcases hv v hmem with rfl | ⟨a, rfl⟩
  · simp [h.null]
  · simp [h.made]

/-- A column of plain values, made by `column` and read by `wrap`. -/
theorem Picks.keepsValues (h : Picks kind pick wrap) {type : ColumnType}
    {column : List (Option α) → Column}
    (hencode : ∀ values, Column.encode type values = (pickCells type pick values).map column)
    (hcells : ∀ cells, (column cells).cells = plainCells wrap cells) :
    KeepsValues type (fun v => v = .null ∨ v.kind = kind) id where
  encode values hkind := by
    have hv : ∀ v ∈ values, v = .null ∨ ∃ a, v = wrap a :=
      fun v hmem => (hkind v hmem).imp id (h.ofKind v)
    refine ⟨column (values.map pick), ?_, ?_⟩
    · rw [hencode, h.pickCells_eq_ok hv, Except.map_ok]
    · rw [hcells, h.plainCells_map hv, List.map_id]
  takes hc v hmem := by
    rw [hencode] at hc
    obtain ⟨cells, hcells, -⟩ := Except.map_eq_ok.mp hc
    rcases h.of_pickCells hcells v hmem with rfl | ⟨a, rfl⟩
    · exact .inl rfl
    · exact .inr (h.kind_wrap a)

end Atoms

theorem picks_boolean : Picks .boolean boolean? .boolean where
  made _ := rfl
  found v a h := by cases v <;> cases h; rfl
  null := rfl
  kind_wrap _ := rfl
  ofKind v h := by cases v <;> first | exact ⟨_, rfl⟩ | cases h

theorem picks_int : Picks .int int32? .int where
  made _ := rfl
  found v a h := by cases v <;> cases h; rfl
  null := rfl
  kind_wrap _ := rfl
  ofKind v h := by cases v <;> first | exact ⟨_, rfl⟩ | cases h

theorem picks_long : Picks .long int64? .long where
  made _ := rfl
  found v a h := by cases v <;> cases h; rfl
  null := rfl
  kind_wrap _ := rfl
  ofKind v h := by cases v <;> first | exact ⟨_, rfl⟩ | cases h

theorem picks_float : Picks .float float32? .float where
  made _ := rfl
  found v a h := by cases v <;> cases h; rfl
  null := rfl
  kind_wrap _ := rfl
  ofKind v h := by cases v <;> first | exact ⟨_, rfl⟩ | cases h

theorem picks_double : Picks .double float64? .double where
  made _ := rfl
  found v a h := by cases v <;> cases h; rfl
  null := rfl
  kind_wrap _ := rfl
  ofKind v h := by cases v <;> first | exact ⟨_, rfl⟩ | cases h

theorem picks_text : Picks .text Value.text? .text where
  made _ := rfl
  found v a h := by cases v <;> cases h; rfl
  null := rfl
  kind_wrap _ := rfl
  ofKind v h := by cases v <;> first | exact ⟨_, rfl⟩ | cases h

theorem picks_bytes : Picks .bytes binary? .bytes where
  made _ := rfl
  found v a h := by cases v <;> cases h; rfl
  null := rfl
  kind_wrap _ := rfl
  ofKind v h := by cases v <;> first | exact ⟨_, rfl⟩ | cases h

theorem picks_tuple : Picks .tuple tuple? .tuple where
  made _ := rfl
  found v a h := by cases v <;> cases h; rfl
  null := rfl
  kind_wrap _ := rfl
  ofKind v h := by cases v <;> first | exact ⟨_, rfl⟩ | cases h

theorem picks_bag : Picks .bag bag? .bag where
  made _ := rfl
  found v a h := by cases v <;> cases h; rfl
  null := rfl
  kind_wrap _ := rfl
  ofKind v h := by cases v <;> first | exact ⟨_, rfl⟩ | cases h

/-- A column beside columns that hold `rows` adds a first value to each of them. -/
theorem acrossColumns_cons {values : List Value} {columns : List (List Cell)} {rows : List Row}
    (hlen : values.length = rows.length)
    (h : acrossColumns rows.length columns = rows.map .ok) :
    acrossColumns rows.length (values.map .ok :: columns) =
      (values.zipWith List.cons rows).map .ok := by
  induction rows generalizing values columns with
  | nil =>
    cases List.length_eq_zero_iff.mp hlen
    rfl
  | cons row rows ih =>
    obtain ⟨v, values, rfl⟩ := List.exists_cons_of_length_eq_add_one hlen
    obtain ⟨hhead, htail⟩ := List.cons.inj h
    have hrest := ih (by simpa using hlen) htail
    simp only [List.length_cons, acrossColumns, List.map_cons, List.mapM_cons, hhead,
      List.headD_cons, List.tail_cons, hrest]
    rfl

theorem acrossColumns_nil (rows : List Row) :
    acrossColumns rows.length [] = (rows.map fun _ => []).map .ok := by
  induction rows with
  | nil => rfl
  | cons row rows ih => exact congrArg (List.cons (Except.ok [])) ih

theorem KeepsRows.nil : KeepsRows [] (fun _ => True) fun _ => [] where
  empty := trivial
  encode rows _ := ⟨[], rfl, acrossColumns_nil rows⟩
  takes _ _ _ := trivial

theorem encodeFields_cons_eq_ok {name : String} {type : ColumnType} {nullable : Bool}
    {fields : List ColumnField} {rows : List Row} {columns : List Column} :
    encodeFields (.mk name type nullable :: fields) rows = .ok columns ↔
      ∃ first rest, encode type (rows.map fun r => r.headD .null) = .ok first ∧
        encodeFields fields (rows.map List.tail) = .ok rest ∧ columns = first :: rest := by
  rw [encodeFields, encodeField, Except.bind_eq_ok]
  constructor
  · rintro ⟨first, hfirst, h⟩
    obtain ⟨rest, hrest, h⟩ := Except.bind_eq_ok.mp h
    cases h
    exact ⟨first, rest, hfirst, hrest, rfl⟩
  · rintro ⟨first, rest, hfirst, hrest, rfl⟩
    exact ⟨first, hfirst, Except.bind_eq_ok.mpr ⟨rest, hrest, rfl⟩⟩

section Rows

variable {name : String} {type : ColumnType} {nullable : Bool} {fields : List ColumnField}
  {takesHead : Value → Prop} {cutHead : Value → Value} {takes : Row → Prop} {cut : Row → Row}

theorem KeepsRows.cons (hhead : KeepsValues type takesHead cutHead) (hnull : takesHead .null)
    (htail : KeepsRows fields takes cut) :
    KeepsRows (.mk name type nullable :: fields)
      (fun row => takesHead (row.headD .null) ∧ takes row.tail)
      fun row => cutHead (row.headD .null) :: cut row.tail where
  empty := ⟨hnull, htail.empty⟩
  encode rows h := by
    obtain ⟨first, hfirst, hcells⟩ := hhead.encode (rows.map fun r => r.headD .null)
      (List.forall_mem_map.mpr fun r hr => (h r hr).1)
    obtain ⟨rest, hrest, hacross⟩ := htail.encode (rows.map List.tail)
      (List.forall_mem_map.mpr fun r hr => (h r hr).2)
    refine ⟨first :: rest, encodeFields_cons_eq_ok.mpr ⟨first, rest, hfirst, hrest, rfl⟩, ?_⟩
    have hlen : ((rows.map fun r => r.headD .null).map cutHead).length =
        ((rows.map List.tail).map cut).length := by
      simp only [List.length_map]
    have := acrossColumns_cons hlen (by simpa using hacross)
    simp only [List.length_map, List.zipWith_map, List.zipWith_self] at this
    rw [cellsOfAll, hcells]
    exact this
  takes h r hr := by
    obtain ⟨first, rest, hfirst, hrest, -⟩ := encodeFields_cons_eq_ok.mp h
    exact ⟨hhead.takes hfirst _ (List.mem_map_of_mem hr),
      htail.takes hrest _ (List.mem_map_of_mem hr)⟩

/-- What a column of tuples keeps of a value when `cut` is kept of its row. -/
def cutTuple (cut : Row → Row) : Value → Value
  | .tuple items => .tuple (cut items)
  | v => v

def cutBag (cut : Row → Row) : Value → Value
  | .bag rows => .bag (rows.map cut)
  | v => v

theorem KeepsRows.struct (h : KeepsRows fields takes cut) :
    KeepsValues (.struct fields) (fun v => v = .null ∨ ∃ row, v = .tuple row ∧ takes row)
      (cutTuple cut) where
  encode values hv := by
    have hplain : ∀ v ∈ values, v = .null ∨ ∃ row, v = .tuple row :=
      fun v hmem => (hv v hmem).imp id fun ⟨row, he, _⟩ => ⟨row, he⟩
    -- What lies under a null is stored as an empty row.
    have hrows : ∀ r ∈ (values.map tuple?).map (·.getD []), takes r := by
      rw [List.map_map]
      refine List.forall_mem_map.mpr fun v hmem => ?_
      rcases hv v hmem with rfl | ⟨row, rfl, htakes⟩
      · exact h.empty
      · exact htakes
    obtain ⟨children, hchildren, hacross⟩ := h.encode _ hrows
    refine ⟨.struct ((values.map tuple?).map Option.isSome) children, ?_, ?_⟩
    · rw [Column.encode, picks_tuple.pickCells_eq_ok hplain, Except.ok_bind, hchildren]
      rfl
    · rw [List.length_map] at hacross
      rw [cells, List.length_map, hacross]
      simp only [List.map_map, List.zipWith_map, List.zipWith_self]
      apply List.map_congr_left
      intro v hmem
      rcases hv v hmem with rfl | ⟨row, rfl, -⟩ <;> rfl
  takes hc v hmem := by
    obtain ⟨rows, hrows, hc⟩ := Except.bind_eq_ok.mp hc
    obtain ⟨children, hchildren, -⟩ := Except.bind_eq_ok.mp hc
    have hplain := picks_tuple.of_pickCells hrows
    rw [picks_tuple.pickCells_eq_ok hplain] at hrows
    cases hrows
    refine (hplain v hmem).imp id fun ⟨row, he⟩ => ⟨row, he, ?_⟩
    subst he
    exact h.takes hchildren row (List.mem_map_of_mem (List.mem_map_of_mem hmem))

theorem mapM_element (rows : List Row) :
    ((rows.map Value.tuple).map Except.ok).mapM element = .ok rows := by
  rw [Except.mapM_eq_ok_iff, List.forall₂_map_left_iff, List.forall₂_map_left_iff]
  exact List.forall₂_same.mpr fun _ _ => rfl

/-- Lists whose items lie end to end are found again by their lengths. -/
theorem listCells_map (cut : Row → Row) {bags : List Value}
    (h : ∀ v ∈ bags, v = .null ∨ ∃ rows, v = .bag rows) :
    listCells ((bags.map bag?).map slot)
      (((((bags.map bag?).flatMap (·.getD [])).map cut).map Value.tuple).map .ok) =
        (bags.map (cutBag cut)).map .ok := by
  induction bags with
  | nil => rfl
  | cons v bags ih =>
    have hrest := ih fun w hw => h w (List.mem_cons_of_mem v hw)
    rcases h v List.mem_cons_self with rfl | ⟨rows, rfl⟩
    · exact congrArg (List.cons (.ok .null)) hrest
    · have hlen : (((rows.map cut).map Value.tuple).map (Except.ok : Value → Cell)).length =
          rows.length := by
        simp only [List.length_map]
      simp only [List.map_cons, List.flatMap_cons, List.map_append, bag?, slot, Option.getD_some,
        listCells, Option.isSome_some, if_true, List.take_left' hlen, List.drop_left' hlen,
        mapM_element, hrest]
      rfl

theorem KeepsRows.list (h : KeepsRows fields takes cut) :
    KeepsValues (.list (.mk name (.struct fields) nullable))
      (fun v => v = .null ∨ ∃ rows, v = .bag rows ∧ ∀ r ∈ rows, takes r) (cutBag cut) where
  encode values hv := by
    have hplain : ∀ v ∈ values, v = .null ∨ ∃ rows, v = .bag rows :=
      fun v hmem => (hv v hmem).imp id fun ⟨rows, he, _⟩ => ⟨rows, he⟩
    have hitems : ∀ v ∈ ((values.map bag?).flatMap (·.getD [])).map Value.tuple,
        v = .null ∨ ∃ row, v = .tuple row ∧ takes row := by
      refine List.forall_mem_map.mpr fun row hrow => .inr ⟨row, rfl, ?_⟩
      obtain ⟨bag, hbag, hrow⟩ := List.mem_flatMap.mp hrow
      obtain ⟨w, hw, rfl⟩ := List.mem_map.mp hbag
      rcases hv w hw with rfl | ⟨rows, rfl, htakes⟩
      · cases hrow
      · exact htakes row hrow
    obtain ⟨items, hencode, hcells⟩ := h.struct.encode _ hitems
    refine ⟨.list ((values.map bag?).map slot) items, ?_, ?_⟩
    · rw [Column.encode, picks_bag.pickCells_eq_ok hplain, Except.ok_bind, encodeField, hencode]
      rfl
    · rw [← listCells_map cut hplain, cells, hcells]
      simp only [List.map_map]
      rfl
  takes {values c} hc v hmem := by
    obtain ⟨bags, hbags, hc⟩ := Except.bind_eq_ok.mp hc
    obtain ⟨items, hitems, -⟩ := Except.bind_eq_ok.mp hc
    have hplain := picks_bag.of_pickCells hbags
    rw [picks_bag.pickCells_eq_ok hplain] at hbags
    cases hbags
    refine (hplain v hmem).imp id fun ⟨rows, he⟩ => ⟨rows, he, fun r hr => ?_⟩
    subst he
    have hmem' : Value.tuple r ∈ ((values.map bag?).flatMap (·.getD [])).map .tuple :=
      List.mem_map_of_mem (List.mem_flatMap.mpr ⟨some rows, List.mem_map_of_mem hmem, hr⟩)
    obtain hnull | ⟨row, he, htakes⟩ := h.struct.takes hitems _ hmem'
    · cases hnull
    · cases he
      exact htakes

end Rows

end RangeSort.Column
