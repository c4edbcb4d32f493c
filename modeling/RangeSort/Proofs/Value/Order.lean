import RangeSort.Value.Order

/-! The order of values is total and tells all values apart. The laws are stated at one
left argument, so that a composite inherits them from the values inside it. -/

namespace RangeSort

/-- The laws of a total order in which only identical values compare equal, with `a` on
the left. -/
structure OrderedAt {α : Type} (cmp : α → α → Ordering) (a : α) : Prop where
  eq_iff : ∀ b, cmp a b = .eq ↔ a = b
  swap : ∀ b, cmp b a = (cmp a b).swap
  lt_of_lt_of_le : ∀ b c, cmp a b = .lt → (cmp b c).isLE → cmp a c = .lt

namespace OrderedAt

variable {α β : Type} {cmp : α → α → Ordering}

theorem of_lawful [Std.TransCmp cmp] [Std.LawfulEqCmp cmp] (a : α) : OrderedAt cmp a where
  eq_iff _ := Std.LawfulEqCmp.compare_eq_iff_eq
  swap _ := Std.OrientedCmp.eq_swap
  lt_of_lt_of_le _ _ := Std.TransCmp.lt_of_lt_of_isLE

theorem on {f : β → α} (hf : Function.Injective f) {b : β} (h : OrderedAt cmp (f b)) :
    OrderedAt (fun x y => cmp (f x) (f y)) b where
  eq_iff c := (h.eq_iff (f c)).trans hf.eq_iff
  swap c := h.swap (f c)
  lt_of_lt_of_le c d := h.lt_of_lt_of_le (f c) (f d)

theorem both {cmp' : β → β → Ordering} {x : α × β} (h : OrderedAt cmp x.1)
    (h' : OrderedAt cmp' x.2) : OrderedAt (fun x y => (cmp x.1 y.1).then (cmp' x.2 y.2)) x where
  eq_iff y := by
    rw [Ordering.then_eq_eq, h.eq_iff, h'.eq_iff, Prod.ext_iff]
  swap y := by
    rw [Ordering.swap_then, ← h.swap, ← h'.swap]
  lt_of_lt_of_le y z hxy hyz := by
    rw [Ordering.then_eq_lt] at hxy ⊢
    rw [Ordering.isLE_then_iff_and] at hyz
    rcases hxy with hxy | ⟨hxy, hxy'⟩
    · exact .inl (h.lt_of_lt_of_le y.1 z.1 hxy hyz.1)
    · have he := (h.eq_iff y.1).mp hxy
      rw [he]
      rcases hyz with ⟨hyz, hlt | hyz'⟩
      · exact .inl hlt
      · cases hc : cmp y.1 z.1 with
        | lt => exact .inl rfl
        | eq => exact .inr ⟨rfl, h'.lt_of_lt_of_le y.2 z.2 hxy' hyz'⟩
        | gt => simp [hc] at hyz

theorem compareLex {as : List α} (h : ∀ a ∈ as, OrderedAt cmp a) :
    OrderedAt (List.compareLex cmp) as := by
  induction as with
  | nil =>
    refine ⟨fun bs => ?_, fun bs => ?_, fun bs cs hab hbc => ?_⟩
    · cases bs <;> simp [List.compareLex]
    · cases bs <;> rfl
    · cases bs <;> cases cs <;> simp_all [List.compareLex]
  | cons a as ih =>
    have hh := (h a List.mem_cons_self).both (x := (a, as))
      (ih fun x hx => h x (List.mem_cons_of_mem a hx))
    refine ⟨fun bs => ?_, fun bs => ?_, fun bs cs hab hbc => ?_⟩
    · cases bs with
      | nil => simp [List.compareLex]
      | cons b bs => simpa [List.compareLex_cons_cons] using hh.eq_iff (b, bs)
    · cases bs with
      | nil => rfl
      | cons b bs => simpa only [List.compareLex_cons_cons] using hh.swap (b, bs)
    · cases bs with
      | nil => cases hab
      | cons b bs =>
        cases cs with
        | nil => cases hbc
        | cons c cs =>
          rw [List.compareLex_cons_cons] at hab hbc ⊢
          exact hh.lt_of_lt_of_le (b, bs) (c, cs) hab hbc

theorem lengthFirst {cmp : List α → List α → Ordering} {as : List α} (h : OrderedAt cmp as) :
    OrderedAt (fun as bs => (Ord.compare as.length bs.length).then (cmp as bs)) as := by
  have hl : OrderedAt (Ord.compare : Nat → Nat → Ordering) as.length := of_lawful _
  have hf : Function.Injective fun bs : List α => (bs.length, bs) :=
    fun _ _ he => congrArg Prod.snd he
  exact (hl.both (x := (as.length, as)) h).on hf

end OrderedAt

theorem compareItems_eq : compareItems = List.compareLex Value.compare := by
  funext as bs
  induction as generalizing bs with
  | nil => cases bs <;> rfl
  | cons a as ih =>
    cases bs with
    | nil => rfl
    | cons b bs => rw [compareItems, ih, List.compareLex_cons_cons]

theorem compareRows_eq : compareRows = List.compareLex compareItems := by
  funext as bs
  induction as generalizing bs with
  | nil => cases bs <;> rfl
  | cons a as ih =>
    cases bs with
    | nil => rfl
    | cons b bs => rw [compareRows, ih, List.compareLex_cons_cons]

theorem compareEntries_eq : compareEntries = List.compareLex compareEntry := by
  funext as bs
  induction as generalizing bs with
  | nil => cases bs <;> rfl
  | cons a as ih =>
    cases bs with
    | nil => rfl
    | cons b bs => rw [compareEntries, ih, List.compareLex_cons_cons]

theorem compareEntry_eq :
    compareEntry = fun d e => (Ord.compare d.1 e.1).then (d.2.compare e.2) := by
  funext ⟨k, a⟩ ⟨l, b⟩
  rfl

namespace BinaryFormat

variable (f : BinaryFormat)

/-- Patterns are told apart by their place in the total order. -/
theorem orderKey_inj {a b : Nat} (ha : a < 2 * f.signBit) (hb : b < 2 * f.signBit)
    (h : f.orderKey a = f.orderKey b) : a = b := by
  have low {n : Nat} (hn : n < f.signBit) : f.magnitude n = n := Nat.mod_eq_of_lt hn
  have high {n : Nat} (hn : ¬ n < f.signBit) (hlt : n < 2 * f.signBit) :
      f.magnitude n = n - f.signBit := by
    rw [magnitude, Nat.mod_eq_sub_mod (by omega), Nat.mod_eq_of_lt (by omega)]
  by_cases ha' : a < f.signBit <;> by_cases hb' : b < f.signBit
  · simp [orderKey, isNegative, Nat.not_le.mpr ha', Nat.not_le.mpr hb', low ha', low hb'] at h
    omega
  · simp [orderKey, isNegative, Nat.not_le.mpr ha', Nat.not_lt.mp hb', low ha', high hb' hb] at h
    omega
  · simp [orderKey, isNegative, Nat.not_lt.mp ha', Nat.not_le.mpr hb', high ha' ha, low hb'] at h
    omega
  · simp [orderKey, isNegative, Nat.not_lt.mp ha', Nat.not_lt.mp hb', high ha' ha, high hb' hb] at h
    omega

end BinaryFormat

theorem Kind.rank_injective : Function.Injective Kind.rank := by
  intro a b h
  cases a <;> cases b <;> first | rfl | cases h

namespace Value

theorem compare_of_kind_ne {a b : Value} (h : a.kind ≠ b.kind) :
    a.compare b = Ord.compare a.kind.rank b.kind.rank := by
  cases a <;> cases b <;> first | rfl | exact absurd rfl h

/-- Values of one kind inherit the laws from the order of their contents. -/
theorem orderedAt_of_kind {α : Type} (wrap : α → Value) (cmp : α → α → Ordering) {k : Kind}
    (hk : ∀ a, (wrap a).kind = k) (hex : ∀ v : Value, v.kind = k → ∃ a, v = wrap a)
    (hw : Function.Injective wrap) (hcmp : ∀ a b, (wrap a).compare (wrap b) = cmp a b)
    {a : α} (h : OrderedAt cmp a) : OrderedAt Value.compare (wrap a) := by
  have ha : (wrap a).kind = k := hk a
  have apart {b : Value} (hb : b.kind ≠ k) :
      (wrap a).compare b = Ord.compare k.rank b.kind.rank ∧
        b.compare (wrap a) = Ord.compare b.kind.rank k.rank := by
    rw [compare_of_kind_ne (by simpa [ha] using hb.symm), compare_of_kind_ne (by simpa [ha]), ha]
    exact ⟨rfl, rfl⟩
  refine ⟨fun b => ?_, fun b => ?_, fun b c hab hbc => ?_⟩
  · by_cases hb : b.kind = k
    · obtain ⟨b, rfl⟩ := hex b hb
      rw [hcmp, h.eq_iff, hw.eq_iff]
    · have hr : k.rank ≠ b.kind.rank := fun he => hb (Kind.rank_injective he).symm
      rw [(apart hb).1, Nat.compare_eq_eq]
      exact ⟨fun he => absurd he hr, fun he => absurd (he ▸ ha) hb⟩
  · by_cases hb : b.kind = k
    · obtain ⟨b, rfl⟩ := hex b hb
      rw [hcmp, hcmp, h.swap]
    · rw [(apart hb).1, (apart hb).2]
      exact Std.OrientedCmp.eq_swap
  · by_cases hb : b.kind = k <;> by_cases hc : c.kind = k
    · obtain ⟨b, rfl⟩ := hex b hb
      obtain ⟨c, rfl⟩ := hex c hc
      rw [hcmp] at hab hbc ⊢
      exact h.lt_of_lt_of_le b c hab hbc
    · rw [compare_of_kind_ne (by simpa [hb] using fun he => hc he.symm), hb] at hbc
      have hr : k.rank ≠ c.kind.rank := fun he => hc (Kind.rank_injective he).symm
      rw [(apart hc).1, Nat.compare_eq_lt]
      rw [Nat.isLE_compare] at hbc
      omega
    · rw [(apart hb).1, Nat.compare_eq_lt] at hab
      rw [compare_of_kind_ne (by simpa [hc] using hb), hc, Nat.isLE_compare] at hbc
      omega
    · rw [(apart hb).1, Nat.compare_eq_lt] at hab
      rw [(apart hc).1, Nat.compare_eq_lt]
      by_cases he : b.kind = c.kind
      · rwa [← he]
      · rw [compare_of_kind_ne he, Nat.isLE_compare] at hbc
        omega

theorem orderedAt (v : Value) : OrderedAt Value.compare v := by
  induction v with
  | null =>
    have hn : OrderedAt (fun _ _ : Unit => Ordering.eq) () :=
      ⟨fun _ => ⟨fun _ => rfl, fun _ => rfl⟩, fun _ => rfl, fun _ _ h => nomatch h⟩
    exact orderedAt_of_kind (fun _ => .null) _ (fun _ => rfl) (fun | .null, _ => ⟨(), rfl⟩)
      (fun _ _ _ => rfl) (fun _ _ => rfl) hn
  | boolean b =>
    exact orderedAt_of_kind .boolean Ord.compare (fun _ => rfl)
      (fun | .boolean b, _ => ⟨b, rfl⟩) (fun _ _ => boolean.inj) (fun _ _ => rfl) (.of_lawful b)
  | int n =>
    have hn : OrderedAt (Ord.compare : Int → Int → Ordering) n.toInt := .of_lawful _
    exact orderedAt_of_kind .int _ (fun _ => rfl) (fun | .int n, _ => ⟨n, rfl⟩)
      (fun _ _ => int.inj) (fun _ _ => rfl) (hn.on fun _ _ => Int32.toInt_inj.mp)
  | long n =>
    have hn : OrderedAt (Ord.compare : Int → Int → Ordering) n.toInt := .of_lawful _
    exact orderedAt_of_kind .long _ (fun _ => rfl) (fun | .long n, _ => ⟨n, rfl⟩)
      (fun _ _ => long.inj) (fun _ _ => rfl) (hn.on fun _ _ => Int64.toInt_inj.mp)
  | float bits =>
    have hn : OrderedAt (Ord.compare : Int → Int → Ordering) (binary32.orderKey bits.toNat) :=
      .of_lawful _
    refine orderedAt_of_kind .float _ (fun _ => rfl) (fun | .float bits, _ => ⟨bits, rfl⟩)
      (fun _ _ => float.inj) (fun _ _ => rfl) (hn.on (f := fun b : UInt32 => binary32.orderKey b.toNat) ?_)
    exact fun a b h => UInt32.toNat_inj.mp (binary32.orderKey_inj a.toNat_lt b.toNat_lt h)
  | double bits =>
    have hn : OrderedAt (Ord.compare : Int → Int → Ordering) (binary64.orderKey bits.toNat) :=
      .of_lawful _
    refine orderedAt_of_kind .double _ (fun _ => rfl) (fun | .double bits, _ => ⟨bits, rfl⟩)
      (fun _ _ => double.inj) (fun _ _ => rfl) (hn.on (f := fun b : UInt64 => binary64.orderKey b.toNat) ?_)
    exact fun a b h => UInt64.toNat_inj.mp (binary64.orderKey_inj a.toNat_lt b.toNat_lt h)
  | bytes octets =>
    exact orderedAt_of_kind .bytes (List.compareLex Ord.compare) (fun _ => rfl)
      (fun | .bytes octets, _ => ⟨octets, rfl⟩) (fun _ _ => bytes.inj) (fun _ _ => rfl)
      (.of_lawful octets)
  | text s =>
    exact orderedAt_of_kind .text Ord.compare (fun _ => rfl) (fun | .text s, _ => ⟨s, rfl⟩)
      (fun _ _ => text.inj) (fun _ _ => rfl) (.of_lawful s)
  | map entries ih =>
    have he : OrderedAt compareEntries entries := by
      rw [compareEntries_eq, compareEntry_eq]
      exact .compareLex fun e h => (OrderedAt.of_lawful e.1).both (ih e h)
    exact orderedAt_of_kind .map _ (fun _ => rfl) (fun | .map entries, _ => ⟨entries, rfl⟩)
      (fun _ _ => map.inj) (fun _ _ => rfl) he.lengthFirst
  | tuple items ih =>
    have hi : OrderedAt compareItems items := by
      rw [compareItems_eq]
      exact .compareLex ih
    exact orderedAt_of_kind .tuple compareItems (fun _ => rfl)
      (fun | .tuple items, _ => ⟨items, rfl⟩) (fun _ _ => tuple.inj) (fun _ _ => rfl) hi
  | bag rows ih =>
    have hr : OrderedAt compareRows rows := by
      rw [compareRows_eq, compareItems_eq]
      exact .compareLex fun r h => .compareLex (ih r h)
    exact orderedAt_of_kind .bag _ (fun _ => rfl) (fun | .bag rows, _ => ⟨rows, rfl⟩)
      (fun _ _ => bag.inj) (fun _ _ => rfl) hr.lengthFirst

instance : Std.LawfulEqCmp Value.compare where
  compare_self {a} := ((orderedAt a).eq_iff a).mpr rfl
  eq_of_compare {a b} := ((orderedAt a).eq_iff b).mp

instance : LawfulBEq Value where
  eq_of_beq {a b} h := by
    have hab : a.compare b = .eq := eq_of_beq h
    exact Std.LawfulEqCmp.eq_of_compare hab
  rfl {a} := by
    have haa : a.compare a = .eq := Std.ReflCmp.compare_self
    show (a.compare a == .eq) = true
    rw [haa]
    rfl

instance : Std.TransCmp Value.compare where
  eq_swap {a b} := (orderedAt b).swap a
  isLE_trans {a b c} hab hbc := by
    cases hc : a.compare b with
    | lt => simp [(orderedAt a).lt_of_lt_of_le b c hc hbc]
    | eq => rwa [((orderedAt a).eq_iff b).mp hc]
    | gt => simp [hc] at hab

end Value

/-- A total order in which equal means identical. -/
structure TotalOrder {α : Type} (cmp : α → α → Ordering) : Prop where
  refl : ∀ a, cmp a a = .eq
  swap : ∀ a b, cmp b a = (cmp a b).swap
  trans : ∀ a b c, cmp a b ≠ .gt → cmp b c ≠ .gt → cmp a c ≠ .gt
  eq_iff : ∀ a b, cmp a b = .eq ↔ a = b

/-- The same without the last law: different elements may tie. -/
structure TotalPreorder {α : Type} (cmp : α → α → Ordering) : Prop where
  refl : ∀ a, cmp a a = .eq
  swap : ∀ a b, cmp b a = (cmp a b).swap
  trans : ∀ a b c, cmp a b ≠ .gt → cmp b c ≠ .gt → cmp a c ≠ .gt

theorem TotalPreorder.of_transCmp {α : Type} {cmp : α → α → Ordering} [Std.TransCmp cmp] :
    TotalPreorder cmp where
  refl _ := Std.ReflCmp.compare_self
  swap _ _ := Std.OrientedCmp.eq_swap
  trans a b c hab hbc := by
    exact Ordering.isLE_iff_ne_gt.mp (Std.TransCmp.isLE_trans
      (Ordering.isLE_iff_ne_gt.mpr hab) (Ordering.isLE_iff_ne_gt.mpr hbc))

theorem TotalOrder.of_lawful {α : Type} {cmp : α → α → Ordering} [Std.TransCmp cmp]
    [Std.LawfulEqCmp cmp] : TotalOrder cmp :=
  have h : TotalPreorder cmp := .of_transCmp
  ⟨h.refl, h.swap, h.trans, fun _ _ => Std.LawfulEqCmp.compare_eq_iff_eq⟩

theorem TotalOrder.on {α β : Type} {cmp : α → α → Ordering} {f : β → α} (h : TotalOrder cmp)
    (hf : Function.Injective f) : TotalOrder fun x y => cmp (f x) (f y) where
  refl x := h.refl (f x)
  swap x y := h.swap (f x) (f y)
  trans x y z := h.trans (f x) (f y) (f z)
  eq_iff x y := (h.eq_iff (f x) (f y)).trans hf.eq_iff

def compareBags (a b : List Row) : Ordering :=
  (Value.bag a).compare (.bag b)

def compareMaps (a b : List (String × Value)) : Ordering :=
  (Value.map a).compare (.map b)

/-- Values, rows, bags and maps are ordered totally and equal only when identical; maps also
when they have the same under every key. Null is least and kinds go by their rank. Rows
compare position by position, bags and maps by size first. -/
theorem compare_totalOrder :
    TotalOrder Value.compare ∧ TotalOrder compareItems ∧ TotalOrder compareBags ∧
      TotalOrder compareMaps ∧
      (∀ v : Value, v ≠ .null → Value.null.compare v = .lt) ∧
      (∀ a b : Value, a.kind ≠ b.kind → a.compare b = Ord.compare a.kind.rank b.kind.rank) ∧
      (∀ a b : Row, compareItems a b = a.compareLex Value.compare b) ∧
      (∀ a b : List Row, compareBags a b =
        (Ord.compare a.length b.length).then (a.compareLex compareItems b)) ∧
      (∀ a b : List (String × Value), compareMaps a b =
        (Ord.compare a.length b.length).then (a.compareLex compareEntry b)) ∧
      ∀ a b : List (String × Value), KeyMap.Ascending a → KeyMap.Ascending b →
        (compareMaps a b = .eq ↔ ∀ key, KeyMap.get? key a = KeyMap.get? key b) := by
  have hv : TotalOrder Value.compare := .of_lawful
  refine ⟨hv, hv.on fun _ _ => Value.tuple.inj, hv.on fun _ _ => Value.bag.inj,
    hv.on fun _ _ => Value.map.inj, fun v hne => ?_, fun _ _ => Value.compare_of_kind_ne,
    fun a b => by rw [compareItems_eq], fun a b => by rw [← compareRows_eq]; rfl,
    fun a b => by rw [← compareEntries_eq]; rfl, fun a b ha hb => ?_⟩
  · cases v <;> first | rfl | exact absurd rfl hne
  · rw [compareMaps, hv.eq_iff, Value.map.injEq]
    exact ⟨fun h key => h ▸ rfl, KeyMap.Ascending.ext ha hb⟩

/-- Zeros of either sign inside tuples, a bag above them, and two spellings of one map. -/
theorem compare_totalOrder_signed_zeros :
    (Value.tuple [.null, .double 0x8000000000000000]).compare (.tuple [.null, .double 0]) ≠ .gt ∧
      (Value.tuple [.null, .double 0]).compare (.bag [[.map []]]) ≠ .gt ∧
      (Value.tuple [.null, .double 0x8000000000000000]).compare (.bag [[.map []]]) ≠ .gt ∧
      Value.null.compare (.bytes []) = .lt ∧
      (Value.long (-5)).compare (.float 0) = Ord.compare Kind.long.rank Kind.float.rank ∧
      KeyMap.Ascending [("", Value.null)] ∧
      (compareMaps [("", .null)] [("", .null)] = .eq ↔
        ∀ key, KeyMap.get? key [("", Value.null)] = KeyMap.get? key [("", .null)]) := by
  obtain ⟨hv, -, -, -, hnull, hkind, -, -, -, hmaps⟩ := compare_totalOrder
  have ha : KeyMap.Ascending [("", Value.null)] := List.pairwise_singleton _ _
  exact ⟨by decide, by decide, hv.trans _ (.tuple [.null, .double 0]) _ (by decide) (by decide),
    hnull _ nofun, hkind _ _ (by decide), ha, hmaps _ _ ha ha⟩

end RangeSort
