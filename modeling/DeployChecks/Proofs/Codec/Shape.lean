import DeployChecks.Proofs.Codec.Grammar
import DeployChecks.Proofs.Codec.Timestamps
import DeployChecks.Task
import Mathlib.Data.List.Forall2

/-!
# Proofs/Codec/Shape — what may be changed in a text, and values that survive it

In the text of a record the order of the members does not count, and members that the record does
not name are passed over.  A shape says where in a value the records stand; two spelled values are
*rearranged* if they differ in nothing else.  A decoder *reads* a value from a JSON form if it does
so from every rearrangement of that form.  Main definitions: `Json.Shape`, `Json.Rearranged`,
`Json.Reads`, and `Json.Kept` for free JSON; a lemma for each decoder of a single value.
-/

namespace DeployChecks

/-! ## Maps -/

namespace StringMap

variable {α : Type}

/-- A key beyond all others goes to the end. -/
theorem insertSorted_last {k : String} {v : α} {l : List (String × α)} (last : ∀ e ∈ l, e.1 < k) :
    insertSorted k v l = l ++ [(k, v)] := by
  induction l with
  | nil => rfl
  | cons e l ih =>
    obtain ⟨below, last⟩ := List.forall_mem_cons.1 last
    have other : k ≠ e.1 := fun same => String.lt_irrefl k (same ▸ below)
    rw [insertSorted, if_neg (String.lt_asymm below), if_neg other, ih last, List.cons_append]

/-- **Entries in the order of their keys are kept as they are.** -/
theorem toList_ofList {l : List (String × α)} (sorted : l.Pairwise fun a b => a.1 < b.1) :
    (ofList l).toList = l := by
  have grown : ∀ (l : List (String × α)) (m : StringMap α),
      ((m.toList ++ l).Pairwise fun a b => a.1 < b.1) →
        (m.insertMany l).toList = m.toList ++ l := by
    intro l
    induction l with
    | nil => exact fun m _ => (List.append_nil _).symm
    | cons e l ih =>
      intro m sorted
      have last : ∀ a ∈ m.toList, a.1 < e.1 := fun a mem =>
        (List.pairwise_append.1 sorted).2.2 a mem e List.mem_cons_self
      have inserted : (m.insert e.1 e.2).toList = m.toList ++ [e] := insertSorted_last last
      rw [insertMany_cons, ih _ (by rwa [inserted, List.append_assoc]), inserted,
        List.append_assoc]
      rfl
  exact grown l empty sorted

theorem ofList_toList (m : StringMap α) : ofList m.toList = m := ext (toList_ofList m.sorted)

end StringMap

namespace Json

/-! ## Free JSON -/

/-- **A value as it is kept**: numbers are integers, members come in the order of their names, and
lists and objects are nested at most `room` deep. -/
inductive Kept : Nat → Json → Prop
  /-- The null value. -/
  | null {room : Nat} : Kept room .null
  /-- A truth value. -/
  | bool {room : Nat} (b : Bool) : Kept room (.bool b)
  /-- An integer. -/
  | int {room : Nat} {n : Int} (low : -2 ^ 63 ≤ n) (high : n < 2 ^ 64) : Kept room (.int n)
  /-- A text. -/
  | string {room : Nat} (s : String) : Kept room (.string s)
  /-- A list of such values. -/
  | array {room : Nat} {items : List Json} (each : ∀ v ∈ items, Kept room v) :
    Kept (room + 1) (.array items)
  /-- Such values under names. -/
  | object {room : Nat} {members : List (String × Json)}
    (sorted : members.Pairwise fun a b => a.1 < b.1) (each : ∀ m ∈ members, Kept room m.2) :
    Kept (room + 1) (.object members)

namespace Kept

variable {room : Nat} {v : Json}

theorem integral (kept : v.Kept room) : v.Integral := by
  induction kept with
  | null => exact .null
  | bool b => exact .bool b
  | int low high => exact .int low high
  | string s => exact .string s
  | array _ each => exact .array each
  | object _ _ each => exact .object each

/-- **A kept value is the value of its spelling.** -/
theorem ofRaw?_toRaw (kept : v.Kept room) : ofRaw? room v.toRaw = some v := by
  induction kept with
  | null => rfl
  | bool b => rfl
  | int low high => rfl
  | string s => rfl
  | @array room items _ each =>
    have read : ofRawItems? room (toRawItems items) = some items := by
      clear * - each
      induction items with
      | nil => rfl
      | cons v items ih =>
        obtain ⟨first, others⟩ := List.forall_mem_cons.1 each
        rw [toRawItems, ofRawItems?, first, ih others]
    rw [toRaw, ofRaw?, if_neg (Nat.succ_ne_zero room), Nat.add_sub_cancel, read]
    rfl
  | @object room members sorted _ each =>
    have read : ofRawMembers? room (toRawMembers members) = some members := by
      clear * - each
      induction members with
      | nil => rfl
      | cons m members ih =>
        obtain ⟨k, v⟩ := m
        obtain ⟨(first : ofRaw? room v.toRaw = some v), others⟩ := List.forall_mem_cons.1 each
        simp only [toRawMembers, ofRawMembers?, first, ih others]
    rw [toRaw, ofRaw?, if_neg (Nat.succ_ne_zero room), Nat.add_sub_cancel, read, Option.map_some,
      StringMap.toList_ofList sorted]

end Kept

/-! ## Shapes -/

/-- **Where the records stand in a value.** -/
inductive Shape where
  /-- There is none in the value. -/
  | plain
  /-- They stand in the items of a list. -/
  | list (items : Shape)
  /-- The value is a record with fields of these names, and each field has a shape. -/
  | record (names : List String) (field : String → Shape)

/-- **A spelled value is rearranged**: in every record the members stand in another order, and
between them are members whose names the record does not know. -/
def Rearranged : Shape → Raw → Raw → Prop
  | .list s, .array items, v => ∃ items', v = .array items' ∧ items.Forall₂ (Rearranged s) items'
  | .record names field, .object members, v => ∃ kept added whole, v = .object whole ∧
      members.Forall₂ (fun m m' =>
        ∃ name, m.1 = some name ∧ m'.1 = some name ∧ Rearranged (field name) m.2 m'.2) kept ∧
      (∀ m ∈ added, ∃ name ∉ names, m.1 = some name) ∧
      whole.Perm (kept ++ added)
  | _, v, v' => v' = v

/-- A value is a rearrangement of itself. -/
theorem rearranged_refl (s : Shape) (v : Json) : Rearranged s v.toRaw v.toRaw := by
  induction s generalizing v with
  | plain => rfl
  | list s ih =>
    cases v with
    | array items =>
      rw [toRaw, toRawItems_eq]
      exact ⟨_, rfl, List.forall₂_map_left_iff.2 (List.forall₂_map_right_iff.2
        (List.forall₂_same.2 fun v _ => ih v))⟩
    | null | bool _ | number _ | string _ | object _ => rfl
  | record names field ih =>
    cases v with
    | object members =>
      rw [toRaw, toRawMembers_eq]
      refine ⟨members.map fun m => (some m.1, m.2.toRaw), [], _, rfl, ?_, nofun, ?_⟩
      · exact List.forall₂_map_left_iff.2 (List.forall₂_map_right_iff.2
          (List.forall₂_same.2 fun m _ => ⟨m.1, rfl, rfl, ih m.1 m.2⟩))
      · rw [List.append_nil]
    | null | bool _ | number _ | string _ | array _ => rfl

/-- Nothing but null becomes null. -/
theorem eq_null_of_rearranged {s : Shape} {v : Raw} (same : Rearranged s v .null) : v = .null := by
  cases s with
  | plain => exact same.symm
  | list s =>
    cases v with
    | array items =>
      obtain ⟨_, other, -⟩ := same
      cases other
    | null | bool _ | number _ | string _ | object _ => exact same.symm
  | record names field =>
    cases v with
    | object members =>
      obtain ⟨_, _, _, other, -⟩ := same
      cases other
    | null | bool _ | number _ | string _ | array _ => exact same.symm

/-! ## Readers -/

variable {α : Type} {depth : Nat}

/-- **A decoder reads a value from a JSON form**, however the form is rearranged. -/
structure Reads (d : Decoder α) (s : Shape) (depth : Nat) (j : Json) (x : α) : Prop where
  /-- The form has a text that is read back. -/
  integral : j.Integral
  /-- What the decoder makes of it. -/
  reads : ∀ v, Rearranged s j.toRaw v → d depth v = .ok x

namespace Reads

/-- A form without records is read as it is. -/
theorem plain {d : Decoder α} {j : Json} {x : α} (integral : j.Integral)
    (reads : d depth j.toRaw = .ok x) : Reads d .plain depth j x :=
  ⟨integral, fun v same => by rw [show v = j.toRaw from same, reads]⟩

/-- What is read from every rearrangement is read from the form as it is. -/
theorem unmoved {d : Decoder α} {s : Shape} {j : Json} {x : α} (read : Reads d s depth j x) :
    Reads d .plain depth j x := plain read.integral (read.reads _ (rearranged_refl s j))

theorem text (s : String) : Reads Decoder.text .plain depth (.string s) s :=
  plain (.string s) rfl

theorem bool (b : Bool) : Reads Decoder.bool .plain depth (.bool b) b :=
  plain (.bool b) rfl

theorem natBelow {bound n : Nat} (fits : n < bound) (word : bound ≤ UInt64.size) :
    Reads (Decoder.natBelow bound) .plain depth (.nat n) n := by
  have size : UInt64.size = 2 ^ 64 := rfl
  refine plain (.int (by omega) (by omega)) ?_
  rw [nat, int, toRaw, Decoder.natBelow, if_pos ⟨Int.natCast_nonneg n, by exact_mod_cast fits⟩,
    Int.toNat_natCast]

/-- What is made of a value that is read. -/
theorem map {β : Type} {d : Decoder α} {s : Shape} {j : Json} {x : α} (g : α → β)
    (read : Reads d s depth j x) : Reads (fun depth v => (d depth v).map g) s depth j (g x) where
  integral := read.integral
  reads v same := by
    rw [read.reads v same]
    rfl

theorem word32 (n : UInt32) : Reads Decoder.word32 .plain depth (.nat n.toNat) n := by
  have read : Reads Decoder.word32 .plain depth (.nat n.toNat) (.ofNat n.toNat) :=
    (natBelow n.toNat_lt (by decide)).map UInt32.ofNat
  rwa [UInt32.ofNat_toNat] at read

theorem word64 (n : UInt64) : Reads Decoder.word64 .plain depth (.nat n.toNat) n := by
  have read : Reads Decoder.word64 .plain depth (.nat n.toNat) (.ofNat n.toNat) :=
    (natBelow n.toNat_lt (Nat.le_refl _)).map UInt64.ofNat
  rwa [UInt64.ofNat_toNat] at read

theorem timestamp (t : Timestamp) :
    Reads Codec.decode .plain depth (Codec.encode t) t := by
  refine plain (.string t.write) ?_
  change Decoder.textual Timestamp.read? depth (.string (some t.write)) = .ok t
  rw [Decoder.textual, Decoder.text, Except.bind, Timestamp.read?_write]

/-- The items of a list are read in order. -/
theorem list {d : Decoder α} {s : Shape} {form : α → Json} {l : List α}
    (each : ∀ x ∈ l, Reads d s (depth + 1) (form x) x) :
    Reads d.list (.list s) depth (.array (l.map form)) l := by
  constructor
  · exact .array fun v mem => by
      obtain ⟨x, from_, rfl⟩ := List.mem_map.1 mem
      exact (each x from_).integral
  · rintro v ⟨items, rfl, same⟩
    rw [toRawItems_eq] at same
    change Decoder.items d (depth + 1) items = .ok l
    induction l generalizing items with
    | nil =>
      obtain rfl := List.forall₂_nil_left_iff.1 same
      rfl
    | cons x l ih =>
      obtain ⟨v, items, first, others, rfl⟩ := List.forall₂_cons_left_iff.1 same
      obtain ⟨read, more⟩ := List.forall_mem_cons.1 each
      rw [Decoder.items, read.reads v first, ih more items others]
      rfl

/-- A list of texts. -/
theorem texts (l : List String) : Reads Decoder.text.list .plain depth (.strings l) l :=
  unmoved (list fun s _ => text s)

/-- A map of texts. -/
theorem stringMap (m : StringMap String) :
    Reads (Decoder.stringMap Decoder.text) .plain depth (.stringMap m) m := by
  have entries : ∀ l : List (String × String), Decoder.entries Decoder.text (depth + 1)
      (toRawMembers (l.map fun e => (e.1, .string e.2))) = .ok l := by
    intro l
    induction l with
    | nil => rfl
    | cons e l ih =>
      rw [List.map_cons, toRawMembers, Decoder.entries, ih]
      rfl
  refine plain (.object fun e mem => ?_) ?_
  · obtain ⟨_, -, rfl⟩ := List.mem_map.1 mem
    exact .string _
  · change (Decoder.entries _ _ (toRawMembers _)).map _ = _
    rw [entries]
    exact congrArg Except.ok (StringMap.ofList_toList m)

/-- Free JSON. -/
theorem json {v : Json} (kept : v.Kept (maxNesting - depth)) :
    Reads Decoder.json .plain depth v v := by
  refine plain kept.integral ?_
  rw [Decoder.json, kept.ofRaw?_toRaw]

/-- One of several names. -/
theorem choice {names : List (String × α)} {name : String} {x : α}
    (found : names.lookup name = some x) :
    Reads (Decoder.choice names) .plain depth (.string name) x := by
  have bare : (names.map fun e => (e.1, Decoder.Variant.bare e.2)).lookup name
      = some (.bare x) := by
    induction names with
    | nil => cases found
    | cons e names ih =>
      rw [List.lookup_cons] at found
      rw [List.map_cons, List.lookup_cons]
      cases same : name == e.1 with
      | true =>
        rw [same] at found
        rw [Option.some.inj found]
      | false =>
        rw [same] at found
        exact ih found
  refine plain (.string name) ?_
  rw [Decoder.choice, toRaw, Decoder.variant]
  dsimp only
  rw [bare]
  rfl

/-- A value that may be null, where it is not. -/
theorem option {d : Decoder α} {s : Shape} {j : Json} {x : α} (present : j ≠ .null)
    (read : Reads d s depth j x) : Reads d.option s depth j (some x) := by
  refine ⟨read.integral, fun v same => ?_⟩
  have some_ : v ≠ .null := by
    rintro rfl
    cases j with
    | null => exact present rfl
    | bool _ | number _ | string _ | array _ | object _ => cases eq_null_of_rearranged same
  rw [Decoder.option.eq_2 d depth v some_, read.reads v same]
  rfl

end Reads

end Json

end DeployChecks
