import DeployChecks.Proofs.Codec.Shape
import DeployChecks.Proofs.Lists

/-!
# Proofs/Codec/Records — a record is read from its members in any order

A record takes each of its fields from a table of values.  What it makes of a table that holds the
members of an object is put together from its fields (`Fields.Holds` with a lemma for each way to
add a field).  In a rearranged object no known name comes twice, so the test of the members passes
and the table that is looked up holds them.  Main statement: `Json.Reads.record`.
-/

namespace DeployChecks

namespace Json

namespace Fields

variable {α β : Type} {field : String → Shape} {members : List (String × Json)} {depth : Nat}
  {name : String}

/-! ## Names and shapes -/

/-- The names of the fields. -/
def names (f : Fields α) : List String := f.checks.map Prod.fst

/-- The shape of a field, plain unless it is listed. -/
def nestedShape (nested : List (String × Shape)) (name : String) : Shape :=
  (nested.lookup name).getD .plain

/-- **The shape of a record**, given the shapes of those fields that hold records themselves. -/
def shape (f : Fields α) (nested : List (String × Shape)) : Shape :=
  .record f.names (nestedShape nested)

/-! ## What a record makes of a table -/

/-- **A table holds a member of an object**, rearranged, or lacks it as the object does. -/
def Tells (field : String → Shape) (members : List (String × Json)) (table : String → Option Raw)
    (name : String) : Prop :=
  match members.lookup name with
  | some j => ∃ v, table name = some v ∧ Rearranged (field name) j.toRaw v
  | none => table name = none

/-- **What fields make of the members of an object.** -/
structure Holds (f : Fields α) (field : String → Shape) (depth : Nat)
    (members : List (String × Json)) (x : α) : Prop where
  /-- The value, from every table that holds the members. -/
  read : ∀ table, (∀ name ∈ f.names, Tells field members table name) → f.read depth table = .ok x
  /-- Every member passes its test. -/
  test : ∀ c ∈ f.checks, ∀ j, members.lookup c.1 = some j →
    ∀ v, Rearranged (field c.1) j.toRaw v → c.2 depth v = .ok ()
  /-- Every member has a text that is read back. -/
  integral : ∀ name ∈ f.names, ∀ j, members.lookup name = some j → j.Integral

namespace Holds

theorem map {f : Fields α} {x : α} (g : α → β) (holds : f.Holds field depth members x) :
    (g <$> f).Holds field depth members (g x) where
  read table tells := by
    change (f.read depth table).map g = _
    rw [holds.read table tells]
    rfl
  test := holds.test
  integral := holds.integral

theorem seq {f : Fields (α → β)} {y : Fields α} {g : α → β} {x : α}
    (first : f.Holds field depth members g) (last : y.Holds field depth members x) :
    (f <*> y).Holds field depth members (g x) := by
  have both : (f <*> y).names = f.names ++ y.names := List.map_append
  refine ⟨fun table tells => ?_, fun c mem => ?_, fun name mem => ?_⟩
  · rw [both, List.forall_mem_append] at tells
    change (f.read depth table).bind (fun g => (y.read depth table).map g) = _
    rw [first.read table tells.1, last.read table tells.2]
    rfl
  · exact (List.mem_append.1 mem).elim (first.test c) (last.test c)
  · rw [both] at mem
    exact (List.mem_append.1 mem).elim (first.integral name) (last.integral name)

variable {d : Decoder α} {j : Json} {x : α}

/-- A field that is there. -/
theorem required (told : members.lookup name = some j) (read : Reads d (field name) depth j x) :
    (Fields.required name d).Holds field depth members x := by
  refine ⟨fun table tells => ?_, fun c mem i found v same => ?_, fun n mem i found => ?_⟩
  · have tells := tells name List.mem_cons_self
    rw [Tells, told] at tells
    obtain ⟨v, held, same⟩ := tells
    rw [Fields.required]
    dsimp only
    rw [held]
    exact read.reads v same
  · obtain rfl := List.mem_singleton.1 mem
    obtain rfl := Option.some.inj (told.symm.trans found)
    change (d depth v).map _ = _
    rw [read.reads v same]
    rfl
  · obtain rfl := List.mem_singleton.1 mem
    obtain rfl := Option.some.inj (told.symm.trans found)
    exact read.integral

/-- A field with a default that is there. -/
theorem defaulted {default : α} (told : members.lookup name = some j)
    (read : Reads d (field name) depth j x) :
    (Fields.defaulted name d default).Holds field depth members x := by
  have same := required told read
  refine ⟨fun table tells => ?_, same.test, same.integral⟩
  rw [← same.read table tells]
  have tells := tells name List.mem_cons_self
  rw [Tells, told] at tells
  obtain ⟨v, held, -⟩ := tells
  rw [Fields.required, Fields.defaulted]
  dsimp only
  rw [held]

/-- A field with a default that is not there. -/
theorem absent (d : Decoder α) (default : α) (told : members.lookup name = none) :
    (Fields.defaulted name d default).Holds field depth members default := by
  refine ⟨fun table tells => ?_, fun c mem i found => ?_, fun n mem i found => ?_⟩
  · have tells := tells name List.mem_cons_self
    rw [Tells, told] at tells
    rw [Fields.defaulted]
    dsimp only
    rw [tells]
  · obtain rfl := List.mem_singleton.1 mem
    cases told.symm.trans found
  · obtain rfl := List.mem_singleton.1 mem
    cases told.symm.trans found

/-- **A field that is there if it has a value.** -/
theorem optional {form : α → Json} {o : Option α} (told : members.lookup name = o.map form)
    (present : ∀ x, form x ≠ .null) (read : ∀ x, Reads d (field name) depth (form x) x) :
    (Fields.optional name d).Holds field depth members o := by
  cases o with
  | none => exact absent _ none told
  | some x => exact defaulted told (.option (present x) (read x))

end Holds

/-! ## Members that may be left out -/

@[simp] theorem lookup_optionalMember (v : Option Json) (k : String) :
    (optionalMember name v).lookup k = if k = name then v else none := by
  cases v with
  | none => exact (ite_self none).symm
  | some v =>
    by_cases same : k = name
    · rw [if_pos same, same]
      exact List.lookup_cons_self
    · rw [if_neg same, optionalMember, List.lookup_cons, beq_eq_false_iff_ne.2 same]
      rfl

theorem sublist_optionalMember (name : String) (v : Option Json) :
    ((optionalMember name v).map Prod.fst).Sublist [name] := by
  cases v with
  | none => exact List.nil_sublist _
  | some v => exact .refl _

/-! ## The test of the members -/

/-- **The test passes** if every known member passes its own and no known name comes twice. -/
theorem test_eq_ok {checks : List (String × (Nat → Raw → Except DecodeError Unit))} :
    ∀ {whole : List (Option String × Raw)} (seen : List String),
      (∀ m ∈ whole, ∃ k, m.1 = some k ∧
        ∀ check, checks.lookup k = some check → k ∉ seen ∧ check depth m.2 = .ok ()) →
      (whole.Pairwise fun a b => ∀ k, a.1 = some k → b.1 = some k → checks.lookup k = none) →
      test checks depth seen whole = .ok ()
  | [], _, _, _ => rfl
  | (m, v) :: whole, seen, each, apart => by
    obtain ⟨⟨k, (rfl : m = some k), passes⟩, others⟩ := List.forall_mem_cons.1 each
    obtain ⟨first, apart⟩ := List.pairwise_cons.1 apart
    rw [test]
    cases known : checks.lookup k with
    | none => exact test_eq_ok seen others apart
    | some check =>
      obtain ⟨new, pass⟩ := passes check known
      dsimp only
      rw [if_neg (by simpa using new), pass]
      refine test_eq_ok (k :: seen) (fun m mem => ?_) apart
      obtain ⟨n, named, passes⟩ := others m mem
      refine ⟨n, named, fun check found => ⟨?_, (passes check found).2⟩⟩
      intro old
      obtain same | old := List.mem_cons.1 old
      · cases found.symm.trans (same ▸ first m mem k rfl (same ▸ named))
      · exact (passes check found).1 old

/-! ## Rearranged objects -/

/-- Two members do not have one known name. -/
def Apart (names : List String) (a b : Option String × Raw) : Prop :=
  ∀ k, a.1 = some k → b.1 = some k → k ∉ names

theorem Apart.symm {names : List String} {a b : Option String × Raw} (apart : Apart names a b) :
    Apart names b a := fun k hb ha => apart k ha hb

instance (names : List String) : Std.Symm (Apart names) := ⟨fun _ _ => Apart.symm⟩

/-- **A spelled object stands for the members of a record**: under a known name stands the member
of that name, and no known name comes twice. -/
structure Spells (names : List String) (field : String → Shape) (members : List (String × Json))
    (whole : List (Option String × Raw)) : Prop where
  /-- A known name has its member. -/
  origin : ∀ m ∈ whole, ∃ k, m.1 = some k ∧
    (k ∈ names → ∃ j, members.lookup k = some j ∧ Rearranged (field k) j.toRaw m.2)
  /-- Every member is there. -/
  told : ∀ k j, members.lookup k = some j → ∃ v, (some k, v) ∈ whole
  /-- No known name comes twice. -/
  apart : whole.Pairwise (Apart names)

variable {names : List String} {whole : List (Option String × Raw)}

/-- **A rearranged record stands for its members**, if they have distinct names. -/
theorem spells_of_rearranged (distinct : (members.map Prod.fst).Nodup)
    (same : Rearranged (.record names field) (.object (toRawMembers members)) (.object whole)) :
    Spells names field members whole := by
  obtain ⟨kept, added, whole, ⟨⟩, same, unknown, perm⟩ := same
  rw [toRawMembers_eq, List.forall₂_map_left_iff] at same
  have keys : kept.map Prod.fst = (members.map Prod.fst).map some := by
    clear perm distinct
    induction same with
    | nil => rfl
    | cons first _ ih =>
      obtain ⟨k, ⟨⟩, named, -⟩ := first
      rw [List.map_cons, named, ih, List.map_cons, List.map_cons]
  refine ⟨fun m mem => ?_, fun k j found => ?_, ?_⟩
  · obtain old | new := List.mem_append.1 (perm.mem_iff.1 mem)
    · obtain ⟨⟨k, j⟩, mem, _, ⟨⟩, named, rearranged⟩ := exists_of_forall₂ same.flip m old
      exact ⟨k, named, fun _ => ⟨j, lookup_of_mem distinct mem, rearranged⟩⟩
    · obtain ⟨k, foreign, named⟩ := unknown m new
      exact ⟨k, named, fun known => absurd known foreign⟩
  · obtain ⟨⟨k, v⟩, mem, _, ⟨⟩, ⟨⟩, -⟩ := exists_of_forall₂ same (k, j) (mem_of_lookup found)
    exact ⟨v, perm.mem_iff.2 (List.mem_append_left _ mem)⟩
  · refine (perm.pairwise_iff Apart.symm).2 (List.pairwise_append.2 ⟨?_, ?_, ?_⟩)
    · have apart : (kept.map Prod.fst).Nodup := by
        rw [keys]
        exact distinct.map (Option.some_injective _)
      exact (List.pairwise_map.1 apart).imp fun other k ha hb => absurd (ha.trans hb.symm) other
    · exact List.pairwise_of_forall_mem_list fun a mem b _ k named _ => by
        obtain ⟨_, foreign, same⟩ := unknown a mem
        cases named.symm.trans same
        exact foreign
    · intro a _ b new k _ named
      obtain ⟨_, foreign, same⟩ := unknown b new
      cases named.symm.trans same
      exact foreign

/-- The table of a spelled object holds the members. -/
theorem Spells.tells (spells : Spells names field members whole) {k : String} (known : k ∈ names) :
    Tells field members (fun name => whole.lookup (some name)) k := by
  rw [Tells]
  cases found : members.lookup k with
  | none =>
    refine lookup_eq_none fun m mem named => ?_
    obtain ⟨n, named', origin⟩ := spells.origin m mem
    obtain rfl := Option.some.inj (named.symm.trans named')
    obtain ⟨j, found', -⟩ := origin known
    cases found.symm.trans found'
  | some j =>
    obtain ⟨v, mem⟩ := spells.told k j found
    obtain ⟨_, ⟨⟩, origin⟩ := spells.origin _ mem
    obtain ⟨i, found', rearranged⟩ := origin known
    obtain rfl := Option.some.inj (found.symm.trans found')
    refine ⟨v, lookup_eq_some mem fun m other named => ?_, rearranged⟩
    by_contra different
    exact spells.apart.forall other mem
      (fun same => different (congrArg Prod.snd same)) k named rfl known

/-- **The test of a spelled object passes.** -/
theorem Holds.test_eq_ok {f : Fields α} {x : α} (holds : f.Holds field depth members x)
    (spells : Spells f.names field members whole) :
    Fields.test f.checks depth [] whole = .ok () := by
  have known {k : String} : f.checks.lookup k = none ↔ k ∉ f.names := by
    refine ⟨fun none mem => ?_, fun absent => lookup_eq_none fun c mem same => ?_⟩
    · obtain ⟨c, check, rfl⟩ := List.mem_map.1 mem
      exact bne_iff_ne.1 (List.lookup_eq_none_iff.1 none c check) rfl
    · exact absent (List.mem_map.2 ⟨c, mem, same⟩)
  refine Fields.test_eq_ok [] (fun m mem => ?_)
    (spells.apart.imp fun h k ha hb => known.2 (h k ha hb))
  obtain ⟨k, named, origin⟩ := spells.origin m mem
  refine ⟨k, named, fun check found => ⟨List.not_mem_nil, ?_⟩⟩
  have mem := mem_of_lookup found
  obtain ⟨j, told, rearranged⟩ := origin (List.mem_map.2 ⟨_, mem, rfl⟩)
  exact holds.test _ mem j told _ rearranged

end Fields

variable {α : Type} {depth : Nat}

/-- **A record is read from its members**, in any order and between any others. -/
theorem Reads.record {f : Fields α} {nested : List (String × Shape)}
    {members : List (String × Json)} {x : α} (distinct : f.names.Nodup)
    (ordered : (members.map Prod.fst).Sublist f.names)
    (holds : f.Holds (Fields.nestedShape nested) (depth + 1) members x) :
    Reads f.decoder (f.shape nested) depth (.object members) x := by
  have apart := distinct.sublist ordered
  refine ⟨.object fun m mem => ?_, fun v same => ?_⟩
  · exact holds.integral m.1 (ordered.subset (List.mem_map_of_mem mem)) m.2
      (lookup_of_mem apart mem)
  · obtain ⟨_, _, whole, rfl, -⟩ := id same
    have spells := Fields.spells_of_rearranged apart same
    rw [Fields.decoder, holds.test_eq_ok spells]
    exact holds.read _ fun k known => spells.tells known

end Json

end DeployChecks
