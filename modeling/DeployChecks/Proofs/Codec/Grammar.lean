import DeployChecks.Json.Decode
import DeployChecks.Proofs.Codec.Digits

/-!
# Proofs/Codec/Grammar — a compact text is read as what it was written from

A character of a text is written as one piece, and pieces are joined to the same characters.  A
number that is written is read up to the comma or bracket that follows it.  By induction over the
value every value is read back, with as many steps as its text has characters.  Main definitions:
`Json.Integral`, a value without doubles; main statement: `Json.parse_compact`.
-/

namespace DeployChecks

namespace Json

/-! ## Strings -/

/-- A short escape is read as its character. -/
theorem readPieces?_short {c e : Char} (cs : List Char) (other : e ≠ 'u')
    (escape : shortEscape? e = some c) :
    readPieces? ('\\' :: e :: cs) = (readPieces? cs).map fun r => (.char c :: r.1, r.2) := by
  rw [readPieces?.eq_4 e cs fun _ _ _ _ _ same _ => other same, escape]
  cases readPieces? cs <;> rfl

/-- A unit is read as its number. -/
theorem readPieces?_unit {w x y z : Char} {n : Nat} (cs : List Char)
    (digits : unitOfDigits? w x y z = some n) :
    readPieces? ('\\' :: 'u' :: w :: x :: y :: z :: cs)
      = (readPieces? cs).map fun r => (.unit n :: r.1, r.2) := by
  rw [readPieces?.eq_3, digits]
  cases readPieces? cs <;> rfl

/-- The piece that a character is written as. -/
def Piece.of (c : Char) : Piece :=
  if c.toNat < 32 ∧ c.toNat ∉ [8, 9, 10, 12, 13] then .unit c.toNat else .char c

/-- **A character is written as one piece.** -/
theorem readPieces?_escapeChar (c : Char) (cs : List Char) :
    readPieces? (escapeChar c ++ cs)
      = (readPieces? cs).map fun r => (Piece.of c :: r.1, r.2) := by
  have named {n : Nat} (same : c.toNat = n) : c = Char.ofNat n := by
    rw [← same, Char.ofNat_toNat]
  unfold escapeChar
  split
  · next quote =>
    subst quote
    exact readPieces?_short cs (by decide) rfl
  split
  · next backslash =>
    subst backslash
    exact readPieces?_short cs (by decide) rfl
  split
  · next backspace =>
    obtain rfl := named backspace
    exact readPieces?_short cs (by decide) rfl
  split
  · next tab =>
    obtain rfl := named tab
    exact readPieces?_short cs (by decide) rfl
  split
  · next newline =>
    obtain rfl := named newline
    exact readPieces?_short cs (by decide) rfl
  split
  · next feed =>
    obtain rfl := named feed
    exact readPieces?_short cs (by decide) rfl
  split
  · next carriage =>
    obtain rfl := named carriage
    exact readPieces?_short cs (by decide) rfl
  split
  · next control =>
    have digits : ∀ n < 32, unitOfDigits? '0' '0' (Nat.digitChar (n / 16)) (Nat.digitChar (n % 16))
        = some n := by decide
    have piece : Piece.of c = .unit c.toNat := if_pos ⟨control, by simp_all⟩
    rw [piece]
    exact readPieces?_unit cs (digits _ control)
  · next quote backslash _ _ _ _ _ control =>
    rw [Piece.of, if_neg fun unit => control unit.1, List.singleton_append,
      readPieces?.eq_5 c cs quote (fun _ _ _ _ _ same _ => backslash same)
        fun _ _ same _ => backslash same, if_neg (by simp [control, backslash])]

/-- The pieces that characters are written as are joined to those characters. -/
theorem joinPieces?_of (cs : List Char) : joinPieces? (cs.map Piece.of) = some cs := by
  induction cs with
  | nil => rfl
  | cons c cs ih =>
    rw [List.map_cons, Piece.of]
    split
    · next unit =>
      rw [joinPieces?.eq_def]
      dsimp only
      rw [if_neg (by simp; omega), if_neg (by simp; omega), ih, Char.ofNat_toNat]
      rfl
    · rw [joinPieces?, ih]
      rfl

/-- **A text that is written is read back.** -/
theorem readString?_write (s : String) (rest : List Char) :
    readString? (s.toList.flatMap escapeChar ++ '"' :: rest) = some (some s, rest) := by
  have pieces (cs : List Char) : readPieces? (cs.flatMap escapeChar ++ '"' :: rest)
      = some (cs.map Piece.of, rest) := by
    induction cs with
    | nil => exact readPieces?.eq_2 rest
    | cons c cs ih =>
      rw [List.flatMap_cons, List.append_assoc, readPieces?_escapeChar, ih]
      rfl
  rw [readString?, pieces, Option.map_some, joinPieces?_of, Option.map_some, String.ofList_toList]

/-! ## Numbers -/

/-- **A value has ended**: nothing follows, or a comma or the bracket of what it stands in. -/
def Ends (rest : List Char) : Prop := ∀ c ∈ rest.head?, c = ',' ∨ c = ']' ∨ c = '\x7d'

theorem ends_nil : Ends [] := nofun

theorem ends_cons {c : Char} (ends : c = ',' ∨ c = ']' ∨ c = '\x7d') (rest : List Char) :
    Ends (c :: rest) := by
  intro d mem
  obtain rfl := Option.mem_some_iff.1 mem
  exact ends

variable {rest : List Char}

/-- A run of digits is read up to the end of the value. -/
theorem readDigits?_append {ds : List Char} (digits : ∀ c ∈ ds, c.isDigit = true)
    (nonempty : ds ≠ []) (ends : Ends rest) : readDigits? (ds ++ rest) = some (ds, rest) := by
  have stop : rest.takeWhile Char.isDigit = [] ∧ rest.dropWhile Char.isDigit = rest := by
    cases rest with
    | nil => exact ⟨rfl, rfl⟩
    | cons c rest =>
      have other : c.isDigit = false := by
        obtain rfl | rfl | rfl := ends c rfl <;> rfl
      rw [List.takeWhile_cons, List.dropWhile_cons, other]
      exact ⟨rfl, rfl⟩
  rw [readDigits?, List.span_eq_takeWhile_dropWhile, List.takeWhile_append_of_pos digits,
    List.dropWhile_append_of_pos digits, stop.1, stop.2, List.append_nil]
  exact if_neg (by simpa using nonempty)

/-- The digits of a number are read up to the end of the value. -/
theorem readWhole?_toDigits (n : Nat) (ends : Ends rest) :
    readWhole? (Nat.toDigits 10 n ++ rest) = some (Nat.toDigits 10 n, rest) := by
  unfold readWhole?
  split
  · next cs after zero =>
    obtain rfl : n = 0 := by
      obtain ⟨c, cs, split, -⟩ := exists_cons_toDigits n
      rw [split, List.cons_append] at zero
      exact eq_zero_of_toDigits (split.trans (by rw [(List.cons.inj zero).1]))
    obtain rfl : rest = after := (List.cons.inj zero).2
    split
    · next c after =>
      have other : c.isDigit = false := by
        obtain rfl | rfl | rfl := ends c rfl <;> rfl
      rw [other]
      rfl
    · rfl
  · exact readDigits?_append isDigit_toDigits Nat.toDigits_ne_nil ends

theorem readMagnitude?_toDigits (negative : Bool) (n : Nat) (ends : Ends rest) :
    readMagnitude? negative (Nat.toDigits 10 n ++ rest)
      = some (⟨negative, Nat.toDigits 10 n, [], none⟩, rest) := by
  have fraction : readFraction? rest = some ([], rest) := by
    unfold readFraction?
    split
    · next point => obtain h | h | h := ends _ rfl <;> cases h
    · rfl
  have power : readPower? rest = some (none, rest) := by
    unfold readPower?
    split
    · next c after => exact if_neg (by obtain rfl | rfl | rfl := ends c rfl <;> decide)
    · rfl
  rw [readMagnitude?, readWhole?_toDigits n ends, Option.bind_some]
  dsimp only
  rw [fraction, Option.bind_some]
  dsimp only
  rw [power]
  rfl

/-- **An integer that is written is read back**, as its digits. -/
theorem readSpelling?_writeInt (n : Int) (ends : Ends rest) :
    readSpelling? (writeInt n ++ rest)
      = some (⟨decide (n < 0), Nat.toDigits 10 n.natAbs, [], none⟩, rest) := by
  by_cases negative : n < 0
  · rw [writeInt, if_pos negative, decide_eq_true negative]
    exact readMagnitude?_toDigits true _ ends
  · rw [writeInt, if_neg negative, List.nil_append, decide_eq_false negative]
    unfold readSpelling?
    split
    · next minus =>
      obtain ⟨c, cs, split, digit⟩ := exists_cons_toDigits n.natAbs
      rw [split, List.cons_append] at minus
      rw [(List.cons.inj minus).1] at digit
      cases digit
    · exact readMagnitude?_toDigits false _ ends

/-- **The digits of an integer stand for it**, if it fits into sixty-four bits. -/
theorem number?_of_digits {n : Int} (low : -2 ^ 63 ≤ n) (high : n < 2 ^ 64) :
    Spelling.number? ⟨decide (n < 0), Nat.toDigits 10 n.natAbs, [], none⟩ = some (.int n) := by
  unfold Spelling.number?
  dsimp only
  rw [value_toDigits]
  by_cases negative : n < 0
  · rw [decide_eq_true negative, if_neg (by simp), if_pos]
    · congr
      omega
    · have size : UInt64.size = 2 ^ 64 := rfl
      simp only [List.isEmpty_nil, Option.isNone_none, Bool.and_true, Bool.true_and, ne_eq,
        decide_not, Bool.and_eq_true, Bool.not_eq_eq_eq_not, Bool.not_true, decide_eq_false_iff_not,
        decide_eq_true_eq]
      omega
  · rw [decide_eq_false negative, if_pos]
    · congr
      omega
    · have size : UInt64.size = 2 ^ 64 := rfl
      simp only [wordMax, List.isEmpty_nil, Option.isNone_none, Bool.and_true, Bool.not_false,
        Bool.true_and]
      exact decide_eq_true (by omega)

/-! ## Values -/

/-- **Every number in a value is an integer** that fits into sixty-four bits. -/
inductive Integral : Json → Prop
  /-- The null value. -/
  | null : Integral .null
  /-- A truth value. -/
  | bool (b : Bool) : Integral (.bool b)
  /-- An integer. -/
  | int {n : Int} (low : -2 ^ 63 ≤ n) (high : n < 2 ^ 64) : Integral (.int n)
  /-- A text. -/
  | string (s : String) : Integral (.string s)
  /-- A list of such values. -/
  | array {items : List Json} (each : ∀ v ∈ items, Integral v) : Integral (.array items)
  /-- Such values under names. -/
  | object {members : List (String × Json)} (each : ∀ m ∈ members, Integral m.2) :
    Integral (.object members)

theorem toRawItems_eq (items : List Json) : toRawItems items = items.map toRaw := by
  induction items with
  | nil => rfl
  | cons v items ih => rw [toRawItems, ih, List.map_cons]

theorem toRawMembers_eq (members : List (String × Json)) :
    toRawMembers members = members.map fun m => (some m.1, m.2.toRaw) := by
  induction members with
  | nil => rfl
  | cons m members ih => rw [toRawMembers, ih, List.map_cons]

theorem skipGap_cons {c : Char} (solid : isGap c = false) (cs : List Char) :
    skipGap (c :: cs) = c :: cs := by
  rw [skipGap, List.dropWhile_cons, solid]
  rfl

/-- A written integer starts with a sign or with a digit. -/
theorem writeInt_starts (n : Int) :
    ∃ c cs, writeInt n = c :: cs ∧ (c = '-' ∨ c.isDigit = true) := by
  rw [writeInt]
  split
  · exact ⟨_, _, rfl, .inl rfl⟩
  · obtain ⟨c, cs, split, digit⟩ := exists_cons_toDigits n.natAbs
    exact ⟨c, cs, split, .inr digit⟩

/-- **A written value is read back**, with as many steps as it has characters.  It starts neither
with a blank nor with a closing bracket. -/
structure ReadsBack (v : Json) : Prop where
  /-- How it starts. -/
  starts : ∃ c cs, v.write = c :: cs ∧ isGap c = false ∧ c ≠ ']'
  /-- What is read. -/
  read : ∀ fuel rest, Ends rest → v.write.length ≤ fuel →
    readValue? fuel (v.write ++ rest) = some (v.toRaw, rest)

theorem readItems?_write {items : List Json} (each : ∀ v ∈ items, v.ReadsBack)
    (nonempty : items ≠ []) : ∀ fuel rest, (writeItems items).length < fuel →
      readItems? fuel (writeItems items ++ ']' :: rest) = some (toRawItems items, rest) := by
  induction items with
  | nil => exact absurd rfl nonempty
  | cons v items ih =>
    obtain ⟨first, others⟩ := List.forall_mem_cons.1 each
    intro fuel rest enough
    obtain ⟨fuel, rfl⟩ := Nat.exists_eq_succ_of_ne_zero (Nat.ne_zero_of_lt enough)
    cases items with
    | nil =>
      rw [writeItems] at enough ⊢
      rw [readItems?,
        first.read fuel _ (ends_cons (.inr (.inl rfl)) rest) (Nat.lt_succ_iff.1 enough)]
      rfl
    | cons w items =>
      rw [writeItems, List.length_append, List.length_cons] at enough
      rw [writeItems, List.append_assoc, List.cons_append, readItems?,
        first.read fuel _ (ends_cons (.inl rfl) _) (by omega)]
      have more := ih others (List.cons_ne_nil _ _) fuel rest (by omega)
      simp only [skipGap_cons (c := ',') rfl, more]
      rfl

theorem readMembers?_write {members : List (String × Json)}
    (each : ∀ m ∈ members, m.2.ReadsBack) (nonempty : members ≠ []) :
    ∀ fuel rest, (writeMembers members).length < fuel →
      readMembers? fuel (writeMembers members ++ '\x7d' :: rest)
        = some (toRawMembers members, rest) := by
  induction members with
  | nil => exact absurd rfl nonempty
  | cons m members ih =>
    obtain ⟨k, v⟩ := m
    obtain ⟨(first : v.ReadsBack), others⟩ := List.forall_mem_cons.1 each
    intro fuel rest enough
    obtain ⟨fuel, rfl⟩ := Nat.exists_eq_succ_of_ne_zero (Nat.ne_zero_of_lt enough)
    cases members with
    | nil =>
      rw [writeMembers, List.length_append, List.length_cons] at enough
      have value := first.read fuel ('\x7d' :: rest) (ends_cons (.inr (.inr rfl)) rest) (by omega)
      simp only [writeMembers, writeString, List.cons_append, List.append_assoc, List.nil_append,
        readMembers?, skipGap_cons (c := '"') rfl, readString?_write, skipGap_cons (c := ':') rfl,
        value, skipGap_cons (c := '\x7d') rfl]
      rfl
    | cons m members =>
      rw [writeMembers, List.length_append, List.length_append, List.length_cons,
        List.length_cons] at enough
      have value := first.read fuel (',' :: (writeMembers (m :: members) ++ '\x7d' :: rest))
        (ends_cons (.inl rfl) _) (by omega)
      have more := ih others (List.cons_ne_nil _ _) fuel rest (by omega)
      simp only [writeMembers, writeString, List.cons_append, List.append_assoc, List.nil_append,
        readMembers?, skipGap_cons (c := '"') rfl, readString?_write, skipGap_cons (c := ':') rfl,
        value, skipGap_cons (c := ',') rfl, more]
      rfl

/-- A list that does not end at once is read item by item. -/
theorem readValue?_items {c : Char} {cs : List Char} (solid : isGap c = false) (other : c ≠ ']')
    (fuel : Nat) : readValue? (fuel + 1) ('[' :: c :: cs)
      = (readItems? fuel (c :: cs)).map fun r => (.array r.1, r.2) := by
  simp only [readValue?, skipGap_cons (c := '[') rfl, skipGap_cons solid]
  split
  · next h => exact absurd (List.cons.inj h).1 other
  · rfl

/-- An object that does not end at once is read member by member. -/
theorem readValue?_members (cs : List Char) (fuel : Nat) :
    readValue? (fuel + 1) ('\x7b' :: '"' :: cs)
      = (readMembers? fuel ('"' :: cs)).map fun r => (.object r.1, r.2) := by
  simp only [readValue?, skipGap_cons (c := '\x7b') rfl, skipGap_cons (c := '"') rfl]
  rfl

theorem writeItems_starts {items : List Json} (each : ∀ v ∈ items, v.ReadsBack)
    (nonempty : items ≠ []) :
    ∃ c cs, writeItems items = c :: cs ∧ isGap c = false ∧ c ≠ ']' := by
  match items, nonempty with
  | [v], _ => exact (each v List.mem_cons_self).starts
  | v :: w :: items, _ =>
    obtain ⟨c, cs, start, solid, other⟩ := (each v List.mem_cons_self).starts
    exact ⟨c, _, by rw [writeItems, start, List.cons_append], solid, other⟩

theorem writeMembers_starts {members : List (String × Json)} (nonempty : members ≠ []) :
    ∃ cs, writeMembers members = '"' :: cs := by
  match members, nonempty with
  | [(k, v)], _ => exact ⟨_, rfl⟩
  | (k, v) :: m :: members, _ => exact ⟨_, rfl⟩

/-- **Every written value is read back.** -/
theorem readsBack {v : Json} (integral : v.Integral) : v.ReadsBack := by
  induction integral with
  | null =>
    refine ⟨⟨_, _, rfl, rfl, by decide⟩, fun fuel rest _ enough => ?_⟩
    obtain ⟨fuel, rfl⟩ := Nat.exists_eq_succ_of_ne_zero (Nat.ne_zero_of_lt enough)
    rfl
  | bool b =>
    cases b <;> refine ⟨⟨_, _, rfl, rfl, by decide⟩, fun fuel rest _ enough => ?_⟩ <;>
      obtain ⟨fuel, rfl⟩ := Nat.exists_eq_succ_of_ne_zero (Nat.ne_zero_of_lt enough) <;> rfl
  | @int n low high =>
    obtain ⟨c, cs, start, sign⟩ := writeInt_starts n
    have solid : isGap c = false := by
      simp only [isGap, Bool.or_eq_false_iff, decide_eq_false_iff_not]
      refine ⟨⟨⟨?_, ?_⟩, ?_⟩, ?_⟩ <;> · rintro rfl; simp at sign
    have other {d : Char} (minus : d ≠ '-') (digit : d.isDigit = false) : c ≠ d := by
      rintro rfl
      simp [minus, digit] at sign
    refine ⟨⟨c, cs, start, solid, other (by decide) rfl⟩, fun fuel rest ends enough => ?_⟩
    have spelling := readSpelling?_writeInt n ends
    obtain ⟨fuel, rfl⟩ := Nat.exists_eq_succ_of_ne_zero (n := fuel) (by
      rw [show (Json.int n).write = writeInt n from rfl, start] at enough
      exact Nat.ne_zero_of_lt enough)
    rw [start, List.cons_append] at spelling
    rw [show (Json.int n).write = writeInt n from rfl, start, List.cons_append, readValue?,
      skipGap_cons solid]
    split
    · next h => cases h
    all_goals first
      | next h => exact absurd (List.cons.inj h).1 (other (by decide) rfl)
      | rw [spelling, Option.map_some, number?_of_digits low high]; rfl
  | string s =>
    refine ⟨⟨_, _, rfl, rfl, by decide⟩, fun fuel rest _ enough => ?_⟩
    obtain ⟨fuel, rfl⟩ := Nat.exists_eq_succ_of_ne_zero (Nat.ne_zero_of_lt enough)
    simp only [write, writeString, List.cons_append, List.append_assoc, List.nil_append,
      readValue?, skipGap_cons (c := '"') rfl, readString?_write]
    rfl
  | @array items _ each =>
    refine ⟨⟨_, _, rfl, rfl, by decide⟩, fun fuel rest _ enough => ?_⟩
    rw [write, List.length_append, List.length_cons] at enough
    obtain ⟨fuel, rfl⟩ := Nat.exists_eq_succ_of_ne_zero (Nat.ne_zero_of_lt enough)
    rw [write, List.cons_append, List.cons_append, List.append_assoc, List.singleton_append]
    by_cases empty : items = []
    · subst empty
      rfl
    obtain ⟨c, cs, start, solid, other⟩ := writeItems_starts each empty
    have read := readItems?_write each empty fuel rest (by simp at enough; omega)
    rw [start, List.cons_append] at read ⊢
    rw [readValue?_items solid other, read]
    rfl
  | @object members _ each =>
    refine ⟨⟨_, _, rfl, rfl, by decide⟩, fun fuel rest _ enough => ?_⟩
    rw [write, List.length_append, List.length_cons] at enough
    obtain ⟨fuel, rfl⟩ := Nat.exists_eq_succ_of_ne_zero (Nat.ne_zero_of_lt enough)
    rw [write, List.cons_append, List.cons_append, List.append_assoc, List.singleton_append]
    by_cases empty : members = []
    · subst empty
      rfl
    obtain ⟨cs, start⟩ := writeMembers_starts empty
    have read := readMembers?_write each empty fuel rest (by simp at enough; omega)
    rw [start, List.cons_append] at read ⊢
    rw [readValue?_members, read]
    rfl

/-- **A compact text is read as what it was written from.** -/
theorem parse_compact {v : Json} (integral : v.Integral) : Raw.parse? v.compact = some v.toRaw := by
  have read := (readsBack integral).read (2 * v.write.length + 2) [] ends_nil (by omega)
  rw [List.append_nil] at read
  rw [Raw.parse?, compact, String.toList_ofList, read]
  rfl

end Json

end DeployChecks
