import DeployChecks.Proofs.Codec.Digits
import DeployChecks.Timestamp.Reader

/-!
# Proofs/Codec/Timestamps — a written time is read as itself

The parts of a written time are numbers of a known width with a sign between them, so each is read
up to where it ends: a number of a fixed width by its width, a year by the sign that follows, a
fraction by the letter of the zone.  That letter leaves the fields as they are.  Main statement:
`Timestamp.read?_write`, for every date and every time of day.
-/

namespace DeployChecks

namespace Timestamp

open Text

/-! ## Numbers and signs -/

/-- No blank lies among the digits. -/
theorem isBlank_of_isDigit {c : Char} (digit : c.isDigit = true) : isBlank c = false := by
  have low : 48 ≤ c.toNat := (Char.isDigit_iff_toNat.1 digit).1
  have high : c.toNat ≤ 57 := (Char.isDigit_iff_toNat.1 digit).2
  have apart : ∀ r ∈ blankRanges, r.2 < 48 ∨ 57 < r.1 := by decide
  rw [Bool.eq_false_iff]
  intro blank
  obtain ⟨r, mem, above, below⟩ := inRanges_iff.1 blank
  have := apart r mem
  omega

theorem trimLeft_cons {c : Char} (solid : isBlank c = false) (cs : List Char) :
    trimLeft (c :: cs) = c :: cs := by
  rw [trimLeft, List.dropWhile_cons, solid]
  rfl

theorem readMark?_cons {mark : Char} (solid : isBlank mark = false) (cs : List Char) :
    readMark? mark (mark :: cs) = some cs := by
  rw [readMark?, trimLeft_cons solid]
  exact if_pos rfl

/-- Digits are read up to the width, or up to what follows them. -/
theorem spanDigits_append {ds rest : List Char} (digits : ∀ c ∈ ds, c.isDigit = true) :
    ∀ {width : Nat}, ds.length ≤ width →
      (ds.length = width ∨ ∀ c ∈ rest.head?, c.isDigit = false) →
      spanDigits width (ds ++ rest) = (ds, rest) := by
  induction ds with
  | nil =>
    intro width _ stop
    cases width with
    | zero => rfl
    | succ width =>
      cases rest with
      | nil => rfl
      | cons c rest =>
        have other : c.isDigit = false := stop.elim nofun fun stop => stop c rfl
        rw [List.nil_append, spanDigits, other]
        rfl
  | cons d ds ih =>
    intro width fits stop
    obtain ⟨width, rfl⟩ := Nat.exists_eq_succ_of_ne_zero (Nat.ne_zero_of_lt fits)
    obtain ⟨digit, digits⟩ := List.forall_mem_cons.1 digits
    have more := ih digits (Nat.le_of_succ_le_succ fits) (stop.imp_left Nat.succ.inj)
    rw [List.cons_append, spanDigits, digit, more]
    rfl

/-- Digits end at a character that is none. -/
theorem stop_of_head {c : Char} (other : c.isDigit = false) (cs : List Char) :
    ∀ d ∈ (c :: cs).head?, d.isDigit = false := by
  intro d mem
  obtain rfl := Option.mem_some_iff.1 mem
  exact other

variable {width n : Nat} {rest : List Char}

/-- A number that is written with zeros in front is read, up to the width or to what follows. -/
theorem readNumber?_padded {most : Nat} (fits : (padded width n).length ≤ most)
    (stop : (padded width n).length = most ∨ ∀ c ∈ rest.head?, c.isDigit = false) :
    readNumber? most (padded width n ++ rest) = some (n, rest) := by
  rw [readNumber?, spanDigits_append isDigit_padded fits stop]
  dsimp only
  rw [if_neg (by simpa using padded_ne_nil width n), value_padded]

/-- A field of two digits is read. -/
theorem readField?_padded (fits : n < 100) :
    readField? (padded 2 n ++ rest) = some (n, rest) := by
  have length : (padded 2 n).length = 2 := length_padded (by decide) fits
  obtain ⟨c, cs, split, digit⟩ := exists_cons_padded 2 n
  have read : readNumber? 2 (padded 2 n ++ rest) = some (n, rest) :=
    readNumber?_padded length.le (.inl length)
  rw [split, List.cons_append] at read ⊢
  rw [readField?, trimLeft_cons (isBlank_of_isDigit digit), read]

/-! ## The year -/

theorem readYear?_minus (cs : List Char) : readYear? ('-' :: cs)
    = (readNumber? cs.length cs).map fun r => (-(r.1 : Int), r.2) := rfl

theorem readYear?_plus (cs : List Char) : readYear? ('+' :: cs)
    = (readNumber? cs.length cs).map fun r => ((r.1 : Int), r.2) := rfl

/-- A year is read up to the sign that follows it. -/
theorem readYear?_writeYear (year : Int) :
    readYear? (writeYear year ++ '-' :: rest) = some (year, '-' :: rest) := by
  have signed : readNumber? (padded 4 year.natAbs ++ '-' :: rest).length
      (padded 4 year.natAbs ++ '-' :: rest) = some (year.natAbs, '-' :: rest) :=
    readNumber?_padded (by simp) (.inr (stop_of_head rfl rest))
  rw [writeYear]
  split
  · next short =>
    obtain ⟨low, high⟩ : 0 ≤ year ∧ year ≤ 9999 := by simpa using short
    have length : (padded 4 year.natAbs).length = 4 := length_padded (by decide) (by omega)
    obtain ⟨c, cs, split, digit⟩ := exists_cons_padded 4 year.natAbs
    have read : readNumber? 4 (padded 4 year.natAbs ++ '-' :: rest)
        = some (year.natAbs, '-' :: rest) :=
      readNumber?_padded length.le (.inl length)
    rw [split, List.cons_append] at read ⊢
    rw [readYear?, trimLeft_cons (isBlank_of_isDigit digit)]
    split
    · next minus => rw [(List.cons.inj minus).1] at digit; cases digit
    · next plus => rw [(List.cons.inj plus).1] at digit; cases digit
    · rw [read, Option.map_some, Int.natAbs_of_nonneg low]
  · next long =>
    split
    · next negative =>
      rw [List.cons_append, readYear?_minus, signed, Option.map_some,
        Int.ofNat_natAbs_of_nonpos negative.le, Int.neg_neg]
    · next positive =>
      rw [List.cons_append, readYear?_plus, signed, Option.map_some,
        Int.natAbs_of_nonneg (Int.not_lt.1 positive)]

/-! ## The fraction of a second -/

/-- Digits after the point are scaled by their number. -/
theorem readFraction?_padded {most n : Nat} (positive : 0 < most) (short : most ≤ 9)
    (fits : n < 10 ^ most) (other : ∀ c ∈ rest.head?, c.isDigit = false) :
    readFraction? ('.' :: padded most n ++ rest) = some (n * 10 ^ (9 - most), rest) := by
  have length := length_padded positive fits
  have after : rest.dropWhile Char.isDigit = rest := by
    cases rest with
    | nil => rfl
    | cons c rest => rw [List.dropWhile_cons, other c rfl]; rfl
  rw [List.cons_append, readFraction?,
    spanDigits_append isDigit_padded (length.trans_le short) (.inr other)]
  dsimp only
  rw [if_neg (by simpa using padded_ne_nil most n), value_padded, length, after]
  rfl

/-- **A fraction is read as its nanoseconds**, with as many digits as it takes. -/
theorem readFraction?_writeFraction {nano : Nat} (fits : nano < 1000000000) :
    readFraction? (writeFraction nano ++ ['Z']) = some (nano, ['Z']) := by
  have other : ∀ c ∈ ['Z'].head?, c.isDigit = false := stop_of_head rfl []
  rw [writeFraction]
  split
  · next zero =>
    subst zero
    rfl
  split
  · next millis =>
    rw [readFraction?_padded (by decide) (by decide) (by omega) other]
    exact congrArg (fun n => some (n, ['Z'])) (by omega)
  split
  · next micros =>
    rw [readFraction?_padded (by decide) (by decide) (by omega) other]
    exact congrArg (fun n => some (n, ['Z'])) (by omega)
  · rw [readFraction?_padded (by decide) (by decide) (by omega) other]
    exact congrArg (fun n => some (n, ['Z'])) (by omega)

/-! ## Universal time -/

/-- A local time in the zone of universal time keeps its fields. -/
theorem ofLocal?_zero (t : Timestamp) :
    ofLocal? t.year t.month t.day t.hour t.minute t.second t.nano 0 = some t := by
  obtain ⟨⟨⟨hour, minute⟩, -⟩, -⟩ :
      ((t.hour ≤ 23 ∧ t.minute ≤ 59) ∧ t.second ≤ 60) ∧ t.nano < 1000000000 := by
    simpa [Calendar.isTime] using t.isTime
  have total : (((t.hour : Int) * 60 + t.minute - 0) % (24 * 60)).toNat
      = t.hour * 60 + t.minute := by omega
  rw [ofLocal?, t.isDate, t.isTime, Bool.and_self, if_pos rfl]
  dsimp only
  rw [total, if_neg (by omega), if_neg (by omega), ofFields?]
  dsimp only
  rw [show (t.hour * 60 + t.minute) / 60 = t.hour by omega,
    show (t.hour * 60 + t.minute) % 60 = t.minute by omega, dif_pos t.isDate, dif_pos t.isTime]

/-- No month has more than thirty-one days. -/
theorem daysIn_le (year : Int) (month : Nat) : Calendar.daysIn year month ≤ 31 := by
  unfold Calendar.daysIn
  split
  · split <;> decide
  · split <;> decide

/-- **A written time is read as itself.** -/
theorem read?_write (t : Timestamp) : read? t.write = some t := by
  obtain ⟨⟨⟨hour, minute⟩, second⟩, nano⟩ :
      ((t.hour ≤ 23 ∧ t.minute ≤ 59) ∧ t.second ≤ 60) ∧ t.nano < 1000000000 := by
    simpa [Calendar.isTime] using t.isTime
  obtain ⟨⟨⟨-, month⟩, -⟩, day⟩ :
      ((1 ≤ t.month ∧ t.month ≤ 12) ∧ 1 ≤ t.day) ∧ t.day ≤ Calendar.daysIn t.year t.month := by
    have date := t.isDate
    simp only [Calendar.isDate, Bool.and_eq_true, decide_eq_true_eq] at date
    exact ⟨⟨⟨date.1.1.1.2, date.1.1.2⟩, date.1.2⟩, date.2⟩
  have days := daysIn_le t.year t.month
  rw [read?, write, String.toList_ofList, writeLocal]
  simp only [List.append_assoc, List.cons_append]
  refine Option.bind_eq_some_iff.2 ⟨_, readYear?_writeYear t.year, ?_⟩
  refine Option.bind_eq_some_iff.2 ⟨_, readMark?_cons (by decide) _, ?_⟩
  refine Option.bind_eq_some_iff.2 ⟨_, readField?_padded (by omega), ?_⟩
  refine Option.bind_eq_some_iff.2 ⟨_, readMark?_cons (by decide) _, ?_⟩
  refine Option.bind_eq_some_iff.2 ⟨_, readField?_padded (by omega), ?_⟩
  refine Option.bind_eq_some_iff.2 ⟨_, rfl, ?_⟩
  refine Option.bind_eq_some_iff.2 ⟨_, readField?_padded (by omega), ?_⟩
  refine Option.bind_eq_some_iff.2 ⟨_, readMark?_cons (by decide) _, ?_⟩
  refine Option.bind_eq_some_iff.2 ⟨_, readField?_padded (by omega), ?_⟩
  refine Option.bind_eq_some_iff.2 ⟨_, readMark?_cons (by decide) _, ?_⟩
  refine Option.bind_eq_some_iff.2 ⟨_, readField?_padded (by omega), ?_⟩
  refine Option.bind_eq_some_iff.2 ⟨_, readFraction?_writeFraction nano, ?_⟩
  exact Option.bind_eq_some_iff.2 ⟨_, rfl, ofLocal?_zero t⟩

end Timestamp

end DeployChecks
