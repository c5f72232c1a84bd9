import DeployChecks.Proofs.Lists
import DeployChecks.Trace.Context
import Mathlib.Data.Nat.Basic

/-!
# Proofs/Trace/Headers — what is written into headers is read back

The header of a span has four parts with dashes between them, and no part holds a dash, a blank or
a capital; so the parts are found again, and the numbers in them have the values they were written
from.  In the same way the vendor entries are cut at commas and equals signs, of which keys and
values hold none.  Main statements: `readTraceparent?_traceparent`, `TraceState.read?_header`, and
`find?_inject`, which says what is written under which name.
-/

namespace DeployChecks

/-! ## Hexadecimal numbers -/

namespace Text

/-- **A digit that is written**, a small letter or a decimal one. -/
def IsSmallDigit (c : Char) : Prop := ∃ d < 16, Nat.digitChar d = c

/-- Each digit has its own value. -/
theorem hexDigit?_digitChar : ∀ d < 16, hexDigit? (Nat.digitChar d) = some d := by decide

theorem readHexAfter?_append (n : Nat) (cs cs' : List Char) :
    readHexAfter? n (cs ++ cs') = (readHexAfter? n cs).bind (readHexAfter? · cs') := by
  induction cs generalizing n with
  | nil => rfl
  | cons c cs ih =>
    rw [List.cons_append, readHexAfter?, readHexAfter?]
    cases hexDigit? c with
    | none => rfl
    | some d => exact ih _

theorem readHexAfter?_digit (n : Nat) {d : Nat} (small : d < 16) :
    readHexAfter? n [Nat.digitChar d] = some (16 * n + d) := by
  rw [readHexAfter?, hexDigit?_digitChar d small]
  rfl

/-- A written number, digit by digit: the last one stands after the others. -/
theorem readHexAfter?_toDigits (n : Nat) :
    readHexAfter? 0 (Nat.toDigits 16 n) = some n ∧ ∀ c ∈ Nat.toDigits 16 n, IsSmallDigit c := by
  induction n using Nat.strongRecOn with
  | ind n ih =>
  by_cases small : n < 16
  · rw [Nat.toDigits_of_lt_base small, List.forall_mem_singleton]
    exact ⟨(readHexAfter?_digit 0 small).trans (by rw [Nat.mul_zero, Nat.zero_add]),
      n, small, rfl⟩
  · -- the last digit is split off, and the others are those of a smaller number
    obtain ⟨front, digits⟩ := ih (n / 16) (by omega)
    have last : n % 16 < 16 := Nat.mod_lt n (by omega)
    rw [Nat.toDigits_of_base_le (by omega) (Nat.not_lt.1 small), readHexAfter?_append, front,
      List.forall_mem_append, List.forall_mem_singleton]
    exact ⟨(readHexAfter?_digit _ last).trans (by rw [Nat.div_add_mod]), digits, _, last, rfl⟩

theorem isSmallDigit_hexOfWidth {width n : Nat} :
    ∀ c ∈ hexOfWidth width n, IsSmallDigit c := by
  intro c inside
  obtain zero | digit := List.mem_append.1 inside
  · rw [List.eq_of_mem_replicate zero]
    exact ⟨0, by decide, rfl⟩
  · exact (readHexAfter?_toDigits n).2 c digit

/-- **A number is read back**, zeros in front or not. -/
theorem readHexAfter?_hexOfWidth (width n : Nat) :
    readHexAfter? 0 (hexOfWidth width n) = some n := by
  have zeros : ∀ k, readHexAfter? 0 (List.replicate k '0') = some 0 := by
    intro k
    induction k with
    | zero => rfl
    | succ k ih => exact ih
  rw [hexOfWidth, readHexAfter?_append, zeros, Option.bind_some, (readHexAfter?_toDigits n).1]

/-- It has a digit, and no sign in front. -/
theorem readHex?_hexOfWidth (width n : Nat) : readHex? (hexOfWidth width n) = some n := by
  have read := readHexAfter?_hexOfWidth width n
  have digits : ∀ c ∈ hexOfWidth width n, IsSmallDigit c := isSmallDigit_hexOfWidth
  have no_sign : ∀ d < 16, Nat.digitChar d ≠ '+' := by decide
  have some_digit : hexOfWidth width n ≠ [] :=
    List.append_ne_nil_of_right_ne_nil _ Nat.toDigits_ne_nil
  obtain ⟨c, cs, split⟩ := List.exists_cons_of_ne_nil some_digit
  rw [split] at read digits ⊢
  have unsigned : c ≠ '+' := by
    obtain ⟨d, small, rfl⟩ := digits c List.mem_cons_self
    exact no_sign d small
  rw [← read]
  exact readHex?.eq_4 _ nofun (fun same => unsigned (List.cons.inj same).1)
    fun _ same => unsigned (List.cons.inj same).1

/-- A text without blanks is not trimmed. -/
theorem trim_of_solid {cs : List Char} (solid : ∀ c ∈ cs, isBlank c = false) : trim cs = cs := by
  have kept : ∀ l : List Char, (∀ c ∈ l, isBlank c = false) → l.dropWhile isBlank = l := by
    intro l solid
    cases l with
    | nil => rfl
    | cons c l => rw [List.dropWhile_cons, solid c List.mem_cons_self, if_neg Bool.false_ne_true]
  rw [trim, trimLeft, kept cs solid, trimRight,
    kept _ fun c inside => solid c (List.mem_reverse.1 inside), List.reverse_reverse]

end Text

/-! ## The header of a span -/

namespace Trace

namespace Context

open Text

/-- What a header of a span is made of. -/
def parts (c : SpanContext) : List (List Char) :=
  [['0', '0'], hexOfWidth 32 c.traceId.toNat, hexOfWidth 16 c.spanId.toNat,
    ['0', if c.sampled then '1' else '0']]

theorem toList_traceparent (c : SpanContext) :
    (traceparent c).toList = ['-'].intercalate (parts c) := by
  cases sampled : c.sampled <;>
    simp [traceparent, traceIdText, spanIdText, parts, sampled, List.intercalate, toString]

/-- **Each part is made of digits.** -/
theorem isSmallDigit_parts {c : SpanContext} : ∀ part ∈ parts c, ∀ x ∈ part, IsSmallDigit x := by
  have zero : IsSmallDigit '0' := ⟨0, by decide, rfl⟩
  have one : IsSmallDigit '1' := ⟨1, by decide, rfl⟩
  have behind_zero : ∀ x, IsSmallDigit x → ∀ y ∈ ['0', x], IsSmallDigit y := by
    intro x digit y mem
    obtain rfl | rfl : y = '0' ∨ y = x := by simpa using mem
    · exact zero
    · exact digit
  intro part mem
  simp only [parts, List.mem_cons, List.not_mem_nil, or_false] at mem
  obtain rfl | rfl | rfl | rfl := mem
  · exact behind_zero _ zero
  · exact isSmallDigit_hexOfWidth
  · exact isSmallDigit_hexOfWidth
  · refine behind_zero _ ?_
    split
    · exact one
    · exact zero

theorem pieces_traceparent (c : SpanContext) :
    TraceState.pieces '-' (trim (traceparent c).toList) = parts c := by
  have no_blank : ∀ d < 16, isBlank (Nat.digitChar d) = false := by decide
  have no_dash : ∀ d < 16, Nat.digitChar d ≠ '-' := by decide
  have solid : ∀ x ∈ (traceparent c).toList, isBlank x = false := by
    rw [toList_traceparent]
    refine forall_mem_intercalate (by decide) fun part mem x inside => ?_
    obtain ⟨d, small, rfl⟩ := isSmallDigit_parts part mem x inside
    exact no_blank d small
  have apart : ∀ part ∈ parts c, '-' ∉ part := by
    intro part mem dash
    obtain ⟨d, small, same⟩ := isSmallDigit_parts part mem '-' dash
    exact no_dash d small same
  rw [trim_of_solid solid, toList_traceparent, TraceState.pieces,
    List.splitOn_intercalate _ apart nofun]
  exact if_neg nofun

theorem readBits?_hexOfWidth {bits : Nat} (width : Nat) (b : BitVec bits) :
    readBits? bits (hexOfWidth width b.toNat) = some b := by
  have fits : b.toNat < twoTo bits := b.isLt
  rw [readBits?, readHex?_hexOfWidth, Option.bind_some, if_pos fits, BitVec.ofNat_toNat,
    BitVec.setWidth_eq]

theorem readId?_hexOfWidth {bits : Nat} (width : Nat) (b : BitVec bits) :
    readId? bits (hexOfWidth width b.toNat) = some b := by
  have no_capital : ∀ d < 16, (Nat.digitChar d).isUpper = false := by decide
  have plain : (hexOfWidth width b.toNat).any Char.isUpper = false := by
    rw [List.any_eq_false]
    intro x mem
    obtain ⟨d, small, rfl⟩ := isSmallDigit_hexOfWidth x mem
    exact Bool.eq_false_iff.1 (no_capital d small)
  rw [readId?, plain, if_neg Bool.false_ne_true, readBits?_hexOfWidth]

/-- **The header of a span is read back**: its trace, its own identity and whether it is recorded.
The vendor entries come from another header. -/
theorem readTraceparent?_traceparent {c : SpanContext} (valid : c.isValid = true)
    (state : TraceState) :
    readTraceparent? (traceparent c) state
      = some ⟨c.traceId, c.spanId, c.sampled, true, state⟩ := by
  have version : readBits? 8 ['0', '0'] = some 0 := by decide
  have flags : ∀ bit : Bool,
      readBits? 8 ['0', if bit then '1' else '0'] = some (if bit then 1 else 0) := by decide
  rw [readTraceparent?, pieces_traceparent, parts]
  simp only [version, flags, readId?_hexOfWidth]
  have bit : ((if c.sampled then 1 else 0 : BitVec 8).toNat % 2 == 1) = c.sampled := by
    cases c.sampled <;> rfl
  have known : (if c.sampled then 1 else 0 : BitVec 8).toNat ≤ 2 := by
    cases c.sampled <;> decide
  rw [bit, decide_eq_true known]
  exact if_pos valid

example : traceparent ⟨0x4bf92f3577b34da6a3ce929d0e0e4736, 0xf067aa0ba902b7, true, false, .empty⟩
    = "00-4bf92f3577b34da6a3ce929d0e0e4736-00f067aa0ba902b7-01" := by decide +kernel

end Context

end Trace

/-! ## The header of the vendor entries -/

namespace Trace.TraceState

/-- **The entries can be read**: their keys and values are such as a header may hold. -/
def IsReadable (s : TraceState) : Prop :=
  ∀ e ∈ s.members, isKey e.1.toList = true ∧ isValue e.2.toList = true

/-- One entry as it is written. -/
def written (e : String × String) : List Char := e.1.toList ++ '=' :: e.2.toList

theorem toList_header (s : TraceState) :
    s.header.toList = [','].intercalate (s.members.map written) := by
  rw [header, String.toList_intercalate, List.map_map]
  refine congrArg ([','].intercalate ·) (List.map_congr_left fun e _ => ?_)
  simp [written]

variable {e : String × String}

/-- No character of a key or of a value separates entries, or a key from its value. -/
theorem ne_of_isKey {cs : List Char} (key : isKey cs = true) : ∀ c ∈ cs, c ≠ ',' ∧ c ≠ '=' := by
  have comma : isKeyChar ',' = false := by decide
  have equals : isKeyChar '=' = false := by decide
  have chars : cs.all isKeyChar = true := by
    simp only [isKey, Bool.and_eq_true] at key
    exact key.1.1.2
  intro c mem
  have allowed := List.all_eq_true.1 chars c mem
  constructor
  · rintro rfl
    exact Bool.false_ne_true (comma.symm.trans allowed)
  · rintro rfl
    exact Bool.false_ne_true (equals.symm.trans allowed)

theorem ne_of_isValue {cs : List Char} (value : isValue cs = true) :
    ∀ c ∈ cs, c ≠ ',' ∧ c ≠ '=' := by
  simp only [isValue, Bool.and_eq_true, List.all_eq_true, decide_eq_true_eq] at value
  exact value.2

theorem comma_not_mem_written (key : isKey e.1.toList = true) (value : isValue e.2.toList = true) :
    ',' ∉ written e := by
  rw [written, List.mem_append, List.mem_cons]
  rintro (inside | equals | inside)
  · exact (ne_of_isKey key _ inside).1 rfl
  · exact absurd equals (by decide)
  · exact (ne_of_isValue value _ inside).1 rfl

/-- The first equals sign is the one behind the key, and the value has none in front. -/
theorem readMember?_written (key : isKey e.1.toList = true) (value : isValue e.2.toList = true) :
    readMember? (written e) = some e := by
  have before : ∀ c ∈ e.1.toList, decide (c ≠ '=') = true := fun c mem =>
    decide_eq_true (ne_of_isKey key c mem).2
  have after : e.2.toList.dropWhile (· = '=') = e.2.toList := by
    cases chars : e.2.toList with
    | nil => rfl
    | cons c cs =>
      have other := (ne_of_isValue value c (chars ▸ List.mem_cons_self)).2
      exact List.dropWhile_cons_of_neg (by simpa using other)
  have split : (written e).contains '=' = true := by simp [written]
  have front : (written e).takeWhile (· ≠ '=') = e.1.toList := by
    rw [written, List.takeWhile_append_of_pos before]
    simp
  have back : (written e).dropWhile (· ≠ '=') = '=' :: e.2.toList := by
    rw [written, List.dropWhile_append_of_pos before]
    simp
  have behind : ('=' :: e.2.toList).dropWhile (· = '=') = e.2.toList :=
    (List.dropWhile_cons_of_pos (by decide)).trans after
  rw [readMember?, if_pos split]
  dsimp only
  rw [front, back, behind, key, value, String.ofList_toList, String.ofList_toList]
  rfl

/-- An entry is never empty, so none is lost at the end. -/
theorem pieces_header {s : TraceState} (readable : s.IsReadable) :
    pieces ',' s.header.toList = s.members.map written := by
  have apart : ∀ piece ∈ s.members.map written, ',' ∉ piece :=
    List.forall_mem_map.2 fun e mem => comma_not_mem_written (readable e mem).1 (readable e mem).2
  by_cases empty : s.members.map written = []
  · rw [toList_header, empty]
    rfl
  · have last : (s.members.map written).getLast? ≠ some [] := by
      intro last
      obtain ⟨e, -, nothing⟩ := List.mem_map.1 (List.mem_of_getLast? last)
      exact List.append_ne_nil_of_right_ne_nil _ (List.cons_ne_nil _ _) nothing
    rw [toList_header, pieces, List.splitOn_intercalate _ apart empty]
    exact if_neg last

/-- **Entries are read back.** -/
theorem read?_header {s : TraceState} (readable : s.IsReadable) : read? s.header = some s := by
  have members : ∀ l : List (String × String),
      (∀ e ∈ l, isKey e.1.toList = true ∧ isValue e.2.toList = true) →
        (l.map written).mapM readMember? = some l := by
    intro l good
    induction l with
    | nil => rfl
    | cons e l ih =>
      obtain ⟨here, good⟩ := List.forall_mem_cons.1 good
      rw [List.map_cons, List.mapM_cons, readMember?_written here.1 here.2, ih good]
      rfl
  rw [read?, pieces_header readable, members s.members readable]
  rfl

end Trace.TraceState

/-! ## What is written under which name -/

namespace StringMap

variable {α : Type}

theorem find?_insertMany {l : List (String × α)} (sorted : l.Pairwise fun a b => a.1 < b.1)
    (m : StringMap α) (k : String) : (m.insertMany l).find? k = (l.lookup k).or (m.find? k) := by
  induction l generalizing m with
  | nil => rfl
  | cons e l ih =>
    obtain ⟨below, sorted⟩ := List.pairwise_cons.1 sorted
    rw [insertMany_cons, ih sorted, find?_insert, List.lookup_cons]
    split
    · next same =>
      have absent : l.lookup k = none := by
        refine lookup_eq_none fun e' mem taken => ?_
        have later := below e' mem
        rw [taken, ← same] at later
        exact String.lt_irrefl k later
      rw [absent, beq_iff_eq.2 same]
      rfl
    · next other =>
      rw [beq_eq_false_iff_ne.2 other]

/-- **A union has the entries of both maps**, those of the second first. -/
theorem find?_union (a b : StringMap α) (k : String) :
    (a.union b).find? k = (b.find? k).or (a.find? k) :=
  find?_insertMany b.sorted a k

end StringMap

namespace Trace.Context

/-- **What a context writes**: the headers of its span, if it has one, and the header of its
baggage, if there is any. -/
theorem find?_inject (c : Context) (k : String) :
    c.inject.find? k =
      if k = traceparentHeader then
        if c.spanContext.isValid then some (traceparent c.spanContext) else none
      else if k = tracestateHeader then
        if c.spanContext.isValid then some c.spanContext.state.header else none
      else if k = baggageHeader then
        if c.baggage.size = 0 then none else some (Baggage.header c.baggage)
      else none := by
  have span_span : traceparentHeader ≠ tracestateHeader := by decide
  have span_baggage : traceparentHeader ≠ baggageHeader := by decide
  have state_baggage : tracestateHeader ≠ baggageHeader := by decide
  simp only [inject, StringMap.ofList]
  split_ifs <;> simp_all [StringMap.find?_insert]

end Trace.Context

end DeployChecks
