import DeployChecks.Settings.Basic
import Mathlib.Algebra.Order.Field.Power
import Mathlib.Tactic.Linarith

/-!
# Proofs/Settings/Validity — which settings are refused

Four conditions are checked one after the other, and the first one that is broken is named.  Three
of them are read off the check; the rate of traces is compared by its bits, and what the bits stand
for is a number from zero to one exactly if the check says so (`Binary64.rateInRange_iff`).  Main
definitions: `Binary64.InUnit`, `EngineSettings.IsValid`, `EngineSettings.FirstBreach`; main
statements: `checked_eq_ok_iff`, `checked_eq_error_iff`.
-/

namespace DeployChecks

namespace Binary64

variable {x : Binary64}

/-! ## Rates -/

/-- **The number that a double stands for**, if it is one and finite. -/
def value? (x : Binary64) : Option ℚ :=
  match x.view with
  | .finite negative mantissa exponent =>
    some ((if negative then -1 else 1) * (mantissa * 2 ^ exponent))
  | _ => none

/-- **The double is a number from zero to one**, both included. -/
def InUnit (x : Binary64) : Prop := ∃ q, x.value? = some q ∧ 0 ≤ q ∧ q ≤ 1

/-- The bits below the sign of one. -/
def oneMagnitude : Nat := 1023 * twoTo 52

/-- The order of doubles is that of their bits. -/
theorem rateInRange_iff_key : TelemetrySettings.rateInRange x = true ↔
    x.isNaN = false ∧ 0 ≤ x.key ∧ x.key ≤ oneMagnitude := by
  have zero : (zero false).isNaN = false ∧ (zero false).key = 0 := by decide +kernel
  have one : one.isNaN = false ∧ one.key = oneMagnitude := by decide +kernel
  simp only [TelemetrySettings.rateInRange, le, zero, one, Bool.not_false, Bool.true_and,
    Bool.and_true, Bool.and_eq_true, decide_eq_true_eq, Bool.not_eq_true']
  tauto

/-- **What the bits of a finite double stand for.** -/
theorem view_eq_finite {negative : Bool} {m : Nat} {k : Int}
    (finite : x.view = .finite negative m k) :
    negative = x.negative ∧ x.magnitude / twoTo 52 < 2047 ∧
      (x.magnitude / twoTo 52 = 0 ∧ m = x.magnitude % twoTo 52 ∧ k = -1074 ∨
        m = twoTo 52 + x.magnitude % twoTo 52 ∧ k = (x.magnitude / twoTo 52 : Nat) - 1075 ∧
          0 < x.magnitude / twoTo 52) := by
  have below : x.magnitude / twoTo 52 < 2048 :=
    (Nat.div_lt_iff_lt_mul (by decide)).2 (Nat.mod_lt _ (by decide))
  unfold view at finite
  dsimp only at finite
  split_ifs at finite with special infinite subnormal
  · cases finite
    exact ⟨rfl, lt_of_le_of_ne (Nat.le_of_lt_succ below) special, .inl ⟨subnormal, rfl, rfl⟩⟩
  · cases finite
    exact ⟨rfl, lt_of_le_of_ne (Nat.le_of_lt_succ below) special,
      .inr ⟨rfl, rfl, Nat.pos_of_ne_zero subnormal⟩⟩

/-- Below the exponent of one a double is less than one, and above it is more. -/
theorem mul_zpow_le_one_iff {negative : Bool} {m : Nat} {k : Int}
    (finite : x.view = .finite negative m k) :
    (m : ℚ) * 2 ^ k ≤ 1 ↔ x.magnitude ≤ oneMagnitude := by
  obtain ⟨-, below, shape⟩ := view_eq_finite finite
  have size : twoTo 52 = 4503599627370496 := rfl
  have split := Nat.div_add_mod x.magnitude (twoTo 52)
  have fraction := Nat.mod_lt x.magnitude (show 0 < twoTo 52 by decide)
  rw [oneMagnitude]
  generalize x.magnitude / twoTo 52 = e at *
  generalize x.magnitude % twoTo 52 = f at *
  rw [size] at *
  rcases lt_trichotomy k (-52) with low | rfl | high
  · have mantissa : (m : ℚ) ≤ 2 ^ 53 := by
      have : m ≤ 2 ^ 53 := by omega
      exact_mod_cast this
    have power : (2 : ℚ) ^ k ≤ 2 ^ (-53 : Int) :=
      zpow_le_zpow_right₀ (by norm_num) (by omega)
    refine iff_of_true ?_ (by omega)
    calc (m : ℚ) * 2 ^ k ≤ 2 ^ 53 * 2 ^ (-53 : Int) := by gcongr
      _ = 1 := by norm_num
  · have inverse : (2 : ℚ) ^ (-52 : Int) = (4503599627370496)⁻¹ := by norm_num
    rw [inverse, mul_inv_le_iff₀ (by norm_num), one_mul]
    have mantissa : (m : ℚ) ≤ 4503599627370496 ↔ m ≤ 4503599627370496 := by norm_cast
    rw [mantissa]
    omega
  · have mantissa : (2 : ℚ) ^ 52 ≤ m := by
      have : 2 ^ 52 ≤ m := by omega
      exact_mod_cast this
    have power : (2 : ℚ) ^ (-51 : Int) ≤ 2 ^ k :=
      zpow_le_zpow_right₀ (by norm_num) (by omega)
    refine iff_of_false (not_le.2 ?_) (by omega)
    calc (1 : ℚ) < 2 ^ 52 * 2 ^ (-51 : Int) := by norm_num
      _ ≤ m * 2 ^ k := by gcongr

/-- Only a zero has no mantissa. -/
theorem mantissa_eq_zero_iff {negative : Bool} {m : Nat} {k : Int}
    (finite : x.view = .finite negative m k) : m = 0 ↔ x.magnitude = 0 := by
  obtain ⟨-, -, shape⟩ := view_eq_finite finite
  have size : twoTo 52 = 4503599627370496 := rfl
  have split := Nat.div_add_mod x.magnitude (twoTo 52)
  generalize x.magnitude / twoTo 52 = e at *
  generalize x.magnitude % twoTo 52 = f at *
  rw [size] at *
  omega

/-- A double whose bits are up to those of one is finite. -/
theorem exists_view_of_le (small : x.magnitude ≤ oneMagnitude) :
    ∃ m k, x.view = .finite x.negative m k := by
  have special : ¬x.magnitude / twoTo 52 = 2047 := by
    have size : twoTo 52 = 4503599627370496 := rfl
    rw [oneMagnitude, size] at small
    rw [size]
    omega
  unfold view
  dsimp only
  rw [if_neg special]
  split_ifs
  · exact ⟨_, _, rfl⟩
  · exact ⟨_, _, rfl⟩

theorem value?_eq_some_iff {q : ℚ} : x.value? = some q ↔
    ∃ m k, x.view = .finite x.negative m k ∧
      q = (if x.negative then -1 else 1) * (m * 2 ^ k) := by
  rw [value?]
  cases seen : x.view with
  | finite negative m k =>
    obtain rfl := (view_eq_finite seen).1
    constructor
    · intro value
      exact ⟨m, k, rfl, (Option.some.inj value).symm⟩
    · rintro ⟨_, _, ⟨⟩, rfl⟩
      rfl
  | nan => exact ⟨nofun, nofun⟩
  | infinite negative => exact ⟨nofun, nofun⟩

/-- **The rates that are in range** are the numbers from zero to one. -/
theorem rateInRange_iff : TelemetrySettings.rateInRange x = true ↔ x.InUnit := by
  rw [rateInRange_iff_key, key]
  have scale (k : Int) : (0 : ℚ) < 2 ^ k := zpow_pos (by norm_num) k
  constructor
  · rintro ⟨-, positive, small⟩
    have magnitude_small : x.magnitude ≤ oneMagnitude := by
      split_ifs at positive small <;> omega
    obtain ⟨m, k, seen⟩ := exists_view_of_le magnitude_small
    refine ⟨_, value?_eq_some_iff.2 ⟨m, k, seen, rfl⟩, ?_⟩
    split_ifs at positive ⊢ with negative
    · have zero : m = 0 := (mantissa_eq_zero_iff seen).2 (by omega)
      simp [zero]
    · rw [one_mul]
      exact ⟨by positivity, (mul_zpow_le_one_iff seen).2 magnitude_small⟩
  · rintro ⟨q, value, positive, small⟩
    obtain ⟨m, k, seen, rfl⟩ := value?_eq_some_iff.1 value
    have number : x.isNaN = false := by
      have below := (Nat.div_lt_iff_lt_mul (by decide)).1 (view_eq_finite seen).2.1
      exact decide_eq_false (Nat.lt_asymm below)
    refine ⟨number, ?_⟩
    split_ifs at positive small ⊢ with negative
    · have zero : m = 0 := by
        by_contra some
        have : 0 < (m : ℚ) * 2 ^ k := by positivity
        linarith
      rw [(mantissa_eq_zero_iff seen).1 zero]
      decide
    · rw [one_mul] at small
      exact ⟨Int.natCast_nonneg _, Int.ofNat_le.2 ((mul_zpow_le_one_iff seen).1 small)⟩

end Binary64

namespace EngineSettings

variable {s : EngineSettings}

/-! ## The conditions in the order in which they are checked -/

/-- The namespace holds more than white space. -/
def IsNamed (s : EngineSettings) : Prop :=
  ∃ c ∈ s.defaultNamespace.toList, Text.isBlank c = false

/-- Events find room. -/
def HasRoom (s : EngineSettings) : Prop := s.eventChannelCapacity ≠ 0

/-- The rate of traces lies between zero and one. -/
def HasRate (s : EngineSettings) : Prop := s.telemetry.sampleRate.InUnit

/-- Spans that are sent out have somewhere to go. -/
def IsReachable (s : EngineSettings) : Prop :=
  s.telemetry.enabled = true → s.telemetry.otlpEndpoint ≠ ""

/-- **Settings that are allowed.** -/
structure IsValid (s : EngineSettings) : Prop where
  /-- They name a namespace. -/
  named : s.IsNamed
  /-- Events find room. -/
  room : s.HasRoom
  /-- The rate of traces lies between zero and one. -/
  rate : s.HasRate
  /-- Spans that are sent out have somewhere to go. -/
  reachable : s.IsReachable

/-- **The first condition that settings break**, by its field and the words for it. -/
inductive FirstBreach (s : EngineSettings) : String → String → Prop where
  /-- The namespace is blank. -/
  | unnamed : ¬s.IsNamed → FirstBreach s "default_namespace" "must not be empty"
  /-- No event finds room. -/
  | noRoom : s.IsNamed → ¬s.HasRoom →
    FirstBreach s "event_channel_capacity" "must be greater than zero"
  /-- The rate lies outside. -/
  | noRate : s.IsNamed → s.HasRoom → ¬s.HasRate →
    FirstBreach s "telemetry.sample_rate"
      (Decimal.plain.write s.telemetry.sampleRate ++ " is outside 0.0..=1.0")
  /-- Spans are sent nowhere. -/
  | unreachable : s.IsNamed → s.HasRoom → s.HasRate → ¬s.IsReachable →
    FirstBreach s "telemetry.otlp_endpoint" "required when telemetry is enabled"

theorem blank_iff : Text.blank s.defaultNamespace = true ↔ ¬s.IsNamed := by
  simp [Text.blank, IsNamed]

theorem unreachable_iff :
    (s.telemetry.enabled && s.telemetry.otlpEndpoint.isEmpty) = true ↔ ¬s.IsReachable := by
  simp [IsReachable]

theorem rate_iff :
    (!TelemetrySettings.rateInRange s.telemetry.sampleRate) = true ↔ ¬s.HasRate := by
  rw [HasRate, ← Binary64.rateInRange_iff, Bool.not_eq_true', Bool.not_eq_true]

/-- **What is found wrong** is the first condition that is broken; if nothing is, none is. -/
theorem violation?_cases :
    (s.violation? = none ∧ s.IsValid) ∨
      ∃ field reason, s.violation? = some (.invalid field reason) ∧ s.FirstBreach field reason ∧
        ¬s.IsValid := by
  rw [violation?, TelemetrySettings.violation?]
  split_ifs with blank full range unreachable
  · have unnamed := blank_iff.1 blank
    exact .inr ⟨_, _, rfl, .unnamed unnamed, fun valid => unnamed valid.named⟩
  · have named := not_not.1 (mt blank_iff.2 blank)
    exact .inr ⟨_, _, rfl, .noRoom named (not_not.2 full), fun valid => valid.room full⟩
  · have named := not_not.1 (mt blank_iff.2 blank)
    have noRate := rate_iff.1 range
    exact .inr ⟨_, _, rfl, .noRate named full noRate, fun valid => noRate valid.rate⟩
  · have named := not_not.1 (mt blank_iff.2 blank)
    have rate := not_not.1 (mt rate_iff.2 range)
    have lost := unreachable_iff.1 unreachable
    exact .inr ⟨_, _, rfl, .unreachable named full rate lost, fun valid => lost valid.reachable⟩
  · exact .inl ⟨rfl, not_not.1 (mt blank_iff.2 blank), full, not_not.1 (mt rate_iff.2 range),
      not_not.1 (mt unreachable_iff.2 unreachable)⟩

/-- Settings break one condition first. -/
theorem FirstBreach.unique {field reason field' reason' : String}
    (breach : s.FirstBreach field reason) (breach' : s.FirstBreach field' reason') :
    field = field' ∧ reason = reason' := by
  cases breach <;> cases breach' <;> first | exact ⟨rfl, rfl⟩ | contradiction

/-- **Settings that are checked** come out if they are allowed. -/
theorem checked_eq_ok_iff {s' : EngineSettings} : s.checked = .ok s' ↔ s = s' ∧ s.IsValid := by
  rw [checked]
  rcases violation?_cases (s := s) with ⟨none, valid⟩ | ⟨field, reason, some, -, invalid⟩
  · rw [none]
    simp [valid]
  · rw [some]
    simp [invalid]

/-- Otherwise the first condition that they break is named. -/
theorem checked_eq_error_iff {e : SettingsError} :
    s.checked = .error e ↔
      ∃ field reason, e = .invalid field reason ∧ s.FirstBreach field reason := by
  rw [checked]
  rcases violation?_cases (s := s) with ⟨none, valid⟩ | ⟨field, reason, some, breach, -⟩
  · rw [none]
    refine iff_of_false nofun ?_
    rintro ⟨_, _, -, breach⟩
    cases breach with
    | unnamed unnamed => exact unnamed valid.named
    | noRoom _ noRoom => exact noRoom valid.room
    | noRate _ _ noRate => exact noRate valid.rate
    | unreachable _ _ _ lost => exact lost valid.reachable
  · rw [some]
    constructor
    · rintro ⟨⟩
      exact ⟨_, _, rfl, breach⟩
    · rintro ⟨_, _, rfl, breach'⟩
      obtain ⟨rfl, rfl⟩ := breach.unique breach'
      rfl

end EngineSettings

end DeployChecks
