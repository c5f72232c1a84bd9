import DeployChecks.Proofs.Codec.Digits
import DeployChecks.Proofs.Settings.Variables

/-!
# Proofs/Settings/Rendering — how a text arrives

A variable holds a text, but what reads as a truth value or as a number is kept as such, and a
setting that is a text is written from it.  Two inputs.

**A variable decides** (`Leaf.read?_of_textOf?`).  Once the value of a variable is laid under the
names of its setting, later variables lead elsewhere or into the value (`Decided`); and then there
stands a list or a group, which is no value, so nothing is loaded.  Only a variable that makes a list
of telemetry is left out: it comes last, and puts the settings of telemetry in other places.

**Written anew** (`Arrives.eq_iff`).  What is written is the text again only if it was written in
the same way before (`IsKept`).

Main statement: `text_settings_arrive_rendered`, and the case `a_version_loses_its_last_digit`.
-/

namespace DeployChecks

namespace Settings

variable {k : Kind} {f : Leaf k} {v w t : Tree} {env : StringMap String} {text : String}

/-! ## A variable decides -/

/-- Lists and groups are no values. -/
theorem Kind.read?_of_isCollection (collection : v.isCollection = true) : k.read? v = none := by
  cases v with
  | list items => cases k <;> rfl
  | table members => cases k <;> rfl
  | _ => cases collection

/-- **A tree holds a value for a setting**, or a list or a group in its place, which is no value. -/
def Decided (f : Leaf k) (v t : Tree) : Prop :=
  ∃ held, t.find? f.path = some held ∧ (held = v ∨ held.isCollection = true)

/-- So it does once the value is laid there. -/
theorem decided_assign (single : v.isCollection = false) :
    Decided f v (t.assign (.read f.key) v) :=
  ⟨v, f.find?_assign_key single, .inl rfl⟩

/-- A name that misses the setting leaves the value there, or leads into it. -/
theorem Decided.assign {s : String} (decided : Decided f v t) (single : w.isCollection = false)
    (misses : Tree.Misses (Key.read s).way f.path) : Decided f v (t.assign (.read s) w) := by
  rw [Decided, Tree.assign_eq]
  rcases misses with apart | ⟨rest, further, way⟩
  · rwa [Tree.find?_assignSteps_apart single apart]
  · have through := Tree.find?_assignSteps_through (t := t) single f.path rest
    rw [f.map_lowercase_path, ← way] at through
    exact ⟨_, through, .inr (Tree.isCollection_assignSteps further)⟩

theorem Decided.assignAll {l : List (String × Tree)} (decided : Decided f v t)
    (misses : ∀ e ∈ l, e.2.isCollection = false ∧ Tree.Misses (Key.read e.1).way f.path) :
    Decided f v (t.assignAll l) := by
  induction l generalizing t with
  | nil => exact decided
  | cons e l ih =>
    obtain ⟨⟨single, first⟩, misses⟩ := List.forall_mem_cons.1 misses
    exact ih (decided.assign single first) misses

/-- **The variables decide** on a setting that one of them sets. -/
theorem decided_of_textOf? (named : NamesTelemetry env) (set : textOf? env f.key = some text) :
    Decided f (variableValue text) (t.assignAll (ofVariables env)) := by
  have found : (ofVariables env).lookup f.key = some (variableValue text) := by
    rw [lookup_ofVariables, set, Option.map_some]
  obtain ⟨before, after, split, -⟩ := List.lookup_eq_some_iff.1 found
  have sorted := sorted_ofVariables env
  rw [split] at sorted
  obtain ⟨later, -⟩ := List.pairwise_cons.1 (List.pairwise_append.1 sorted).2.1
  rw [split, Tree.assignAll, List.foldl_append, List.foldl_cons]
  refine (decided_assign (isCollection_variableValue text)).assignAll fun e mem => ?_
  have said : e ∈ ofVariables env :=
    split ▸ List.mem_append_right _ (List.mem_cons_of_mem _ mem)
  obtain ⟨x, from_env, names, same⟩ := exists_of_mem_ofVariables said
  exact ⟨same ▸ isCollection_variableValue x.2,
    f.misses_of_lt (isSmall_of_variableSetting? names) (later e mem)
      fun n rest => named x from_env e.1 n rest names⟩

/-- **A setting whose variable is set is read from its text**, whatever the file and the other
variables say. -/
theorem Leaf.read?_of_textOf? {φ : Type} [Readable φ] (f : Leaf k) {file : Option φ}
    {s : EngineSettings} (loaded : EngineSettings.load file env = .ok s) (named : NamesTelemetry env)
    (set : textOf? env f.key = some text) : k.read? (variableValue text) = some (f.get s) := by
  obtain ⟨written, read⟩ := EngineSettings.exists_of_load loaded
  have whole := (EngineSettings.ofTree?_eq_some_iff.1 read).2 f
  obtain ⟨held, found, rfl | collection⟩ : Decided f (variableValue text)
      ((fileLayer written).assignAll (ofVariables env)) := decided_of_textOf? named set
  · rwa [Leaf.read?_of_find? found] at whole
  · rw [Leaf.read?_of_find? found, Kind.read?_of_isCollection collection] at whole
    cases whole

/-! ## What becomes of a text -/

section Integers

variable {n : Int} {c : Char}

theorem toList_toString_int (n : Int) :
    (toString n).toList = (if n < 0 then ['-'] else []) ++ Nat.toDigits 10 n.natAbs := by
  cases n with
  | ofNat n =>
    rw [if_neg (by simp)]
    exact Nat.toList_repr
  | negSucc n =>
    rw [if_pos (Int.negSucc_lt_zero n)]
    exact String.toList_append.trans (congrArg ('-' :: ·) Nat.toList_repr)

/-- The written form of an integer holds no letters. -/
theorem low_of_mem_toString (mem : c ∈ (toString n).toList) : c.toNat < 65 := by
  rw [toList_toString_int, List.mem_append] at mem
  rcases mem with sign | digit
  · split at sign
    · obtain rfl := List.mem_singleton.1 sign
      decide
    · cases sign
  · exact (Char.isDigit_iff_toNat.1 (isDigit_toDigits _ digit)).2.trans_lt (by decide)

/-- **A written integer is read back.** -/
theorem readInt?_toString (n : Int) : Decimal.readInt? (toString n) = some n := by
  obtain ⟨c, cs, split, digit⟩ := exists_cons_toDigits n.natAbs
  have digits : (c :: cs).all Char.isDigit = true :=
    List.all_eq_true.2 (split ▸ isDigit_toDigits)
  have value : Decimal.digitsValue (c :: cs) = n.natAbs := by
    rw [← split]
    exact value_toDigits n.natAbs
  have sign : Decimal.readSign (toString n).toList = (decide (n < 0), c :: cs) := by
    rw [toList_toString_int, split]
    by_cases negative : n < 0
    · rw [if_pos negative, decide_eq_true negative]
      rfl
    · rw [if_neg negative, decide_eq_false negative, List.nil_append, Decimal.readSign]
      · rintro _ ⟨⟩
        cases digit
      · rintro _ ⟨⟩
        cases digit
  rw [Decimal.readInt?, sign]
  simp only [List.isEmpty_cons, digits, value, decide_eq_true_eq]
  split_ifs with none negative
  · cases none
  · rw [Int.ofNat_natAbs_of_nonpos negative.le, neg_neg]
  · rw [Int.natAbs_of_nonneg (not_lt.1 negative)]

end Integers

/-- The text reads as a truth value. -/
def IsTruth (text : String) (b : Bool) : Prop := Text.lowercase text = toString b

/-- The text reads as an integer of 64 bits with sign. -/
def IsInteger (text : String) (n : Int) : Prop :=
  Decimal.readInt? text = some n ∧ Toml.isWord n = true

/-- **What becomes of a text** on its way into a setting: what reads as a truth value or as a number
is written anew. -/
inductive Arrives (text : String) : String → Prop where
  /-- A truth value. -/
  | truth {b : Bool} : IsTruth text b → Arrives text (toString b)
  /-- An integer. -/
  | integer {n : Int} : (∀ b, ¬IsTruth text b) → IsInteger text n → Arrives text (toString n)
  /-- A double. -/
  | double {x : Binary64} : (∀ b, ¬IsTruth text b) → (∀ n, ¬IsInteger text n) →
    Decimal.read? text = some x → Arrives text (Decimal.plain.write x)
  /-- Any other text. -/
  | other : (∀ b, ¬IsTruth text b) → (∀ n, ¬IsInteger text n) → Decimal.read? text = none →
    Arrives text text

/-- **A text that arrives as it is**: one that reads as none of these, or is written in the very way
in which they are. -/
inductive IsKept (text : String) : Prop where
  /-- A truth value in small letters. -/
  | truth (b : Bool) : text = toString b → IsKept text
  /-- An integer with no sign but a minus, and without zeros in front. -/
  | integer (n : Int) : Toml.isWord n = true → text = toString n → IsKept text
  /-- A double in its shortest digits. -/
  | double (x : Binary64) : (∀ b, ¬IsTruth text b) → (∀ n, ¬IsInteger text n) →
    Decimal.read? text = some x → text = Decimal.plain.write x → IsKept text
  /-- Any other text. -/
  | other : (∀ b, ¬IsTruth text b) → (∀ n, ¬IsInteger text n) → Decimal.read? text = none →
    IsKept text

theorem arrives_of_text? {arrived : String} (read : (variableValue text).text? = some arrived) :
    Arrives text arrived := by
  unfold variableValue at read
  dsimp only at read
  split_ifs at read with true_word false_word
  · obtain rfl := Option.some.inj read
    exact .truth (b := true) true_word
  · obtain rfl := Option.some.inj read
    exact .truth (b := false) false_word
  · have no_truth : ∀ b, ¬IsTruth text b := fun b => by
      cases b with
      | true => exact true_word
      | false => exact false_word
    have integer_iff {n : Int} : (Decimal.readInt? text).filter Toml.isWord = some n ↔
        IsInteger text n := Option.filter_eq_some_iff
    have no_integer (none : (Decimal.readInt? text).filter Toml.isWord = none) (n : Int) :
        ¬IsInteger text n := fun integer => by cases none.symm.trans (integer_iff.2 integer)
    split at read
    · next n integer =>
      obtain rfl := Option.some.inj read
      exact .integer no_truth (integer_iff.1 integer)
    · next none double =>
      obtain rfl := Option.some.inj read
      exact .double no_truth (no_integer none) double
    · next none no_double =>
      obtain rfl := Option.some.inj read
      exact .other no_truth (no_integer none) no_double

theorem isTruth_toString (b : Bool) : IsTruth (toString b) b := by
  rw [IsTruth]
  cases b <;> decide +kernel

/-- A text reads as one truth value at most. -/
theorem IsTruth.unique {b b' : Bool} (truth : IsTruth text b) (truth' : IsTruth text b') :
    b = b' := by
  have same : toString b = toString b' := truth.symm.trans truth'
  cases b <;> cases b' <;> first | rfl | exact absurd same (by decide)

/-- No written integer reads as a truth value. -/
theorem not_isTruth_toString {n : Int} {b : Bool} : ¬IsTruth (toString n) b := by
  intro truth
  have small : Text.lowercase (toString n) = toString n :=
    Text.lowercase_of_small fun c mem => Text.isSmall_of_low (low_of_mem_toString mem)
  have letter : ∃ c ∈ (toString b).toList, ¬c.toNat < 65 := by
    cases b with
    | true => exact ⟨'t', by decide, by decide⟩
    | false => exact ⟨'f', by decide, by decide⟩
  obtain ⟨c, mem, high⟩ := letter
  rw [IsTruth, small] at truth
  exact high (low_of_mem_toString (truth ▸ mem))

/-- **What arrives is the text itself only if that is kept.** -/
theorem Arrives.eq_iff {arrived : String} (arrives : Arrives text arrived) :
    arrived = text ↔ IsKept text := by
  constructor
  · intro same
    cases arrives with
    | truth truth => exact .truth _ same.symm
    | integer _ integer => exact .integer _ integer.2 same.symm
    | double no_truth no_integer double => exact .double _ no_truth no_integer double same.symm
    | other no_truth no_integer no_double => exact .other no_truth no_integer no_double
  · intro kept
    cases kept with
    | truth b same =>
      subst same
      have truth := isTruth_toString b
      cases arrives with
      | truth truth' => rw [truth'.unique truth]
      | integer no_truth | double no_truth | other no_truth => exact absurd truth (no_truth b)
    | integer n word same =>
      subst same
      have integer : IsInteger (toString n) n := ⟨readInt?_toString n, word⟩
      cases arrives with
      | truth truth => exact absurd truth not_isTruth_toString
      | integer _ integer' => rw [Option.some.inj (integer'.1.symm.trans integer.1)]
      | double _ no_integer | other _ no_integer => exact absurd integer (no_integer n)
    | double x no_truth no_integer double same =>
      cases arrives with
      | truth truth => exact absurd truth (no_truth _)
      | integer _ integer => exact absurd integer (no_integer _)
      | double _ _ double' => rw [Option.some.inj (double'.symm.trans double), ← same]
      | other => rfl
    | other no_truth no_integer no_double =>
      cases arrives with
      | truth truth => exact absurd truth (no_truth _)
      | integer _ integer => exact absurd integer (no_integer _)
      | double _ _ double => cases no_double.symm.trans double
      | other => rfl

/-- **A text setting whose variable is set** holds what becomes of its text, whatever is read as a
file, and it is the text itself only if that is kept. -/
theorem text_settings_arrive_rendered {φ : Type} [Readable φ] {file : Option φ}
    {s : EngineSettings} (loaded : EngineSettings.load file env = .ok s) (named : NamesTelemetry env)
    (f : Leaf .text) (set : textOf? env f.key = some text) :
    Arrives text (f.get s) ∧ (f.get s = text ↔ IsKept text) :=
  have arrives : Arrives text (f.get s) := arrives_of_text? (f.read?_of_textOf? loaded named set)
  ⟨arrives, arrives.eq_iff⟩

/-- One variable, for the version of the service. -/
def versionVariable (version : String) : StringMap String :=
  oneVariable "LIFECYCLE_TASKS__TELEMETRY__SERVICE_VERSION" version

/-- The settings with one version of the service and nothing else set. -/
def versionSettings (version : String) : EngineSettings :=
  { EngineSettings.standard with telemetry := { TelemetrySettings.standard with
    serviceVersion := version } }

/-- No file. -/
def noFile : Option File := none

/-- A version with two points is none of what is written anew. -/
theorem text_settings_arrive_rendered_as_a_version :
    (EngineSettings.load noFile (versionVariable "1.20.0") = .ok (versionSettings "1.20.0") ∧
      NamesTelemetry (versionVariable "1.20.0") ∧
      textOf? (versionVariable "1.20.0") Leaf.serviceVersion.key = some "1.20.0") ∧
      Arrives "1.20.0" "1.20.0" ∧ ("1.20.0" = "1.20.0" ↔ IsKept "1.20.0") := by
  have loaded : EngineSettings.load noFile (versionVariable "1.20.0")
      = .ok (versionSettings "1.20.0") := by decide +kernel
  have named : NamesTelemetry (versionVariable "1.20.0") :=
    (namesLeaves_oneVariable .serviceVersion (by decide +kernel)).namesTelemetry
  have set : textOf? (versionVariable "1.20.0") Leaf.serviceVersion.key = some "1.20.0" := by
    decide +kernel
  exact ⟨⟨loaded, named, set⟩, text_settings_arrive_rendered loaded named .serviceVersion set⟩

/-- **A version with one point is a number**, and loses the zero at its end. -/
theorem a_version_loses_its_last_digit :
    textOf? (versionVariable "1.20") Leaf.serviceVersion.key = some "1.20" ∧
      EngineSettings.load noFile (versionVariable "1.20") = .ok (versionSettings "1.2") ∧
      Leaf.serviceVersion.get (versionSettings "1.2") ≠ "1.20" := by
  decide +kernel

end Settings

end DeployChecks
