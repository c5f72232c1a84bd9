import DeployChecks.Proofs.Settings.Paths
import Mathlib.Data.List.TakeDrop

/-!
# Proofs/Settings/Keys — names that variables give

The name that a variable gives a setting is in small letters, so the steps that are read from it are
as they are written.  The eight settings are reached by their own names, which all part; any other
name that comes after that of a setting leads elsewhere or into the setting.  Main statements:
`Leaf.way_read_key`, `Leaf.apart_of_key_ne`, `Leaf.misses_of_lt`.
-/

namespace DeployChecks

namespace Settings

open DeployChecks.Settings.Tree (Apart Misses)
open Text (IsSmall)

/-! ## Steps that are read -/

section Reading

variable {s first m : String} {cs rest : List Char} {steps : List Step} {fuel : Nat}

/-- **Steps that are read** are none, or begin with a member behind a point, or with an item. -/
theorem readSteps?_eq_some (read : readSteps? fuel cs = some steps) :
    (cs = [] ∧ steps = []) ∨
      (∃ m rest fuel' more, cs = '.' :: (m.toList ++ rest) ∧ readSteps? fuel' rest = some more ∧
        steps = .member m :: more) ∨
      ∃ n more, steps = .item n :: more := by
  unfold readSteps? at read
  split at read
  · exact .inl ⟨rfl, (Option.some.inj read).symm⟩
  · cases read
  · next fuel rest =>
    dsimp only at read
    split at read
    · cases read
    · obtain ⟨more, more_read, rfl⟩ := Option.map_eq_some_iff.1 read
      refine .inr (.inl ⟨_, _, fuel, more, ?_, more_read, rfl⟩)
      rw [String.toList_ofList, List.span_eq_takeWhile_dropWhile, List.takeWhile_append_dropWhile]
  · split at read
    · obtain ⟨n, -, read⟩ := Option.bind_eq_some_iff.1 read
      obtain ⟨more, -, rfl⟩ := Option.map_eq_some_iff.1 read
      exact .inr (.inr ⟨n, more, rfl⟩)
    · cases read
  · cases read

theorem eq_nil_of_readSteps? (read : readSteps? fuel cs = some []) : cs = [] := by
  obtain ⟨rfl, -⟩ | ⟨_, _, _, _, _, _, steps⟩ | ⟨_, _, steps⟩ := readSteps?_eq_some read
  · rfl
  · cases steps
  · cases steps

/-- A name is read whole, or its first part and then steps. -/
theorem Key.of_read (read : Key.read s = ⟨first, steps⟩) :
    (steps = [] ∧ first = s) ∨
      ∃ rest, s.toList = first.toList ++ rest ∧ readSteps? rest.length rest = some steps := by
  unfold Key.read at read
  dsimp only at read
  split at read
  · obtain ⟨rfl, rfl⟩ := Key.mk.inj read
    exact .inl ⟨rfl, rfl⟩
  · split at read
    · next more steps_read =>
      obtain ⟨rfl, rfl⟩ := Key.mk.inj read
      refine .inr ⟨_, ?_, steps_read⟩
      rw [String.toList_ofList, List.span_eq_takeWhile_dropWhile, List.takeWhile_append_dropWhile]
    · obtain ⟨rfl, rfl⟩ := Key.mk.inj read
      exact .inl ⟨rfl, rfl⟩

/-- Without steps a name stands for itself. -/
theorem Key.first_eq (read : Key.read s = ⟨first, []⟩) : first = s := by
  obtain ⟨-, whole⟩ | ⟨rest, parts, steps⟩ := Key.of_read read
  · exact whole
  · rw [eq_nil_of_readSteps? steps, List.append_nil] at parts
    exact (String.toList_injective parts).symm

/-- The characters of the first name are those of the whole. -/
theorem Key.mem_of_first (read : Key.read s = ⟨first, steps⟩) :
    ∀ c ∈ first.toList, c ∈ s.toList := by
  obtain ⟨-, rfl⟩ | ⟨rest, parts, -⟩ := Key.of_read read
  · exact fun c mem => mem
  · exact fun c mem => parts ▸ List.mem_append_left _ mem

/-- A member within the first name is written behind a point. -/
theorem Key.of_read_member (read : Key.read s = ⟨first, .member m :: steps⟩) :
    ∃ rest fuel, s.toList = first.toList ++ '.' :: (m.toList ++ rest) ∧
      readSteps? fuel rest = some steps := by
  obtain ⟨none, -⟩ | ⟨rest, parts, steps_read⟩ := Key.of_read read
  · cases none
  · obtain ⟨-, none⟩ | ⟨m, rest, fuel, more, rfl, more_read, same⟩ | ⟨_, _, same⟩ :=
      readSteps?_eq_some steps_read
    · cases none
    · cases same
      exact ⟨rest, fuel, parts, more_read⟩
    · cases same

/-- The steps of a key from the outermost name on. -/
def Key.way (k : Key) : List Step := .member k.first :: k.steps

theorem Tree.assign_eq {t v : Tree} {k : Key} : t.assign k v = Tree.assignSteps v k.way t := rfl

end Reading

/-! ## Small letters -/

section Small

variable {s a b m : String} {steps : List Step}

theorem isSmall_splitLevels {cs : List Char} (small : ∀ c ∈ cs, IsSmall c) :
    ∀ c ∈ splitLevels cs, IsSmall c := by
  fun_induction splitLevels cs with
  | case1 => exact nofun
  | case2 rest ih =>
    obtain ⟨-, small⟩ : IsSmall '_' ∧ ∀ c ∈ rest, IsSmall c := by simpa using small
    exact List.forall_mem_cons.2 ⟨Text.isSmall_of_low (by decide), ih small⟩
  | case3 c rest _ ih =>
    obtain ⟨first, small⟩ := List.forall_mem_cons.1 small
    exact List.forall_mem_cons.2 ⟨first, ih small⟩

/-- **The name that a variable gives** is in small letters. -/
theorem isSmall_of_variableSetting? {name key : String} (names : variableSetting? name = some key) :
    ∀ c ∈ key.toList, IsSmall c := by
  unfold variableSetting? at names
  dsimp only at names
  split at names
  · obtain rfl := Option.some.inj names
    rw [String.toList_ofList]
    exact isSmall_splitLevels fun c mem => Text.isSmall_of_mem_lowercase (List.mem_of_mem_drop mem)
  · cases names

/-- A name in small letters parts from a way at once, or begins as it does. -/
theorem apart_or_read {path : List String} (small : ∀ c ∈ s.toList, IsSmall c) :
    Apart (Key.read s).way (a :: path) ∨ ∃ steps, Key.read s = ⟨a, steps⟩ := by
  rcases read : Key.read s with ⟨first, steps⟩
  have first_small : Text.lowercase first = first :=
    Text.lowercase_of_small fun c mem => small c (Key.mem_of_first read c mem)
  by_cases same : first = a
  · exact .inr ⟨steps, same ▸ rfl⟩
  · exact .inl (.inl (first_small.symm ▸ same))

/-- Another name misses a single one. -/
theorem misses_single (small : ∀ c ∈ s.toList, IsSmall c) (other : s ≠ a) :
    Misses (Key.read s).way [a] := by
  refine (apart_or_read small).imp_right fun ⟨steps, read⟩ => ⟨steps, ?_, by rw [read]; rfl⟩
  rintro rfl
  exact other (Key.first_eq read).symm

/-- Another member of a group misses one that is named by the group and itself. -/
theorem misses_pair (small : ∀ c ∈ s.toList, IsSmall c)
    (read : Key.read s = ⟨a, .member m :: steps⟩) (other : s ≠ a ++ "." ++ b) :
    Misses (Key.read s).way [a, b] := by
  obtain ⟨rest, fuel, parts, steps_read⟩ := Key.of_read_member read
  have m_small : Text.lowercase m = m := Text.lowercase_of_small fun c mem =>
    small c (by rw [parts]; simp [mem])
  rw [read]
  by_cases same : m = b
  · subst same
    refine .inr ⟨steps, ?_, rfl⟩
    rintro rfl
    obtain rfl := eq_nil_of_readSteps? steps_read
    refine other (String.toList_injective ?_)
    rw [parts]
    simp
  · exact .inl (.inr (.inl (m_small.symm ▸ same)))

end Small

/-! ## The names of the settings -/

namespace Leaf

variable {k : Kind}

/-- A setting has a name of its own, or one within telemetry. -/
theorem path_cases (f : Leaf k) :
    f.isTelemetry = false ∧ f.path = [f.key] ∨
      f.isTelemetry = true ∧
        ∃ name, f.path = [telemetryName, name] ∧ f.key = telemetryName ++ "." ++ name := by
  cases f with
  | defaultNamespace | eventChannelCapacity => exact .inl ⟨rfl, rfl⟩
  | _ => exact .inr ⟨rfl, _, rfl, rfl⟩

/-- What stands under the names of a setting is read as the setting. -/
theorem find?_of_find? {f : Leaf k} {t v : Tree} (found : t.find? f.path = some v) :
    f.find? t = some v := by
  obtain ⟨-, single⟩ | ⟨-, name, double, -⟩ := f.path_cases
  · rw [find?, single]
    rwa [single, Tree.find?_singleton] at found
  · rw [find?, double]
    rw [double, Tree.find?_pair] at found
    obtain ⟨members, group, found⟩ := found
    exact Option.bind_eq_some_iff.2 ⟨_, group, found⟩

theorem read?_of_find? {f : Leaf k} {t v : Tree} (found : t.find? f.path = some v) :
    f.read? t = k.read? v := by
  rw [read?, find?_of_find? found]

/-- **A setting is reached by its names**, one after the other. -/
theorem way_read_key (f : Leaf k) : (Key.read f.key).way = f.path.map .member := by
  cases f <;> decide +kernel

/-- They are in small letters. -/
theorem lowercase_of_mem_path (f : Leaf k) : ∀ m ∈ f.path, Text.lowercase m = m := by
  have plain : (f.path.all fun m => m.toList.all fun c =>
      c.toNat < 65 || (90 < c.toNat && c.toNat < 128)) = true := by
    cases f <;> decide +kernel
  refine fun m mem => Text.lowercase_of_small fun c inside => Text.isSmall_of_ascii ?_
  simpa using List.all_eq_true.1 (List.all_eq_true.1 plain m mem) c inside

theorem map_lowercase_path (f : Leaf k) : f.path.map Text.lowercase = f.path :=
  (List.map_congr_left f.lowercase_of_mem_path).trans (List.map_id' _)

/-- **What is assigned to a setting** stands under its names. -/
theorem find?_assign_key (f : Leaf k) {t v : Tree} (single : v.isCollection = false) :
    (t.assign (.read f.key) v).find? f.path = some v := by
  have through := Tree.find?_assignSteps_through (t := t) single f.path []
  rw [f.map_lowercase_path, List.append_nil, ← f.way_read_key] at through
  exact through.trans (congrArg some (Tree.overlay_of_not_collection single _))

/-- **The names of different settings part.** -/
theorem apart_of_key_ne {k' : Kind} {f : Leaf k} {g : Leaf k'} (other : f.key ≠ g.key) :
    Apart (f.path.map .member) g.path := by
  refine Tree.apart_of_zip f.lowercase_of_mem_path ?_
  cases f <;> cases g <;> first | decide | exact absurd rfl other

/-- A setting of its own parts from telemetry. -/
theorem apart_telemetryName {f : Leaf k} (own : f.isTelemetry = false) :
    Apart (f.path.map .member) [telemetryName] := by
  refine Tree.apart_of_zip f.lowercase_of_mem_path ?_
  cases f with
  | defaultNamespace | eventChannelCapacity => decide
  | _ => cases own

theorem telemetryName_lt_key {f : Leaf k} (telemetry : f.isTelemetry = true) :
    telemetryName < f.key := by
  cases f with
  | defaultNamespace => cases telemetry
  | eventChannelCapacity => cases telemetry
  | _ => decide +kernel

/-- **A name that comes later misses a setting**, unless it makes a list of telemetry. -/
theorem misses_of_lt {s : String} (f : Leaf k) (small : ∀ c ∈ s.toList, IsSmall c)
    (later : f.key < s) (named : ∀ n rest, Key.read s ≠ ⟨telemetryName, .item n :: rest⟩) :
    Misses (Key.read s).way f.path := by
  obtain ⟨-, single⟩ | ⟨telemetry, name, double, key⟩ := f.path_cases
  · exact single ▸ misses_single small (String.ne_of_lt later).symm
  · rw [double]
    refine (apart_or_read small).elim .inl fun ⟨steps, read⟩ => ?_
    cases steps with
    | nil =>
      -- telemetry itself comes before its settings
      have first : telemetryName = s := Key.first_eq read
      exact absurd (String.lt_trans (first ▸ telemetryName_lt_key telemetry) later)
        (String.lt_irrefl s)
    | cons step steps =>
      cases step with
      | item n => exact absurd read (named n steps)
      | member m => exact misses_pair small read (key ▸ (String.ne_of_lt later).symm)

end Leaf

end Settings

end DeployChecks
