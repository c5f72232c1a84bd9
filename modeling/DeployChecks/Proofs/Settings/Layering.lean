import DeployChecks.Proofs.Settings.Variables
import DeployChecks.Proofs.Settings.Written

/-!
# Proofs/Settings/Layering — settings in layers

Variables lie over a file, and the file over the defaults, setting by setting.  Two inputs.

**Under its names** (`find?_path_assignAll`).  The names of different settings part, so a tree holds
for a setting what its variable says, or what the file held before, whatever else is set.

**Within telemetry** (`find?_telemetry_of_sets`).  The settings of telemetry may be written in the
file as a list in the order of their names.  A variable of telemetry puts a group in the place of
the list, and no setting is found at its place any more: this is the one case in which a setting
depends on the variables of others (`Held.listed`).

Main definitions: `Takes`, `Layered`; main statement: `settings_are_layered`, and the case
`a_list_gives_way_to_a_variable`.
-/

namespace DeployChecks

namespace Settings

variable {k : Kind} {f : Leaf k} {v t below : Tree} {env : StringMap String} {text : String}
  {path : List String}

/-! ## What the layers hold -/

/-- Settings that lead elsewhere change nothing. -/
theorem find?_assignAll_apart {l : List (String × Tree)}
    (elsewhere : ∀ e ∈ l, e.2.isCollection = false ∧ Tree.Apart (Key.read e.1).way path) :
    (t.assignAll l).find? path = t.find? path := by
  induction l generalizing t with
  | nil => rfl
  | cons e l ih =>
    obtain ⟨⟨single, apart⟩, elsewhere⟩ := List.forall_mem_cons.1 elsewhere
    exact (ih elsewhere).trans (Tree.find?_assignSteps_apart single apart)

/-- What variables say of settings. -/
theorem exists_leaf_of_mem (leaves : NamesLeaves env) {e : String × Tree}
    (mem : e ∈ ofVariables env) :
    e.2.isCollection = false ∧ ∃ k, ∃ f : Leaf k, f.key = e.1 := by
  obtain ⟨x, from_env, names, same⟩ := exists_of_mem_ofVariables mem
  exact ⟨same ▸ isCollection_variableValue x.2, leaves x from_env e.1 names⟩

/-- **Under the names of a setting** stands what its variable says, or what stood there before. -/
theorem find?_path_assignAll (leaves : NamesLeaves env) (f : Leaf k) :
    (t.assignAll (ofVariables env)).find? f.path
      = ((textOf? env f.key).map variableValue).or (t.find? f.path) := by
  have elsewhere (e) (mem : e ∈ ofVariables env) (other : e.1 ≠ f.key) :
      e.2.isCollection = false ∧ Tree.Apart (Key.read e.1).way f.path := by
    obtain ⟨single, k', g, key⟩ := exists_leaf_of_mem leaves mem
    rw [← key] at other ⊢
    exact ⟨single, g.way_read_key ▸ Leaf.apart_of_key_ne other⟩
  rw [← lookup_ofVariables]
  cases found : (ofVariables env).lookup f.key with
  | none =>
    refine find?_assignAll_apart fun e mem => elsewhere e mem ?_
    exact (bne_iff_ne.1 (List.lookup_eq_none_iff.1 found e mem)).symm
  | some v =>
    obtain ⟨before, after, split, -⟩ := List.lookup_eq_some_iff.1 found
    have sorted := sorted_ofVariables env
    rw [split] at sorted elsewhere ⊢
    obtain ⟨-, sorted, -⟩ := List.pairwise_append.1 sorted
    obtain ⟨later, -⟩ := List.pairwise_cons.1 sorted
    have single : v.isCollection = false :=
      (exists_leaf_of_mem leaves (split ▸ List.mem_append_right _ List.mem_cons_self)).1
    rw [Tree.assignAll, List.foldl_append, List.foldl_cons]
    refine (find?_assignAll_apart fun e mem => elsewhere e ?_ ?_).trans
      (f.find?_assign_key single)
    · exact List.mem_append_right _ (List.mem_cons_of_mem _ mem)
    · exact (String.ne_of_lt (later e mem)).symm

/-- A variable sets a setting of telemetry. -/
def SetsTelemetry (env : StringMap String) : Prop :=
  ∃ k, ∃ f : Leaf k, f.isTelemetry = true ∧ ∃ text, textOf? env f.key = some text

/-- A variable of telemetry makes a group of it. -/
theorem find?_telemetry_of_sets (leaves : NamesLeaves env) (sets : SetsTelemetry env) :
    ∃ members, (t.assignAll (ofVariables env)).find? [telemetryName] = some (.table members) := by
  obtain ⟨k, f, telemetry, text, set⟩ := sets
  obtain ⟨own, -⟩ | ⟨-, name, path, -⟩ := f.path_cases
  · cases own.symm.trans telemetry
  · have found := find?_path_assignAll (t := t) leaves f
    rw [set, Option.map_some, Option.some_or, path, Tree.find?_pair] at found
    obtain ⟨members, group, -⟩ := found
    exact ⟨members, Tree.find?_singleton.trans group⟩

/-- Without one it stays as it is. -/
theorem find?_telemetry_of_not_sets (leaves : NamesLeaves env) (sets : ¬SetsTelemetry env) :
    (t.assignAll (ofVariables env)).find? [telemetryName] = t.find? [telemetryName] := by
  refine find?_assignAll_apart fun e mem => ?_
  obtain ⟨single, k, f, key⟩ := exists_leaf_of_mem leaves mem
  have own : f.isTelemetry = false := by
    rw [Bool.eq_false_iff]
    intro telemetry
    have found := lookup_of_mem_ofVariables mem
    rw [lookup_ofVariables, ← key] at found
    obtain ⟨text, set, -⟩ := Option.map_eq_some_iff.1 found
    exact sets ⟨k, f, telemetry, text, set⟩
  rw [← key, f.way_read_key]
  exact ⟨single, Leaf.apart_telemetryName own⟩

/-! ## Where a setting comes from -/

/-- **What the file holds for a setting.** -/
inductive Held (below : Tree) (env : StringMap String) (f : Leaf k) (v : Tree) : Prop where
  /-- It stands under the names of the setting. -/
  | named : below.find? f.path = some v → Held below env f v
  /-- It stands at the place of the setting in a list in place of the group of telemetry.  The first
  variable of telemetry puts a group there, and then the list counts for nothing. -/
  | listed {items : List Tree} {name : String} : f.path = [telemetryName, name] →
    below.find? [telemetryName] = some (.list items) → ¬SetsTelemetry env →
    (TelemetrySettings.names.zip items).lookup name = some v → Held below env f v

/-- **What a setting is**: as its variable says, else as the file says, else the default. -/
inductive Takes (below : Tree) (env : StringMap String) (f : Leaf k) (x : k.Value) : Prop where
  /-- Its variable is set. -/
  | fromVariable {text : String} : textOf? env f.key = some text →
    k.read? (variableValue text) = some x → Takes below env f x
  /-- The file holds it. -/
  | fromFile {v : Tree} : textOf? env f.key = none → Held below env f v → k.read? v = some x →
    Takes below env f x
  /-- Neither is so. -/
  | standard : textOf? env f.key = none → (∀ v, ¬Held below env f v) → f.get .standard = x →
    Takes below env f x

/-- **Settings in layers**, each for itself. -/
structure Layered (below : Tree) (env : StringMap String) (s : EngineSettings) : Prop where
  /-- Each setting is as the uppermost layer says that says anything. -/
  settings : ∀ {k : Kind} (f : Leaf k), Takes below env f (f.get s)
  /-- What the file holds of telemetry can be entered, or a variable puts a group in its place. -/
  entered : SetsTelemetry env ∨
    ∀ v, below.find? [telemetryName] = some v → v.isCollection = true

/-- A setting whose variable is not set is found where the file holds it. -/
theorem find?_eq_some_iff_held (leaves : NamesLeaves env) (unset : textOf? env f.key = none) :
    f.find? (below.assignAll (ofVariables env)) = some v ↔ Held below env f v := by
  have found := find?_path_assignAll (t := below) leaves f
  rw [unset, Option.map_none, Option.none_or] at found
  constructor
  · intro seen
    obtain ⟨-, single⟩ | ⟨-, name, double, -⟩ := f.path_cases
    · refine .named (found.symm.trans ?_)
      rw [single, Tree.find?_singleton]
      rwa [Leaf.find?, single] at seen
    · rw [Leaf.find?, double] at seen
      obtain ⟨inner, group, seen⟩ := Option.bind_eq_some_iff.1 seen
      rw [← Tree.find?_singleton] at group
      cases inner with
      | table members =>
        refine .named (found.symm.trans ?_)
        rw [double, Tree.find?_pair]
        exact ⟨members, Tree.find?_singleton.symm.trans group, seen⟩
      | list items =>
        have single : ¬SetsTelemetry env := fun sets => by
          obtain ⟨members, other⟩ := find?_telemetry_of_sets (t := below) leaves sets
          cases other.symm.trans group
        have list := (find?_telemetry_of_not_sets leaves single).symm.trans group
        exact .listed double list single seen
      | _ => cases seen
  · rintro (named | ⟨double, list, single, seen⟩)
    · exact Leaf.find?_of_find? (found.trans named)
    · rw [← find?_telemetry_of_not_sets leaves single, Tree.find?_singleton] at list
      rw [Leaf.find?, double]
      exact Option.bind_eq_some_iff.2 ⟨_, list, seen⟩

/-- **A setting is read from both layers** as it is taken from them. -/
theorem read?_eq_some_iff_takes (leaves : NamesLeaves env) {x : k.Value} :
    f.read? (below.assignAll (ofVariables env)) = some x ↔ Takes below env f x := by
  cases set : textOf? env f.key with
  | some text =>
    have found := find?_path_assignAll (t := below) leaves f
    rw [set, Option.map_some, Option.some_or] at found
    rw [Leaf.read?_of_find? found]
    constructor
    · exact .fromVariable set
    · rintro (⟨set', read⟩ | ⟨unset⟩ | ⟨unset⟩)
      · rwa [Option.some.inj (set.symm.trans set')]
      · cases set.symm.trans unset
      · cases set.symm.trans unset
  | none =>
    have held (v) : f.find? (below.assignAll (ofVariables env)) = some v ↔ Held below env f v :=
      find?_eq_some_iff_held leaves set
    rw [Leaf.read?]
    cases found : f.find? (below.assignAll (ofVariables env)) with
    | some v =>
      constructor
      · exact .fromFile set ((held v).1 found)
      · rintro (⟨set'⟩ | ⟨-, there, read⟩ | ⟨-, absent⟩)
        · cases set.symm.trans set'
        · rwa [Option.some.inj (found.symm.trans ((held _).2 there))]
        · exact absurd ((held v).1 found) (absent v)
    | none =>
      have absent (v) : ¬Held below env f v := fun there => by
        cases found.symm.trans ((held v).2 there)
      constructor
      · exact fun same => .standard set absent (Option.some.inj same)
      · rintro (⟨set'⟩ | ⟨-, there⟩ | ⟨-, -, same⟩)
        · cases set.symm.trans set'
        · exact absurd there (absent _)
        · exact congrArg some same

/-- **Settings are read from both layers** if they are in layers. -/
theorem ofTree?_eq_some_iff_layered (leaves : NamesLeaves env) {s : EngineSettings} :
    EngineSettings.ofTree? (below.assignAll (ofVariables env)) = some s ↔ Layered below env s := by
  have entered : (∀ v, (below.assignAll (ofVariables env)).members.lookup telemetryName = some v →
      v.isCollection = true) ↔ SetsTelemetry env ∨
        ∀ v, below.find? [telemetryName] = some v → v.isCollection = true := by
    rw [← Tree.find?_singleton]
    by_cases sets : SetsTelemetry env
    · obtain ⟨members, group⟩ := find?_telemetry_of_sets (t := below) leaves sets
      refine iff_of_true (fun v found => ?_) (.inl sets)
      obtain rfl := Option.some.inj (group.symm.trans found)
      rfl
    · rw [find?_telemetry_of_not_sets leaves sets, or_iff_right sets]
  rw [EngineSettings.ofTree?_eq_some_iff, entered]
  constructor
  · exact fun ⟨entered, each⟩ => ⟨fun f => (read?_eq_some_iff_takes leaves).1 (each f), entered⟩
  · exact fun layered =>
      ⟨layered.entered, fun f => (read?_eq_some_iff_takes leaves).2 (layered.settings f)⟩

/-! ## What loading gives -/

/-- **What loading gives**, where some settings are written in the file. -/
structure LoadsLayers (l : List (String × Tree)) (env : StringMap String)
    (result : Except SettingsError EngineSettings) : Prop where
  /-- Settings come out if they are in layers and allowed. -/
  loaded : ∀ s, result = .ok s ↔ Layered (fileLayer l) env s ∧ s.IsValid
  /-- They are refused if they are in layers and not allowed; the first condition that they break is
  named. -/
  refused : ∀ field reason, result = .error (.invalid field reason) ↔
    ∃ s, Layered (fileLayer l) env s ∧ s.FirstBreach field reason
  /-- Nothing is read if some setting cannot be. -/
  unread : result = .error .load ↔ ¬∃ s, Layered (fileLayer l) env s
  /-- The file holds for a setting what is written under its names, if it is written plainly. -/
  written : ∀ {k : Kind} (f : Leaf k) (v : Tree), IsPlain f.path l → v.isCollection = false →
    ((fileLayer l).find? f.path = some v ↔ (Tree.table l).find? f.path = some v)

/-- **Settings are layered**, each for itself, and come out only if they are allowed.  What can be
read as a file, and what it says then, is taken as it comes. -/
theorem settings_are_layered {φ : Type} [Readable φ] {file : Option φ} (leaves : NamesLeaves env) :
    (written? file = none → EngineSettings.load file env = .error .load) ∧
      ∀ l, written? file = some l → LoadsLayers l env (EngineSettings.load file env) := by
  refine ⟨EngineSettings.load_of_unreadable, fun l readable => ?_⟩
  have layered (s) : EngineSettings.ofTree? ((fileLayer l).assignAll (ofVariables env)) = some s ↔
      Layered (fileLayer l) env s := ofTree?_eq_some_iff_layered leaves
  rw [EngineSettings.load_eq readable]
  cases read : EngineSettings.ofTree? ((fileLayer l).assignAll (ofVariables env)) with
  | none =>
    have none (s) : ¬Layered (fileLayer l) env s := fun there => by
      cases read.symm.trans ((layered s).2 there)
    exact
      { loaded := fun s => iff_of_false nofun fun there => none s there.1
        refused := fun field reason => iff_of_false nofun fun ⟨s, there, _⟩ => none s there
        unread := iff_of_true rfl fun ⟨s, there⟩ => none s there
        written := fun f _ plain single => find?_path_of_isPlain f plain single }
  | some s =>
    have here := (layered s).1 read
    have unique {s'} (there : Layered (fileLayer l) env s') : s = s' :=
      Option.some.inj (read.symm.trans ((layered s').2 there))
    refine
      { loaded := fun s' => ?_
        refused := fun field reason => ?_
        unread := ?_
        written := fun f _ plain single => find?_path_of_isPlain f plain single }
    · rw [EngineSettings.checked_eq_ok_iff]
      constructor
      · rintro ⟨rfl, valid⟩
        exact ⟨here, valid⟩
      · rintro ⟨there, valid⟩
        obtain rfl := unique there
        exact ⟨rfl, valid⟩
    · rw [EngineSettings.checked_eq_error_iff]
      constructor
      · rintro ⟨_, _, ⟨⟩, breach⟩
        exact ⟨s, here, breach⟩
      · rintro ⟨s', there, breach⟩
        obtain rfl := unique there
        exact ⟨_, _, rfl, breach⟩
    · rw [EngineSettings.checked_eq_error_iff]
      refine iff_of_false ?_ fun none => none ⟨s, here⟩
      rintro ⟨_, _, ⟨⟩, -⟩

/-! ## One file and one variable -/

/-- A file in lines. -/
def fileOf (lines : String) : File := ⟨"toml", some lines⟩

/-- A part of telemetry comes from the file, another one from a variable, and the rest stays as it
is without both. -/
theorem settings_are_layered_within_telemetry :
    let file := fileOf "default_namespace = 'platform'\n[telemetry]\nsample_rate = 0.25\n"
    let env := oneVariable "LIFECYCLE_TASKS__TELEMETRY__SERVICE_NAME" "checks"
    EngineSettings.load (some file) env = .ok
        ⟨"platform", 1000, { TelemetrySettings.standard with
          serviceName := "checks", sampleRate := .ofDecimal false 25 (-2) }⟩ ∧
      NamesLeaves env ∧
      (written? (some file) = none → EngineSettings.load (some file) env = .error .load) ∧
      ∀ l, written? (some file) = some l →
        LoadsLayers l env (EngineSettings.load (some file) env) := by
  intro file env
  have leaves : NamesLeaves env := namesLeaves_oneVariable .serviceName (by decide +kernel)
  exact ⟨by decide +kernel, leaves, settings_are_layered leaves⟩

/-- **A list gives way to a variable**: written as a list, telemetry is enabled and has an endpoint
of its own; once a variable names the service, it has neither. -/
theorem a_list_gives_way_to_a_variable :
    let file := fileOf "telemetry = [true, 'http://collector:4317']\n"
    let listed := { TelemetrySettings.standard with
      enabled := true, otlpEndpoint := "http://collector:4317" }
    let named := { TelemetrySettings.standard with serviceName := "checks" }
    let env := oneVariable "LIFECYCLE_TASKS__TELEMETRY__SERVICE_NAME" "checks"
    textOf? env Leaf.enabled.key = none ∧ textOf? env Leaf.otlpEndpoint.key = none ∧
      EngineSettings.load (some file) .empty
        = .ok { EngineSettings.standard with telemetry := listed } ∧
      EngineSettings.load (some file) env
        = .ok { EngineSettings.standard with telemetry := named } := by
  decide +kernel

end Settings

end DeployChecks
