import DeployChecks.Proofs.Lists
import DeployChecks.Proofs.Settings.Keys

/-!
# Proofs/Settings/Variables — the variable that sets a setting

Variables whose names differ may name one setting, and then the last of them counts.  Main
definition: `textOf?`; main statement: `lookup_ofVariables`.
-/

namespace DeployChecks

namespace StringMap

variable {α : Type}

theorem ofList_concat (l : List (String × α)) (e : String × α) :
    ofList (l ++ [e]) = (ofList l).insert e.1 e.2 := List.foldl_concat ..

end StringMap

namespace Settings

/-- **The text that variables give a setting**: that of the last variable that names it. -/
def textOf? (env : StringMap String) (key : String) : Option String :=
  (env.toList.filter fun e => variableSetting? e.1 = some key).getLast?.map Prod.snd

variable {env : StringMap String} {key : String}

/-- **What variables say of a setting** is read off the text that they give it. -/
theorem lookup_ofVariables :
    (ofVariables env).lookup key = (textOf? env key).map variableValue := by
  rw [ofVariables, textOf?]
  generalize env.toList = l
  induction l using List.reverseRecOn with
  | nil => rfl
  | append_singleton l e ih =>
    rw [List.filterMap_append, List.filter_append]
    cases names : variableSetting? e.1 with
    | none => simpa [names] using ih
    | some setting =>
      have one : ([e].filterMap fun e => (variableSetting? e.1).map fun name =>
          (name, variableValue e.2)) = [(setting, variableValue e.2)] := by simp [names]
      rw [one, StringMap.ofList_concat]
      refine (StringMap.find?_insert ..).trans ?_
      by_cases same : key = setting
      · simp [names, same]
      · simpa [names, Ne.symm same, StringMap.find?, same] using ih

/-- The settings are in order. -/
theorem sorted_ofVariables (env : StringMap String) :
    (ofVariables env).Pairwise fun a b => a.1 < b.1 := StringMap.sorted _

theorem lookup_of_mem_ofVariables {e : String × Tree} (mem : e ∈ ofVariables env) :
    (ofVariables env).lookup e.1 = some e.2 := by
  refine lookup_of_mem ?_ mem
  rw [List.Nodup, List.pairwise_map]
  exact (sorted_ofVariables env).imp fun less => String.ne_of_lt less

/-- A text comes from a variable. -/
theorem exists_of_textOf? {text : String} (set : textOf? env key = some text) :
    ∃ name, (name, text) ∈ env.toList ∧ variableSetting? name = some key := by
  obtain ⟨e, last, rfl⟩ := Option.map_eq_some_iff.1 set
  obtain ⟨mem, names⟩ := List.mem_filter.1 (List.mem_of_getLast? last)
  exact ⟨e.1, mem, of_decide_eq_true names⟩

/-- What variables say comes from a variable. -/
theorem exists_of_mem_ofVariables {e : String × Tree} (mem : e ∈ ofVariables env) :
    ∃ x ∈ env.toList, variableSetting? x.1 = some e.1 ∧ e.2 = variableValue x.2 := by
  have found := lookup_of_mem_ofVariables mem
  rw [lookup_ofVariables] at found
  obtain ⟨text, set, same⟩ := Option.map_eq_some_iff.1 found
  obtain ⟨name, mem, names⟩ := exists_of_textOf? set
  exact ⟨_, mem, names, same.symm⟩

/-- Variables give truth values, numbers and texts. -/
theorem isCollection_variableValue (text : String) :
    (variableValue text).isCollection = false := by
  unfold variableValue
  dsimp only
  split_ifs
  · rfl
  · rfl
  · split <;> rfl

/-! ## Variables that name settings -/

/-- **Variables that name settings**, and nothing above or below one. -/
def NamesLeaves (env : StringMap String) : Prop :=
  ∀ e ∈ env.toList, ∀ key, variableSetting? e.1 = some key → ∃ k, ∃ f : Leaf k, f.key = key

/-- **Variables that do not make a list of telemetry.** -/
def NamesTelemetry (env : StringMap String) : Prop :=
  ∀ e ∈ env.toList, ∀ key n rest, variableSetting? e.1 = some key →
    Key.read key ≠ ⟨telemetryName, .item n :: rest⟩

theorem NamesLeaves.namesTelemetry (leaves : NamesLeaves env) : NamesTelemetry env := by
  intro e mem key n rest names read
  obtain ⟨k, f, rfl⟩ := leaves e mem key names
  have way := f.way_read_key
  rw [read] at way
  have items : Step.item n ∈ f.path.map Step.member := way ▸ by simp [Key.way]
  obtain ⟨name, -, other⟩ := List.mem_map.1 items
  cases other

/-- One variable. -/
def oneVariable (name text : String) : StringMap String := StringMap.empty.insert name text

theorem namesLeaves_oneVariable {k : Kind} {name text : String} (f : Leaf k)
    (names : variableSetting? name = some f.key) : NamesLeaves (oneVariable name text) := by
  intro e mem key other
  obtain rfl : e = (name, text) := List.mem_singleton.1 mem
  exact ⟨k, f, Option.some.inj (names.symm.trans other)⟩

end Settings

end DeployChecks
