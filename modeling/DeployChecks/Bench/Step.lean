import DeployChecks.Bench.World

/-!
# Bench/Step — a run on the bench, step by step

Between the passes the tasks are run, lost or put in by others, definitions come and go, and the
engine is restarted.  Main definitions: `Bench`, `Bench.Step`, `Bench.run`.
-/

namespace DeployChecks

open Trace (Context IdSource Span Tracer)

/-- **An engine on a bench, with its phase items.** -/
structure Bench where
  /-- What decides. -/
  ground : Bench.Ground
  /-- What watches. -/
  gallery : Bench.Gallery
  /-- The phase items. -/
  items : List PhaseItem

namespace Bench

/-- **Which statuses the host keeps after a pass.** -/
inductive Save where
  /-- Those of a pass that came to its end. -/
  | complete
  /-- Those of an interrupted pass too. -/
  | always
  /-- None. -/
  | never
  deriving DecidableEq

/-- **Something done on the bench.** -/
inductive Step where
  /-- A pass over an item. -/
  | pass (item : Nat) (group : CheckGroup) (context : Context) (cancelled : Bool)
      (tripwire : Option Tripwire) (save : Save)
  /-- A definition is registered. -/
  | define (d : TaskDefinition)
  /-- A definition is unregistered. -/
  | undefine (key : DefinitionKey)
  /-- Whoever runs a task reports on it. -/
  | report (key : TaskKey) (state : TaskState) (message : String)
  /-- A task is lost. -/
  | remove (key : TaskKey)
  /-- A look at a task. -/
  | peek (key : TaskKey)
  /-- Somebody else puts in a task. -/
  | put (t : Task)
  /-- The host stores statuses. -/
  | setStatuses (item : Nat) (group : CheckGroup) (statuses : List ItemStatus)
  /-- A look at the statuses of an item. -/
  | inspect (item : Nat)
  /-- An item is replaced by another, which takes over its statuses. -/
  | replace (item : Nat) (other : PhaseItem)
  /-- Asking for a task fails, or works again. -/
  | breakGet (name : String) (fault : Option StoreFault)
  /-- Creating tasks of a definition fails, or works again. -/
  | breakCreate (definition : String) (fault : Option CreateFault)
  /-- Resolving a name fails, or works again. -/
  | breakResolve (name : String) (fault : Option ResolveFault)
  /-- Announcing events fails, or works again. -/
  | breakSink (fault : Option EventError)
  /-- Opening spans fails, or works again. -/
  | breakOpen (fault : Option String)
  /-- Asking for spans fails, or works again. -/
  | breakGetOrOpen (fault : Option String)
  /-- Looking for spans fails, or works again. -/
  | breakLookup (fault : Option String)
  /-- Giving up spans fails, or works again. -/
  | breakUnbind (fault : Option String)
  /-- A new engine with an empty span registry. -/
  | restart

/-- **The answer to a step.** -/
inductive Answer where
  /-- The result of a pass, with its journal. -/
  | pass (result : Except PassError Reconciliation) (journal : List Entry)
  /-- The number of definitions. -/
  | definitions (n : Nat)
  /-- Something was there and is gone. -/
  | removed (found : Bool)
  /-- There is such a task. -/
  | found (found : Bool)
  /-- A task. -/
  | task (t : Option Task)
  /-- A task as it was stored. -/
  | stored (t : Except StoreError Task)
  /-- The statuses of an item. -/
  | statuses (s : PhaseStatuses)
  /-- Nothing to tell. -/
  | nothing

/-- **What a step leaves behind.** -/
structure Report where
  /-- The answer. -/
  answer : Answer
  /-- The log records. -/
  notes : List Log.Record
  /-- The spans that ended. -/
  spans : List Span

/-- Put a fault in, or take it out. -/
def setFault {α : Type} (m : Keyed String α) (k : String) : Option α → Keyed String α
  | some f => m.insert k f
  | none => m.erase k

/-- A bench with nothing on it but a registry of definitions. -/
def new (registry : DefinitionRegistry) (ids : IdSource) (clock : Timestamp) : Bench where
  ground :=
    { store := .empty
      registry := registry
      faults := ⟨{}, {}, {}⟩
      clock := clock
      creations := 0
      cancelled := false
      tripwire := none }
  gallery :=
    { spans := .empty (.new ids .followParent)
      channel := ⟨.ofCapacity EventChannel.standardCapacity 0, 0⟩
      openFault := none
      getOrOpenFault := none
      lookupFault := none
      unbindFault := none
      sinkFault := none }
  items := []

/-- The statuses of an item. -/
def statusesOf (b : Bench) (item : Nat) : PhaseStatuses :=
  match b.items[item]? with
  | some i => i.status
  | none => .empty

/-- Change an item. -/
def changeItem (b : Bench) (item : Nat) (f : PhaseItem → PhaseItem) : Bench :=
  { b with items := b.items.modify item f }

/-- Change what is out of order in the backend. -/
def changeFaults (b : Bench) (f : Faults → Faults) : Bench :=
  { b with ground := { b.ground with faults := f b.ground.faults } }

/-- **The statuses that the host keeps** of a pass. -/
def Save.kept (s : Save) : Except PassError Reconciliation → Option (List ItemStatus)
  | .ok r => if s = .never then none else some r.statuses
  | .error e => if s = .always then some e.partialStatuses else none

/-- **A pass on the bench.** -/
def runPass (b : Bench) (item : Nat) (group : CheckGroup) (context : Context) (cancelled : Bool)
    (tripwire : Option Tripwire) (save : Save) : Answer × Bench :=
  match b.items[item]? with
  | none => (.nothing, b)
  | some i =>
    let ground := { b.ground with cancelled, tripwire }
    let (result, w) := engine.reconcile ⟨context, i, group⟩ ⟨ground, b.gallery, []⟩
    let b := { b with ground := w.backend, gallery := w.observer }
    (.pass result w.journal,
      match save.kept result with
      | some statuses => b.changeItem item (·.setStatuses group statuses)
      | none => b)

/-- **One step**, without the spans that ended. -/
def act (b : Bench) : Step → Answer × List Log.Record × Bench
  | .pass item group context cancelled tripwire save =>
    let (answer, b) := b.runPass item group context cancelled tripwire save
    let notes := match answer with
      | .pass _ journal => journal.filterMap Entry.note?
      | _ => []
    (answer, notes, b)
  | .define d =>
    let registry := b.ground.registry.register d
    (.definitions registry.size, [DefinitionRegistry.registerNote d],
      { b with ground := { b.ground with registry } })
  | .undefine key =>
    let (d, registry) := b.ground.registry.unregister key
    (.removed d.isSome, [], { b with ground := { b.ground with registry } })
  | .report key state message =>
    let (found, store) := b.ground.store.report key state message b.ground.clock
    (.found found, [], { b with ground := { b.ground with store } })
  | .remove key =>
    let (t, store) := b.ground.store.remove key
    (.removed t.isSome, [], { b with ground := { b.ground with store } })
  | .peek key => (.task (b.ground.store.peek key), [], b)
  | .put t =>
    let (answer, store) := b.ground.store.create t
    (.stored answer, [], { b with ground := { b.ground with store } })
  | .setStatuses item group statuses =>
    let b := b.changeItem item (·.setStatuses group statuses)
    (.statuses (b.statusesOf item), [], b)
  | .inspect item => (.statuses (b.statusesOf item), [], b)
  | .replace item other =>
    let b := b.changeItem item fun old => other.withStatus old.status
    (.statuses (b.statusesOf item), [], b)
  | .breakGet name fault =>
    (.nothing, [], b.changeFaults fun f => { f with get := setFault f.get name fault })
  | .breakCreate name fault =>
    (.nothing, [], b.changeFaults fun f => { f with create := setFault f.create name fault })
  | .breakResolve name fault =>
    (.nothing, [], b.changeFaults fun f => { f with resolve := setFault f.resolve name fault })
  | .breakSink fault => (.nothing, [], { b with gallery := { b.gallery with sinkFault := fault } })
  | .breakOpen fault => (.nothing, [], { b with gallery := { b.gallery with openFault := fault } })
  | .breakGetOrOpen fault =>
    (.nothing, [], { b with gallery := { b.gallery with getOrOpenFault := fault } })
  | .breakLookup fault =>
    (.nothing, [], { b with gallery := { b.gallery with lookupFault := fault } })
  | .breakUnbind fault =>
    (.nothing, [], { b with gallery := { b.gallery with unbindFault := fault } })
  | .restart =>
    (.nothing, [],
      { b with gallery := { b.gallery with spans := .empty b.gallery.spans.release } })

/-- The spans that are over. -/
def exported (b : Bench) : List Span := b.gallery.spans.tracer.exported

/-- **One step** at a time. -/
def run (b : Bench) (now : Timestamp) (s : Step) : Report × Bench :=
  let (answer, notes, after) := { b with ground := { b.ground with clock := now } }.act s
  (⟨answer, notes, after.exported.drop b.exported.length⟩, after)

/-- **The keys of the open spans**, by namespace and name. -/
def boundKeys (b : Bench) : List SpanKey :=
  b.gallery.spans.bound.keys.mergeSort fun a c => a.ns < c.ns || (a.ns = c.ns && a.name ≤ c.name)

end Bench

end DeployChecks
