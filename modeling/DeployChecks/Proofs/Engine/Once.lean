import DeployChecks.Proofs.Engine.Invariant
import Mathlib.Data.List.Nodup

/-!
# Proofs/Engine/Once — what a pass does once, and when it does it twice

For one name a pass should create one task, open one span and announce one change; for one task it
should close and unbind one span.  A turn looks at the entries from before the pass, never at what
an earlier turn has done about the same name or the same task.  So a pass does these things once
exactly if no live name is declared twice, and no two live entries have the same task.  Main
definitions: `Deed`, `Release`, `Engine.callsAbout`, `Pass.liveNames`, `Pass.liveTasks`; main
statement: `acts_once_iff`.
-/

namespace DeployChecks

/-! ## What is counted -/

/-- **What a pass should do once for a name.** -/
inductive Deed where
  /-- Create a task. -/
  | create
  /-- Open a span. -/
  | openSpan
  /-- Announce a change of state. -/
  | change
  deriving DecidableEq

/-- The call that does it. -/
def Deed.isDoneBy : Deed → Call → Bool
  | create, .create _ => true
  | openSpan, .openSpan _ => true
  | change, .emit event => event.reason == PhaseEvent.statusChanged
  | _, _ => false

/-- The call may do one. -/
@[simp] def Call.isDeed : Call → Bool
  | create _ | openSpan _ | emit _ => true
  | get _ _ | resolve _ _ | getOrOpen _ | lookup _ | close _ _ _ | unbind _ => false

namespace Deed

variable (deed : Deed)

/-- Asking and giving up is no deed. -/
@[simp] theorem isDoneBy_eq_false {c : Call} (other : ¬c.isDeed) : deed.isDoneBy c = false := by
  cases c <;> cases deed <;> first | rfl | exact absurd rfl other

@[simp] theorem isDoneBy_failed (item : PhaseItem) (phase : Phase) (severity : Severity)
    (message : String) (now : Timestamp) :
    deed.isDoneBy (.emit (.about item phase severity PhaseEvent.failed message now)) = false := by
  cases deed <;> simp [isDoneBy, PhaseEvent.about, PhaseEvent.failed, PhaseEvent.statusChanged]

@[simp] theorem isDoneBy_changed (item : PhaseItem) (phase : Phase) (severity : Severity)
    (message : String) (now : Timestamp) :
    deed.isDoneBy (.emit (.about item phase severity PhaseEvent.statusChanged message now))
      = (deed == .change) := by
  cases deed <;> simp [isDoneBy, PhaseEvent.about]

/-- Creating a task and opening its span is one deed each. -/
theorem toNat_created (t : Task) (key : SpanKey) :
    (deed.isDoneBy (.create t)).toNat + (deed.isDoneBy (.openSpan key)).toNat
      = (deed != .change).toNat := by
  cases deed <;> rfl

end Deed

/-- **What a pass should do once for a task**, with the span of its key. -/
inductive Release where
  /-- Close it. -/
  | close
  /-- Unbind it. -/
  | unbind
  deriving DecidableEq

/-- The call that does it. -/
def Release.isDoneBy (key : SpanKey) : Release → Call → Bool
  | close, .close k _ _ => k == key
  | unbind, .unbind k => k == key
  | _, _ => false

/-- The call may do one. -/
@[simp] def Call.isRelease : Call → Bool
  | close _ _ _ | unbind _ => true
  | get _ _ | create _ | resolve _ _ | openSpan _ | getOrOpen _ | lookup _ | emit _ => false

namespace Release

variable (release : Release) (key : SpanKey)

/-- No other call releases a span. -/
@[simp] theorem isDoneBy_eq_false {c : Call} (other : ¬c.isRelease) :
    release.isDoneBy key c = false := by
  cases c <;> cases release <;> first | rfl | exact absurd rfl other

/-- Closing a span and unbinding it is one release each. -/
theorem toNat_released (k : SpanKey) (events : List Trace.SpanEvent) (status : Trace.SpanStatus) :
    (release.isDoneBy key (.close k events status)).toNat
      + (release.isDoneBy key (.unbind k)).toNat = (k == key).toNat := by
  cases release
  · exact Nat.add_zero _
  · exact Nat.zero_add _

end Release

namespace Pass

/-- The entry of a definition is still to be worked on. -/
def isLive (p : Pass) (definition : String) : Bool :=
  !(statusOrFresh definition (p.item.statuses p.group)).isTerminal

/-- **The names still to be worked on**, as they are declared. -/
def liveNames (p : Pass) : List String := (p.item.declared p.group).filter p.isLive

/-- **The tasks to be asked for**, as their definitions are declared. -/
def liveTasks (p : Pass) : List String :=
  ((p.liveNames.map (statusOrFresh · (p.item.statuses p.group))).filter (·.hasTask)).map (·.task)

end Pass

namespace Engine

variable {σ τ : Type}

/-- **The turns of a pass**, each with the calls that it adds. -/
def trail (e : Engine σ τ) (p : Pass) (prior : List ItemStatus) :
    List String → World σ τ → List (String × List Call)
  | [], _ => []
  | definition :: rest, w =>
    let r := e.turn p prior definition w
    (definition, r.2.scene.calls.drop w.scene.calls.length) ::
      match r.1 with
      | .ok _ => e.trail p prior rest r.2
      | .error _ => []

/-- **The calls that a pass adds.** -/
def callsIn (e : Engine σ τ) (p : Pass) (w : World σ τ) : List Call :=
  (e.reconcile p w).2.scene.calls.drop w.scene.calls.length

/-- **The calls that the turns of one name add.** -/
def callsAbout (e : Engine σ τ) (p : Pass) (w : World σ τ) (definition : String) : List Call :=
  ((e.trail p (p.item.statuses p.group) (p.item.declared p.group) w).filter
    (·.1 = definition)).flatMap (·.2)

/-- Asking for a task gives that task. -/
def IsFaithful (e : Engine σ τ) : Prop :=
  ∀ ns name s t, (e.backend.get ns name s).1.1 = some (.ok t) → t.ns = ns ∧ t.name = name

variable (e : Engine σ τ) (p : Pass) (prior : List ItemStatus)

/-- What the turns add is what the pass adds. -/
theorem calls_visitAll (definitions : List String) (r : Reconciliation) (w : World σ τ) :
    (e.visitAll p prior r definitions w).2.scene.calls
      = w.scene.calls ++ (e.trail p prior definitions w).flatMap (·.2) := by
  induction definitions generalizing r w with
  | nil => simp [visitAll, Run.map_apply, trail]
  | cons definition rest ih =>
    obtain ⟨more, grow⟩ := (e.turn_turn p prior definition w).calls_grow
    rw [visitAll_cons, trail]
    generalize e.turn p prior definition w = t at grow
    obtain ⟨result, w₁⟩ := t
    cases result with
    | ok o =>
      have later := ih (r.record o) w₁
      rw [← grow, List.append_assoc] at later
      simpa [← grow] using later
    | error i => simp [Run.map_apply, scene_interrupted, ← grow]

theorem callsIn_eq (w : World σ τ) :
    e.callsIn p w
      = (e.trail p (p.item.statuses p.group) (p.item.declared p.group) w).flatMap (·.2) := by
  rw [callsIn, reconcile, calls_visitAll, List.drop_left]

/-! ## From one turn to all -/

/-- **How often a test holds** of the calls of turns. -/
def tally (f : String → Call → Bool) (turns : List (String × List Call)) : Nat :=
  turns.foldr (fun x n => x.2.countP (f x.1) + n) 0

theorem tally_cons (f : String → Call → Bool) (x : String × List Call)
    (turns : List (String × List Call)) :
    tally f (x :: turns) = x.2.countP (f x.1) + tally f turns := rfl

theorem countP_flatMap_calls (f : Call → Bool) (turns : List (String × List Call)) :
    (turns.flatMap (·.2)).countP f = tally (fun _ => f) turns := by
  induction turns with
  | nil => rfl
  | cons x rest ih => rw [List.flatMap_cons, List.countP_append, ih, tally_cons]

/-- What every turn does as often as a test says at most, the turns do as often at most. -/
theorem tally_trail_le (f : String → Call → Bool) (test : String → Bool)
    (turn : ∀ {definition : String} {s s' : Scene σ τ} {result : Except Interruption Outcome},
      Turn e p prior definition s result s' → s'.calls.countP (f definition)
        ≤ s.calls.countP (f definition) + (test definition).toNat)
    (definitions : List String) (w : World σ τ) :
    tally f (e.trail p prior definitions w) ≤ definitions.countP test := by
  induction definitions generalizing w with
  | nil => exact Nat.zero_le _
  | cons definition rest ih =>
    have one := turn (e.turn_turn p prior definition w)
    obtain ⟨more, grow⟩ := (e.turn_turn p prior definition w).calls_grow
    rw [trail]
    generalize e.turn p prior definition w = t at one grow
    rw [← grow, List.countP_append, Nat.add_le_add_iff_left] at one
    rw [← grow, List.drop_left, tally_cons, List.countP_cons, Nat.add_comm]
    refine Nat.add_le_add ?_ (by cases h : test definition <;> simpa [h] using one)
    obtain ⟨result, w₁⟩ := t
    cases result with
    | ok o => exact ih w₁
    | error i => exact Nat.zero_le _

/-- What every turn does exactly as often as a test says, without ever stopping the pass, the turns
do as often. -/
theorem tally_trail_eq (f : String → Call → Bool) (test : String → Bool)
    (turn : ∀ {definition : String} {s s' : Scene σ τ} {result : Except Interruption Outcome},
      Turn e p prior definition s result s' → (∃ o, result = .ok o) ∧
        s'.calls.countP (f definition)
          = s.calls.countP (f definition) + (test definition).toNat)
    (definitions : List String) (w : World σ τ) :
    tally f (e.trail p prior definitions w) = definitions.countP test := by
  induction definitions generalizing w with
  | nil => rfl
  | cons definition rest ih =>
    obtain ⟨⟨o, done⟩, one⟩ := turn (e.turn_turn p prior definition w)
    obtain ⟨more, grow⟩ := (e.turn_turn p prior definition w).calls_grow
    rw [trail]
    generalize e.turn p prior definition w = t at done one grow
    obtain ⟨_, w₁⟩ := t
    obtain rfl : _ = Except.ok o := done
    rw [← grow, List.countP_append, Nat.add_left_cancel_iff] at one
    rw [← grow, List.drop_left, tally_cons, List.countP_cons, one, ih w₁, Nat.add_comm]
    cases test definition <;> rfl

theorem countP_callsIn (f : Call → Bool) (w : World σ τ) :
    (e.callsIn p w).countP f = tally (fun _ => f)
      (e.trail p (p.item.statuses p.group) (p.item.declared p.group) w) := by
  rw [callsIn_eq, countP_flatMap_calls]

theorem countP_callsAbout (f : Call → Bool) (definition : String) (w : World σ τ) :
    (e.callsAbout p w definition).countP f = tally (fun d c => d == definition && f c)
      (e.trail p (p.item.statuses p.group) (p.item.declared p.group) w) := by
  rw [callsAbout, countP_flatMap_calls]
  induction e.trail p (p.item.statuses p.group) (p.item.declared p.group) w with
  | nil => rfl
  | cons x rest ih =>
    rw [tally_cons, ← ih, List.filter_cons]
    by_cases same : x.1 = definition
    · rw [if_pos (decide_eq_true same), tally_cons, same, beq_self_eq_true]
      simp only [Bool.true_and]
    · have other : (x.1 == definition) = false := by simpa using same
      rw [if_neg (by simpa using same), other]
      simp

end Engine

/-! ## What one turn does at most -/

/-- A finished entry to start from is no fresh one. -/
theorem findStatus_of_terminal {definition : String} {prior : List ItemStatus}
    (terminal : (statusOrFresh definition prior).isTerminal = true) :
    findStatus definition prior = some (statusOrFresh definition prior) := by
  unfold statusOrFresh at terminal ⊢
  cases found : findStatus definition prior with
  | none => rw [found] at terminal; cases terminal
  | some s => rfl

/-- One more call counts once, or not at all. -/
theorem countP_concat (f : Call → Bool) (calls : List Call) (c : Call) :
    (calls ++ [c]).countP f = calls.countP f + (f c).toNat := by
  cases h : f c <;> simp [h]

namespace Scene

variable {σ τ α : Type} {s s₁ : Scene σ τ} {e : Engine σ τ}

theorem countP_ask (f : Call → Bool) {c : Call} {x : Act σ (Option α)} {answer : Option α}
    (asked : s.ask e c x = (answer, s₁)) :
    s₁.calls.countP f ≤ s.calls.countP f + (f c).toNat := by
  obtain h | h := s.calls_ask e asked
  · rw [h]
    exact Nat.le_add_right _ _
  · exact Nat.le_of_eq (by rw [h, countP_concat])

/-- What leads to a creation counts nothing but the creation, where resolving does not count. -/
theorem countP_put {p : Pass} {status : ItemStatus} {s₂ s₃ : Scene σ τ} {d : TaskDefinition}
    {draw : Nat} {resolution : Option (Except ResolveError TaskDefinition)}
    {answer : Option (Except StoreError Task)} (f : Call → Bool)
    (quiet : f (.resolve status.definition p.item.ns) = false)
    (resolved : s.resolve e p status = (resolution, s₁))
    (drawn : s₁.sample e.backend.draw = (draw, s₂))
    (put : s₂.put e (p.stamp d draw) = (answer, s₃)) :
    s₃.calls.countP f ≤ s.calls.countP f + (f (.create (p.stamp d draw))).toNat := by
  have asked := countP_ask f resolved
  have made := countP_ask f put
  obtain rfl := congrArg Prod.snd drawn
  rw [quiet, Bool.toNat_false, Nat.add_zero] at asked
  exact Nat.le_trans made (Nat.add_le_add_right asked _)

variable (s e)

/-- Reading a task back is no deed. -/
theorem countP_deed_refresh (deed : Deed) (p : Pass) (t : Task) (status : ItemStatus) :
    (s.refresh e p t status).2.calls.countP deed.isDoneBy = s.calls.countP deed.isDoneBy := by
  rw [calls_refresh]
  split <;> simp

/-- Losing a task is no deed. -/
theorem countP_deed_lose (deed : Deed) (ns task : String) :
    (s.lose e ns task).calls.countP deed.isDoneBy = s.calls.countP deed.isDoneBy := by
  rw [calls_lose]
  cases (e.observer.lookup (.forTask ns task) s.observer).1.1 <;> simp

/-- Reading a task back releases its own span at most. -/
theorem countP_refresh (release : Release) (key : SpanKey) (p : Pass) (t : Task)
    (status : ItemStatus) :
    (s.refresh e p t status).2.calls.countP (release.isDoneBy key)
      ≤ s.calls.countP (release.isDoneBy key) + (t.spanKey == key).toNat := by
  have asking : release.isDoneBy key (.getOrOpen t.spanKey) = false :=
    release.isDoneBy_eq_false key nofun
  unfold refresh
  split
  · have parts := release.toNat_released key t.spanKey (Pass.closing t).1 (Pass.closing t).2
    simp only [calls_sample, settle, calls_unbind, calls_close, calls_span, countP_concat, asking,
      Bool.toNat_false]
    omega
  · simp only [calls_span, countP_concat, asking, Bool.toNat_false]
    omega

/-- Losing a task releases its span at most. -/
theorem countP_lose (release : Release) (key : SpanKey) (ns task : String) :
    (s.lose e ns task).calls.countP (release.isDoneBy key)
      ≤ s.calls.countP (release.isDoneBy key) + (SpanKey.forTask ns task == key).toNat := by
  have parts := release.toNat_released key (.forTask ns task) [Pass.vanishing task]
    (.error "Vanished")
  have looking : release.isDoneBy key (.lookup (.forTask ns task)) = false :=
    release.isDoneBy_eq_false key nofun
  unfold lose
  dsimp only
  cases (s.watch (.lookup (.forTask ns task)) (e.observer.lookup (.forTask ns task))).1 with
  | none =>
    simp only [calls_unbind, countP_concat, watch, looking, Bool.toNat_false]
    omega
  | some context =>
    simp only [calls_unbind, calls_close, countP_concat, watch, looking, Bool.toNat_false]
    omega

end Scene

theorem toNat_beq_le {key key' : SpanKey} {watched : Bool} (h : key = key' → watched = true) :
    (key == key').toNat ≤ watched.toNat := by
  cases same : key == key' with
  | false => exact Nat.zero_le _
  | true => exact Nat.le_of_eq (congrArg Bool.toNat (h (beq_iff_eq.1 same)).symm)

namespace Engine

variable {σ τ : Type} {e : Engine σ τ} {p : Pass} {prior : List ItemStatus}

/-- Creating a task is one deed each, and no change. -/
theorem Creation.countP_deed (deed : Deed) {status : ItemStatus} {s s' : Scene σ τ}
    {result : Except Interruption Outcome} (creation : Creation e p status s result s') :
    s'.calls.countP deed.isDoneBy
      ≤ s.calls.countP deed.isDoneBy + (deed != .change).toNat := by
  have quiet : deed.isDoneBy (.resolve status.definition p.item.ns) = false :=
    deed.isDoneBy_eq_false nofun
  cases creation with
  | unanswered resolved | unresolved resolved =>
    have asked := Scene.countP_ask deed.isDoneBy resolved
    rw [quiet, Bool.toNat_false] at asked
    omega
  | @dropped s₁ s₂ s₃ d draw resolved drawn put =>
    have made := Scene.countP_put deed.isDoneBy quiet resolved drawn put
    have parts := deed.toNat_created (p.stamp d draw) (p.stamp d draw).spanKey
    omega
  | @refused s₁ s₂ s₃ d draw err resolved drawn put =>
    have made := Scene.countP_put deed.isDoneBy quiet resolved drawn put
    have parts := deed.toNat_created (p.stamp d draw) (p.stamp d draw).spanKey
    rw [Scene.refused, Scene.calls_announce, countP_concat, Deed.isDoneBy_failed, Bool.toNat_false]
    omega
  | @created s₁ s₂ s₃ d draw t resolved drawn put =>
    have made := Scene.countP_put deed.isDoneBy quiet resolved drawn put
    have parts := deed.toNat_created (p.stamp d draw) t.spanKey
    rw [Scene.calls_welcome, countP_concat]
    omega

/-- A visit is one deed each at most, and no change; an entry that is finished is none. -/
theorem Course.countP_deed (deed : Deed) {status : ItemStatus} {s s' : Scene σ τ}
    {result : Except Interruption Outcome} (course : Course e p status s result s') :
    s'.calls.countP deed.isDoneBy
      ≤ s.calls.countP deed.isDoneBy + (!status.isTerminal && deed != .change).toNat := by
  have asked : ∀ {answer s₁}, s.fetch e p status = (answer, s₁) →
      s₁.calls.countP deed.isDoneBy ≤ s.calls.countP deed.isDoneBy := fun fetched => by
    simpa using Scene.countP_ask deed.isDoneBy fetched
  cases course with
  | finished => exact Nat.le_add_right _ _
  | unanswered _ _ fetched | unread _ _ fetched _ => exact Nat.le_add_right_of_le (asked fetched)
  | @read s₁ t _ _ fetched =>
    rw [Scene.countP_deed_refresh]
    exact Nat.le_add_right_of_le (asked fetched)
  | @lost s₁ s₂ err _ live _ fetched _ creation =>
    rw [live, Bool.not_false, Bool.true_and]
    refine Nat.le_trans (creation.countP_deed deed) (Nat.add_le_add_right ?_ _)
    rw [Scene.countP_deed_lose]
    exact asked fetched
  | bare live _ creation =>
    rw [live, Bool.not_false, Bool.true_and]
    exact creation.countP_deed deed

/-- An entry that is finished stays, and nothing is asked for. -/
theorem Course.eq_of_terminal {status : ItemStatus} {s s' : Scene σ τ}
    {result : Except Interruption Outcome} (course : Course e p status s result s')
    (terminal : status.isTerminal = true) : result = .ok (.unchanged status) ∧ s' = s := by
  cases course with
  | finished => exact ⟨rfl, rfl⟩
  | unanswered live | unread live | read live | lost live | bare live =>
    rw [terminal] at live
    cases live

/-- **A turn does each deed once at most**, and none about an entry that is finished. -/
theorem Turn.countP_deed (deed : Deed) {definition : String} {s s' : Scene σ τ}
    {result : Except Interruption Outcome} (turn : Turn e p prior definition s result s') :
    s'.calls.countP deed.isDoneBy ≤ s.calls.countP deed.isDoneBy
      + (!(statusOrFresh definition prior).isTerminal).toNat := by
  have part : ∀ live : Bool, (live && deed != .change).toNat ≤ live.toNat := by
    cases deed <;> decide
  cases turn with
  | stopped look =>
    obtain rfl := congrArg Prod.snd look
    exact Nat.le_add_right _ _
  | interrupted look course =>
    obtain rfl := congrArg Prod.snd look
    exact Nat.le_trans (course.countP_deed deed) (Nat.add_le_add_left (part _) _)
  | @done s₁ s₂ o look course =>
    obtain rfl := congrArg Prod.snd look
    have visited := course.countP_deed deed
    unfold Scene.announceChange
    split
    · exact Nat.le_trans visited (Nat.add_le_add_left (part _) _)
    next changed =>
    have live : (statusOrFresh definition prior).isTerminal = false := by
      refine Bool.eq_false_iff.2 fun terminal => changed ?_
      obtain ⟨⟨⟩, -⟩ := course.eq_of_terminal terminal
      rw [findStatus_of_terminal terminal]
      rfl
    have parts : (deed != .change).toNat + (deed == .change).toNat = 1 := by
      cases deed <;> rfl
    rw [live, Bool.not_false, Bool.true_and, Scene.calls_look] at visited
    rw [live, Scene.calls_announce, countP_concat, Deed.isDoneBy_changed, Bool.not_false,
      Bool.toNat_true]
    omega

/-- Creating a task releases no span. -/
theorem Creation.countP_release (release : Release) (key : SpanKey) {status : ItemStatus}
    {s s' : Scene σ τ} {result : Except Interruption Outcome}
    (creation : Creation e p status s result s') :
    s'.calls.countP (release.isDoneBy key) ≤ s.calls.countP (release.isDoneBy key) := by
  have quiet : release.isDoneBy key (.resolve status.definition p.item.ns) = false :=
    release.isDoneBy_eq_false key nofun
  cases creation with
  | unanswered resolved | unresolved resolved =>
    have asked := Scene.countP_ask (release.isDoneBy key) resolved
    rwa [quiet] at asked
  | dropped resolved drawn put =>
    simpa using Scene.countP_put (release.isDoneBy key) quiet resolved drawn put
  | refused resolved drawn put =>
    have made := Scene.countP_put (release.isDoneBy key) quiet resolved drawn put
    simpa [Scene.refused, countP_concat] using made
  | created resolved drawn put =>
    have made := Scene.countP_put (release.isDoneBy key) quiet resolved drawn put
    simpa [countP_concat] using made

/-- **A visit releases a span once at most**: that of the task that it asks for, or of the one that
it is given. -/
theorem Course.countP_release (release : Release) {key : SpanKey} {watched : Bool}
    {status : ItemStatus}
    (asked : SpanKey.forTask p.item.ns status.task = key → watched = true)
    (given : ∀ {s s₁ t}, Scene.fetch s e p status = (some (.ok t), s₁) → t.spanKey = key →
      watched = true)
    {s s' : Scene σ τ} {result : Except Interruption Outcome}
    (course : Course e p status s result s') :
    s'.calls.countP (release.isDoneBy key) ≤ s.calls.countP (release.isDoneBy key)
      + (!status.isTerminal && status.hasTask && watched).toNat := by
  have quiet : ∀ {answer s₁}, s.fetch e p status = (answer, s₁) →
      s₁.calls.countP (release.isDoneBy key) ≤ s.calls.countP (release.isDoneBy key) :=
    fun fetched => by simpa using Scene.countP_ask (release.isDoneBy key) fetched
  cases course with
  | finished => exact Nat.le_add_right _ _
  | unanswered _ _ fetched | unread _ _ fetched _ => exact Nat.le_add_right_of_le (quiet fetched)
  | @read s₁ t live task fetched =>
    have before := quiet fetched
    have own := toNat_beq_le (given fetched)
    have released := s₁.countP_refresh e release key p t status
    rw [live, task, Bool.not_false, Bool.true_and, Bool.true_and]
    omega
  | @lost s₁ s₂ err _ live task fetched _ creation =>
    have before := quiet fetched
    have after := creation.countP_release release key
    have own := toNat_beq_le asked
    have released := s₁.countP_lose e release key p.item.ns status.task
    rw [live, task, Bool.not_false, Bool.true_and, Bool.true_and]
    omega
  | bare _ _ creation => exact Nat.le_add_right_of_le (creation.countP_release release key)

/-- **A turn releases a span once at most.** -/
theorem Turn.countP_release (release : Release) {key : SpanKey} {watched : Bool}
    {definition : String}
    (asked : SpanKey.forTask p.item.ns (statusOrFresh definition prior).task = key → watched = true)
    (given : ∀ {s s₁ t}, Scene.fetch s e p (statusOrFresh definition prior) = (some (.ok t), s₁) →
      t.spanKey = key → watched = true)
    {s s' : Scene σ τ} {result : Except Interruption Outcome}
    (turn : Turn e p prior definition s result s') :
    s'.calls.countP (release.isDoneBy key) ≤ s.calls.countP (release.isDoneBy key)
      + (!(statusOrFresh definition prior).isTerminal && (statusOrFresh definition prior).hasTask
          && watched).toNat := by
  cases turn with
  | stopped look =>
    obtain rfl := congrArg Prod.snd look
    exact Nat.le_add_right _ _
  | interrupted look course =>
    obtain rfl := congrArg Prod.snd look
    exact course.countP_release release asked given
  | @done s₁ s₂ o look course =>
    obtain rfl := congrArg Prod.snd look
    have visited := course.countP_release release asked given
    unfold Scene.announceChange
    split
    · exact visited
    · rwa [Scene.calls_announce, countP_concat, release.isDoneBy_eq_false key (by simp),
        Bool.toNat_false]

end Engine

namespace Pass

variable (p : Pass)

/-- The definition is still to be worked on, and has a task of which the key is as said. -/
def watches (test : String → Bool) (definition : String) : Bool :=
  p.isLive definition && (statusOrFresh definition (p.item.statuses p.group)).hasTask
    && test (statusOrFresh definition (p.item.statuses p.group)).task

theorem count_liveNames (definition : String) :
    p.liveNames.count definition
      = (p.item.declared p.group).countP fun d => d == definition && p.isLive d :=
  List.countP_filter

theorem countP_liveTasks (test : String → Bool) :
    p.liveTasks.countP test = (p.item.declared p.group).countP (p.watches test) := by
  rw [liveTasks, liveNames, List.countP_map, List.countP_filter, List.countP_map,
    List.countP_filter]
  refine List.countP_congr fun d _ => ?_
  simp only [Function.comp_apply, watches, Bool.and_eq_true]
  exact ⟨fun h => ⟨⟨h.2, h.1.2⟩, h.1.1⟩, fun h => ⟨⟨h.2, h.1.2⟩, h.1.1⟩⟩

end Pass

/-! ## A pass does at most what the entries call for -/

namespace Engine

variable {σ τ : Type} {e : Engine σ τ} {p : Pass}

/-- **A deed is done as often as the name is live**, at most. -/
theorem countP_deed_le (deed : Deed) (w : World σ τ) (definition : String) :
    (e.callsAbout p w definition).countP deed.isDoneBy ≤ p.liveNames.count definition := by
  rw [countP_callsAbout, Pass.count_liveNames]
  refine tally_trail_le e p _ (fun d c => d == definition && deed.isDoneBy c)
    (fun d => d == definition && p.isLive d) (fun {d s s' result} turn => ?_) _ w
  cases same : d == definition with
  | false => simp
  | true =>
    simp only [Bool.true_and]
    exact turn.countP_deed deed

/-- **A span is released as often as there are live tasks** that may have it, at most. -/
theorem countP_release_le (release : Release) {key : SpanKey} (test : String → Bool)
    (asked : ∀ task, SpanKey.forTask p.item.ns task = key → test task = true)
    (given : ∀ {s s₁ status t}, Scene.fetch s e p status = (some (.ok t), s₁) →
      t.spanKey = key → test status.task = true) (w : World σ τ) :
    (e.callsIn p w).countP (release.isDoneBy key) ≤ p.liveTasks.countP test := by
  rw [countP_callsIn, Pass.countP_liveTasks]
  exact tally_trail_le e p _ (fun _ => release.isDoneBy key) (p.watches test)
    (fun turn => turn.countP_release release (asked _) given) _ w

/-- A store that gives the task that is asked for gives it under its key. -/
theorem IsFaithful.spanKey_of_fetch (faithful : e.IsFaithful) {s s₁ : Scene σ τ}
    {status : ItemStatus} {t : Task} (fetched : s.fetch e p status = (some (.ok t), s₁)) :
    t.spanKey = .forTask p.item.ns status.task := by
  obtain ⟨⟨⟩, -⟩ | made := s.ask_cases e fetched
  obtain ⟨ns, name⟩ := faithful _ _ _ _ (congrArg Prod.fst made)
  rw [Task.spanKey, ns, name]

end Engine

/-! ## An engine that does all of it -/

/-- **An engine that never fails**: every name has a definition, every task is created, and what
there is of tasks is given. -/
def Engine.lavish (found : String → String → Except StoreError Task) : Engine Unit Unit where
  backend :=
    { isCancelled := pure false
      get ns name := Act.silent (pure (some (found ns name)))
      create t := Act.silent (pure (some (.ok t)))
      resolve name ns := Act.silent (pure (some (.ok ⟨name, ns, .empty⟩)))
      now := pure default
      draw := pure 0 }
  observer := .blind

namespace Engine

variable {found : String → String → Except StoreError Task} {p : Pass} {s s' : Scene Unit Unit}

/-- A creation succeeds, and concerns no open span. -/
theorem Creation.of_lavish {status : ItemStatus} {result : Except Interruption Outcome}
    (creation : Creation (lavish found) p status s result s') : ∃ o t key,
      result = .ok o ∧ s'.calls
        = s.calls ++ [.resolve status.definition p.item.ns, .create t, .openSpan key] := by
  cases creation with
  | unanswered resolved => cases congrArg Prod.fst resolved
  | unresolved resolved => cases congrArg Prod.fst resolved
  | dropped resolved drawn put => cases congrArg Prod.fst put
  | refused resolved drawn put => cases congrArg Prod.fst put
  | @created s₁ s₂ s₃ d draw t resolved drawn put =>
    have resolving : s₁.calls = s.calls ++ [.resolve status.definition p.item.ns] :=
      congrArg (fun r => r.2.calls) resolved.symm
    have drawing : s₂.calls = s₁.calls := congrArg (fun r => r.2.calls) drawn.symm
    have putting : s₃.calls = s₂.calls ++ [.create (p.stamp d draw)] :=
      congrArg (fun r => r.2.calls) put.symm
    refine ⟨_, p.stamp d draw, t.spanKey, rfl, ?_⟩
    rw [Scene.calls_welcome, putting, drawing, resolving]
    simp

/-- A visit creates a task, where every task is lost, if the entry is live. -/
theorem Course.create_of_lavish {status : ItemStatus} {result : Except Interruption Outcome}
    (course : Course (lavish fun ns name => .error (.notFound ns name)) p status s result s') :
    (∃ o, result = .ok o) ∧ s'.calls.countP Deed.create.isDoneBy
      = s.calls.countP Deed.create.isDoneBy + (!status.isTerminal).toNat := by
  cases course with
  | finished terminal => exact ⟨⟨_, rfl⟩, by rw [terminal]; rfl⟩
  | unanswered _ _ fetched => cases congrArg Prod.fst fetched
  | unread _ _ fetched failure =>
    cases congrArg Prod.fst fetched
    cases failure
  | read _ _ fetched => cases congrArg Prod.fst fetched
  | @lost s₁ s₂ err _ live _ fetched _ creation =>
    have fetching : s₁.calls = s.calls ++ [.get p.item.ns status.task] :=
      congrArg (fun r => r.2.calls) fetched.symm
    obtain ⟨o, t, key, done, calls⟩ := creation.of_lavish
    refine ⟨⟨o, done⟩, ?_⟩
    rw [calls, List.countP_append, Scene.countP_deed_lose, fetching, countP_concat, live]
    rfl
  | bare live _ creation =>
    obtain ⟨o, t, key, done, calls⟩ := creation.of_lavish
    refine ⟨⟨o, done⟩, ?_⟩
    rw [calls, List.countP_append, live]
    rfl

/-- A visit closes the span of the task, where every task is found finished, if the entry is live
and has one. -/
theorem Course.close_of_lavish (key : SpanKey) {task : String → String → Task}
    (finished : ∀ ns name, (task ns name).state.isTerminal = true) {status : ItemStatus}
    {result : Except Interruption Outcome}
    (course : Course (lavish fun ns name => .ok (task ns name)) p status s result s') :
    (∃ o, result = .ok o) ∧ s'.calls.countP (Release.close.isDoneBy key)
      = s.calls.countP (Release.close.isDoneBy key) + (!status.isTerminal && status.hasTask
          && (task p.item.ns status.task).spanKey == key).toNat := by
  cases course with
  | finished terminal => exact ⟨⟨_, rfl⟩, by rw [terminal]; rfl⟩
  | unanswered _ _ fetched => cases congrArg Prod.fst fetched
  | unread _ _ fetched => cases congrArg Prod.fst fetched
  | lost _ _ fetched => cases congrArg Prod.fst fetched
  | @read s₁ t live hasTask fetched =>
    have fetching : s₁.calls = s.calls ++ [.get p.item.ns status.task] :=
      congrArg (fun r => r.2.calls) fetched.symm
    obtain rfl : task p.item.ns status.task = t := by
      simpa using Except.ok.inj (Option.some.inj (congrArg Prod.fst fetched))
    have completes : (task p.item.ns status.task).state.completes (some status.state) = true := by
      rw [TaskState.completes, finished]
      exact congrArg not live
    refine ⟨⟨_, rfl⟩, ?_⟩
    rw [Scene.calls_refresh, if_pos completes, fetching, live, hasTask]
    cases same : (task p.item.ns status.task).spanKey == key <;>
      simp [Release.isDoneBy, same]
  | bare live bare creation =>
    obtain ⟨o, t, key, done, calls⟩ := creation.of_lavish
    refine ⟨⟨o, done⟩, ?_⟩
    rw [calls, List.countP_append, live, bare]
    rfl

/-- **Where every task is lost, every live entry is given a new one.** -/
theorem Turn.create_of_lavish {prior : List ItemStatus} {definition : String}
    {result : Except Interruption Outcome}
    (turn : Turn (lavish fun ns name => .error (.notFound ns name)) p prior definition s result
      s') :
    (∃ o, result = .ok o) ∧ s'.calls.countP Deed.create.isDoneBy
      = s.calls.countP Deed.create.isDoneBy
        + (!(statusOrFresh definition prior).isTerminal).toNat := by
  cases turn with
  | stopped look => cases congrArg Prod.fst look
  | interrupted look course =>
    obtain ⟨⟨_, ⟨⟩⟩, -⟩ := course.create_of_lavish
  | done look course =>
    obtain ⟨-, created⟩ := course.create_of_lavish
    obtain rfl := congrArg Prod.snd look
    refine ⟨⟨_, rfl⟩, ?_⟩
    unfold Scene.announceChange
    split
    · exact created
    · rw [Scene.calls_announce, countP_concat, created]
      rfl

/-- **Where every task is found finished, every live entry with a task has its span closed.** -/
theorem Turn.close_of_lavish (key : SpanKey) {prior : List ItemStatus} {definition : String}
    {task : String → String → Task} (finished : ∀ ns name, (task ns name).state.isTerminal = true)
    {result : Except Interruption Outcome}
    (turn : Turn (lavish fun ns name => .ok (task ns name)) p prior definition s result s') :
    (∃ o, result = .ok o) ∧ s'.calls.countP (Release.close.isDoneBy key)
      = s.calls.countP (Release.close.isDoneBy key)
        + (!(statusOrFresh definition prior).isTerminal
            && (statusOrFresh definition prior).hasTask
            && (task p.item.ns (statusOrFresh definition prior).task).spanKey == key).toNat := by
  cases turn with
  | stopped look => cases congrArg Prod.fst look
  | interrupted look course =>
    obtain ⟨⟨_, ⟨⟩⟩, -⟩ := course.close_of_lavish key finished
  | done look course =>
    obtain ⟨-, closed⟩ := course.close_of_lavish key finished
    obtain rfl := congrArg Prod.snd look
    refine ⟨⟨_, rfl⟩, ?_⟩
    unfold Scene.announceChange
    split
    · exact closed
    · rw [Scene.calls_announce, countP_concat, Release.isDoneBy_eq_false _ _ (by simp)]
      exact closed

/-- As often as a name is live, its task can be created. -/
theorem countP_create_lavish (p : Pass) (w : World Unit Unit) (definition : String) :
    ((lavish fun ns name => .error (.notFound ns name)).callsAbout p w definition).countP
        Deed.create.isDoneBy = p.liveNames.count definition := by
  rw [countP_callsAbout, Pass.count_liveNames]
  refine tally_trail_eq _ p _ (fun d c => d == definition && Deed.create.isDoneBy c)
    (fun d => d == definition && p.isLive d) (fun {d s s' result} turn => ?_) _ w
  obtain ⟨done, created⟩ := turn.create_of_lavish
  refine ⟨done, ?_⟩
  cases same : d == definition with
  | false => simp
  | true =>
    simp only [Bool.true_and]
    exact created

/-- As often as there are live tasks that have it, a span can be closed. -/
theorem countP_close_lavish (p : Pass) (w : World Unit Unit) (key : SpanKey)
    {task : String → String → Task} (finished : ∀ ns name, (task ns name).state.isTerminal = true) :
    ((lavish fun ns name => .ok (task ns name)).callsIn p w).countP (Release.close.isDoneBy key)
      = p.liveTasks.countP fun name => (task p.item.ns name).spanKey == key := by
  rw [countP_callsIn, Pass.countP_liveTasks]
  exact tally_trail_eq _ p _ (fun _ => Release.close.isDoneBy key)
    (p.watches fun name => (task p.item.ns name).spanKey == key)
    (fun turn => turn.close_of_lavish key finished) _ w

/-- A finished task. -/
def finishedTask (ns name : String) : Task :=
  { (Sample.definition name).stamp .pre (Sample.item []) {} 0 with
    name, ns, status := { TaskStatus.fresh with state := .succeeded } }

end Engine

/-! ## The exact condition -/

/-- Different tasks have different keys. -/
theorem countP_forTask_le {ns : String} {tasks : List String} (distinct : tasks.Nodup)
    (key : SpanKey) : tasks.countP (fun task => SpanKey.forTask ns task == key) ≤ 1 := by
  by_cases named : ∃ task, SpanKey.forTask ns task = key
  · obtain ⟨task, rfl⟩ := named
    refine Nat.le_trans (List.countP_mono_left fun other _ same => ?_)
      (List.nodup_iff_count_le_one.1 distinct task)
    exact beq_iff_eq.2 (congrArg SpanKey.name (beq_iff_eq.1 same))
  · rw [List.countP_eq_zero.2 fun task _ same => named ⟨task, beq_iff_eq.1 same⟩]
    exact Nat.zero_le 1

/-- **What a pass does once, and when.**  Every deed is done once at most for a name, whatever the
backend and the observer answer, exactly if no live name is declared twice.  Every span is released
once at most, if the store gives the tasks that are asked for, exactly if no two live entries name
the same task; if the store may give any task, exactly if only one live entry names one. -/
theorem acts_once_iff (p : Pass) :
    ((∀ (σ τ : Type) (e : Engine σ τ) (w : World σ τ) (definition : String) (deed : Deed),
        (e.callsAbout p w definition).countP deed.isDoneBy ≤ 1) ↔ p.liveNames.Nodup) ∧
      ((∀ (σ τ : Type) (e : Engine σ τ) (w : World σ τ) (key : SpanKey) (release : Release),
        e.IsFaithful → (e.callsIn p w).countP (release.isDoneBy key) ≤ 1) ↔ p.liveTasks.Nodup) ∧
      ((∀ (σ τ : Type) (e : Engine σ τ) (w : World σ τ) (key : SpanKey) (release : Release),
        (e.callsIn p w).countP (release.isDoneBy key) ≤ 1) ↔ p.liveTasks.length ≤ 1) := by
  have finished : ∀ ns name, (Engine.finishedTask ns name).state.isTerminal = true :=
    fun _ _ => rfl
  refine ⟨⟨fun once => ?_, fun distinct σ τ e w definition deed => ?_⟩,
    ⟨fun once => ?_, fun distinct σ τ e w key release faithful => ?_⟩,
    ⟨fun once => ?_, fun single σ τ e w key release => ?_⟩⟩
  · refine List.nodup_iff_count_le_one.2 fun definition => ?_
    rw [← Engine.countP_create_lavish p ⟨(), (), []⟩]
    exact once Unit Unit _ _ definition .create
  · exact Nat.le_trans (Engine.countP_deed_le deed w definition)
      (List.nodup_iff_count_le_one.1 distinct definition)
  · refine List.nodup_iff_count_le_one.2 fun name => ?_
    have closed := once Unit Unit (.lavish fun ns name => .ok (Engine.finishedTask ns name))
      ⟨(), (), []⟩ (.forTask p.item.ns name) .close fun ns name s t found => by
        cases found
        exact ⟨rfl, rfl⟩
    rw [Engine.countP_close_lavish p _ _ finished] at closed
    refine Nat.le_trans (List.countP_mono_left fun other _ same => ?_) closed
    rw [beq_iff_eq.1 same]
    exact beq_self_eq_true _
  · refine Nat.le_trans (Engine.countP_release_le release (SpanKey.forTask p.item.ns · == key)
      (fun _ => beq_iff_eq.2) (fun fetched same => ?_) w) (countP_forTask_le distinct key)
    rw [← faithful.spanKey_of_fetch fetched]
    exact beq_iff_eq.2 same
  · have closed := once Unit Unit (.lavish fun _ _ => .ok (Engine.finishedTask "" ""))
      ⟨(), (), []⟩ (.forTask "" "") .close
    rw [Engine.countP_close_lavish p _ _ fun _ _ => finished "" ""] at closed
    rwa [List.countP_eq_length.2 fun _ _ => by rfl] at closed
  · exact Nat.le_trans (Engine.countP_release_le release (fun _ => true) (fun _ _ => rfl)
      (fun _ _ => rfl) w) (Nat.le_trans List.countP_le_length single)

/-- **A name that is declared twice** has its task created twice, with a span each. -/
theorem twice_declared_is_created_twice :
    let p : Pass := ⟨.empty, Sample.item ["smoke", "smoke"], .pre⟩
    let e := Engine.lavish fun ns name => .error (.notFound ns name)
    (e.callsAbout p ⟨(), (), []⟩ "smoke").countP Deed.create.isDoneBy = 2 ∧
      (e.callsAbout p ⟨(), (), []⟩ "smoke").countP Deed.openSpan.isDoneBy = 2 ∧
      (e.callsAbout p ⟨(), (), []⟩ "smoke").countP Deed.change.isDoneBy = 2 := by
  decide +kernel

end DeployChecks
