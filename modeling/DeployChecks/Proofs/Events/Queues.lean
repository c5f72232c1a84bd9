import DeployChecks.EventSink
import DeployChecks.Proofs.Lists

/-!
# Proofs/Events/Queues — what becomes of every event

To a receiver a sink looks like a queue of its own: the events since it subscribed that it was not
given yet and was not told the loss of.  Emitting puts one more event at the end of every queue, and
an answer takes some away from the front: the one that is given, or all that exceed the capacity
(`Queues.Answers`).  So the answers to a receiver cover the events since it subscribed, in order and
without a gap, up to those that wait (`Queues.Account`), and what other receivers do is not seen
(`Queues.receipts_filter`).  Main definitions: `Request`, `IsLive`, `Queues`.
-/

namespace DeployChecks

open List (Forall₂)

/-! ## What an answer accounts for -/

namespace Receipt

/-- **The events that an answer accounts for.** -/
inductive Covers : Receipt → List PhaseEvent → Prop
  /-- An event that is given. -/
  | event (e : PhaseEvent) : Covers (.event e) [e]
  /-- Events that are lost. -/
  | lagged (lost : List PhaseEvent) : Covers (.lagged lost.length) lost
  /-- None. -/
  | nothing : Covers .nothing []
  /-- None. -/
  | closed : Covers .closed []

/-- The event that is given. -/
def event? : Receipt → Option PhaseEvent
  | event e => some e
  | lagged _ | nothing | closed => none

/-- How many events answers count as lost. -/
def lost : List Receipt → Nat
  | [] => 0
  | lagged n :: rest => n + lost rest
  | _ :: rest => lost rest

/-- Every event that is covered was given or counted. -/
theorem length_flatten_of_covers {receipts : List Receipt} {pieces : List (List PhaseEvent)}
    (covered : Forall₂ Covers receipts pieces) :
    pieces.flatten.length = (receipts.filterMap event?).length + lost receipts := by
  induction covered with
  | nil => rfl
  | cons first _ ih =>
    rw [List.flatten_cons, List.length_append, ih]
    cases first <;>
      simp only [List.filterMap_cons, event?, lost, List.length_cons, List.length_nil] <;> omega

end Receipt

namespace EventSink

/-! ## Requests -/

/-- **What a sink and its receivers are asked.** -/
inductive Request where
  /-- For a new receiver. -/
  | subscribe
  /-- To drop a receiver. -/
  | unsubscribe (n : Nat)
  /-- To emit an event. -/
  | emit (e : PhaseEvent)
  /-- For what comes next to a receiver. -/
  | receive (n : Nat)
  /-- To drop the sink. -/
  | drop

namespace Request

/-- The event that is emitted. -/
def event? : Request → Option PhaseEvent
  | emit e => some e
  | subscribe | unsubscribe _ | receive _ | drop => none

/-- It asks for a new receiver. -/
def isSubscribe : Request → Bool
  | subscribe => true
  | unsubscribe _ | emit _ | receive _ | drop => false

/-- It drops the sink. -/
def isDrop : Request → Bool
  | drop => true
  | subscribe | unsubscribe _ | emit _ | receive _ => false

theorem isDrop_iff {q : Request} : q.isDrop = true ↔ drop = q := by
  cases q with
  | drop => exact iff_of_true rfl rfl
  | subscribe | unsubscribe | emit | receive => exact iff_of_false nofun nofun

/-- It takes a sink. -/
def needsSink : Request → Bool
  | subscribe | emit _ | drop => true
  | unsubscribe _ | receive _ => false

/-- It comes from the sink, or from a given receiver. -/
def isOpenTo (n : Nat) : Request → Bool
  | unsubscribe m | receive m => m = n
  | subscribe | emit _ | drop => true

end Request

/-- The events that are emitted in a history. -/
def emitted (history : List Request) : List PhaseEvent := history.filterMap Request.event?

/-- **A history makes sense**: once the sink is dropped, only the receivers are there to be asked.
-/
def IsProper (history : List Request) : Prop :=
  history.Pairwise fun p q => p.isDrop = true → q.needsSink = false

instance : DecidablePred IsProper := fun history =>
  inferInstanceAs (Decidable (history.Pairwise _))

/-- **A receiver is live**: as many subscribed before it as its number says, and it was not dropped
in what came after. -/
def IsLive (history : List Request) (n : Nat) (after : List Request) : Prop :=
  ∃ before, history = before ++ .subscribe :: after ∧ before.countP Request.isSubscribe = n ∧
    .unsubscribe n ∉ after

variable {history after : List Request} {q : Request} {n : Nat}

theorem emitted_concat : emitted (history ++ [q]) = emitted history ++ q.event?.toList := by
  rw [emitted, List.filterMap_append, List.filterMap_cons]
  cases q <;> rfl

/-- With one more request, a receiver is live that was live before and is not dropped, or one that
subscribes. -/
theorem isLive_concat :
    IsLive (history ++ [q]) n after ↔
      (∃ after', after = after' ++ [q] ∧ IsLive history n after' ∧ q ≠ .unsubscribe n) ∨
        q = .subscribe ∧ after = [] ∧ history.countP Request.isSubscribe = n := by
  constructor
  · rintro ⟨before, split, number, kept⟩
    obtain ⟨rfl, rfl, rfl⟩ | ⟨after, rfl, rfl⟩ := concat_eq_middle split
    · exact .inr ⟨rfl, rfl, number⟩
    · rw [List.mem_append, List.mem_singleton, not_or] at kept
      exact .inl ⟨after, rfl, ⟨before, rfl, number, kept.1⟩, Ne.symm kept.2⟩
  · rintro (⟨after, rfl, ⟨before, rfl, number, kept⟩, last⟩ | ⟨rfl, rfl, number⟩)
    · refine ⟨before, by simp, number, ?_⟩
      rw [List.mem_append, List.mem_singleton, not_or]
      exact ⟨kept, last.symm⟩
    · exact ⟨history, rfl, number, List.not_mem_nil⟩

theorem IsLive.lt (live : IsLive history n after) : n < history.countP Request.isSubscribe := by
  obtain ⟨before, rfl, rfl, -⟩ := live
  rw [List.countP_append, List.countP_cons]
  exact Nat.lt_add_of_pos_right (Nat.succ_pos _)

/-! ## Desks

A sink with its receivers is asked one thing after the other, and so are the queues that stand for
it: what is said of both is said once. -/

/-- **What is asked one thing after the other.** -/
class Desk (δ : Type) where
  /-- What a request leaves. -/
  step : δ → Request → δ
  /-- What a receiver is answered to a request of its own. -/
  receipt? : δ → Nat → Request → Option Receipt

export Desk (step receipt?)

section Desk

variable {δ : Type} [Desk δ] {s : δ}

/-- **What a history leaves.** -/
def run (s : δ) (history : List Request) : δ := history.foldl step s

/-- **What a receiver is answered** in a history. -/
def receipts (n : Nat) : δ → List Request → List Receipt
  | _, [] => []
  | s, q :: history => (receipt? s n q).toList ++ receipts n (step s q) history

theorem run_concat : run s (history ++ [q]) = step (run s history) q := List.foldl_concat ..

theorem receipts_concat :
    receipts n s (history ++ [q])
      = receipts n s history ++ (receipt? (run s history) n q).toList := by
  induction history generalizing s with
  | nil => simp [receipts, run]
  | cons p history ih =>
    rw [List.cons_append, receipts, receipts, ih, List.append_assoc]
    rfl

end Desk

/-! ## Queues -/

/-- **A queue for every receiver.** -/
structure Queues where
  /-- How many events of a queue are kept at most. -/
  capacity : Nat
  /-- No more events will come. -/
  isClosed : Bool
  /-- The number of the next receiver. -/
  next : Nat
  /-- The events that wait, if the receiver is there. -/
  waiting : Nat → Option (List PhaseEvent)

namespace Queues

/-- No receiver is there. -/
def empty (capacity : Nat) : Queues := ⟨capacity, false, 0, fun _ => none⟩

/-- What a receiver is answered, and what waits for it then. -/
def answer (capacity : Nat) (closed : Bool) (pending : List PhaseEvent) :
    Receipt × List PhaseEvent :=
  if capacity < pending.length then
    (.lagged (pending.length - capacity), pending.drop (pending.length - capacity))
  else match pending with
    | e :: rest => (.event e, rest)
    | [] => (if closed then .closed else .nothing, [])

/-- **What a request makes of a queue.** -/
def effect (s : Queues) (n : Nat) : Request → Option (List PhaseEvent)
  | .subscribe => if n = s.next then some [] else s.waiting n
  | .unsubscribe m => if n = m then none else s.waiting n
  | .emit e => (s.waiting n).map (· ++ [e])
  | .receive m =>
    if n = m then (s.waiting n).map fun pending => (answer s.capacity s.isClosed pending).2
    else s.waiting n
  | .drop => s.waiting n

instance : Desk Queues where
  step s q :=
    { s with
      isClosed := s.isClosed || q.isDrop
      next := s.next + if q.isSubscribe then 1 else 0
      waiting n := s.effect n q }
  receipt? s n
    | .receive m =>
      if n = m then (s.waiting n).map fun pending => (answer s.capacity s.isClosed pending).1
      else none
    | .subscribe | .unsubscribe _ | .emit _ | .drop => none

/-- **What a receiver is answered**, and what waits for it then. -/
inductive Answers (capacity : Nat) (closed : Bool) :
    List PhaseEvent → Receipt → List PhaseEvent → Prop
  /-- More events than the capacity wait: it is told how many exceed it, and these are lost. -/
  | lagged {lost kept : List PhaseEvent} (full : kept.length = capacity) (excess : lost ≠ []) :
      Answers capacity closed (lost ++ kept) (.lagged lost.length) kept
  /-- It is given the first event. -/
  | event {e : PhaseEvent} {rest : List PhaseEvent} (fits : (e :: rest).length ≤ capacity) :
      Answers capacity closed (e :: rest) (.event e) rest
  /-- No event waits. -/
  | nothing (opened : closed = false) : Answers capacity closed [] .nothing []
  /-- No event waits, and none will come. -/
  | closed (dropped : closed = true) : Answers capacity closed [] .closed []

variable {s s' : Queues} {capacity : Nat} {closed : Bool} {pending rest : List PhaseEvent}
  {receipt : Receipt}

/-- What waited is what the answer covers, and what waits then. -/
theorem Answers.exists_covers (answers : Answers capacity closed pending receipt rest) :
    ∃ piece, receipt.Covers piece ∧ pending = piece ++ rest := by
  cases answers with
  | lagged => exact ⟨_, .lagged _, rfl⟩
  | event => exact ⟨_, .event _, rfl⟩
  | nothing => exact ⟨_, .nothing, rfl⟩
  | closed => exact ⟨_, .closed, rfl⟩

theorem answer_answers (capacity : Nat) (closed : Bool) (pending : List PhaseEvent) :
    Answers capacity closed pending (answer capacity closed pending).1
      (answer capacity closed pending).2 := by
  unfold answer
  split
  · next excess =>
    have full : (pending.drop (pending.length - capacity)).length = capacity := by
      rw [List.length_drop]
      omega
    have lost : (pending.take (pending.length - capacity)).length = pending.length - capacity :=
      List.length_take_of_le (Nat.sub_le _ _)
    have some_lost : pending.take (pending.length - capacity) ≠ [] := by
      apply List.ne_nil_of_length_pos
      omega
    have answers : Answers capacity closed _ _ _ := .lagged full some_lost
    rwa [List.take_append_drop, lost] at answers
  · next fits =>
    cases pending with
    | nil =>
      cases closed with
      | false => exact .nothing rfl
      | true => exact .closed rfl
    | cons e rest => exact .event (Nat.le_of_not_lt fits)

/-! ## A history, seen from a receiver -/

theorem capacity_run (history : List Request) : (run s history).capacity = s.capacity := by
  induction history using List.reverseRecOn with
  | nil => rfl
  | append_singleton history q ih =>
    rw [run_concat]
    exact ih

theorem next_run : (run s history).next = s.next + history.countP Request.isSubscribe := by
  induction history using List.reverseRecOn with
  | nil => rfl
  | append_singleton history q ih =>
    rw [run_concat, List.countP_append, List.countP_singleton, ← Nat.add_assoc, ← ih]
    rfl

theorem isClosed_run : (run s history).isClosed = true ↔ s.isClosed = true ∨ .drop ∈ history := by
  induction history using List.reverseRecOn with
  | nil => simp [run]
  | append_singleton history q ih =>
    rw [run_concat, List.mem_append, List.mem_singleton, ← or_assoc, ← ih,
      ← Request.isDrop_iff]
    exact Bool.or_eq_true_iff

/-- A receiver that has not subscribed yet is not there, and was not answered. -/
theorem unborn_run (capacity : Nat) (early : history.countP Request.isSubscribe ≤ n) :
    (run (empty capacity) history).waiting n = none ∧ receipts n (empty capacity) history = [] := by
  induction history using List.reverseRecOn with
  | nil => exact ⟨rfl, rfl⟩
  | append_singleton history q ih =>
    rw [List.countP_append, List.countP_singleton] at early
    obtain ⟨absent, silent⟩ := ih (by omega)
    have next : (run (empty capacity) history).next = history.countP Request.isSubscribe :=
      next_run.trans (Nat.zero_add _)
    rw [run_concat, receipts_concat, silent]
    change effect _ n q = none ∧ _
    cases q with
    | subscribe =>
      refine ⟨(if_neg ?_).trans absent, rfl⟩
      rw [next]
      exact Nat.ne_of_gt early
    | unsubscribe m => exact ⟨by rw [effect, absent, ite_self], rfl⟩
    | emit e => exact ⟨congrArg (Option.map _) absent, rfl⟩
    | receive m =>
      have unanswered : receipt? (run (empty capacity) history) n (.receive m) = none := by
        simp [receipt?, absent]
      rw [unanswered]
      exact ⟨by rw [effect, absent, Option.map_none, ite_self], rfl⟩
    | drop => exact ⟨absent, rfl⟩

/-- **The account of a receiver**: its answers cover the events since it subscribed, one after the
other, up to those that wait. -/
structure Account (capacity : Nat) (history : List Request) (n : Nat) (after : List Request)
    (pending : List PhaseEvent) : Prop where
  /-- What waits for it. -/
  here : (run (empty capacity) history).waiting n = some pending
  /-- What it was answered. -/
  covered : ∃ pieces, Forall₂ Receipt.Covers (receipts n (empty capacity) history) pieces ∧
    emitted after = pieces.flatten ++ pending

namespace Account

/-- For a receiver that has just subscribed no event waits. -/
theorem fresh (number : history.countP Request.isSubscribe = n) :
    Account capacity (history ++ [.subscribe]) n [] [] := by
  obtain ⟨-, silent⟩ := unborn_run capacity (Nat.le_of_eq number)
  have next : (run (empty capacity) history).next = n :=
    next_run.trans ((Nat.zero_add _).trans number)
  refine ⟨?_, [], ?_, rfl⟩
  · rw [run_concat]
    exact if_pos next.symm
  · rw [receipts_concat, silent]
    exact .nil

/-- A request that is no event and is not answered changes nothing. -/
theorem idle (account : Account capacity history n after pending)
    (silent : receipt? (run (empty capacity) history) n q = none) (quiet : q.event? = none)
    (still : (run (empty capacity) history).effect n q
      = (run (empty capacity) history).waiting n) :
    Account capacity (history ++ [q]) n (after ++ [q]) pending := by
  obtain ⟨pieces, covered, balance⟩ := account.covered
  refine ⟨?_, pieces, ?_, ?_⟩
  · rw [run_concat]
    exact still.trans account.here
  · rwa [receipts_concat, silent, Option.toList_none, List.append_nil]
  · rw [emitted_concat, quiet, balance, Option.toList_none, List.append_nil]

/-- One more event waits for the receiver. -/
theorem emit (account : Account capacity history n after pending) (e : PhaseEvent) :
    Account capacity (history ++ [.emit e]) n (after ++ [.emit e]) (pending ++ [e]) := by
  obtain ⟨pieces, covered, balance⟩ := account.covered
  refine ⟨?_, pieces, ?_, ?_⟩
  · rw [run_concat]
    exact congrArg (Option.map _) account.here
  · rw [receipts_concat]
    exact (List.append_nil _).symm ▸ covered
  · rw [emitted_concat, balance, List.append_assoc]
    rfl

/-- **An answer** covers what does not wait any more. -/
theorem receive (account : Account capacity history n after pending) :
    ∃ rest, Account capacity (history ++ [.receive n]) n (after ++ [.receive n]) rest := by
  obtain ⟨pieces, covered, balance⟩ := account.covered
  let closed := (run (empty capacity) history).isClosed
  obtain ⟨piece, covers, split⟩ := (answer_answers capacity closed pending).exists_covers
  have received : receipt? (run (empty capacity) history) n (.receive n)
      = some (answer capacity closed pending).1 := by
    refine (if_pos rfl).trans ?_
    rw [account.here, capacity_run]
    rfl
  refine ⟨(answer capacity closed pending).2, ?_, pieces ++ [piece], ?_, ?_⟩
  · rw [run_concat]
    refine (if_pos rfl).trans ?_
    rw [account.here, capacity_run]
    rfl
  · rw [receipts_concat, received]
    exact List.rel_append covered (.cons covers .nil)
  · rw [emitted_concat, balance, List.flatten_append, List.flatten_singleton,
      List.append_assoc _ piece, ← split]
    exact List.append_nil _

/-- **One more request** leaves an account, unless the receiver is dropped. -/
theorem next (account : Account capacity history n after pending)
    (old : n < history.countP Request.isSubscribe) (kept : q ≠ .unsubscribe n) :
    ∃ pending', Account capacity (history ++ [q]) n (after ++ [q]) pending' := by
  cases q with
  | subscribe =>
    refine ⟨pending, account.idle rfl rfl (if_neg ?_)⟩
    rw [next_run]
    exact Nat.ne_of_lt ((Nat.zero_add _).symm ▸ old)
  | unsubscribe m =>
    exact ⟨pending, account.idle rfl rfl
      (if_neg fun same => kept (congrArg Request.unsubscribe same.symm))⟩
  | emit e => exact ⟨_, account.emit e⟩
  | receive m =>
    by_cases same : n = m
    · subst same
      exact account.receive
    · exact ⟨pending, account.idle (if_neg same) rfl (if_neg same)⟩
  | drop => exact ⟨pending, account.idle rfl rfl rfl⟩

end Account

/-- **Every live receiver has an account.** -/
theorem exists_account (capacity : Nat) (live : IsLive history n after) :
    ∃ pending, Account capacity history n after pending := by
  -- from the end, since the last request changes the account of the history before it
  induction history using List.reverseRecOn generalizing after with
  | nil =>
    obtain ⟨before, split, -⟩ := live
    cases before <;> cases split
  | append_singleton history q ih =>
    obtain ⟨after, rfl, earlier, other⟩ | ⟨rfl, rfl, number⟩ := isLive_concat.1 live
    · obtain ⟨pending, account⟩ := ih earlier
      exact account.next earlier.lt other
    · exact ⟨[], .fresh number⟩

/-- **There is no receiver but the live ones.** -/
theorem exists_isLive (here : (run (empty capacity) history).waiting n = some pending) :
    ∃ after, IsLive history n after := by
  induction history using List.reverseRecOn generalizing pending with
  | nil => cases here
  | append_singleton history q ih =>
    rw [run_concat] at here
    change effect _ n q = some pending at here
    have older {pending' : List PhaseEvent} (other : q ≠ .unsubscribe n)
        (before : (run (empty capacity) history).waiting n = some pending') :
        ∃ after, IsLive (history ++ [q]) n after := by
      obtain ⟨after, live⟩ := ih before
      exact ⟨_, isLive_concat.2 (.inl ⟨after, rfl, live, other⟩)⟩
    cases q with
    | subscribe =>
      rw [effect] at here
      split at here
      · next same =>
        rw [next_run] at same
        exact ⟨[], isLive_concat.2 (.inr ⟨rfl, rfl, (same.trans (Nat.zero_add _)).symm⟩)⟩
      · exact older nofun here
    | unsubscribe m =>
      rw [effect] at here
      split at here
      · cases here
      · next other => exact older (fun same => other (Request.unsubscribe.inj same).symm) here
    | emit e =>
      obtain ⟨_, before, -⟩ := Option.map_eq_some_iff.1 here
      exact older nofun before
    | receive m =>
      rw [effect] at here
      split at here
      · obtain ⟨_, before, -⟩ := Option.map_eq_some_iff.1 here
        exact older nofun before
      · exact older nofun here
    | drop => exact older nofun here

theorem isSome_waiting_run :
    ((run (empty capacity) history).waiting n).isSome = true ↔ ∃ after, IsLive history n after := by
  rw [Option.isSome_iff_exists]
  refine ⟨fun ⟨_, here⟩ => exists_isLive here, fun ⟨after, live⟩ => ?_⟩
  obtain ⟨pending, account⟩ := exists_account capacity live
  exact ⟨pending, account.here⟩

/-! ## A receiver among others -/

/-- **Queues are alike to a receiver.** -/
structure Alike (n : Nat) (s s' : Queues) : Prop where
  /-- The capacity. -/
  capacity : s'.capacity = s.capacity
  /-- Whether more will come. -/
  isClosed : s'.isClosed = s.isClosed
  /-- The number of the next receiver. -/
  next : s'.next = s.next
  /-- What waits for the receiver. -/
  here : s'.waiting n = s.waiting n

theorem Alike.step (alike : Alike n s s') : Alike n (step s q) (step s' q) where
  capacity := alike.capacity
  isClosed := congrArg (· || q.isDrop) alike.isClosed
  next := congrArg (· + _) alike.next
  here := by
    change effect s' n q = effect s n q
    cases q with
    | subscribe => rw [effect, effect, alike.next, alike.here]
    | unsubscribe | emit => rw [effect, effect, alike.here]
    | receive => rw [effect, effect, alike.here, alike.capacity, alike.isClosed]
    | drop => exact alike.here

theorem Alike.receipt? (alike : Alike n s s') : receipt? s' n q = receipt? s n q := by
  cases q with
  | receive m => simp only [EventSink.receipt?, alike.here, alike.capacity, alike.isClosed]
  | subscribe | unsubscribe | emit | drop => rfl

/-- **What another receiver does is not seen.** -/
theorem alike_step (other : q.isOpenTo n = false) :
    Alike n (step s q) s ∧ receipt? s n q = none := by
  cases q with
  | unsubscribe m =>
    have apart : n ≠ m := fun same => by simp [Request.isOpenTo, same] at other
    exact ⟨⟨rfl, (Bool.or_false _).symm, rfl, (if_neg apart).symm⟩, rfl⟩
  | receive m =>
    have apart : n ≠ m := fun same => by simp [Request.isOpenTo, same] at other
    exact ⟨⟨rfl, (Bool.or_false _).symm, rfl, (if_neg apart).symm⟩, if_neg apart⟩
  | subscribe | emit e | drop => cases other

/-- **Without what other receivers do, a receiver is answered the same.** -/
theorem receipts_filter (alike : Alike n s s') :
    receipts n s' (history.filter (·.isOpenTo n)) = receipts n s history := by
  induction history generalizing s s' with
  | nil => rfl
  | cons q history ih =>
    rw [List.filter_cons, receipts]
    cases own : q.isOpenTo n with
    | true => rw [if_pos rfl, receipts, alike.receipt?, ih alike.step]
    | false =>
      obtain ⟨unseen, silent⟩ := alike_step (s := s) own
      rw [if_neg nofun, silent]
      exact ih ⟨alike.capacity.trans unseen.capacity, alike.isClosed.trans unseen.isClosed,
        alike.next.trans unseen.next, alike.here.trans unseen.here⟩

end Queues

end EventSink

end DeployChecks
