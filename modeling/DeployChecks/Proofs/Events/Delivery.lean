import DeployChecks.Proofs.Events.Broadcast
import DeployChecks.Proofs.Events.Queues
import DeployChecks.Proofs.Keyed

/-!
# Proofs/Events/Delivery — a sink accounts for its events

Over any broadcast channel whose description holds, a sink with its receivers does what a queue for
every receiver does (`Realizes`): what waits for a receiver is what the channel was sent
from the receiver's place on.  The channel sends only while someone is there, and no queue misses
what is not sent then, for there is none.  So the accounts of the queues are accounts of the
receivers.  Main statement: `events_are_accounted_for`.
-/

namespace DeployChecks

open List (Forall₂)

namespace EventSink

variable {σ ρ : Type} [Broadcast σ ρ] {d : Description σ ρ}

/-- **A sink with its receivers is asked.** -/
instance : Desk (Audience σ ρ) where
  step a
    | .subscribe => a.subscribe.2
    | .unsubscribe n => (a.unsubscribe n).2
    | .emit e => a.send e
    | .receive n => (a.receive n).2
    | .drop => a.close
  receipt? a n
    | .receive m => if n = m then (a.receive n).1 else none
    | .subscribe | .unsubscribe _ | .emit _ | .drop => none

/-- **Emitting succeeds**, and is logged and counted, whatever the channel answers. -/
theorem emit_eq (e : PhaseEvent) (s : EventSink σ) :
    s.emit e = ((.ok (), note e :: if (Broadcast.send e s.sender).1.isNone then [unheard] else []),
      ⟨(Broadcast.send e s.sender).2, s.published + 1⟩) := by
  rw [emit]
  rcases Broadcast.send e s.sender with ⟨_ | _, sender⟩ <;> rfl

theorem receive_of_some {a : Audience σ ρ} {n : Nat} {r : ρ}
    (here : a.receivers.find? n = some r) :
    a.receive n = (some (Broadcast.receive r a.sink.sender).1,
      { a with
        sink := { a.sink with sender := (Broadcast.receive r a.sink.sender).2.2 }
        receivers := a.receivers.insert n (Broadcast.receive r a.sink.sender).2.1 }) := by
  rw [Audience.receive, here]

theorem receive_of_none {a : Audience σ ρ} {n : Nat} (absent : a.receivers.find? n = none) :
    a.receive n = (none, a) := by
  rw [Audience.receive, absent]

/-! ## An answer is that of the queue -/

/-- **A place stands for a queue**: what waits is what was sent from there on. -/
theorem answer_eq {k : Chronicle} {place place' : Nat} {receipt : Receipt}
    (answers : k.Answers place receipt place') :
    Queues.answer k.capacity k.isClosed (k.sent.drop place) = (receipt, k.sent.drop place') := by
  unfold Queues.answer
  rw [List.length_drop]
  cases answers with
  | lagged overtaken =>
    rw [Chronicle.oldest] at overtaken ⊢
    have missed : k.sent.length - place - k.capacity = k.sent.length - k.capacity - place := by
      omega
    rw [if_pos (by omega), List.drop_drop, missed, Nat.add_sub_cancel' (Nat.le_of_lt overtaken)]
  | event kept next =>
    rw [Chronicle.oldest] at kept
    obtain ⟨inside, rfl⟩ := List.getElem?_eq_some_iff.1 next
    rw [if_neg (by omega), List.drop_eq_getElem_cons inside]
  | nothing past opened =>
    rw [if_neg (by omega), List.drop_eq_nil_of_le (Nat.le_of_eq past.symm), opened]
    rfl
  | closed past dropped =>
    rw [if_neg (by omega), List.drop_eq_nil_of_le (Nat.le_of_eq past.symm), dropped]
    rfl

/-! ## Requests are met as by queues -/

/-- **A sink with its receivers realizes queues**, over a channel with a chronicle. -/
structure Realizes (d : Description σ ρ) (k : Chronicle) (a : Audience σ ρ) (s : Queues) :
    Prop where
  /-- The channel went through the chronicle. -/
  told : d.tells a.sink.sender k
  /-- The receivers of the channel are those that are there. -/
  receivers : k.receivers = a.receivers.size
  /-- The channel is closed once the sink is dropped. -/
  isClosed : k.isClosed = a.isClosed
  /-- No receiver has a number of one to come, or is past what was sent. -/
  placed : ∀ {n r}, a.receivers.find? n = some r → n < a.nextReceiver ∧ d.place r ≤ k.sent.length
  /-- The capacity. -/
  capacity : s.capacity = k.capacity
  /-- Whether more will come. -/
  ending : s.isClosed = a.isClosed
  /-- The number of the next receiver. -/
  next : s.next = a.nextReceiver
  /-- What waits for the receivers. -/
  waiting : ∀ n, s.waiting n = (a.receivers.find? n).map fun r => k.sent.drop (d.place r)

namespace Realizes

variable {k : Chronicle} {a : Audience σ ρ} {s : Queues} {q : Request} {history : List Request}

/-- A new sink realizes queues without receivers. -/
theorem new {capacity : Nat} (holds : d.Holds) (new : Audience.new? capacity = some a) :
    ∃ k : Chronicle, capacity ≤ k.capacity ∧ Realizes d k a (.empty k.capacity) ∧
      a.published = 0 := by
  obtain ⟨sink, sink_made, rfl⟩ := Option.map_eq_some_iff.1 new
  obtain ⟨⟨c, r⟩, made, rfl⟩ := Option.map_eq_some_iff.1 sink_made
  obtain ⟨kept, enough, told⟩ := holds.fresh made
  refine ⟨⟨kept, [], 0, false⟩, enough, ?_, rfl⟩
  exact
    { told := holds.released told Nat.one_pos r
      receivers := rfl
      isClosed := rfl
      placed := nofun
      capacity := rfl
      ending := rfl
      next := rfl
      waiting := fun _ => rfl }

theorem subscribe (holds : d.Holds) (real : Realizes d k a s) (opened : a.isClosed = false) :
    Realizes d { k with receivers := k.receivers + 1 } a.subscribe.2 (step s .subscribe) := by
  obtain ⟨place, told⟩ := holds.subscribed real.told (real.isClosed.trans opened)
  have free : a.receivers.find? a.nextReceiver = none := by
    rw [Option.eq_none_iff_forall_ne_some]
    exact fun r here => Nat.lt_irrefl _ (real.placed here).1
  have found (n : Nat) : a.subscribe.2.receivers.find? n
      = if n = a.nextReceiver then some (Broadcast.subscribe a.sink.sender).1
        else a.receivers.find? n := Keyed.find?_insert ..
  exact
    { told
      receivers := (congrArg (· + 1) real.receivers).trans (Keyed.size_insert free).symm
      isClosed := real.isClosed
      placed := fun {n r} here => by
        rw [found] at here
        split at here
        · next same =>
          cases here
          exact ⟨same ▸ Nat.lt_succ_self _, Nat.le_of_eq place⟩
        · obtain ⟨early, behind⟩ := real.placed here
          exact ⟨Nat.lt_succ_of_lt early, behind⟩
      capacity := real.capacity
      ending := (Bool.or_false _).trans real.ending
      next := congrArg (· + 1) real.next
      waiting := fun n => by
        change s.effect n .subscribe = _
        rw [found, Queues.effect, real.next, real.waiting]
        split
        · rw [Option.map_some, place, List.drop_length]
        · rfl }

omit [Broadcast σ ρ] in
/-- A request of a receiver that is not there changes nothing. -/
theorem idle (real : Realizes d k a s) (still : ∀ n, s.effect n q = s.waiting n)
    (own : q.needsSink = false) : Realizes d k a (step s q) := by
  have waiting (n : Nat) := (still n).trans (real.waiting n)
  cases q with
  | unsubscribe | receive =>
    exact { real with ending := (Bool.or_false _).trans real.ending, next := real.next, waiting }
  | subscribe | emit | drop => cases own

theorem unsubscribe (holds : d.Holds) (real : Realizes d k a s) (m : Nat) :
    ∃ k', Realizes d k' (a.unsubscribe m).2 (step s (.unsubscribe m)) := by
  rw [Audience.unsubscribe]
  cases here : a.receivers.find? m with
  | none =>
    refine ⟨k, real.idle (fun n => ?_) rfl⟩
    rw [Queues.effect]
    split
    · next same => rw [same, real.waiting, here, Option.map_none]
    · rfl
  | some r =>
    have present : 0 < k.receivers := real.receivers ▸ Keyed.size_pos here
    have found (n : Nat) : (a.receivers.erase m).find? n
        = if n = m then none else a.receivers.find? n := Keyed.find?_erase ..
    refine ⟨{ k with receivers := k.receivers - 1 }, ?_⟩
    exact
      { told := holds.released real.told present r
        receivers := (congrArg (· - 1) real.receivers).trans (Keyed.size_erase here).symm
        isClosed := real.isClosed
        placed := fun left => real.placed (Option.ite_none_left_eq_some.1 (found _ ▸ left)).2
        capacity := real.capacity
        ending := (Bool.or_false _).trans real.ending
        next := real.next
        waiting := fun n => by
          change s.effect n (.unsubscribe m) = _
          rw [found, Queues.effect, real.waiting]
          split <;> rfl }

/-- An event waits for all receivers: if there is one the channel sends it, and if there is none no
queue is there to miss it. -/
theorem emit (holds : d.Holds) (real : Realizes d k a s) (opened : a.isClosed = false)
    (e : PhaseEvent) :
    ((Broadcast.send e a.sink.sender).1.isNone = true ↔ a.receivers.size = 0) ∧
      ∃ k', Realizes d k' (a.send e) (step s (.emit e)) := by
  have sender : (a.send e).sink.sender = (Broadcast.send e a.sink.sender).2 :=
    congrArg (·.2.sender) (emit_eq e a.sink)
  by_cases absent : a.receivers.size = 0
  · obtain ⟨unsent, told⟩ :=
      holds.unheard real.told (real.isClosed.trans opened) (real.receivers.trans absent) e
    refine ⟨iff_of_true (unsent ▸ rfl) absent, k, { real with
      told := sender.symm ▸ told
      ending := (Bool.or_false _).trans real.ending
      next := real.next
      waiting := fun n => ?_ }⟩
    have missing : a.receivers.find? n = none := by
      rw [Option.eq_none_iff_forall_ne_some]
      exact fun r here => Nat.ne_of_gt (Keyed.size_pos here) absent
    change (s.waiting n).map _ = (a.receivers.find? n).map _
    rw [real.waiting, missing]
    rfl
  · have present : 0 < k.receivers := real.receivers ▸ Nat.pos_of_ne_zero absent
    obtain ⟨sent, told⟩ := holds.heard real.told (real.isClosed.trans opened) present e
    refine ⟨iff_of_false (by rw [sent]; nofun) absent, { k with sent := k.sent ++ [e] }, { real with
      told := sender.symm ▸ told
      placed := fun here => ?_
      ending := (Bool.or_false _).trans real.ending
      next := real.next
      waiting := fun n => ?_ }⟩
    · obtain ⟨early, behind⟩ := real.placed here
      exact ⟨early, Nat.le_trans behind (List.length_append ▸ Nat.le_add_right _ _)⟩
    · change (s.waiting n).map _ = (a.receivers.find? n).map _
      rw [real.waiting]
      cases here : a.receivers.find? n with
      | none => rfl
      | some r => exact congrArg some (List.drop_append_of_le_length (real.placed here).2).symm

theorem receive (holds : d.Holds) (real : Realizes d k a s) (m : Nat) :
    (a.receive m).1 = (s.waiting m).map (fun pending =>
        (Queues.answer s.capacity s.isClosed pending).1) ∧
      Realizes d k (a.receive m).2 (step s (.receive m)) := by
  rw [real.waiting]
  cases here : a.receivers.find? m with
  | none =>
    rw [receive_of_none here]
    refine ⟨rfl, real.idle (fun n => ?_) rfl⟩
    rw [Queues.effect]
    split
    · next same => rw [same, real.waiting, here, Option.map_none, Option.map_none]
    · rfl
  | some r =>
    obtain ⟨early, behind⟩ := real.placed here
    obtain ⟨answers, told⟩ := holds.received real.told behind
    rw [receive_of_some here]
    generalize Broadcast.receive r a.sink.sender = received at answers told ⊢
    obtain ⟨receipt, r', sender⟩ := received
    have answer := answer_eq answers
    rw [← real.capacity, real.isClosed, ← real.ending] at answer
    have found (n : Nat) : (a.receivers.insert m r').find? n
        = if n = m then some r' else a.receivers.find? n := Keyed.find?_insert ..
    refine ⟨congrArg (fun given => some given.1) answer.symm, ?_⟩
    exact
      { told
        receivers := real.receivers.trans (Keyed.size_insert_over here).symm
        isClosed := real.isClosed
        placed := fun {n _} taken => by
          rw [found] at taken
          split at taken
          · next same =>
            cases taken
            exact ⟨same ▸ early, answers.le behind⟩
          · exact real.placed taken
        capacity := real.capacity
        ending := (Bool.or_false _).trans real.ending
        next := real.next
        waiting := fun n => by
          change s.effect n (.receive m) = _
          rw [found, Queues.effect, real.waiting]
          split
          · next same =>
            rw [same, here]
            exact congrArg (fun given => some given.2) answer
          · rfl }

theorem close (holds : d.Holds) (real : Realizes d k a s) :
    Realizes d { k with isClosed := true } a.close (step s .drop) :=
  { real with
    told := holds.closed real.told
    isClosed := rfl
    ending := Bool.or_true _ }

/-- The receivers are counted as long as there is a sink. -/
theorem receiverCount (holds : d.Holds) (real : Realizes d k a s) (opened : a.isClosed = false) :
    a.receiverCount = a.receivers.size :=
  (holds.counted real.told (real.isClosed.trans opened)).trans real.receivers

/-- **One request**, if there is a sink where it takes one. -/
theorem step (holds : d.Holds) (real : Realizes d k a s)
    (proper : a.isClosed = true → q.needsSink = false) :
    (∃ k', Realizes d k' (step a q) (step s q)) ∧ ∀ n, receipt? a n q = receipt? s n q := by
  have opened (needed : q.needsSink = true) : a.isClosed = false :=
    Bool.eq_false_iff.2 fun dropped => nomatch (proper dropped).symm.trans needed
  cases q with
  | subscribe => exact ⟨⟨_, real.subscribe holds (opened rfl)⟩, fun _ => rfl⟩
  | unsubscribe m => exact ⟨real.unsubscribe holds m, fun _ => rfl⟩
  | emit e => exact ⟨(real.emit holds (opened rfl) e).2, fun _ => rfl⟩
  | receive m =>
    obtain ⟨answer, after⟩ := real.receive holds m
    refine ⟨⟨k, after⟩, fun n => ?_⟩
    by_cases same : n = m
    · subst same
      exact (if_pos rfl).trans (answer.trans (if_pos rfl).symm)
    · exact (if_neg same).trans (if_neg same).symm
  | drop => exact ⟨⟨_, real.close holds⟩, fun _ => rfl⟩

/-- **A history.** -/
theorem run (holds : d.Holds) (real : Realizes d k a s) (proper : IsProper history)
    (opened : a.isClosed = true → ∀ q ∈ history, q.needsSink = false) :
    (∃ k', Realizes d k' (run a history) (run s history)) ∧
      ∀ n, receipts n a history = receipts n s history := by
  induction history generalizing k a s with
  | nil => exact ⟨⟨k, real⟩, fun _ => rfl⟩
  | cons q history ih =>
    obtain ⟨after, rest⟩ := List.pairwise_cons.1 proper
    obtain ⟨⟨k', next⟩, answer⟩ :=
      real.step holds fun dropped => opened dropped q List.mem_cons_self
    have still (dropped : (EventSink.step a q).isClosed = true) :
        ∀ p ∈ history, p.needsSink = false := by
      have ending : s.isClosed = true ∨ q.isDrop = true :=
        Bool.or_eq_true_iff.1 (next.ending.trans dropped)
      obtain earlier | last := ending
      · exact fun p mem => opened (real.ending ▸ earlier) p (List.mem_cons_of_mem q mem)
      · exact fun p mem => after p mem last
    obtain ⟨reached, answers⟩ := ih next rest still
    exact ⟨reached, fun n => by rw [receipts, receipts, answer, answers]⟩

end Realizes

/-! ## A sink and its events -/

variable {a : Audience σ ρ} {history : List Request}

theorem published_run :
    (run a history).published = a.published + (emitted history).length := by
  induction history using List.reverseRecOn with
  | nil => rfl
  | append_singleton history q ih =>
    have count (a : Audience σ ρ) :
        (step a q).published = a.published + q.event?.toList.length := by
      cases q with
      | emit e => exact congrArg (·.2.published) (emit_eq e a.sink)
      | unsubscribe n =>
        change (a.unsubscribe n).2.published = _
        rw [Audience.unsubscribe]
        split <;> rfl
      | receive n =>
        change (a.receive n).2.published = _
        rw [Audience.receive]
        split <;> rfl
      | subscribe | drop => rfl
    rw [run_concat, count, ih, emitted_concat, List.length_append, Nat.add_assoc]

/-- **A sink accounts for its events**, from the first one on, with so much room for each
receiver. -/
structure AccountsFor (capacity : Nat) (first : Audience σ ρ) (history : List Request)
    (a : Audience σ ρ) : Prop where
  /-- Emitting succeeds, whether or not anyone listens. -/
  emit : .drop ∉ history → ∀ e, (a.sink.emit e).1
    = (.ok (), note e :: if a.receiverCount = 0 then [unheard] else [])
  /-- Every event that was emitted is counted. -/
  published : a.published = (emitted history).length
  /-- No more comes once the sink is dropped. -/
  dropped : a.isClosed = true ↔ .drop ∈ history
  /-- The subscribers are the live receivers. -/
  receivers : ∃ live : List Nat, live.Nodup ∧ (∀ n, n ∈ live ↔ ∃ after, IsLive history n after) ∧
    (.drop ∉ history → a.receiverCount = live.length)
  /-- Only a live receiver is answered. -/
  unanswered : ∀ n, (a.receive n).1 = none ↔ ∀ after, ¬ IsLive history n after
  /-- The events since a receiver subscribed are those that its answers cover, one answer after the
  other, and those that wait: what was given, what was lost and what is to come add up.  And what
  waits decides what it is answered next. -/
  account : ∀ n after, IsLive history n after → ∃ pieces pending,
    Forall₂ Receipt.Covers (receipts n first history) pieces ∧
      emitted after = pieces.flatten ++ pending ∧
      ((receipts n first history).filterMap Receipt.event?).length
        + Receipt.lost (receipts n first history) + pending.length
        = (emitted after).length ∧
      ∃ receipt rest, (a.receive n).1 = some receipt ∧
        Queues.Answers capacity a.isClosed pending receipt rest
  /-- Without what other receivers do, a receiver is answered the same. -/
  apart : ∀ n, receipts n first (history.filter (·.isOpenTo n)) = receipts n first history

/-- **What realizes queues accounts for its events.** -/
theorem accountsFor_of_realizes {k : Chronicle} {capacity : Nat} {first : Audience σ ρ}
    (holds : d.Holds) (start : Realizes d k first (.empty capacity)) (unused : first.published = 0)
    (proper : IsProper history) : AccountsFor capacity first history (run first history) := by
  have follow {history : List Request} (proper : IsProper history) :=
    start.run holds proper fun dropped => nomatch start.ending.trans dropped
  obtain ⟨⟨k', real⟩, answered⟩ := follow proper
  have dropped : (run first history).isClosed = true ↔ .drop ∈ history := by
    rw [← real.ending, Queues.isClosed_run]
    exact or_iff_right nofun
  have opened (there : .drop ∉ history) : (run first history).isClosed = false :=
    Bool.eq_false_iff.2 (mt dropped.1 there)
  have waits (n : Nat) : ((run (Queues.empty capacity) history).waiting n).isSome = true
      ↔ ∃ after, IsLive history n after := Queues.isSome_waiting_run
  have given (n : Nat) := (real.receive holds n).1
  exact
    { emit := fun there e => by
        rw [emit_eq, real.receiverCount holds (opened there)]
        have remark := (real.emit holds (opened there) e).1
        rw [if_congr remark rfl rfl]
      published := by rw [published_run, unused, Nat.zero_add]
      dropped
      receivers := by
        refine ⟨(run first history).receivers.keys, (run first history).receivers.nodup,
          fun n => ?_, fun there => ?_⟩
        · rw [← waits, real.waiting, Option.isSome_map, Keyed.mem_keys, Option.isSome_iff_exists]
        · rw [real.receiverCount holds (opened there)]
          exact (List.length_map _).symm
      unanswered := fun n => by
        rw [given, Option.map_eq_none_iff, ← not_exists, ← waits, Option.not_isSome_iff_eq_none]
      account := fun n after live => by
        obtain ⟨pending, account⟩ := Queues.exists_account capacity live
        obtain ⟨pieces, covered, balance⟩ := account.covered
        have answer := given n
        rw [account.here, Queues.capacity_run, real.ending] at answer
        refine ⟨pieces, pending, answered n ▸ covered, balance, ?_, _, _, answer,
          Queues.answer_answers _ _ _⟩
        rw [answered, balance, List.length_append, Receipt.length_flatten_of_covers covered]
      apart := fun n => by
        rw [answered, (follow (List.Pairwise.filter _ proper)).2]
        exact Queues.receipts_filter ⟨rfl, rfl, rfl, rfl⟩ }

/-- **Every event is accounted for**, over any broadcast channel.  There is a sink of every capacity
for which there is a channel.  Whatever it and its receivers are asked then, in whatever order, the
sink and each receiver account for the events, with at least so much room for each receiver. -/
theorem events_are_accounted_for (holds : d.Holds) (capacity : Nat) :
    ((Audience.new? capacity : Option (Audience σ ρ)).isSome = true ↔
        0 < capacity ∧ capacity ≤ d.room) ∧
      ∀ first : Audience σ ρ, Audience.new? capacity = some first →
        ∃ effective, capacity ≤ effective ∧ ∀ history, IsProper history →
          AccountsFor effective first history (run first history) := by
  refine ⟨?_, fun first new => ?_⟩
  · rw [Audience.new?, Option.isSome_map, EventSink.new?, Option.isSome_map]
    exact holds.made capacity
  · obtain ⟨k, enough, start, unused⟩ := Realizes.new holds new
    refine ⟨k.capacity, enough, fun history proper => ?_⟩
    exact accountsFor_of_realizes holds start unused proper

end EventSink

namespace Sample

/-- An event. -/
def news (message : String) : PhaseEvent :=
  .about (.app (.bare "shop" "prod" "1" "u1")) .createTask .normal "Succeeded" message .epoch

end Sample

namespace EventSink

/-- One receiver lags twice and is dropped; another one subscribes late, and learns that the sink
was dropped once it was given all there was. -/
theorem events_are_accounted_for_after_a_lag :
    let first : EventChannel := ⟨⟨.ofCapacity 2 0, 0⟩, {}, 0, false⟩
    let history := [.subscribe, .emit (Sample.news "a"), .emit (Sample.news "b"),
      .emit (Sample.news "c"), .receive 0, .subscribe, .emit (Sample.news "d"), .receive 0,
      .receive 0, .unsubscribe 0, .drop, .receive 1, .receive 1]
    (receipts 0 first history = [.lagged 1, .lagged 1, .event (Sample.news "c")] ∧
      receipts 1 first history = [.event (Sample.news "d"), .closed]) ∧
      Ring.description.Holds ∧ Audience.new? 2 = some first ∧ IsProper history ∧
      ∃ effective, 2 ≤ effective ∧ AccountsFor effective first history (run first history) := by
  intro first history
  have new : Audience.new? 2 = some first := rfl
  have proper : IsProper history := by decide
  obtain ⟨-, accounts⟩ := events_are_accounted_for Ring.description_holds 2
  obtain ⟨effective, enough, accounts⟩ := accounts first new
  exact ⟨by decide +kernel, Ring.description_holds, new, proper, effective, enough,
    accounts history proper⟩

end EventSink

end DeployChecks
