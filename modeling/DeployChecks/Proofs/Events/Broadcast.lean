import DeployChecks.EventChannel
import Mathlib.Data.List.Basic

/-!
# Proofs/Events/Broadcast — what is relied on of a broadcast channel

A sink does not see how its channel keeps the events.  It relies on what can be said of any such
channel in terms of what it went through (`Chronicle`): the events that were sent to someone, how
many of them are kept, how many listen, and whether the sender is gone.  A receiver has a place in
what was sent, and its place alone decides its answer (`Chronicle.Answers`).  A description ties a
channel to its chronicle and a receiver to its place; that it **holds** is one law per operation.

A ring of events has such a description (`Ring.description_holds`).  Its slots hold the last events
only, each at its number modulo their number (`Ring.Stands`), so a place that is not yet overtaken
still finds its own event there: no two of the last numbers share a slot.
-/

namespace DeployChecks

/-! ## What a channel went through -/

/-- **What a broadcast channel went through.** -/
structure Chronicle where
  /-- How many events are kept at most. -/
  capacity : Nat
  /-- The events that were sent while someone was there, the oldest first. -/
  sent : List PhaseEvent
  /-- The number of receivers. -/
  receivers : Nat
  /-- The sender is dropped. -/
  isClosed : Bool

namespace Chronicle

/-- The number of the oldest event that is kept. -/
def oldest (k : Chronicle) : Nat := k.sent.length - k.capacity

/-- **What a receiver is answered** at its place, and the place where it is then. -/
inductive Answers (k : Chronicle) (place : Nat) : Receipt → Nat → Prop
  /-- What comes next to it is not kept: it is told how much it missed, and goes on with the oldest
  event that is kept. -/
  | lagged (overtaken : place < k.oldest) :
      Answers k place (.lagged (k.oldest - place)) k.oldest
  /-- It is given the event at its place. -/
  | event {e : PhaseEvent} (kept : k.oldest ≤ place) (next : k.sent[place]? = some e) :
      Answers k place (.event e) (place + 1)
  /-- It is past all events. -/
  | nothing (past : place = k.sent.length) (opened : k.isClosed = false) :
      Answers k place .nothing place
  /-- It is past all events, and none will come. -/
  | closed (past : place = k.sent.length) (dropped : k.isClosed = true) :
      Answers k place .closed place

/-- A receiver does not get past what was sent. -/
theorem Answers.le {k : Chronicle} {place place' : Nat} {receipt : Receipt}
    (answers : k.Answers place receipt place') (behind : place ≤ k.sent.length) :
    place' ≤ k.sent.length := by
  cases answers with
  | lagged => exact Nat.sub_le _ _
  | event _ next => exact (List.getElem?_eq_some_iff.1 next).1
  | nothing | closed => exact behind

end Chronicle

/-- **A description of a broadcast channel.** -/
structure Description (σ ρ : Type) where
  /-- A sender's channel went through a chronicle. -/
  tells : σ → Chronicle → Prop
  /-- How many of the sent events a receiver is past. -/
  place : ρ → Nat
  /-- The greatest capacity that may be asked for. -/
  room : Nat

/-- **What is relied on of a broadcast channel**: what each of its operations is documented to do,
and nothing about how it keeps the events.  That a channel holds as many receivers and events as
come, without a count turning over, is taken for granted. -/
structure Description.Holds {σ ρ : Type} [Broadcast σ ρ] (d : Description σ ρ) : Prop where
  /-- There is a channel of every capacity but none and more than there is room for. -/
  made (n : Nat) : (Broadcast.make? (σ := σ) n).isSome = true ↔ 0 < n ∧ n ≤ d.room
  /-- A new channel keeps as many events as was asked for, or more, and has one receiver. -/
  fresh {n : Nat} {c : σ} {r : ρ} (new : Broadcast.make? n = some (c, r)) :
    ∃ capacity, n ≤ capacity ∧ d.tells c ⟨capacity, [], 1, false⟩
  /-- A new receiver sees what is sent after it subscribed. -/
  subscribed {c : σ} {k : Chronicle} (told : d.tells c k) (opened : k.isClosed = false) :
    d.place (Broadcast.subscribe c).1 = k.sent.length ∧
      d.tells (Broadcast.subscribe c).2 { k with receivers := k.receivers + 1 }
  /-- A receiver that is dropped is not counted any more. -/
  released {c : σ} {k : Chronicle} (told : d.tells c k) (present : 0 < k.receivers) (r : ρ) :
    d.tells (Broadcast.release r c) { k with receivers := k.receivers - 1 }
  /-- The receivers are counted. -/
  counted {c : σ} {k : Chronicle} (told : d.tells c k) (opened : k.isClosed = false) :
    Broadcast.receiverCount c = k.receivers
  /-- An event is sent to all that are there. -/
  heard {c : σ} {k : Chronicle} (told : d.tells c k) (opened : k.isClosed = false)
    (present : 0 < k.receivers) (e : PhaseEvent) :
    (Broadcast.send e c).1 = some k.receivers ∧
      d.tells (Broadcast.send e c).2 { k with sent := k.sent ++ [e] }
  /-- An event is not sent where no one is there. -/
  unheard {c : σ} {k : Chronicle} (told : d.tells c k) (opened : k.isClosed = false)
    (absent : k.receivers = 0) (e : PhaseEvent) :
    (Broadcast.send e c).1 = none ∧ d.tells (Broadcast.send e c).2 k
  /-- A receiver is answered by its place; for the others nothing changes. -/
  received {c : σ} {k : Chronicle} (told : d.tells c k) {r : ρ}
    (behind : d.place r ≤ k.sent.length) :
    k.Answers (d.place r) (Broadcast.receive r c).1 (d.place (Broadcast.receive r c).2.1) ∧
      d.tells (Broadcast.receive r c).2.2 k
  /-- Dropping the sender closes the channel. -/
  closed {c : σ} {k : Chronicle} (told : d.tells c k) :
    d.tells (Broadcast.close c) { k with isClosed := true }

/-! ## A ring -/

namespace Ring

/-- Of the numbers in a row, as many as there are slots, no two share a slot. -/
theorem mod_ne_mod {i j n : Nat} (less : i < j) (near : j < i + n) : i % n ≠ j % n := by
  intro same
  have whole : (j - i) % n = 0 := Nat.sub_mod_eq_zero_of_mod_eq same.symm
  rw [Nat.mod_eq_of_lt (by omega)] at whole
  omega

/-- **A ring stands for a chronicle**: the last events are in their slots. -/
structure Stands (c : Ring) (k : Chronicle) : Prop where
  /-- The slots are as many as the events that are kept. -/
  capacity : c.slots.length = k.capacity
  /-- There is a slot. -/
  positive : 0 < k.capacity
  /-- What is sent is counted. -/
  tail : c.tail = k.sent.length
  /-- The receivers are counted. -/
  receivers : c.receivers = k.receivers
  /-- The sender is dropped. -/
  isClosed : c.isClosed = k.isClosed
  /-- The last events are in their slots; what the others hold does not matter. -/
  kept : ∀ i < k.sent.length, k.oldest ≤ i → c.slots[i % k.capacity]? = some k.sent[i]?

variable {c : Ring} {k : Chronicle}

theorem Stands.oldest (stands : c.Stands k) : c.oldest = k.oldest := by
  rw [Ring.oldest, Chronicle.oldest, stands.tail, stands.capacity]

/-- **What is not overtaken is still there.** -/
theorem Stands.at? (stands : c.Stands k) {i : Nat} (kept : k.oldest ≤ i) :
    c.at? i = k.sent[i]? := by
  rw [Ring.at?, stands.tail, stands.capacity]
  split
  · next sent => rw [stands.kept i sent kept, Option.join_some]
  · next unsent => exact (List.getElem?_eq_none (Nat.le_of_not_lt unsent)).symm

/-- An event takes the slot of the one that is not kept any more. -/
theorem Stands.send (stands : c.Stands k) (e : PhaseEvent) :
    Stands { c with slots := c.slots.set (c.tail % c.slots.length) (some e), tail := c.tail + 1 }
      { k with sent := k.sent ++ [e] } where
  capacity := (List.length_set ..).trans stands.capacity
  positive := stands.positive
  tail := by rw [stands.tail, List.length_append, List.length_singleton]
  receivers := stands.receivers
  isClosed := stands.isClosed
  kept i sent kept := by
    have slot : k.sent.length % k.capacity < c.slots.length := by
      rw [stands.capacity]
      exact Nat.mod_lt _ stands.positive
    rw [Chronicle.oldest] at kept
    dsimp only at sent kept ⊢
    rw [List.length_append, List.length_singleton] at sent kept
    rw [stands.tail, stands.capacity]
    obtain rfl | earlier : i = k.sent.length ∨ i < k.sent.length := by omega
    · rw [List.getElem?_set_self slot, List.getElem?_concat_length]
    · have other : i % k.capacity ≠ k.sent.length % k.capacity :=
        mod_ne_mod earlier (by omega)
      rw [List.getElem?_set_ne other.symm, List.getElem?_append_left earlier]
      exact stands.kept i earlier (by rw [Chronicle.oldest]; omega)

/-- **An answer of a ring.** -/
theorem Stands.receive (stands : c.Stands k) {r : Cursor} (behind : r.next ≤ k.sent.length) :
    k.Answers r.next (c.receive r).1 (c.receive r).2.1.next ∧ (c.receive r).2.2 = c := by
  rw [Ring.receive, stands.oldest]
  split
  · next overtaken => exact ⟨.lagged overtaken, rfl⟩
  next kept =>
  rw [stands.at? (Nat.le_of_not_lt kept)]
  cases next : k.sent[r.next]? with
  | some e => exact ⟨.event (Nat.le_of_not_lt kept) next, rfl⟩
  | none =>
    have past : r.next = k.sent.length := Nat.le_antisymm behind (List.getElem?_eq_none_iff.1 next)
    rw [stands.isClosed]
    cases ending : k.isClosed with
    | false => exact ⟨.nothing past ending, rfl⟩
    | true => exact ⟨.closed past ending, rfl⟩

/-- There are as many slots as were asked for, or more. -/
theorem le_slotsFor (capacity : Nat) : capacity ≤ slotsFor capacity := by
  rw [slotsFor]
  split
  · next small => exact small
  · have below : capacity - 1 < twoTo ((capacity - 1).log2 + 1) := Nat.lt_log2_self
    omega

theorem ofCapacity_stands {capacity : Nat} (positive : 0 < capacity) (receivers : Nat) :
    (ofCapacity capacity receivers).Stands ⟨slotsFor capacity, [], receivers, false⟩ where
  capacity := List.length_replicate
  positive := Nat.lt_of_lt_of_le positive (le_slotsFor capacity)
  tail := rfl
  receivers := rfl
  isClosed := rfl
  kept _ sent := absurd sent (Nat.not_lt_zero _)

/-- The description of a ring: it stands for its chronicle. -/
def description : Description Ring Cursor := ⟨Stands, Cursor.next, room⟩

/-- **What is relied on of a broadcast channel holds of a ring.** -/
theorem description_holds : description.Holds where
  made n := Option.isSome_ite
  fresh new := by
    obtain ⟨⟨positive, -⟩, made⟩ := Option.ite_none_right_eq_some.1 new
    cases made
    exact ⟨_, le_slotsFor _, ofCapacity_stands positive 1⟩
  subscribed told _ :=
    ⟨told.tail, { told with receivers := congrArg (· + 1) told.receivers }⟩
  released told _ _ := { told with receivers := congrArg (· - 1) told.receivers }
  counted told _ := told.receivers
  heard told _ present e := by
    have someone : ¬ _ = 0 := told.receivers ▸ Nat.ne_of_gt present
    change (Ring.send e _).1 = _ ∧ Stands (Ring.send e _).2 _
    rw [Ring.send, if_neg someone]
    exact ⟨congrArg some told.receivers, told.send e⟩
  unheard told _ absent e := by
    change (Ring.send e _).1 = _ ∧ Stands (Ring.send e _).2 _
    rw [Ring.send, if_pos (told.receivers.trans absent)]
    exact ⟨rfl, told⟩
  received told _ behind := by
    obtain ⟨answers, same⟩ := told.receive behind
    exact ⟨answers, same.symm ▸ told⟩
  closed told := { told with isClosed := rfl }

end Ring

end DeployChecks
