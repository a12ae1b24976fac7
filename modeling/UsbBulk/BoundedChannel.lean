import Mathlib.Data.List.Basic

/-!
# Bounded channels

A queue of limited capacity with parties that wait on either side: senders with
the value they could not store, and receivers.  A value may go directly from a
sender to a waiting receiver, and a freed place is filled from the first waiting
sender.
-/

namespace UsbBulk

/-- The state of a channel. -/
structure Channel (Party Value : Type) where
  stored : List Value
  senders : List (Party × Value)
  receivers : List Party

namespace Channel

variable {Party Value : Type} {capacity : Nat}
variable {before after : Channel Party Value}
variable {accepted delivered : List Value}

/-- The values that have been accepted and not delivered, oldest first. -/
def pending (channel : Channel Party Value) : List Value :=
  channel.stored ++ channel.senders.map Prod.snd

/-- Nobody waits without a reason. -/
structure Balanced (capacity : Nat) (channel : Channel Party Value) :
    Prop where
  bounded : channel.stored.length ≤ capacity
  hungry : channel.receivers ≠ [] →
    channel.stored = [] ∧ channel.senders = []
  full : channel.senders ≠ [] → channel.stored.length = capacity

/-- One transition, with the values that it accepts and delivers. -/
inductive Transfer (capacity : Nat) : Channel Party Value → List Value →
    List Value → Channel Party Value → Prop where
  | idle {channel} : Transfer capacity channel [] [] channel
  | hand {stored senders value party receivers} :
      Transfer capacity ⟨stored, senders, party :: receivers⟩ [value] [value]
        ⟨stored, senders, receivers⟩
  | store {stored senders value} (room : stored.length < capacity) :
      Transfer capacity ⟨stored, senders, []⟩ [value] []
        ⟨stored ++ [value], senders, []⟩
  | waitToSend {stored senders value party}
      (full : stored.length = capacity) :
      Transfer capacity ⟨stored, senders, []⟩ [value] []
        ⟨stored, senders ++ [(party, value)], []⟩
  | take {stored value receivers} :
      Transfer capacity ⟨value :: stored, [], receivers⟩ [] [value]
        ⟨stored, [], receivers⟩
  | refill {stored value party next senders receivers} :
      Transfer capacity ⟨value :: stored, (party, next) :: senders, receivers⟩
        [] [value] ⟨stored ++ [next], senders, receivers⟩
  | direct {party value senders receivers} :
      Transfer capacity ⟨[], (party, value) :: senders, receivers⟩ [] [value]
        ⟨[], senders, receivers⟩
  | waitToReceive {receivers party} :
      Transfer capacity ⟨[], [], receivers⟩ [] []
        ⟨[], [], receivers ++ [party]⟩

/-- Nothing is lost, duplicated or overtaken. -/
theorem Transfer.order (balanced : Balanced capacity before)
    (transfer : Transfer capacity before accepted delivered after) :
    before.pending ++ accepted = delivered ++ after.pending := by
  cases transfer with
  | idle => simp
  | hand =>
      obtain ⟨rfl, rfl⟩ := balanced.hungry (by simp)
      simp [pending]
  | @store stored senders value room =>
      have noSender : senders = [] := by
        by_contra some
        have full := balanced.full some
        exact absurd full (Nat.ne_of_lt room)
      simp [pending, noSender]
  | waitToSend full => simp [pending]
  | take => simp [pending]
  | refill => simp [pending]
  | direct => simp [pending]
  | waitToReceive => simp [pending]

theorem Transfer.balanced (balanced : Balanced capacity before)
    (transfer : Transfer capacity before accepted delivered after) :
    Balanced capacity after := by
  obtain ⟨bounded, hungry, full⟩ := balanced
  cases transfer with
  | idle => exact ⟨bounded, hungry, full⟩
  | hand => exact ⟨bounded, fun _ => hungry (by simp), full⟩
  | store room =>
      refine ⟨?_, by simp, fun some => ?_⟩
      · simp only [List.length_append, List.length_singleton]
        omega
      · exact absurd (full some) (Nat.ne_of_lt room)
  | waitToSend equal => exact ⟨bounded, by simp, fun _ => equal⟩
  | take =>
      refine ⟨?_, fun some => ?_, by simp⟩
      · simp only [List.length_cons] at bounded
        simp only
        omega
      · simpa using hungry some
  | refill =>
      refine ⟨by simpa using bounded, fun some => ?_, fun _ => ?_⟩
      · simpa using hungry some
      · simpa using full (by simp)
  | direct =>
      refine ⟨bounded, fun some => ?_, fun _ => full (by simp)⟩
      simpa using hungry some
  | waitToReceive => exact ⟨bounded, fun _ => ⟨rfl, rfl⟩, by simp⟩

/-- Runs of transitions, with all values accepted and delivered so far. -/
inductive Run (capacity : Nat) (start : Channel Party Value) :
    List Value → List Value → Channel Party Value → Prop where
  | start : Run capacity start [] [] start
  | next {accepted delivered accepted' delivered' before after}
      (run : Run capacity start accepted delivered before)
      (transfer : Transfer capacity before accepted' delivered' after) :
      Run capacity start (accepted ++ accepted') (delivered ++ delivered')
        after

/-- Along a run the accepted values are the delivered ones followed by the
pending ones. -/
theorem Run.order {start : Channel Party Value}
    (balanced : Balanced capacity start) (empty : start.pending = [])
    (run : Run capacity start accepted delivered after) :
    Balanced capacity after ∧ accepted = delivered ++ after.pending := by
  induction run with
  | start => exact ⟨balanced, by simp [empty]⟩
  | @next accepted delivered accepted' delivered' before after _ transfer ih =>
      obtain ⟨balanced, order⟩ := ih
      refine ⟨transfer.balanced balanced, ?_⟩
      calc
        accepted ++ accepted' =
            delivered ++ (before.pending ++ accepted') := by
          rw [order, List.append_assoc]
        _ = delivered ++ (delivered' ++ after.pending) := by
          rw [transfer.order balanced]
        _ = delivered ++ delivered' ++ after.pending := by
          rw [List.append_assoc]

end Channel

end UsbBulk
