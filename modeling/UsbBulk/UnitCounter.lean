import Mathlib.Data.List.Basic

/-!
# Counters of units

A number of units that parties give back and take, with a limit, and a list of
parties that wait for a unit.  A unit that is given back goes directly to the
first waiting party, if there is one.
-/

namespace UsbBulk

/-- The state of a counter. -/
structure UnitCounter (Party : Type) where
  count : Int
  waiters : List Party

namespace UnitCounter

variable {Party : Type} {limit : Int}
variable {before after : UnitCounter Party}

/-- What happens to the units: how many are given back and how many are granted,
and which parties start to wait and are served. -/
structure Flow (Party : Type) where
  signalled : Nat
  granted : Nat
  joined : List Party
  served : List Party

namespace Flow

/-- Nothing happens. -/
def zero : Flow Party := ⟨0, 0, [], []⟩

/-- One flow after the other. -/
def append (first second : Flow Party) : Flow Party where
  signalled := first.signalled + second.signalled
  granted := first.granted + second.granted
  joined := first.joined ++ second.joined
  served := first.served ++ second.served

end Flow

/-- Nobody waits while there is a unit. -/
structure Sound (limit : Int) (counter : UnitCounter Party) : Prop where
  nonneg : 0 ≤ counter.count
  bounded : counter.count ≤ limit
  needy : counter.waiters ≠ [] → counter.count = 0

/-- One transition with its flow. -/
inductive Transfer (limit : Int) : UnitCounter Party → Flow Party →
    UnitCounter Party → Prop where
  | idle {counter} : Transfer limit counter .zero counter
  | hand {count party waiters} :
      Transfer limit ⟨count, party :: waiters⟩ ⟨1, 1, [], [party]⟩
        ⟨count, waiters⟩
  | raise {count} (room : count < limit) :
      Transfer limit ⟨count, []⟩ ⟨1, 0, [], []⟩ ⟨count + 1, []⟩
  | take {count waiters} (some : 1 ≤ count) :
      Transfer limit ⟨count, waiters⟩ ⟨0, 1, [], []⟩ ⟨count - 1, waiters⟩
  | wait {count waiters party} (none : ¬ 1 ≤ count) :
      Transfer limit ⟨count, waiters⟩ ⟨0, 0, [party], []⟩
        ⟨count, waiters ++ [party]⟩

theorem Transfer.sound (sound : Sound limit before) {flow : Flow Party}
    (transfer : Transfer limit before flow after) : Sound limit after := by
  obtain ⟨nonneg, bounded, needy⟩ := sound
  cases transfer with
  | idle => exact ⟨nonneg, bounded, needy⟩
  | hand => exact ⟨nonneg, bounded, fun _ => needy (by simp)⟩
  | raise room =>
      refine ⟨?_, ?_, by simp⟩
      · simp only at nonneg ⊢
        omega
      · simp only
        omega
  | take some =>
      refine ⟨?_, ?_, fun waiting => ?_⟩
      · simp only
        omega
      · simp only at bounded ⊢
        omega
      · have zero := needy waiting
        simp only at zero
        omega
  | wait none =>
      refine ⟨nonneg, bounded, fun _ => ?_⟩
      simp only at nonneg ⊢
      omega

/-- No unit appears or disappears. -/
theorem Transfer.conserves {flow : Flow Party}
    (transfer : Transfer limit before flow after) :
    before.count + flow.signalled = after.count + flow.granted := by
  cases transfer <;> simp [Flow.zero]

/-- Nobody overtakes. -/
theorem Transfer.order {flow : Flow Party}
    (transfer : Transfer limit before flow after) :
    before.waiters ++ flow.joined = flow.served ++ after.waiters := by
  cases transfer <;> simp [Flow.zero]

/-- Runs of transitions, with everything that has happened so far. -/
inductive Run (limit : Int) (start : UnitCounter Party) :
    Flow Party → UnitCounter Party → Prop where
  | start : Run limit start .zero start
  | next {flow flow' before after}
      (run : Run limit start flow before)
      (transfer : Transfer limit before flow' after) :
      Run limit start (flow.append flow') after

/-- Along a run the units are conserved and the parties are served in order. -/
theorem Run.account {start : UnitCounter Party} (sound : Sound limit start)
    (nobody : start.waiters = []) {flow : Flow Party}
    (run : Run limit start flow after) :
    Sound limit after ∧
      start.count + flow.signalled = after.count + flow.granted ∧
      flow.joined = flow.served ++ after.waiters := by
  induction run with
  | start => exact ⟨sound, by simp [Flow.zero], by simp [Flow.zero, nobody]⟩
  | @next flow flow' before after _ transfer ih =>
      obtain ⟨sound, units, order⟩ := ih
      refine ⟨transfer.sound sound, ?_, ?_⟩
      · have step := transfer.conserves
        simp only [Flow.append]
        omega
      · calc
          flow.joined ++ flow'.joined =
              flow.served ++ (before.waiters ++ flow'.joined) := by
            rw [order, List.append_assoc]
          _ = flow.served ++ (flow'.served ++ after.waiters) := by
            rw [transfer.order]
          _ = flow.served ++ flow'.served ++ after.waiters := by
            rw [List.append_assoc]

end UnitCounter

end UsbBulk
