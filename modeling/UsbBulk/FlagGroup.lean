import Mathlib.Data.List.Basic

/-!
# Groups of flags

A set of flags with parties that wait for a condition on it.  Raising flags
releases the parties whose condition then holds; the others keep their places.
A condition that holds for some flags also holds for more flags.
-/

namespace UsbBulk

/-- The flags, and who waits for which condition. -/
structure FlagGroup (Party Flags : Type) where
  pattern : Flags
  waiters : List (Party × (Flags → Bool))

namespace FlagGroup

variable {Party Flags : Type} {below : Flags → Flags → Prop} {single : Prop}
variable {before after : FlagGroup Party Flags} {released : List Party}

/-- A condition that is not lost when flags are added. -/
def Persistent (below : Flags → Flags → Prop) (condition : Flags → Bool) :
    Prop :=
  ∀ ⦃low high⦄, below low high → condition low = true →
    condition high = true

/-- Nobody waits for a condition that holds, and perhaps only one may wait. -/
structure Sound (below : Flags → Flags → Prop) (single : Prop)
    (group : FlagGroup Party Flags) : Prop where
  unmet : ∀ waiter ∈ group.waiters, waiter.2 group.pattern = false
  persistent : ∀ waiter ∈ group.waiters, Persistent below waiter.2
  alone : single → group.waiters.length ≤ 1

/-- One transition with the parties that it releases.  When flags are raised,
some or all of them may be taken away again at once. -/
inductive Transfer (below : Flags → Flags → Prop) (single : Prop) :
    FlagGroup Party Flags → List Party → FlagGroup Party Flags → Prop where
  | lower {pattern left waiters} (less : below left pattern) :
      Transfer below single ⟨pattern, waiters⟩ [] ⟨left, waiters⟩
  | raise {pattern raised left waiters} (less : below left raised) :
      Transfer below single ⟨pattern, waiters⟩
        ((waiters.filter (·.2 raised)).map Prod.fst)
        ⟨left, waiters.filter (!·.2 raised)⟩
  | wait {pattern waiters party condition}
      (unmet : condition pattern = false)
      (persistent : Persistent below condition)
      (room : single → waiters = []) :
      Transfer below single ⟨pattern, waiters⟩ []
        ⟨pattern, waiters ++ [(party, condition)]⟩

/-- A condition that does not hold does not hold for fewer flags. -/
theorem Persistent.unmet {condition : Flags → Bool} {low high : Flags}
    (persistent : Persistent below condition) (less : below low high)
    (unmet : condition high = false) : condition low = false := by
  by_contra met
  have met : condition low = true := by simpa using met
  exact absurd (unmet.symm.trans (persistent less met)) (by decide)

theorem Transfer.sound (sound : Sound below single before)
    (transfer : Transfer below single before released after) :
    Sound below single after := by
  obtain ⟨unmet, persistent, alone⟩ := sound
  cases transfer with
  | lower less =>
      refine ⟨fun waiter member => ?_, persistent, alone⟩
      exact (persistent waiter member).unmet less (unmet waiter member)
  | @raise pattern raised left waiters less =>
      refine ⟨fun waiter member => ?_, fun waiter member => ?_,
        fun one => ?_⟩
      · obtain ⟨inside, notMet⟩ := List.mem_filter.mp member
        exact (persistent waiter inside).unmet less (by simpa using notMet)
      · exact persistent waiter (List.mem_filter.mp member).1
      · exact Nat.le_trans (List.length_filter_le _ _) (alone one)
  | wait notMet lasting room =>
      refine ⟨fun waiter member => ?_, fun waiter member => ?_,
        fun one => ?_⟩
      · rcases List.mem_append.mp member with old | new
        · exact unmet waiter old
        · rw [List.mem_singleton.mp new]
          exact notMet
      · rcases List.mem_append.mp member with old | new
        · exact persistent waiter old
        · rw [List.mem_singleton.mp new]
          exact lasting
      · simp [room one]

end FlagGroup

end UsbBulk
