import UsbBulk.FlagGroup
import UsbBulk.Kernel.SemRun

/-!
# An event releases the tasks whose condition holds

An event with its wait list is a group of flags.  The walk over the wait list is
described first, then every service on the event as one transition of the group,
and then whole runs in which tasks and interrupts use the event without
timeouts.
-/

namespace UsbBulk

/-! ## Conditions -/

/-- Every flag of the first pattern is set in the second one. -/
def Word.Within (low high : Word) : Prop := low &&& high = low

theorem Word.within_refl (pattern : Word) : Word.Within pattern pattern :=
  BitVec.and_self

theorem Word.zero_within (pattern : Word) : Word.Within 0 pattern :=
  BitVec.zero_and

theorem Word.and_within (pattern mask : Word) :
    Word.Within (pattern &&& mask) pattern := by
  unfold Word.Within
  rw [BitVec.and_comm pattern mask, BitVec.and_assoc, BitVec.and_self]

/-- What a task waits for, as the control block says. -/
def Tcb.condition (tcb : Tcb) (pattern : Word) : Bool :=
  eventCond pattern tcb.ewaitPattern tcb.ewaitMode

/-- The control block of a task that is released with a pattern. -/
def Tcb.metWith (tcb : Tcb) (pattern : Word) : Tcb :=
  { tcb with ewaitPattern := pattern }

theorem Tcb.samePlace_metWith (tcb : Tcb) (pattern : Word) :
    Tcb.SamePlace tcb (tcb.metWith pattern) :=
  ⟨rfl, rfl, rfl, rfl, rfl, rfl, rfl⟩

theorem eventCond_persistent (waitPattern waitMode : Word) :
    FlagGroup.Persistent Word.Within
      (eventCond · waitPattern waitMode) := by
  intro low high less met
  have split : low &&& waitPattern = low &&& (high &&& waitPattern) := by
    rw [← BitVec.and_assoc, less]
  change eventCond low waitPattern waitMode = true at met
  change eventCond high waitPattern waitMode = true
  unfold eventCond at met ⊢
  split at met
  · next anyFlag =>
      rw [if_pos anyFlag]
      simp only [decide_eq_true_eq, ne_eq] at met ⊢
      intro none
      rw [split, none] at met
      exact met BitVec.and_zero
  · next allFlags =>
      rw [if_neg allFlags]
      simp only [decide_eq_true_eq] at met ⊢
      calc
        high &&& waitPattern = high &&& (low &&& (high &&& waitPattern)) := by
          rw [← split, met]
        _ = low &&& (high &&& waitPattern) := by
          rw [BitVec.and_comm low, ← BitVec.and_assoc, ← BitVec.and_assoc,
            BitVec.and_self]
        _ = waitPattern := by rw [← split, met]

/-! ## The walk over the wait list -/

/-- The tasks whose condition holds have been released with the pattern they
met, and the others of the list are where they were. -/
structure Scanned (rule : Rule) (e : EventId) (front rest : List TaskId)
    (k k' : Kernel) (lists' : Lists) : Prop where
  kept : Kept rule none k' lists'
  members : lists'.task (.wait (.event e)) =
    front ++ rest.filter fun t => !(k.tcb t).condition (k.event e).pattern
  met : ∀ t ∈ rest, (k.tcb t).condition (k.event e).pattern = true →
    k'.tcb t = ((k.tcb t).metWith (k.event e).pattern).awake
  unmet : ∀ t, (t ∈ rest → (k.tcb t).condition (k.event e).pattern = false) →
    k'.tcb t = k.tcb t
  same : SameObjects k k'

section Scan

variable {rule : Rule} {e : EventId} {k k' k₁ : Kernel} {lists lists' : Lists}
variable {u : TaskId} {front rest : List TaskId}

theorem Scanned.skip
    (unmet : (k.tcb u).condition (k.event e).pattern = false)
    (scanned : Scanned rule e (front ++ [u]) rest k k' lists') :
    Scanned rule e front (u :: rest) k k' lists' where
  kept := scanned.kept
  members := by
    rw [scanned.members]
    simp [unmet]
  met t member met := by
    rcases List.mem_cons.mp member with rfl | member
    · exact absurd (unmet.symm.trans met) (by decide)
    · exact scanned.met t member met
  unmet t notMet := scanned.unmet t fun member =>
    notMet (List.mem_cons_of_mem u member)
  same := scanned.same

theorem Scanned.release (fresh : u ∉ rest)
    (met : (k.tcb u).condition (k.event e).pattern = true)
    (tcb : k₁.tcb = Function.update k.tcb u
      ((k.tcb u).metWith (k.event e).pattern).awake)
    (same : SameObjects k k₁)
    (scanned : Scanned rule e front rest k₁ k' lists') :
    Scanned rule e front (u :: rest) k k' lists' := by
  have others : ∀ t, t ≠ u → k₁.tcb t = k.tcb t := by
    intro t different
    rw [tcb, Function.update_of_ne different]
  have apart : ∀ t ∈ rest, t ≠ u := fun t member equal =>
    fresh (equal ▸ member)
  refine ⟨scanned.kept, ?_, fun t member metHere => ?_, fun t notMet => ?_,
    same.trans scanned.same⟩
  · rw [scanned.members, same.event]
    simp only [List.filter_cons, met, Bool.not_true, Bool.false_eq_true,
      if_false]
    congr 1
    refine List.filter_congr fun t member => ?_
    rw [others t (apart t member)]
  · rcases List.mem_cons.mp member with rfl | member
    · rw [scanned.unmet t fun member => absurd member fresh, tcb,
        Function.update_self]
    · have here := others t (apart t member)
      have result := scanned.met t member
      rw [same.event, here] at result
      exact result metHere
  · have different : t ≠ u := by
      rintro rfl
      exact absurd (met.symm.trans (notMet (by simp))) (by decide)
    rw [scanned.unmet t ?_, others t different]
    intro member
    rw [same.event, others t different]
    exact notMet (List.mem_cons_of_mem u member)

/-- A member of a wait list is taken out, its control block is written to, and
its wait is completed. -/
theorem Kept.wakeMember (kept : Kept rule none k lists) {list : WaitList}
    (plain : list.ofMutex = false) (member : u ∈ lists.task (.wait list))
    {new : Tcb} (place : Tcb.SamePlace (k.tcb u) new)
    (sameBlk : new.blkTask = (k.tcb u).blkTask) (fuel : Nat) :
    ∃ k₁ lists₁, UsbBulk.taskWaitComplete fuel (Kernel.setTcb { k with
        taskLinks := queueRemoveEntry k.taskLinks (.entry u) } u new) u =
          some (k₁, !(k.tcb u).taskState.isSuspend) ∧
      Kept rule none k₁ lists₁ ∧
      lists₁.task (.wait list) = (lists.task (.wait list)).erase u ∧
      k₁.tcb = Function.update k.tcb u new.awake ∧ SameObjects k k₁ := by
  have stored := (kept.unlinkWaiter member).setTcb place sameBlk
  have there : (Kernel.setTcb { k with
      taskLinks := queueRemoveEntry k.taskLinks (.entry u) } u new).tcb u =
        new := by
    simp [Kernel.setTcb]
  have still := (kept.waiter plain member).samePlace place
  rw [← there] at still
  obtain ⟨_, _, _, complete, after⟩ := stored.taskWaitComplete
    still.idTask still.waiting still.noMutex fuel
  rw [there] at complete after
  rw [place.taskState] at complete
  refine ⟨_, _, complete, after, Lists.wake_wait _ _ _ _, ?_,
    ⟨rfl, rfl, rfl, rfl, rfl, rfl, rfl, rfl, rfl, rfl⟩⟩
  exact Function.update_idem _ _ _

/-- The task is released by the flags, and it can run at once. -/
def Kernel.runsOn (k : Kernel) (pattern : Word) (t : TaskId) : Bool :=
  (k.tcb t).condition pattern && !(k.tcb t).taskState.isSuspend

/-- The walk from `u` on, with the tasks before it in their places. -/
theorem scanFrom_spec {fuel rounds : Nat} {wcflag : Bool}
    (front rest : List TaskId) (kept : Kept rule none k lists)
    (reached : lists.task (.wait (.event e)) = front ++ u :: rest) :
    Ends (scanFrom fuel e rounds k (.entry u) wcflag) fun after =>
      (∃ lists', Scanned rule e front (u :: rest) k after.1 lists') ∧
      after.2 = (wcflag || (u :: rest).any (k.runsOn (k.event e).pattern)) := by
  induction rounds generalizing k lists u front rest wcflag with
  | zero => exact ends_none
  | succ rounds ih =>
      have member : u ∈ lists.task (.wait (.event e)) := by simp [reached]
      have next := kept.consistent.scheduled.represents.next_entry reached
      have last : k.taskLinks.next (.entry u) = .head (.wait (.event e)) ↔
          rest = [] := by
        rw [next]
        cases rest <;> simp
      have nodup := kept.consistent.scheduled.represents.nodup
        (.wait (.event e))
      rw [reached] at nodup
      obtain ⟨_, nodupRest, apart⟩ := List.nodup_append.mp nodup
      obtain ⟨fresh, _⟩ := List.nodup_cons.mp nodupRest
      have absent : u ∉ front := fun inside => apart u inside u (by simp) rfl
      unfold scanFrom
      refine ends_bind_eq (show getTaskByTskQueue (.entry u) = some u from rfl)
        ?_
      refine ends_ite (fun met => ?_) fun unmet => ?_
      · -- The condition is met: `u` leaves the list.
        obtain ⟨k₁, lists₁, complete, after, members, tcb, same⟩ :=
          kept.wakeMember rfl member
            ((k.tcb u).samePlace_metWith (k.event e).pattern) rfl fuel
        have left : lists₁.task (.wait (.event e)) = front ++ rest := by
          simp [members, reached, List.erase_append, absent]
        have runs : k.runsOn (k.event e).pattern u =
            !(k.tcb u).taskState.isSuspend := by
          rw [Kernel.runsOn, show (k.tcb u).condition _ = true from met,
            Bool.true_and]
        refine ends_bind_eq complete ?_
        refine ends_ite (fun atEnd => ?_) fun notLast => ?_
        · have ends := last.mp (by simpa using atEnd)
          subst ends
          refine ends_some ⟨⟨lists₁, .release fresh met tcb same ?_⟩, ?_⟩
          · exact ⟨after, by simpa using left, by simp, fun _ _ => rfl,
              .refl _⟩
          · simp [runs]
        · cases rest with
          | nil => simp [last] at notLast
          | cons v rest =>
              rw [next]
              intro result run
              obtain ⟨⟨lists', scanned⟩, flag⟩ :=
                ih front rest after left result run
              refine ⟨⟨lists', .release fresh met tcb same scanned⟩, ?_⟩
              have others : (v :: rest).any (k₁.runsOn (k₁.event e).pattern) =
                  (v :: rest).any (k.runsOn (k.event e).pattern) := by
                rw [Bool.eq_iff_iff, List.any_eq_true, List.any_eq_true]
                refine exists_congr fun t => and_congr_right fun inside => ?_
                have different : t ≠ u := fun equal => fresh (equal ▸ inside)
                rw [Kernel.runsOn, Kernel.runsOn, same.event, tcb,
                  Function.update_of_ne different]
              rw [flag, others, ← runs, Bool.or_assoc]
              rfl
      · have unmet : (k.tcb u).condition (k.event e).pattern = false := by
          simpa [Tcb.condition] using unmet
        have waits : k.runsOn (k.event e).pattern u = false := by
          rw [Kernel.runsOn, unmet, Bool.false_and]
        refine ends_ite
          (fun atEnd => ends_some ⟨⟨lists, .skip unmet ?_⟩, ?_⟩)
          fun notLast => ?_
        · have ends := last.mp (by simpa using atEnd)
          subst ends
          exact ⟨kept, by simpa using reached, by simp, fun _ _ => rfl,
            .refl k⟩
        · have ends := last.mp (by simpa using atEnd)
          subst ends
          simp [waits]
        · cases rest with
          | nil => simp [last] at notLast
          | cons v rest =>
              rw [next]
              intro result run
              obtain ⟨⟨lists', scanned⟩, flag⟩ := ih (front ++ [u]) rest kept
                (by simp [reached]) result run
              refine ⟨⟨lists', .skip unmet scanned⟩, ?_⟩
              have skipped : (u :: v :: rest).any
                  (k.runsOn (k.event e).pattern) =
                    (v :: rest).any (k.runsOn (k.event e).pattern) := by
                rw [List.any_cons, waits, Bool.false_or]
              rw [flag, skipped]

theorem Kept.scanEventWaitqueue (kept : Kept rule none k lists)
    (has : k.hasList (.event e) = true)
    (waiting : lists.task (.wait (.event e)) = u :: rest) (fuel : Nat) :
    Ends (UsbBulk.scanEventWaitqueue fuel k e) fun after =>
      (∃ lists', Scanned rule e [] (u :: rest) k after.1 lists') ∧
      after.2 = (u :: rest).any (k.runsOn (k.event e).pattern) := by
  have first := kept.consistent.scheduled.represents.next_head
    (show liveHead lists.live (.wait (.event e)) from
      kept.consistent.live _ has)
  rw [waiting] at first
  unfold UsbBulk.scanEventWaitqueue
  rw [first]
  exact scanFrom_spec [] rest kept waiting

end Scan

/-! ## The group of an event -/

/-- What every task waits for, or has waited for last. -/
def Kernel.conditions (k : Kernel) (t : TaskId) : Word → Bool :=
  (k.tcb t).condition

/-- The flags, and the waiting tasks with their conditions. -/
def Kernel.flagGroup (k : Kernel) (lists : Lists) (e : EventId) :
    FlagGroup TaskId Word where
  pattern := (k.event e).pattern
  waiters := (lists.task (.wait (.event e))).map fun t =>
    (t, k.conditions t)

/-- Only one task may wait. -/
def Kernel.singleWaiter (k : Kernel) (e : EventId) : Prop :=
  Word.has (k.event e).attr tnEventAttrSingle = true

/-- The pattern that a call sets, if it sets one. -/
def Call.sets : Call → Option Word
  | eventSet _ pattern | eventIset _ pattern => some pattern
  | _ => none

/-- The attributes and the identity of an event do not change. -/
structure Event.SameShape (before after : Event) : Prop where
  attr : after.attr = before.attr
  idEvent : after.idEvent = before.idEvent

/-- Flags have been raised: exactly the tasks whose condition then holds have
been released, with the raised pattern. -/
structure Released (raised : Word) (before after : List TaskId)
    (k k' : Kernel) : Prop where
  remaining : after = before.filter fun t => !k.conditions t raised
  met : ∀ t ∈ before, k.conditions t raised = true →
    k'.tcb t = ((k.tcb t).metWith raised).awake
  unmet : ∀ t, (t ∈ before → k.conditions t raised = false) →
    k'.tcb t = k.tcb t

/-- The event exists and is in order. -/
structure EventSound (rule : Rule) (e : EventId) (k : Kernel)
    (lists : Lists) : Prop where
  kept : Kept rule none k lists
  isEvent : k.isEvent e = true
  group : FlagGroup.Sound Word.Within (k.singleWaiter e)
    (k.flagGroup lists e)

/-- A call has done one transition of the group, and a successful call that sets
flags releases the right tasks. -/
structure Flagged (rule : Rule) (e : EventId) (sets : Option Word)
    (reply : Reply) (k k' : Kernel) (lists lists' : Lists) : Prop where
  kept : Kept rule none k' lists'
  same : Event.SameShape (k.event e) (k'.event e)
  transfer : ∃ released, FlagGroup.Transfer Word.Within (k.singleWaiter e)
    (k.flagGroup lists e) released (k'.flagGroup lists' e)
  released : ∀ pattern, sets = some pattern → reply.rc = some .noErr →
    Released ((k.event e).pattern ||| pattern)
      (lists.task (.wait (.event e))) (lists'.task (.wait (.event e))) k k'

/-- Every answer of a service is one transition. -/
def Flags (rule : Rule) (e : EventId) (sets : Option Word) (k : Kernel)
    (lists : Lists) (outcome : Outcome) : Prop :=
  outcome.Ensures fun k' reply =>
    ∃ lists', Flagged rule e sets reply k k' lists lists'

section Group

variable {rule : Rule} {e : EventId} {k k' : Kernel} {lists lists' : Lists}
variable {sets : Option Word} {reply : Reply} {t : TaskId}

theorem Event.SameShape.refl (event : Event) : SameShape event event :=
  ⟨rfl, rfl⟩

theorem Flagged.sound (sound : EventSound rule e k lists)
    (flagged : Flagged rule e sets reply k k' lists lists') :
    EventSound rule e k' lists' where
  kept := flagged.kept
  isEvent := by
    have valid := sound.isEvent
    simp only [Kernel.isEvent, decide_eq_true_eq] at valid ⊢
    rw [flagged.same.idEvent, valid]
  group := by
    obtain ⟨released, transfer⟩ := flagged.transfer
    rw [Kernel.singleWaiter, flagged.same.attr]
    exact transfer.sound sound.group

theorem Flags.fromInterrupt {outcome : Outcome}
    (flags : Flags rule e sets k lists outcome) :
    Flags rule e sets k lists outcome.fromInterrupt := by
  refine Outcome.Ensures.fromInterrupt flags
    fun _ _ ⟨lists', kept, same, transfer, released⟩ => ?_
  refine ⟨lists', kept.request, same, transfer, fun pattern isSet noErr => ?_⟩
  obtain ⟨remaining, met, unmet⟩ := released pattern isSet noErr
  exact ⟨remaining, met, unmet⟩

/-- Flags may have been taken away, and nothing else has happened. -/
theorem flagged_lower (kept : Kept rule none k' lists')
    (same : Event.SameShape (k.event e) (k'.event e))
    (less : Word.Within (k'.event e).pattern (k.event e).pattern)
    (waits : lists'.task (.wait (.event e)) = lists.task (.wait (.event e)))
    (conditions : k'.conditions = k.conditions)
    (other : ∀ pattern, sets = some pattern → reply.rc ≠ some .noErr) :
    Flagged rule e sets reply k k' lists lists' where
  kept := kept
  same := same
  transfer := by
    refine ⟨[], ?_⟩
    rw [Kernel.flagGroup, Kernel.flagGroup, waits, conditions]
    exact .lower less
  released pattern isSet noErr := absurd noErr (other pattern isSet)

theorem EventSound.same (sound : EventSound rule e k lists)
    (other : ∀ pattern, sets = some pattern → reply.rc ≠ some .noErr) :
    ∃ lists', Flagged rule e sets reply k k lists lists' :=
  ⟨lists, flagged_lower sound.kept (.refl _) (Word.within_refl _) rfl rfl
    other⟩

theorem EventSound.refused (sound : EventSound rule e k lists)
    (refuses : reply.Refuses) :
    ∃ lists', Flagged rule e sets reply k k lists lists' :=
  sound.same fun _ _ => refuses.noErr

theorem EventSound.checked (sound : EventSound rule e k lists)
    {evf : Option EventId} (this : evf = some e) {badParam : Nat → Bool}
    {wrongContext : Bool} {body : Nat → Outcome}
    (flags : Flags rule e sets k lists (body e)) :
    Flags rule e sets k lists
      (checked k evf badParam k.isEvent wrongContext body) :=
  ensures_checked this (fun _ => sound.refused) flags

theorem EventSound.clearBody (sound : EventSound rule e k lists)
    (pattern : Word) :
    Flags rule e none k lists (eventClearBody k pattern e) := by
  refine ensures_some ⟨lists, flagged_lower (sound.kept.setEvent rfl) ?_ ?_
    rfl rfl (by simp)⟩ <;> simp only [Kernel.setEvent, Function.update_self]
  · exact ⟨rfl, rfl⟩
  · exact Word.and_within _ _

theorem EventSound.waitBody (sound : EventSound rule e k lists)
    (waitPattern waitMode : Word) {unmet : EventId → Outcome}
    (flags : (k.singleWaiter e → lists.task (.wait (.event e)) = []) →
      eventCond (k.event e).pattern waitPattern waitMode = false →
      Flags rule e none k lists (unmet e)) :
    Flags rule e none k lists
      (eventWaitBody k waitPattern waitMode unmet e) := by
  have empty : k.noWaiters (.event e) = true ↔ _ :=
    sound.kept.noWaiters_iff sound.isEvent
  unfold eventWaitBody
  dsimp only
  split
  · exact ensures_some (sound.same (by simp))
  next room =>
  split
  · -- The condition holds, and the flags are perhaps taken away.
    refine ensures_some ⟨lists, flagged_lower (sound.kept.setEvent ?_) ?_ ?_
      rfl rfl (by simp)⟩
    · split <;> rfl
    · simp only [Kernel.setEvent, Function.update_self]
      split <;> exact ⟨rfl, rfl⟩
    · simp only [Kernel.setEvent, Function.update_self]
      split
      · exact Word.zero_within _
      · exact Word.within_refl _
  · next notMet =>
      refine flags (fun single => ?_) (by simpa using notMet)
      have single : Word.has (k.event e).attr tnEventAttrSingle = true :=
        single
      exact empty.mp (by simpa [single] using room)

/-- The condition is not met, and the running task waits for it. -/
theorem EventSound.sleep (sound : EventSound rule e k lists)
    (running : (k.tcb k.tnCurrRunTask).taskState = .runnable)
    (stop : rule.stop k.tnCurrRunTask) {timeout : Word}
    (waits : rule.waits (some (.event e)) timeout)
    (waitPattern waitMode : Word)
    (room : k.singleWaiter e → lists.task (.wait (.event e)) = [])
    (unmet : eventCond (k.event e).pattern waitPattern waitMode = false) :
    Flags rule e none k lists (do
      let k := k.setTcb k.tnCurrRunTask { k.tcb k.tnCurrRunTask with
        ewaitMode := waitMode, ewaitPattern := waitPattern }
      let k ← taskCurrToWaitAction k (some (.event e)) .event timeout
      some (k, .block)) := by
  have place : Tcb.SamePlace (k.tcb k.tnCurrRunTask)
      { k.tcb k.tnCurrRunTask with
        ewaitMode := waitMode, ewaitPattern := waitPattern } :=
    ⟨rfl, rfl, rfl, rfl, rfl, rfl, rfl⟩
  obtain ⟨k₁, lists', result, changed⟩ := sound.kept.sleepWith place rfl
    running stop waits (show WaitReason.fits .event (some (.event e)) = true
      from rfl) sound.isEvent
  have absent := sound.kept.running_absent running (.event e)
  intro k' reply run
  obtain ⟨k₂, slept, after⟩ := Option.bind_eq_some_iff.mp run
  obtain rfl : k₁ = k₂ := Option.some.inj (result.symm.trans slept)
  cases after
  refine ⟨lists', changed.kept, ?_, ⟨[], ?_⟩, by simp⟩
  · rw [changed.same.event]
    exact .refl _
  · have others : (lists.task (.wait (.event e))).map
        (fun t => (t, k₁.conditions t)) =
          (lists.task (.wait (.event e))).map
            fun t => (t, k.conditions t) := by
      refine List.map_congr_left fun t member => ?_
      have different : t ≠ k.tnCurrRunTask := fun equal =>
        absent (equal ▸ member)
      rw [Kernel.conditions, Kernel.conditions, changed.tcb,
        Function.update_of_ne different]
    have own : k₁.conditions k.tnCurrRunTask =
        (eventCond · waitPattern waitMode) := by
      rw [Kernel.conditions, changed.tcb, Function.update_self]
      rfl
    rw [Kernel.flagGroup, Kernel.flagGroup, changed.members,
      changed.same.event, List.map_append, others, List.map_singleton, own]
    exact .wait unmet (eventCond_persistent waitPattern waitMode)
      fun single => by simp [room single]

/-- A released group is one transition of the group before it, whatever flags
are then taken away. -/
theorem Released.transfer {raised : Word}
    (released : Released raised (lists.task (.wait (.event e)))
      (lists'.task (.wait (.event e))) k k')
    (less : Word.Within (k'.event e).pattern raised) :
    ∃ free, FlagGroup.Transfer Word.Within (k.singleWaiter e)
      (k.flagGroup lists e) free (k'.flagGroup lists' e) := by
  have left : (k'.flagGroup lists' e).waiters =
      (k.flagGroup lists e).waiters.filter fun waiter =>
        !waiter.2 raised := by
    simp only [Kernel.flagGroup, released.remaining, List.filter_map]
    refine List.map_congr_left fun t member => ?_
    obtain ⟨_, unmet⟩ := List.mem_filter.mp member
    have same := released.unmet t fun _ => by simpa using unmet
    rw [Kernel.conditions, Kernel.conditions, same]
  have after : k'.flagGroup lists' e = ⟨(k'.event e).pattern,
      (k.flagGroup lists e).waiters.filter fun waiter => !waiter.2 raised⟩ :=
    congrArg (FlagGroup.mk _) left
  rw [after]
  exact ⟨_, .raise less⟩

theorem EventSound.setBody (sound : EventSound rule e k lists)
    (fuel : Nat) (pattern : Word) :
    Flags rule e (some pattern) k lists (eventSetBody fuel k pattern e) := by
  have written : Kept rule none (k.setEvent e { k.event e with
      pattern := (k.event e).pattern ||| pattern }) lists :=
    sound.kept.setEvent rfl
  have there : (k.setEvent e { k.event e with
      pattern := (k.event e).pattern ||| pattern }).event e =
        { k.event e with pattern := (k.event e).pattern ||| pattern } := by
    simp [Kernel.setEvent]
  have has : (k.setEvent e { k.event e with
      pattern := (k.event e).pattern ||| pattern }).hasList (.event e) =
        true := by
    simpa [Kernel.hasList, Kernel.isEvent, Kernel.setEvent]
      using sound.isEvent
  -- What is left to show once the tasks have been released.
  have done : ∀ {k' : Kernel} {lists' : Lists} {reply : Reply},
      Kept rule none k' lists' →
      Event.SameShape (k.event e) (k'.event e) →
      Word.Within (k'.event e).pattern ((k.event e).pattern ||| pattern) →
      Released ((k.event e).pattern ||| pattern)
        (lists.task (.wait (.event e))) (lists'.task (.wait (.event e)))
        k k' →
      ∃ lists', Flagged rule e (some pattern) reply k k' lists lists' := by
    intro k' lists' reply kept same less released
    refine ⟨lists', kept, same, released.transfer less, ?_⟩
    intro other isSet _
    rwa [← Option.some.inj isSet]
  intro k' reply run
  unfold eventSetBody at run
  dsimp only at run
  split at run
  · next some =>
      obtain ⟨t, rest, waiting⟩ := written.first has (by simpa using some)
      obtain ⟨⟨k₁, wcflag⟩, scan, run⟩ := Option.bind_eq_some_iff.mp run
      obtain ⟨⟨lists', scanned⟩, -⟩ :=
        written.scanEventWaitqueue has waiting fuel _ scan
      obtain ⟨kept, members, met, unmet, same⟩ := scanned
      rw [there] at members met unmet
      have event : k₁.event e =
          { k.event e with pattern := (k.event e).pattern ||| pattern } := by
        rw [same.event, there]
      have released : Released ((k.event e).pattern ||| pattern)
          (lists.task (.wait (.event e))) (lists'.task (.wait (.event e)))
          k k₁ := by
        rw [waiting]
        exact ⟨members, met, unmet⟩
      dsimp only at run
      split at run
      · cases run
        split
        · -- The flags are taken away.
          refine done (kept.setEvent rfl) ?_ ?_
            ⟨released.remaining, released.met, released.unmet⟩ <;>
          simp only [Kernel.setEvent, Function.update_self, event]
          · exact ⟨rfl, rfl⟩
          · exact Word.zero_within _
        · refine done kept ?_ ?_ released <;> rw [event]
          · exact ⟨rfl, rfl⟩
          · exact Word.within_refl _
      · cases run
        refine done kept ?_ ?_ released <;> rw [event]
        · exact ⟨rfl, rfl⟩
        · exact Word.within_refl _
  · next none =>
      have nobody := (written.noWaiters_iff has).mp (by simpa using none)
      cases run
      refine done written ?_ ?_ ⟨by simp [nobody], by simp [nobody],
        fun _ _ => rfl⟩ <;> rw [there]
      · exact ⟨rfl, rfl⟩
      · exact Word.within_refl _

theorem Quiet.flagged (quiet : Quiet rule k k' lists lists')
    (conditions : k'.conditions = k.conditions) :
    Flagged rule e none reply k k' lists lists' :=
  flagged_lower quiet.kept (by rw [quiet.same.event]; exact .refl _)
    (by rw [quiet.same.event]; exact Word.within_refl _) (quiet.waits _)
    conditions (by simp)

end Group

/-! ## Steps -/

/-- The calls of a run on one event: setting and clearing flags and waiting for
them in every way, without a timeout, and suspending and resuming the tasks other
than the idle task. -/
def Image.OnEvent (image : Image) (e : EventId) (_ : Kernel) : Call → Prop
  | .eventWait evf _ _ _ timeout => evf = some e ∧ timeout = tnWaitInfinite
  | .eventWaitPolling evf .. | .eventIwait evf .. => evf = some e
  | .eventSet evf _ | .eventIset evf _ => evf = some e
  | .eventClear evf _ | .eventIclear evf _ => evf = some e
  | .taskSuspend task => task ≠ some image.idleTask
  | .taskResume _ => True
  | _ => False

def Action.sets : Action → Option Word
  | .call service _ | .interrupt service _ => service.sets
  | .dispatch => none

section Steps

variable {image : Image} {e : EventId} {k k' : Kernel} {lists : Lists}

theorem Call.exec_flags (sound : EventSound image.untimedRule e k lists)
    {call : Call} (may : image.OnEvent e k call)
    (running : call.fromInterrupt = false →
      (k.tcb k.tnCurrRunTask).taskState = .runnable ∧
        k.tnCurrRunTask ≠ image.idleTask) (fuel : Nat) :
    Flags image.untimedRule e call.sets k lists
      (call.exec image.tnTaskExit fuel k) := by
  have refuse : Flags image.untimedRule e none k lists
      (some (k, .ret .timeout)) := ensures_some (sound.same (by simp))
  cases call with
  | eventWait evf waitPattern waitMode pFlagsPattern timeout =>
      obtain ⟨this, rfl⟩ := may
      refine sound.checked this (sound.waitBody waitPattern waitMode ?_)
      exact sound.sleep (running rfl).1 (running rfl).2 (.inr rfl) _ _
  | eventWaitPolling evf waitPattern waitMode pFlagsPattern =>
      exact sound.checked may (sound.waitBody _ _ fun _ _ => refuse)
  | eventIwait evf waitPattern waitMode pFlagsPattern =>
      exact sound.checked may (sound.waitBody _ _ fun _ _ => refuse)
  | eventSet evf pattern =>
      exact sound.checked may (sound.setBody fuel pattern)
  | eventIset evf pattern =>
      exact sound.checked may (sound.setBody fuel pattern).fromInterrupt
  | eventClear evf pattern => exact sound.checked may (sound.clearBody pattern)
  | eventIclear evf pattern =>
      exact sound.checked may (sound.clearBody pattern)
  | taskSuspend task =>
      intro k' reply run
      obtain ⟨lists', quiet⟩ := tnTaskSuspend_quiet sound.kept
        (fun t isTask idle => may (by rw [isTask, idle])) run
      exact ⟨lists', quiet.flagged
        (tnTaskSuspend_aspect (fun _ _ _ => rfl) task _ run)⟩
  | taskResume task =>
      intro k' reply run
      obtain ⟨lists', quiet⟩ := tnTaskResume_quiet sound.kept run
      exact ⟨lists', quiet.flagged
        (tnTaskResume_aspect (fun _ _ _ => rfl) task _ run)⟩
  | _ => cases may

theorem EventSound.of_same {rule : Rule} (sound : EventSound rule e k lists)
    (kept : Kept rule none k' lists) (tcb : k'.tcb = k.tcb)
    (event : k'.event = k.event) : EventSound rule e k' lists where
  kept := kept
  isEvent := by
    rw [Kernel.isEvent, event]
    exact sound.isEvent
  group := by
    have conditions : k'.conditions = k.conditions := by
      funext t
      rw [Kernel.conditions, Kernel.conditions, tcb]
    rw [Kernel.singleWaiter, Kernel.flagGroup, event, conditions]
    exact sound.group

/-- What one step does to the event. -/
structure Signalled (rule : Rule) (e : EventId) (action : Action)
    (k k' : Kernel) (lists lists' : Lists) : Prop where
  sound : EventSound rule e k' lists'
  attr : (k'.event e).attr = (k.event e).attr
  released : ∀ pattern, action.sets = some pattern →
    action.rc = some .noErr →
      Released ((k.event e).pattern ||| pattern)
        (lists.task (.wait (.event e))) (lists'.task (.wait (.event e)))
        k k'

theorem EventSound.step (sound : EventSound image.untimedRule e k lists)
    {action : Action} (step : Step image (image.OnEvent e) k action k') :
    ∃ lists', Signalled image.untimedRule e action k k' lists lists' := by
  cases step with
  | call fuel task running notIdle may run =>
      obtain ⟨lists', flagged⟩ := Call.exec_flags sound may
        (fun _ => ⟨running, notIdle⟩) fuel _ _ run
      exact ⟨lists', flagged.sound sound, flagged.same.attr,
        flagged.released⟩
  | interrupt fuel irq may run =>
      have entered := sound.of_same sound.kept.enterIrq rfl rfl
      obtain ⟨lists', flagged⟩ := Call.exec_flags entered may
        (fun task => absurd (irq.symm.trans task) (by decide)) fuel _ _ run
      have after := flagged.sound entered
      refine ⟨lists', after.of_same after.kept.leaveIrq rfl rfl,
        flagged.same.attr, fun pattern isSet noErr => ?_⟩
      obtain ⟨remaining, met, unmet⟩ := flagged.released pattern isSet noErr
      exact ⟨remaining, met, unmet⟩
  | dispatch run =>
      have kept := sound.kept.dispatch run
      obtain ⟨next, _, result⟩ := Option.bind_eq_some_iff.mp run
      cases result
      exact ⟨lists, sound.of_same kept rfl rfl, rfl,
        fun pattern isSet => by cases isSet⟩

/-- A successful creation is about an event that did not exist. -/
theorem tnEventCreate_spec {attr pattern : Word}
    (run : tnEventCreate k (some e) attr pattern =
      some (k', .ret .noErr)) :
    k.isEvent e = false ∧ k'.tcb = k.tcb ∧
      k'.event e = ⟨attr, pattern, tnIdEvent⟩ := by
  unfold tnEventCreate at run
  dsimp only at run
  split at run
  · cases run
  next params =>
  split at run
  · cases run
  cases run
  refine ⟨?_, rfl, by simp [Kernel.setEvent]⟩
  simpa using (not_or.mp (mt Bool.or_eq_true_iff.mpr params)).1

theorem EventSound.of_create {rule : Rule} (kept : Kept rule none k lists)
    {attr pattern : Word} (run : tnEventCreate k (some e) attr pattern =
      some (k', .ret .noErr)) :
    ∃ lists', EventSound rule e k' lists' := by
  obtain ⟨lists', after⟩ := tnEventCreate_keeps kept attr pattern _ _ run
  obtain ⟨absent, tcb, event⟩ := tnEventCreate_spec run
  have nobody := kept.nobody (.event e) after tcb absent
  refine ⟨lists', after, by simp [Kernel.isEvent, event], ?_, ?_, ?_⟩ <;>
    simp [Kernel.flagGroup, nobody]

end Steps

/-! ## Runs -/

/-- A run that starts with the creation of the event, in any state that an
untimed run reaches. -/
inductive EventRun (image : Image) (e : EventId) (attr : Word) :
    Kernel → Prop where
  | create {k k' : Kernel} {pattern : Word}
      (reachable : Reachable image image.Untimed k)
      (step : Step image image.Untimed k
        (.call (.eventCreate (some e) attr pattern) (.ret .noErr)) k') :
      EventRun image e attr k'
  | next {k k' : Kernel} {action : Action} (before : EventRun image e attr k)
      (step : Step image (image.OnEvent e) k action k') :
      EventRun image e attr k'

section Runs

variable {image : Image} {e : EventId} {attr : Word} {k : Kernel}

theorem EventRun.sound (run : EventRun image e attr k) :
    ∃ lists, EventSound image.untimedRule e k lists ∧
      (k.event e).attr = attr := by
  induction run with
  | create reachable step =>
      obtain ⟨lists, kept⟩ := reachable.kept
      cases step with
      | call fuel task running notIdle may run =>
          obtain ⟨lists', sound⟩ := EventSound.of_create kept run
          obtain ⟨_, _, event⟩ := tnEventCreate_spec run
          exact ⟨lists', sound, by rw [event]⟩
  | next _ step ih =>
      obtain ⟨lists, sound, same⟩ := ih
      obtain ⟨lists', signalled⟩ := sound.step step
      exact ⟨lists', signalled.sound, signalled.attr.trans same⟩

/-- No waiting task has its condition met, only one task waits where only one
may, and whoever sets flags releases exactly the tasks whose condition then
holds. -/
theorem event_releases (run : EventRun image e attr k) :
    ∃ waiters,
      k.Waiting (.event e) waiters ∧
      (∀ t ∈ waiters, eventCond (k.event e).pattern
        (k.tcb t).ewaitPattern (k.tcb t).ewaitMode = false) ∧
      (Word.has attr tnEventAttrSingle = true → waiters.length ≤ 1) ∧
      ∀ action k' pattern, Step image (image.OnEvent e) k action k' →
        action.sets = some pattern → action.rc = some .noErr →
          let raised := (k.event e).pattern ||| pattern
          let holds := fun t => eventCond raised
            (k.tcb t).ewaitPattern (k.tcb t).ewaitMode
          k'.Waiting (.event e) (waiters.filter fun t => !holds t) ∧
          (∀ t ∈ waiters, holds t = true →
            (k'.tcb t).taskState.isWait = false ∧
            (k'.tcb t).taskWaitRc = .noErr ∧
            (k'.tcb t).ewaitPattern = raised) ∧
          ∀ t ∈ waiters, holds t = false → k'.tcb t = k.tcb t := by
  obtain ⟨lists, sound, same⟩ := run.sound
  have group := sound.group
  refine ⟨_, sound.kept.waiting (.event e) sound.isEvent, ?_, ?_, ?_⟩
  · intro t member
    exact group.unmet (t, k.conditions t) (List.mem_map.mpr ⟨t, member, rfl⟩)
  · intro single
    have alone := group.alone (by rwa [Kernel.singleWaiter, same])
    simpa [Kernel.flagGroup] using alone
  · intro action k' pattern step isSet noErr
    obtain ⟨lists', signalled⟩ := sound.step step
    obtain ⟨remaining, met, unmet⟩ := signalled.released pattern isSet noErr
    have after := signalled.sound.kept.waiting (.event e)
      signalled.sound.isEvent
    rw [remaining] at after
    refine ⟨after, fun t member holds => ?_, fun t _ fails =>
      unmet t fun _ => fails⟩
    rw [met t member holds]
    exact ⟨Tcb.awake_not_isWait, rfl, rfl⟩

/-- The timer task waits for one of two flags, and an interrupt sets the second
one. -/
theorem event_releases_sample : ∃ k action k',
    EventRun .sample 0 1 k ∧ Step .sample (Image.sample.OnEvent 0) k action k' ∧
      (k'.tcb 0).taskState.isWait = false ∧ (k'.tcb 0).ewaitPattern = 2 := by
  have created : EventRun .sample 0 1 _ :=
    .create (.start Kernel.fresh_zeroed tnStartSystem_started)
      (.answer (.eventCreate (some 0) 1 0) _ 9 rfl rfl rfl (by decide)
        ⟨rfl, by decide, by simp [Call.waits]⟩)
  have waits : EventRun .sample 0 1 _ := created.next (.answer
    (.eventWait (some 0) 3 tnEventWcondOr true _) .block 9 rfl rfl rfl
    (by decide) ⟨rfl, rfl⟩)
  obtain ⟨waiters, waiting, -, -, steps⟩ := event_releases waits
  have alone : waiters.map Node.entry = [.entry 0] :=
    Links.Segment.middle_unique waiting ⟨rfl, rfl, rfl, rfl⟩ (by simp) (by simp)
  have member : 0 ∈ waiters := by
    have inside : Node.entry 0 ∈ waiters.map (@Node.entry QueueHead TaskId) := by
      simp [alone]
    simpa using inside
  have released := (steps (.interrupt (.eventIset (some 0) 2) (.ret .noErr)) _ 2
    (.interrupt 9 rfl rfl (Outcome.eq_after rfl)) rfl rfl).2.1 0 member rfl
  exact ⟨_, .interrupt (.eventIset (some 0) 2) (.ret .noErr), _, waits,
    .interrupt 9 rfl rfl (Outcome.eq_after rfl), released.1, released.2.2⟩

end Runs

end UsbBulk
