import UsbBulk.Kernel.EventRun
import UsbBulk.Kernel.Registry

/-!
# Events that are cleared when a task is released

A wait that is answered at once takes all flags.  A task that is released from the
wait list takes them only if it can run at once: the flags that release a suspended
task stay.
-/

namespace UsbBulk

/-- The task waits for the event. -/
def Kernel.WaitsFor (k : Kernel) (e : EventId) (t : TaskId) : Prop :=
  k.isTask t = true ∧ (k.tcb t).taskState.isWait = true ∧
    (k.tcb t).pwaitQueue = some (.event e)

/-- The services that wait for flags. -/
def Call.asksFlags : Call → Bool
  | eventWait .. | eventWaitPolling .. | eventIwait .. => true
  | _ => false

def Action.asksFlags : Action → Bool
  | .call service _ | .interrupt service _ => service.asksFlags
  | .dispatch => false

/-- A wait for flags is answered with them at once. -/
def Action.Answers (action : Action) : Prop :=
  action.asksFlags = true ∧ action.rc = some .noErr

/-- The step sets flags. -/
def Action.Raises (action : Action) : Prop :=
  ∃ pattern, action.sets = some pattern ∧ action.rc = some .noErr

/-- The step sets flags that release the task. -/
def Action.Releases (e : EventId) (k : Kernel) (action : Action) (t : TaskId) :
    Prop :=
  ∃ pattern, action.sets = some pattern ∧ action.rc = some .noErr ∧
    k.WaitsFor e t ∧ eventCond ((k.event e).pattern ||| pattern)
      (k.tcb t).ewaitPattern (k.tcb t).ewaitMode = true

/-- A wait is satisfied in the step. -/
def Action.Satisfies (e : EventId) (k : Kernel) (action : Action) : Prop :=
  action.Answers ∨ ∃ t, action.Releases e k t

/-- No task that the step releases is suspended. -/
def Action.Unsuspended (e : EventId) (k : Kernel) (action : Action) : Prop :=
  ∀ t, action.Releases e k t → (k.tcb t).taskState.isSuspend = false

/-! ## Patterns -/

theorem eventCond_zero {waitPattern : Word} (nonzero : waitPattern ≠ 0)
    (waitMode : Word) : eventCond 0 waitPattern waitMode = false := by
  unfold eventCond
  split
  · simp
  · simpa using nonzero.symm

theorem Word.or_ne_zero {high : Word} (low : Word) (nonzero : high ≠ 0) :
    low ||| high ≠ 0 := by
  intro zero
  refine nonzero ?_
  have absorbed : (low ||| high) &&& high = high := by
    ext i
    simp only [BitVec.getElem_and, BitVec.getElem_or]
    cases low[i] <;> simp
  rw [← absorbed, zero]
  exact BitVec.zero_and

section Calls

variable {rule : Rule} {e : EventId} {k k' : Kernel} {lists : Lists}
variable {reply : Reply}

theorem EventSound.waits_iff (sound : EventSound rule e k lists) (t : TaskId) :
    t ∈ lists.task (.wait (.event e)) ↔ k.WaitsFor e t := by
  rw [sound.kept.consistent.tasks.home, Kernel.WaitsFor, isTask_iff,
    ← Tcb.home_eq_wait]
  simp

theorem EventSound.setBody_pattern (sound : EventSound rule e k lists)
    (clears : Word.has (k.event e).attr tnEventAttrClr = true) (fuel : Nat)
    (pattern : Word) :
    (eventSetBody fuel k pattern e).Ensures fun k' _ =>
      (k'.event e).pattern = if (lists.task (.wait (.event e))).any
          (k.runsOn ((k.event e).pattern ||| pattern)) then 0
        else (k.event e).pattern ||| pattern := by
  have written : Kept rule none (k.setEvent e { k.event e with
      pattern := (k.event e).pattern ||| pattern }) lists :=
    sound.kept.setEvent rfl
  have there : (k.setEvent e { k.event e with
      pattern := (k.event e).pattern ||| pattern }).event e =
        { k.event e with pattern := (k.event e).pattern ||| pattern } := by
    simp [Kernel.setEvent]
  have has : (k.setEvent e { k.event e with
      pattern := (k.event e).pattern ||| pattern }).hasList (.event e) =
        true := by
    simpa [Kernel.hasList, Kernel.isEvent, Kernel.setEvent]
      using sound.isEvent
  intro k' reply run
  unfold eventSetBody at run
  dsimp only at run
  split at run
  · next some =>
      obtain ⟨t, rest, waiting⟩ := written.first has (by simpa using some)
      obtain ⟨⟨k₁, wcflag⟩, scan, run⟩ := Option.bind_eq_some_iff.mp run
      obtain ⟨⟨lists', scanned⟩, flag⟩ :=
        written.scanEventWaitqueue has waiting fuel _ scan
      have event : k₁.event e =
          { k.event e with pattern := (k.event e).pattern ||| pattern } := by
        rw [scanned.same.event, there]
      rw [there] at flag
      have flag : wcflag = (t :: rest).any
        (k.runsOn ((k.event e).pattern ||| pattern)) := flag
      rw [waiting, ← flag]
      dsimp only at run
      rw [event] at run
      split at run
      · next woken =>
          cases run
          simp [Kernel.setEvent, woken]
      · next waits =>
          cases run
          rw [event, if_neg waits]
  · next none =>
      have nobody := (written.noWaiters_iff has).mp (by simpa using none)
      cases run
      rw [nobody, there]
      simp

theorem eventSetBody_noErr {fuel : Nat} {pattern : Word} :
    (eventSetBody fuel k pattern e).Ensures fun _ reply =>
      reply.rc = some .noErr := by
  intro k' reply run
  unfold eventSetBody at run
  dsimp only at run
  split at run
  · obtain ⟨⟨k₁, wcflag⟩, _, run⟩ := Option.bind_eq_some_iff.mp run
    dsimp only at run
    split at run <;> cases run <;> rfl
  · cases run
    rfl

theorem eventWaitBody_pattern
    (clears : Word.has (k.event e).attr tnEventAttrClr = true)
    {waitPattern : Word} (nonzero : waitPattern ≠ 0) (waitMode : Word)
    {unmet : EventId → Outcome}
    (same : (unmet e).Ensures fun k' reply => k'.event = k.event ∧
      reply.rc ≠ some .noErr) :
    (eventWaitBody k waitPattern waitMode unmet e).Ensures fun k' reply =>
      (reply.rc = some .noErr → (k'.event e).pattern = 0 ∧
        (k.event e).pattern ≠ 0) ∧
      ((k.event e).pattern = 0 → (k'.event e).pattern = 0) := by
  intro k' reply run
  unfold eventWaitBody at run
  dsimp only at run
  split at run
  · cases run
    exact ⟨fun noErr => by simp [Reply.ret] at noErr, id⟩
  split at run
  · next met =>
      cases run
      simp only [Kernel.setEvent, Function.update_self, implies_true,
        and_true, true_and]
      intro _ zero
      rw [zero, eventCond_zero nonzero] at met
      cases met
  · obtain ⟨event, noAnswer⟩ := same k' reply run
    rw [event]
    exact ⟨fun noErr => absurd noErr noAnswer, id⟩

/-- What one call makes of the flags of an event that is cleared. -/
structure Cleared (e : EventId) (asks : Bool) (sets : Option Word)
    (rc : Option Terr) (waiters : List TaskId) (k k' : Kernel) : Prop where
  answered : asks = true → rc = some .noErr →
    (k'.event e).pattern = 0 ∧ (k.event e).pattern ≠ 0
  raised : ∀ pattern, sets = some pattern → rc = some .noErr →
    pattern ≠ 0 ∧ (k'.event e).pattern =
      if waiters.any (k.runsOn ((k.event e).pattern ||| pattern)) then 0
      else (k.event e).pattern ||| pattern
  lowered : (sets = none ∨ rc ≠ some .noErr) →
    (k.event e).pattern = 0 → (k'.event e).pattern = 0

/-- What every answer of a service makes of the flags. -/
def Clears (e : EventId) (asks : Bool) (sets : Option Word)
    (waiters : List TaskId) (k : Kernel) (outcome : Outcome) : Prop :=
  outcome.Ensures fun k' reply =>
    Cleared e asks sets reply.rc waiters k k'

section Cleared

variable {asks : Bool} {sets : Option Word} {rc : Option Terr}
variable {waiters : List TaskId}

theorem cleared_same (same : k'.event = k.event)
    (quiet : rc = some .noErr → asks = false ∧ sets = none) :
    Cleared e asks sets rc waiters k k' where
  answered yes noErr := by
    rw [(quiet noErr).1] at yes
    cases yes
  raised pattern isSet noErr := by
    rw [(quiet noErr).2] at isSet
    cases isSet
  lowered _ zero := by rw [same, zero]

theorem cleared_checked {evf : Option EventId} (this : evf = some e)
    {badParam valid : Nat → Bool} {wrongContext : Bool}
    {body : Nat → Outcome} (cleared : badParam e = false →
      Clears e asks sets waiters k (body e)) :
    Clears e asks sets waiters k
      (checked k evf badParam valid wrongContext body) := by
  intro k' reply run
  rcases checked_eq run with ⟨rfl, refuses⟩ | ⟨_, equal, fits, _, _, run⟩
  · exact cleared_same rfl fun noErr => absurd noErr refuses.noErr
  · rw [this] at equal
    cases equal
    exact cleared fits k' reply run

theorem cleared_wait
    (clears : Word.has (k.event e).attr tnEventAttrClr = true)
    {waitPattern : Word} (nonzero : waitPattern ≠ 0) (waitMode : Word)
    {unmet : EventId → Outcome}
    (same : (unmet e).Ensures fun k' reply => k'.event = k.event ∧
      reply.rc ≠ some .noErr) :
    Clears e true none waiters k
      (eventWaitBody k waitPattern waitMode unmet e) := by
  intro k' reply run
  obtain ⟨answered, lowered⟩ :=
    eventWaitBody_pattern clears nonzero waitMode same k' reply run
  exact ⟨fun _ => answered, nofun, fun _ => lowered⟩

theorem EventSound.cleared_set (sound : EventSound rule e k lists)
    (clears : Word.has (k.event e).attr tnEventAttrClr = true) (fuel : Nat)
    {pattern : Word} (nonzero : pattern ≠ 0) :
    Clears e false (some pattern) (lists.task (.wait (.event e))) k
      (eventSetBody fuel k pattern e) := by
  intro k' reply run
  have result := sound.setBody_pattern clears fuel pattern k' reply run
  refine ⟨nofun, fun other isSet _ => ?_, fun refused => ?_⟩
  · cases isSet
    exact ⟨nonzero, result⟩
  · rcases refused with none | refused
    · cases none
    · exact absurd (eventSetBody_noErr k' reply run) refused

theorem cleared_clear (pattern : Word) :
    Clears e false none waiters k (eventClearBody k pattern e) := by
  refine ensures_some ⟨nofun, nofun, fun _ zero => ?_⟩
  simp [Kernel.setEvent, zero]

end Cleared

theorem Call.exec_cleared {image : Image}
    (sound : EventSound image.untimedRule e k lists)
    (clears : Word.has (k.event e).attr tnEventAttrClr = true)
    {call : Call} (may : image.OnEvent e k call)
    (running : call.fromInterrupt = false →
      (k.tcb k.tnCurrRunTask).taskState = .runnable ∧
        k.tnCurrRunTask ≠ image.idleTask) (fuel : Nat) :
    Clears e call.asksFlags call.sets (lists.task (.wait (.event e))) k
      (call.exec image.tnTaskExit fuel k) := by
  have refuse : Outcome.Ensures (some (k, .ret .timeout)) fun k' reply =>
      k'.event = k.event ∧ reply.rc ≠ some .noErr :=
    ensures_some ⟨rfl, by simp [Reply.ret]⟩
  cases call with
  | eventWait evf waitPattern waitMode pFlagsPattern timeout =>
      obtain ⟨this, rfl⟩ := may
      refine cleared_checked this fun fits => ?_
      simp only [Bool.or_eq_false_iff, decide_eq_false_iff_not] at fits
      refine cleared_wait clears fits.1.1 _ ?_
      have place : Tcb.SamePlace (k.tcb k.tnCurrRunTask)
          { k.tcb k.tnCurrRunTask with
            ewaitMode := waitMode, ewaitPattern := waitPattern } :=
        ⟨rfl, rfl, rfl, rfl, rfl, rfl, rfl⟩
      obtain ⟨k₁, lists', result, changed⟩ := sound.kept.sleepWith place rfl
        (running rfl).1 (running rfl).2
        (show image.untimedRule.waits (some (.event e)) tnWaitInfinite from
          .inr rfl)
        (show WaitReason.fits .event (some (.event e)) = true from rfl)
        sound.isEvent
      intro k' reply run
      obtain ⟨k₂, sleeps, after⟩ := Option.bind_eq_some_iff.mp run
      obtain rfl : k₁ = k₂ := Option.some.inj (result.symm.trans sleeps)
      cases after
      exact ⟨changed.same.event, by simp [Reply.block]⟩
  | eventWaitPolling evf waitPattern waitMode pFlagsPattern =>
      refine cleared_checked may fun fits => ?_
      simp only [Bool.or_eq_false_iff, decide_eq_false_iff_not] at fits
      exact cleared_wait clears fits.1 _ refuse
  | eventIwait evf waitPattern waitMode pFlagsPattern =>
      refine cleared_checked may fun fits => ?_
      simp only [Bool.or_eq_false_iff, decide_eq_false_iff_not] at fits
      exact cleared_wait clears fits.1 _ refuse
  | eventSet evf pattern =>
      refine cleared_checked may fun fits => ?_
      exact sound.cleared_set clears fuel (by simpa using fits)
  | eventIset evf pattern =>
      refine cleared_checked may fun fits => ?_
      refine Outcome.Ensures.fromInterrupt
        (sound.cleared_set clears fuel (by simpa using fits)) ?_
      exact fun _ _ cleared => ⟨cleared.1, cleared.2, cleared.3⟩
  | eventClear evf pattern =>
      exact cleared_checked may fun _ => cleared_clear pattern
  | eventIclear evf pattern =>
      exact cleared_checked may fun _ => cleared_clear pattern
  | taskSuspend task =>
      intro k' reply run
      obtain ⟨_, quiet⟩ := tnTaskSuspend_quiet sound.kept
        (fun t isTask idle => may (by rw [isTask, idle])) run
      exact cleared_same quiet.same.event fun _ => ⟨rfl, rfl⟩
  | taskResume task =>
      intro k' reply run
      obtain ⟨_, quiet⟩ := tnTaskResume_quiet sound.kept run
      exact cleared_same quiet.same.event fun _ => ⟨rfl, rfl⟩
  | _ => cases may

end Calls

/-! ## Steps -/

section Steps

variable {image : Image} {e : EventId} {k k' : Kernel} {lists : Lists}
variable {action : Action}

theorem EventSound.step_cleared (sound : EventSound image.untimedRule e k lists)
    (clears : Word.has (k.event e).attr tnEventAttrClr = true)
    (step : Step image (image.OnEvent e) k action k') :
    Cleared e action.asksFlags action.sets action.rc
      (lists.task (.wait (.event e))) k k' := by
  cases step with
  | call fuel task running notIdle may run =>
      exact Call.exec_cleared sound clears may
        (fun _ => ⟨running, notIdle⟩) fuel _ _ run
  | interrupt fuel irq may run =>
      have entered := sound.of_same sound.kept.enterIrq rfl rfl
      obtain ⟨answered, raised, lowered⟩ := Call.exec_cleared entered clears
        may (fun task => absurd (irq.symm.trans task) (by decide)) fuel _ _ run
      exact ⟨answered, raised, lowered⟩
  | dispatch run =>
      obtain ⟨next, _, result⟩ := Option.bind_eq_some_iff.mp run
      cases result
      exact cleared_same rfl fun _ => ⟨rfl, rfl⟩

theorem Call.asksFlags_sets {call : Call} (asks : call.asksFlags = true) :
    call.sets = none := by
  cases call <;> first | rfl | cases asks

theorem Action.asksFlags_sets (asks : action.asksFlags = true) :
    action.sets = none := by
  cases action with
  | call call reply => exact Call.asksFlags_sets asks
  | interrupt call reply => exact Call.asksFlags_sets asks
  | dispatch => rfl

/-- Only one task waits for an event with a single waiter. -/
theorem EventSound.alone (sound : EventSound image.untimedRule e k lists)
    (single : k.singleWaiter e) {t u : TaskId} (first : k.WaitsFor e t)
    (second : k.WaitsFor e u) : t = u := by
  have alone := sound.group.alone single
  rw [← sound.waits_iff] at first second
  rw [Kernel.flagGroup, List.length_map] at alone
  cases waiting : lists.task (.wait (.event e)) with
  | nil => simp [waiting] at first
  | cons v rest =>
      rw [waiting, List.length_cons] at alone
      have single : rest = [] := List.eq_nil_of_length_eq_zero (by omega)
      rw [waiting, single, List.mem_singleton] at first second
      rw [first, second]

/-- A step that satisfies a wait takes the flags exactly if no task that it
releases is suspended. -/
theorem EventSound.consumed (sound : EventSound image.untimedRule e k lists)
    (single : k.singleWaiter e)
    (clears : Word.has (k.event e).attr tnEventAttrClr = true)
    (step : Step image (image.OnEvent e) k action k')
    (satisfies : action.Satisfies e k) :
    (k'.event e).pattern = 0 ↔ action.Unsuspended e k := by
  have cleared := sound.step_cleared clears step
  rcases satisfies with ⟨asks, noErr⟩ | ⟨t, pattern, isSet, noErr, waits, met⟩
  · refine iff_of_true (cleared.answered asks noErr).1 ?_
    rintro t ⟨pattern, isSet, -⟩
    rw [Action.asksFlags_sets asks] at isSet
    cases isSet
  obtain ⟨nonzero, result⟩ := cleared.raised pattern isSet noErr
  -- The task is the only one that waits.
  have runs : (lists.task (.wait (.event e))).any
      (k.runsOn ((k.event e).pattern ||| pattern)) =
        !(k.tcb t).taskState.isSuspend := by
    rw [Bool.eq_iff_iff, List.any_eq_true]
    constructor
    · rintro ⟨u, member, runs⟩
      obtain rfl := sound.alone single ((sound.waits_iff u).mp member) waits
      exact (Bool.and_eq_true_iff.mp runs).2
    · intro awake
      exact ⟨t, (sound.waits_iff t).mpr waits,
        Bool.and_eq_true_iff.mpr ⟨met, awake⟩⟩
  rw [result, runs]
  constructor
  · rintro zero u ⟨_, _, _, waitsToo, _⟩
    obtain rfl := sound.alone single waitsToo waits
    by_contra suspended
    rw [Bool.not_eq_false] at suspended
    simp only [suspended, Bool.not_true, Bool.false_eq_true, if_false] at zero
    exact Word.or_ne_zero _ nonzero zero
  · intro unsuspended
    rw [unsuspended t ⟨pattern, isSet, noErr, waits, met⟩]
    rfl

theorem EventSound.released (sound : EventSound image.untimedRule e k lists)
    (step : Step image (image.OnEvent e) k action k') {t : TaskId}
    (releases : action.Releases e k t) :
    (k'.tcb t).taskState.isWait = false := by
  obtain ⟨pattern, isSet, noErr, waits, met⟩ := releases
  obtain ⟨lists', signalled⟩ := sound.step step
  have released := (signalled.released pattern isSet noErr).met t
    ((sound.waits_iff t).mpr waits) met
  rw [released]
  exact Tcb.awake_not_isWait

theorem tnEventCreate_single {attr pattern : Word}
    (run : tnEventCreate k (some e) attr pattern = some (k', .ret .noErr))
    (clears : Word.has attr tnEventAttrClr = true) :
    Word.has attr tnEventAttrSingle = true := by
  unfold tnEventCreate at run
  dsimp only at run
  split at run
  · cases run
  split at run
  · cases run
  next fits => simpa [clears] using fits

end Steps

/-! ## Runs -/

/-- A run that starts with the creation of the event and in which nobody sets
flags that release a suspended task.  The flags are spent when a wait has been
satisfied after they were set last. -/
inductive ClearRun (image : Image) (e : EventId) (attr : Word) :
    Prop → Kernel → Prop where
  | create {k k' : Kernel} {pattern : Word}
      (reachable : Reachable image image.Untimed k)
      (step : Step image image.Untimed k
        (.call (.eventCreate (some e) attr pattern) (.ret .noErr)) k') :
      ClearRun image e attr False k'
  | next {spent : Prop} {k k' : Kernel} {action : Action}
      (before : ClearRun image e attr spent k)
      (step : Step image (image.OnEvent e) k action k')
      (awake : action.Unsuspended e k) :
      ClearRun image e attr
        (action.Satisfies e k ∨ spent ∧ ¬action.Raises) k'

section Runs

variable {image : Image} {e : EventId} {attr : Word} {spent : Prop} {k : Kernel}

theorem ClearRun.eventRun (run : ClearRun image e attr spent k) :
    EventRun image e attr k := by
  induction run with
  | create reachable step => exact .create reachable step
  | next _ step _ ih => exact ih.next step

theorem ClearRun.single (run : ClearRun image e attr spent k)
    (clears : Word.has attr tnEventAttrClr = true) :
    Word.has attr tnEventAttrSingle = true := by
  induction run with
  | create _ step =>
      cases step with
      | call _ _ _ _ _ run => exact tnEventCreate_single run clears
  | next _ _ _ ih => exact ih

theorem ClearRun.spent_zero (run : ClearRun image e attr spent k)
    (clears : Word.has attr tnEventAttrClr = true) (isSpent : spent) :
    (k.event e).pattern = 0 := by
  induction run with
  | create _ _ => exact isSpent.elim
  | next before step awake ih =>
      obtain ⟨lists, sound, same⟩ := before.eventRun.sound
      have clearsHere := same ▸ clears
      rcases isSpent with satisfies | ⟨isSpent, raises⟩
      · have single := same ▸ before.single clears
        exact (sound.consumed single clearsHere step satisfies).mpr awake
      · refine (sound.step_cleared clearsHere step).lowered ?_ (ih isSpent)
        by_contra both
        obtain ⟨isSet, noErr⟩ := not_or.mp both
        obtain ⟨pattern, isSet⟩ := Option.ne_none_iff_exists'.mp isSet
        exact raises ⟨pattern, isSet, not_not.mp noErr⟩

/-- After a wait has been satisfied the flags are zero until some are set again,
and so no two waits are satisfied by the same flags, as long as no suspended task
is released.  The flags that release a suspended task stay. -/
theorem clr_consumed (run : ClearRun image e attr spent k)
    (clears : Word.has attr tnEventAttrClr = true) :
    (spent → (k.event e).pattern = 0) ∧
    (∀ t u, k.WaitsFor e t → k.WaitsFor e u → t = u) ∧
    ∀ action k', Step image (image.OnEvent e) k action k' →
      (∀ t, action.Releases e k t → (k'.tcb t).taskState.isWait = false) ∧
      (action.Satisfies e k →
        ((k'.event e).pattern = 0 ↔ action.Unsuspended e k) ∧
        (spent → action.Raises)) := by
  obtain ⟨lists, sound, same⟩ := run.eventRun.sound
  have clearsHere := same ▸ clears
  have single : k.singleWaiter e := by
    rw [Kernel.singleWaiter, same]
    exact run.single clears
  refine ⟨run.spent_zero clears, fun t u => sound.alone single,
    fun action k' step => ⟨fun t => sound.released step, fun satisfies =>
      ⟨sound.consumed single clearsHere step satisfies, fun isSpent => ?_⟩⟩⟩
  rcases satisfies with ⟨asks, noErr⟩ | ⟨t, pattern, isSet, noErr, -⟩
  · have some := (sound.step_cleared clearsHere step).answered asks noErr
    exact absurd (run.spent_zero clears isSpent) some.2
  · exact ⟨pattern, isSet, noErr⟩

/-- The timer task waits for a flag, and an interrupt sets it. -/
theorem clr_consumed_sample : ∃ spent k k',
    ClearRun .sample 0 5 spent k ∧
      Step .sample (Image.sample.OnEvent 0) k
        (.interrupt (.eventIset (some 0) 1) (.ret .noErr)) k' ∧
      (k'.event 0).pattern = 0 := by
  have created : ClearRun .sample 0 5 False _ :=
    .create (.start Kernel.fresh_zeroed tnStartSystem_started)
      (.answer (.eventCreate (some 0) 5 0) (.ret .noErr) 0 rfl rfl rfl
        (by decide) ⟨rfl, by decide, by simp [Call.waits]⟩)
  have waits := created.next (.answer
    (.eventWait (some 0) 1 tnEventWcondOr true tnWaitInfinite) .block 9 rfl
    rfl rfl (by decide) ⟨rfl, rfl⟩) fun t released => by
    obtain ⟨_, sets, -⟩ := released
    cases sets
  obtain ⟨-, alone, consumed⟩ := clr_consumed waits rfl
  have taken := (consumed
    (.interrupt (.eventIset (some 0) 1) (.ret .noErr)) _
    (.interrupt 9 rfl rfl (Outcome.eq_after rfl))).2
      (.inr ⟨0, 1, rfl, rfl, ⟨rfl, rfl, rfl⟩, rfl⟩)
  refine ⟨_, _, _, waits, .interrupt 9 rfl rfl (Outcome.eq_after rfl),
    taken.1.mpr ?_⟩
  rintro t ⟨_, _, _, waitsToo, _⟩
  obtain rfl := alone t 0 waitsToo ⟨rfl, rfl, rfl⟩
  rfl

/-- The timer task waits for a flag and is suspended.  Task 2 sets the flag, which
releases the timer task, and is then given the same flag itself. -/
theorem clr_kept : ∃ k k₁ k₂,
    EventRun .sample 0 5 k ∧
      Step .sample (Image.sample.OnEvent 0) k
        (.call (.eventSet (some 0) 1) (.ret .noErr)) k₁ ∧
      Action.Releases 0 k (.call (.eventSet (some 0) 1) (.ret .noErr)) 0 ∧
      (k₁.event 0).pattern = 1 ∧
      Step .sample (Image.sample.OnEvent 0) k₁
        (.call (.eventWaitPolling (some 0) 1 tnEventWcondOr true)
          (.retValue 1 false)) k₂ := by
  have worker : Reachable .sample Image.sample.Untimed .withWorker :=
    .next (.start Kernel.fresh_zeroed tnStartSystem_started)
      (.answer (.taskCreate (some 2) .sample) (.ret .noErr) 0 rfl rfl rfl
        (by decide) ⟨rfl, by decide, by simp [Call.waits]⟩)
  have created : EventRun .sample 0 5 _ :=
    .create worker
      (.answer (.eventCreate (some 0) 5 0) (.ret .noErr) 0 rfl rfl rfl
        (by decide) ⟨rfl, by decide, by simp [Call.waits]⟩)
  have waits := created.next (.answer
    (.eventWait (some 0) 1 tnEventWcondOr true tnWaitInfinite) .block 9 rfl
    rfl rfl (by decide) ⟨rfl, rfl⟩)
  have switched := waits.next (.dispatch rfl)
  have suspended := switched.next (.answer (.taskSuspend (some 0))
    (.ret .noErr) 9 rfl rfl rfl (by decide)
    (show some 0 ≠ some Image.sample.idleTask by decide))
  exact ⟨_, _, _, suspended,
    .answer (.eventSet (some 0) 1) (.ret .noErr) 9 rfl rfl rfl (by decide) rfl,
    ⟨1, rfl, rfl, ⟨rfl, rfl, rfl⟩, rfl⟩, rfl,
    .answer (.eventWaitPolling (some 0) 1 tnEventWcondOr true)
      (.retValue 1 false) 9 rfl rfl rfl (by decide) rfl⟩

end Runs

end UsbBulk
