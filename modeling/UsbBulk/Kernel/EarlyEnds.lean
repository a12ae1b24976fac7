import UsbBulk.Kernel.LockRun
import UsbBulk.Kernel.Registry
import UsbBulk.Kernel.Script

/-!
# Waits that end early

The timer tick and the two services that release a waiting task end a wait before
it is served.  They take no task out of the list of an object: the lists stay
intact as long as only sleeps end.
-/

namespace UsbBulk

/-- The call may end a wait that has not been served. -/
def Call.endsEarly : Call → Bool
  | .taskReleaseWait _ | .taskIreleaseWait _ | .tickIntProcessing => true
  | _ => false

def Action.endsEarly : Action → Bool
  | .call service _ | .interrupt service _ => service.endsEarly
  | .dispatch => false

/-- A list holds exactly the tasks whose control blocks claim that, once each. -/
structure Kernel.Holds (k : Kernel) (list : QueueHead) (tasks : List TaskId) :
    Prop where
  ring : k.taskLinks.Ring (.head list) (tasks.map .entry)
  nodup : tasks.Nodup
  home : ∀ t, t ∈ tasks ↔ (k.tcb t).home = some list

/-- Waits have ended, and the lists are intact. -/
structure Kernel.EndsCleanly (k k' : Kernel) : Prop where
  ended : ∀ t, (k.tcb t).taskState.isWait = true →
    (k'.tcb t).taskState.isWait = false →
      ∀ list, k'.hasList list = true → ∀ waiting : List TaskId,
        k'.taskLinks.Ring (.head (.wait list)) (waiting.map .entry) →
          t ∉ waiting
  waits : ∀ list, k.hasList list = true → ∀ before : List TaskId,
    k.taskLinks.Ring (.head (.wait list)) (before.map .entry) →
      k'.Holds (.wait list)
        (before.filter fun t => (k'.tcb t).home = some (.wait list))
  ready : ∀ p < tnNumPriority, ∃ ready, k'.Holds (.ready p) ready

section Ends

variable {rule : Rule} {dropped : Set MutexId} {k k' : Kernel}
variable {lists lists' : Lists} {locks : Locks} {image : Image}

theorem hasList_apart : Apart Kernel.hasList := by
  intro k k' only
  rw [only]
  funext list
  cases list <;> rfl

theorem Consistent.holds (consistent : Consistent none k lists)
    {list : QueueHead} (alive : liveHead lists.live list) :
    k.Holds list (lists.task list) where
  ring := consistent.scheduled.represents.ring list alive
  nodup := consistent.scheduled.represents.nodup list
  home t := by simp [consistent.tasks.home t list]

/-- No list of an object is another one than before. -/
structure SameLists (k k' : Kernel) (lists lists' : Lists) : Prop where
  kept : Kept .any none k' lists'
  waits : ∀ list, lists'.task (.wait list) = lists.task (.wait list)
  hasList : k'.hasList = k.hasList

theorem SameLists.endsCleanly (same : SameLists k k' lists lists')
    (consistent : Consistent none k lists) : k.EndsCleanly k' where
  ended t waiting awake list has tasks walk := by
    have after := same.kept.consistent
    have alive : liveHead lists'.live (.wait list) := after.live list has
    rw [(after.scheduled.represents.ring_iff alive).mp walk]
    intro member
    have home := ((after.tasks.home t _).mp member).2
    exact absurd (Tcb.home_eq_wait.mp home).2.1 (by simp [awake])
  waits list has before walk := by
    have alive : liveHead lists.live (.wait list) := consistent.live list has
    have alive' : liveHead lists'.live (.wait list) :=
      same.kept.consistent.live list ((congrFun same.hasList list).trans has)
    have holds := same.kept.consistent.holds alive'
    rw [(consistent.scheduled.represents.ring_iff alive).mp walk,
      ← same.waits list]
    rwa [List.filter_eq_self.mpr fun t member =>
      decide_eq_true ((holds.home t).mp member)]
  ready p small :=
    have alive : liveHead lists'.live (.ready p) := small
    ⟨_, same.kept.consistent.holds alive⟩

/-- The calls that may end a wait that has not been served. -/
theorem Guarded.endEarly (guarded : Guarded .any dropped k lists locks)
    {call : Call} (early : call.endsEarly = true) (may : k.Patient call)
    (tnTaskExit : Word) (fuel : Nat) :
    Ends (call.exec tnTaskExit fuel k) fun (k', _) =>
      ∃ lists', SameLists k k' lists lists' := by
  rintro ⟨k', reply⟩ run
  have refused : ∃ lists', SameLists k k lists lists' :=
    ⟨lists, guarded.kept, fun _ => rfl, rfl⟩
  have released : ∀ t, k.isTask t = true →
      ((k.tcb t).taskState.isWait = true → (k.tcb t).pwaitQueue = none) →
        (releaseWaitBody fuel k t).Ensures fun k' _ =>
          ∃ lists', SameLists k k' lists lists' := by
    intro t isTask sleeps k' reply body
    obtain ⟨⟨lists', after, waits⟩, -⟩ :=
      guarded.releaseSleeper isTask sleeps fuel (k', reply) body
    exact ⟨lists', after.kept, waits,
      releaseWaitBody_apart hasList_apart fuel rfl t (k', reply) body⟩
  cases call with
  | taskReleaseWait task =>
      rcases checked_eq run with ⟨rfl, -⟩ | ⟨t, rfl, -, isTask, -, body⟩
      · exact refused
      · exact released t isTask (may t rfl) k' reply body
  | taskIreleaseWait task =>
      rcases checked_eq run with ⟨rfl, -⟩ | ⟨t, rfl, -, isTask, -, body⟩
      · exact refused
      · exact (released t isTask (may t rfl)).fromInterrupt
          (fun k' _ ⟨lists', same⟩ => ⟨lists', same.kept.request, same.waits,
            hasList_apart.of same.hasList rfl⟩) k' reply body
  | tickIntProcessing =>
      obtain ⟨k₁, tick, result⟩ := Option.map_eq_some_iff.mp run
      obtain ⟨rfl, -⟩ := Prod.mk.inj result
      obtain ⟨lists', after, waits⟩ :=
        (tnTickIntProcessing_spec guarded.kept may fuel).2 k₁ tick
      exact ⟨lists', after, waits,
        tnTickIntProcessing_apart hasList_apart fuel rfl k₁ tick⟩
  | _ => cases early

end Ends

section Runs

variable {image : Image} {k k' : Kernel}

/-- In a run in which only sleeps end early, every tick comes to its end, and the
tick and the services that release a task leave all lists intact. -/
theorem earlyEnds_clean (reachable : Reachable image Kernel.Patient k) :
    (k.Patient .tickIntProcessing → ∃ enough, ∀ fuel, enough ≤ fuel →
      (tnTickIntProcessing fuel k.enterIrq).isSome = true) ∧
    ∀ action k', Step image Kernel.Patient k action k' →
      action.endsEarly = true → k.EndsCleanly k' := by
  obtain ⟨lists, dropped, locks, guarded⟩ := reachable.lockGuarded
  constructor
  · intro may
    refine ⟨lists.timer.length, fun fuel enough => ?_⟩
    exact Option.isSome_iff_ne_none.mpr
      ((tnTickIntProcessing_spec guarded.enterIrq.kept may fuel).1 enough)
  · intro action k' step early
    cases step with
    | call fuel task running notIdle may run =>
        obtain ⟨lists', same⟩ :=
          guarded.endEarly early may image.tnTaskExit fuel _ run
        exact same.endsCleanly guarded.kept.consistent
    | interrupt fuel irq may run =>
        obtain ⟨lists', kept, waits, hasList⟩ := guarded.enterIrq.endEarly early
          may.enterIrq image.tnTaskExit fuel _ run
        exact SameLists.endsCleanly ⟨kept.leaveIrq, waits, hasList⟩
          guarded.kept.consistent
    | dispatch run => cases early

end Runs

/-! ## A wait for a semaphore that times out -/

section Samples

/-- Task 2 waits for semaphore 0 until the next tick. -/
def semTimeoutScript : List Move := [
  .task (.taskCreate (some 2) .sample), .task (.semCreate (some 0) 0 1),
  .task (.taskSleep tnWaitInfinite), .switch,
  .task (.semAcquire (some 0) 1), .switch]

/-- The semaphore has task 2 as its only waiting task.  After the tick task 2 is
ready, and still the first one that waits for the semaphore. -/
def Kernel.leavesWaiter (k : Kernel) : Bool :=
  (k.hasList (.sem 0) ∧
    k.taskLinks.next (.head (.wait (.sem 0))) = .entry 2 ∧
    k.taskLinks.prev (.entry 2) = .head (.wait (.sem 0)) ∧
    k.taskLinks.next (.entry 2) = .head (.wait (.sem 0)) ∧
    k.taskLinks.prev (.head (.wait (.sem 0))) = .entry 2) &&
  (tnTickIntProcessing 1 k.enterIrq).any fun k' =>
    (k'.tcb 2).home = some (.ready 5) ∧
      k'.taskLinks.next (.head (.wait (.sem 0))) = .entry 2

theorem semTimeout_reachable : ∃ k, Reachable .sample Kernel.Patient k ∧
    k.leavesWaiter = true := by
  have free : ∀ move ∈ semTimeoutScript, move.Free Kernel.Patient := by
    simp [semTimeoutScript, Move.Free, Kernel.Patient]
  exact Reachable.of_script free
    (show (Kernel.started.follow .sample 4 ⟨[0, 1, 2],
      [.ready 0, .ready 5, .ready 31, .wait (.sem 0)], []⟩
      semTimeoutScript).any Kernel.leavesWaiter = true by decide +kernel)

theorem earlyEnds_clean_waiting : ∃ k, Reachable .sample Kernel.Patient k ∧
    k.taskLinks.next (.head (.wait (.sem 0))) = .entry 2 ∧
    (k.Patient .tickIntProcessing → ∃ enough, ∀ fuel, enough ≤ fuel →
      (tnTickIntProcessing fuel k.enterIrq).isSome = true) ∧
    ∀ action k', Step .sample Kernel.Patient k action k' →
      action.endsEarly = true → k.EndsCleanly k' := by
  obtain ⟨k, reachable, found⟩ := semTimeout_reachable
  have waits := of_decide_eq_true ((Bool.and_eq_true ..).mp found).1
  exact ⟨k, reachable, waits.2.1, earlyEnds_clean reachable⟩

/-- The tick ends the wait and leaves the task in the list. -/
theorem tick_leavesWaiter : ∃ k k', Reachable .sample Kernel.Patient k ∧
    Step .sample (fun _ _ => True) k
      (.interrupt .tickIntProcessing (.ret .noErr)) k' ∧
    ¬k.EndsCleanly k' := by
  obtain ⟨k, reachable, found⟩ := semTimeout_reachable
  obtain ⟨waits, ticked⟩ := (Bool.and_eq_true ..).mp found
  obtain ⟨has, walk⟩ := of_decide_eq_true waits
  obtain ⟨k', tick, after⟩ := (Option.any_eq_true ..).mp ticked
  obtain ⟨home, left⟩ := of_decide_eq_true after
  refine ⟨k, k'.leaveIrq, reachable, .interrupt 1 rfl trivial
    (congrArg (Option.map fun k => (k, Reply.ret .noErr)) tick), fun clean => ?_⟩
  have holds := clean.waits (.sem 0) has [2] walk
  rw [List.filter_cons_of_neg (by simp [show (k'.leaveIrq.tcb 2).home = _ from
    home]), List.filter_nil] at holds
  cases left.symm.trans holds.ring.1

end Samples

end UsbBulk
