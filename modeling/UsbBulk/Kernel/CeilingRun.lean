import UsbBulk.Kernel.CeilingOrder
import UsbBulk.Kernel.Script

/-!
# Runs with ceilings

As long as every task that gets a mutex has a base priority above the ceilings of
the mutexes that other tasks hold, the tasks that wait for mutexes never wait for
each other.
-/

namespace UsbBulk

/-- The invariant of these runs. -/
def Image.InCeilingOrder (image : Image) (k : Kernel) : Prop :=
  ∃ lists locks, Guarded image.untimedRule ∅ k lists locks ∧
    CeilingOrder k locks

section Runs

variable {image : Image} {k k' : Kernel} {lists : Lists} {locks : Locks}

theorem CeilingOrder.call (order : CeilingOrder k locks)
    (guarded : Guarded image.untimedRule ∅ k lists locks) {call : Call}
    (may : image.StrictCeilings k call)
    (running : call.fromInterrupt = false →
      (k.tcb k.tnCurrRunTask).taskState = .runnable ∧
        k.tnCurrRunTask ≠ image.idleTask) (fuel : Nat) :
    Ends (call.exec image.tnTaskExit fuel k) fun (k', _) =>
      image.InCeilingOrder k' := by
  rintro ⟨k', reply⟩ run
  obtain ⟨ceilings, strict⟩ := may
  have indifferent := image.untimedRule_indifferent
  have refused : image.InCeilingOrder k := ⟨lists, locks, guarded, order⟩
  have awake : (k.tcb k.tnCurrRunTask).taskState = .runnable →
      (k.tcb k.tnCurrRunTask).mutexWait = none := fun ready =>
    Tcb.mutexWait_of_awake (by simp [ready, TaskState.isWait])
  cases call with
  | taskChangePriority => cases ceilings
  | mutexLockPolling mutex =>
      rcases checked_eq run with ⟨rfl, -⟩ | ⟨m, rfl, -, isMutex, -, body⟩
      · exact refused
      obtain ⟨lists', locks', after, asked⟩ :=
        guarded.poll indifferent isMutex fuel _ body
      obtain ⟨_, _, based, -⟩ :=
        guarded.rebase.poll k.baseRule_indifferent isMutex fuel _ body
      exact ⟨lists', locks', after, order.asked guarded isMutex
        (awake (running rfl).1) asked (strict m rfl isMutex) based.sameBase⟩
  | mutexCreate mutex attr ceilPriority =>
      obtain ⟨⟨lists', after⟩, tcb, same | ⟨m, new, absent, mutex, -, kind⟩⟩ :=
        guarded.create mutex attr ceilPriority _ run
      · have framed : ∀ t, Framed k (.mutexCreate mutex attr ceilPriority) t
            (k'.tcb t) := fun t => tcb ▸ Framed.refl k _ t
        exact ⟨lists', locks, after, order.plain guarded same framed⟩
      · exact ⟨lists', locks, after,
          order.create guarded absent tcb mutex (kind.trans ceilings)⟩
  | mutexLock mutex timeout =>
      rcases checked_eq run with ⟨rfl, -⟩ | ⟨m, rfl, -, isMutex, -, body⟩
      · exact refused
      obtain ⟨lists', locks', after, asked⟩ := guarded.ask indifferent isMutex
        (running rfl).1 (running rfl).2 (.inr ceilings) fuel _ body
      obtain ⟨_, _, based, -⟩ := guarded.rebase.ask k.baseRule_indifferent
        isMutex (running rfl).1 trivial trivial fuel _ body
      exact ⟨lists', locks', after, order.asked guarded isMutex
        (awake (running rfl).1) asked (strict m rfl isMutex) based.sameBase⟩
  | mutexUnlock mutex =>
      rcases checked_eq run with ⟨rfl, -⟩ | ⟨m, rfl, -, isMutex, -, body⟩
      · exact refused
      unfold mutexUnlockBody at body
      split at body
      case isTrue =>
          cases body
          exact refused
      case isFalse notOther =>
          have held := not_not.mp notOther
          obtain ⟨⟨k₁, needSwitch⟩, unlock, result⟩ :=
            Option.bind_eq_some_iff.mp body
          cases result
          obtain ⟨lists', dropped', locks', after, settles⟩ := guarded.settle
            indifferent isMutex (Set.notMem_empty m) held (running rfl).1 fuel
            _ unlock
          obtain ⟨_, _, _, based, -⟩ := guarded.rebase.settle
            k.baseRule_indifferent isMutex (Set.notMem_empty m) held
            (running rfl).1 fuel _ unlock
          obtain ⟨order', rfl⟩ := order.settle guarded settles
            (running rfl).1 isMutex held strict based.sameBase
          exact ⟨lists', locks', after, order'⟩
  | _ =>
      obtain ⟨⟨lists', after⟩, mutex, framed⟩ :=
        guarded.untimed ceilings running fuel _ run
      exact ⟨lists', locks, after, order.plain guarded mutex framed⟩

theorem Image.Ceilings.untimed {call : Call} (may : image.Ceilings k call)
    (irq : call.fromInterrupt = true) : image.Untimed k call := by
  cases call with
  | mutexCreate | mutexLock | mutexLockPolling | mutexUnlock => cases irq
  | taskChangePriority => cases may
  | _ => exact may

theorem Image.InCeilingOrder.step (before : image.InCeilingOrder k)
    {action : Action} (step : Step image image.StrictCeilings k action k') :
    image.InCeilingOrder k' := by
  obtain ⟨lists, locks, guarded, order⟩ := before
  cases step with
  | call fuel task running notIdle may run =>
      exact order.call guarded may (fun _ => ⟨running, notIdle⟩) fuel _ run
  | interrupt fuel irq may run =>
      obtain ⟨⟨lists', after⟩, mutex, framed⟩ := guarded.enterIrq.untimed
        (may.1.untimed irq)
        (fun task => absurd (irq.symm.trans task) (by decide)) fuel _ run
      have entered : CeilingOrder k.enterIrq locks :=
        ⟨order.ceiling, order.legal, order.ordered⟩
      have order' := entered.plain guarded.enterIrq mutex framed
      exact ⟨lists', locks, after.leaveIrq,
        ⟨order'.ceiling, order'.legal, order'.ordered⟩⟩
  | dispatch run =>
      have after := guarded.dispatch run
      obtain ⟨next, _, result⟩ := Option.bind_eq_some_iff.mp run
      cases result
      exact ⟨lists, locks, after, ⟨order.ceiling, order.legal, order.ordered⟩⟩

theorem Image.InCeilingOrder.of_start (fresh : k.Fresh)
    (run : tnStartSystem image k = some k') : image.InCeilingOrder k' := by
  obtain ⟨⟨lists, guarded⟩, noMutex, -⟩ := Guarded.of_start fresh run
  refine ⟨lists, .none, guarded, fun m isMutex => ?_,
    fun t m reason waits => ?_, .nil⟩
  · exact absurd ((noMutex m).symm.trans isMutex) (by decide)
  · have isMutex := guarded.kept.consistent.mutexWait_isMutex waits
    exact absurd ((noMutex m).symm.trans isMutex) (by decide)

/-- Where no mutex is locked, every task is above all others. -/
theorem Image.InCeilingOrder.above (order : image.InCeilingOrder k)
    (empty : isQueueEmpty k.lockLinks (.head ()) = true) (m : MutexId)
    (t : TaskId) : k.Above m t := by
  obtain ⟨lists, locks, guarded, order⟩ := order
  have nothing := (guarded.owns.lockLinks.isQueueEmpty_iff trivial).mp empty
  intro n s _ isMutex held _
  have locked := (guarded.owns.locked n).mpr
    ⟨Set.notMem_empty n, isMutex, order.ceiling n isMutex,
      by simp [held]⟩
  rw [nothing] at locked
  cases locked

end Runs

/-! ## A task that waits -/

end UsbBulk
