import UsbBulk.Kernel.Context
import UsbBulk.Kernel.Searches

/-!
# The priorities of mutex holders

`set_current_priority` walks along the tasks that block each other, and
`task_wait_complete` restores the priority of the task that held the mutex.
Whatever they find, they change nothing but priorities and the ready lists that
go with them.
-/

namespace UsbBulk

/-- A rule that allows what the services of mutexes do to control blocks. -/
structure Rule.Indifferent (rule : Rule) : Prop where
  raise : ∀ t, rule.raise t
  awake : ∀ {t : TaskId} {a : Tcb}, a.Valid → a.taskState.isWait = true →
    rule.holds t a → rule.holds t a.awake
  block : ∀ {t : TaskId} {a : Tcb} {reason : WaitReason}
    {blkTask : Option TaskId}, rule.holds t a →
    rule.holds t { a with taskWaitReason := reason, blkTask := blkTask }

/-- The tasks that mutexes and control blocks refer to exist. -/
structure Kernel.Known (k : Kernel) : Prop where
  holder : ∀ m t, k.isMutex m = true → (k.mutex m).holder = some t →
    k.isTask t = true
  blkTask : ∀ t u, k.isTask t = true → (k.tcb t).blkTask = some u →
    k.isTask u = true

/-- Only priorities have changed, and the ready lists with them. -/
structure Adjusted (rule : Rule) (k k' : Kernel) (lists lists' : Lists) :
    Prop where
  kept : Kept rule none k' lists'
  waits : ∀ list, lists'.task (.wait list) = lists.task (.wait list)
  tcb : ∀ t, ∃ p, k'.tcb t = { k.tcb t with priority := p }
  footing : k'.footing = k.footing

section Adjusted

variable {rule : Rule} {k k' k'' : Kernel} {lists lists' lists'' : Lists}
variable {t u : TaskId} {m : MutexId} {p q : Nat} {fuel : Nat}

theorem Adjusted.refl (kept : Kept rule none k lists) :
    Adjusted rule k k lists lists :=
  ⟨kept, fun _ => rfl, fun t => ⟨(k.tcb t).priority, rfl⟩, rfl⟩

theorem Adjusted.of_update (kept : Kept rule none k' lists')
    (waits : ∀ list, lists'.task (.wait list) = lists.task (.wait list))
    (tcb : k'.tcb = Function.update k.tcb t { k.tcb t with priority := p })
    (footing : k'.footing = k.footing) :
    Adjusted rule k k' lists lists' := by
  refine ⟨kept, waits, fun u => ?_, footing⟩
  rw [tcb]
  by_cases equal : u = t
  · subst equal
    exact ⟨p, Function.update_self _ _ _⟩
  · exact ⟨(k.tcb u).priority, Function.update_of_ne equal _ _⟩

/-! ## The priorities of waiting tasks -/

theorem maxWaiterPriority_le (m : MutexId) (que : Node QueueHead TaskId) :
    Ends (maxWaiterPriority k m fuel que p) (· ≤ p) := by
  induction fuel generalizing que p with
  | zero => exact ends_none
  | succ fuel ih =>
      refine ends_bind fun u => ?_
      have lower : (if (k.tcb u).priority < p then (k.tcb u).priority
          else p) ≤ p := by
        split <;> omega
      refine ends_ite (fun _ => ends_some lower) fun _ => ?_
      exact fun q result => (ih _ q result).trans lower

theorem findMaxBlockedPriority_le (m : MutexId) (p : Nat) :
    Ends (findMaxBlockedPriority fuel k m p) (· ≤ p) := by
  refine ends_ite (fun _ => ?_) fun _ => ends_some (Nat.le_refl p)
  refine ends_ite (fun _ => ends_some (Nat.le_refl p)) fun _ => ?_
  exact maxWaiterPriority_le m _

/-! ## `set_current_priority` -/

theorem Kept.adjustWaiter (kept : Kept rule none k lists)
    (indifferent : rule.Indifferent)
    (notReady : (k.tcb t).taskState ≠ .runnable)
    (small : p < tnNumPriority) :
    Adjusted rule k (k.setTcb t { k.tcb t with priority := p }) lists lists :=
  .of_update (kept.priority (indifferent.raise t) notReady small)
    (fun _ => rfl) rfl rfl

theorem Kept.adjustReady (kept : Kept rule none k lists)
    (indifferent : rule.Indifferent) (isTask : k.isTask t = true)
    (ready : (k.tcb t).taskState = .runnable) (small : p < tnNumPriority) :
    ∃ k' changed lists', UsbBulk.changeRunningTaskPriority k t p =
        some (k', changed) ∧
      k'.tcb = Function.update k.tcb t { k.tcb t with priority := p } ∧
      Adjusted rule k k' lists lists' := by
  obtain ⟨links, bmp, next, changed, run, after⟩ :=
    kept.changeRunningTaskPriority (indifferent.raise t)
      (isTask_iff.mp isTask) ready small
  refine ⟨_, changed, _, run, rfl, .of_update after (fun list => ?_) rfl rfl⟩
  rw [Lists.ready_wait]
  refine drop_of_absent fun member => ?_
  have home := ((kept.consistent.tasks.home t _).mp member).2
  have waiting := (Tcb.home_eq_wait.mp home).2.1
  rw [ready] at waiting
  cases waiting

/-- A task that waits for a mutex waits in the list of a mutex that exists. -/
theorem Kept.waitsFor (kept : Kept rule none k lists)
    (isTask : k.isTask t = true) (waiting : (k.tcb t).taskState.isWait = true)
    (queue : getMutexByWaitQueque (k.tcb t).pwaitQueue = some m) :
    t ∈ lists.task (.wait (.mutex m)) ∧ k.isMutex m = true := by
  have pwait : (k.tcb t).pwaitQueue = some (.mutex m) := by
    revert queue
    cases (k.tcb t).pwaitQueue with
    | none => exact fun queue => by cases queue
    | some list =>
        cases list <;> intro queue <;> cases queue
        rfl
  have member : t ∈ lists.task (.wait (.mutex m)) :=
    (kept.consistent.tasks.home t _).mpr ⟨by simp,
      Tcb.home_eq_wait.mpr ⟨isTask_iff.mp isTask, waiting, pwait⟩⟩
  exact ⟨member, kept.consistent.waiters _ (List.ne_nil_of_mem member)⟩

/-- `set_current_priority`, wherever its walk ends. -/
theorem setPriorityAlong_adjusted (kept : Kept rule none k lists)
    (indifferent : rule.Indifferent) (known : k.Known)
    (isTask : k.isTask u = true)
    (fixed : t = u ∨ (k.tcb t).taskState ≠ .runnable)
    (small : p < tnNumPriority) :
    Ends (setPriorityAlong t fuel k u p) fun (k', _) =>
      ∃ lists', Adjusted rule k k' lists lists' := by
  induction fuel generalizing u p with
  | zero => exact ends_none
  | succ fuel ih =>
      have stored : (k.tcb u).taskState ≠ .runnable → ∃ lists', Adjusted rule k
          (k.setTcb t { k.tcb t with priority := p }) lists lists' := by
        intro notReady
        refine ⟨lists, kept.adjustWaiter indifferent ?_ small⟩
        rcases fixed with rfl | notReady'
        · exact notReady
        · exact notReady'
      refine ends_ite (fun _ => ends_some ⟨lists, .refl kept⟩) fun _ => ?_
      refine ends_ite (fun ready => ?_) fun notReady => ?_
      · obtain ⟨k', changed, lists', run, _, adjusted⟩ :=
          kept.adjustReady indifferent isTask ready small
        rw [run]
        exact ends_some ⟨lists', adjusted⟩
      refine ends_ite (fun waiting => ?_) fun _ => ends_some (stored notReady)
      refine ends_ite (fun _ => ?_) fun _ => ends_some (stored notReady)
      intro result run
      obtain ⟨m, queue, run⟩ := Option.bind_eq_some_iff.mp run
      -- The walk goes on to the task that blocks this one.
      have goOn : ∀ holder, k.isTask holder = true →
          Ends ((if (k.tcb u).priority < p then
              findMaxBlockedPriority fuel k m (k.tcb holder).basePriority
            else some p).bind fun p => setPriorityAlong t fuel k holder p)
            fun (k', _) => ∃ lists', Adjusted rule k k' lists lists' := by
        intro holder isHolder
        have base := (kept.consistent.tasks.valid holder
          (isTask_iff.mp isHolder)).basePriority
        have rests : t = holder ∨ (k.tcb t).taskState ≠ .runnable := by
          rcases fixed with rfl | notReady'
          · exact .inr notReady
          · exact .inr notReady'
        refine Ends.bind (ends_ite (fun _ => ?_) fun _ => ends_some small)
          fun q small => ih isHolder rests small
        exact fun q result =>
          (findMaxBlockedPriority_le m _ q result).trans_lt base
      have isMutex := (kept.waitsFor isTask waiting queue).2
      by_cases blocked : (k.tcb u).taskWaitReason = .mutexCBlk
      · rw [if_pos blocked] at run
        obtain ⟨holder, isHolder, run⟩ := Option.bind_eq_some_iff.mp run
        refine goOn holder (known.blkTask u holder isTask isHolder) result ?_
        split at run
        · next lower => rwa [if_pos lower]
        · next notLower => rwa [if_neg notLower]
      · rw [if_neg blocked] at run
        obtain ⟨holder, isHolder, run⟩ := Option.bind_eq_some_iff.mp run
        refine goOn holder (known.holder m holder isMutex isHolder) result ?_
        split at run
        · next lower => rwa [if_pos lower]
        · next notLower => rwa [if_neg notLower]

theorem setCurrentPriority_adjusted (kept : Kept rule none k lists)
    (indifferent : rule.Indifferent) (known : k.Known)
    (isTask : k.isTask t = true) (small : p < tnNumPriority) :
    Ends (setCurrentPriority fuel k t p) fun (k', _) =>
      ∃ lists', Adjusted rule k k' lists lists' :=
  setPriorityAlong_adjusted kept indifferent known isTask (.inl rfl) small

/-- On a task that does not wait for a mutex `set_current_priority` does what its
name says. -/
theorem setCurrentPriority_sets (kept : Kept rule none k lists)
    (indifferent : rule.Indifferent) (isTask : k.isTask t = true)
    (plain : (k.tcb t).taskState.isWait = true →
      (k.tcb t).taskWaitReason.isMutex = false)
    (small : p < tnNumPriority) :
    Ends (setCurrentPriority fuel k t p) fun (k', _) =>
      k'.tcb = Function.update k.tcb t { k.tcb t with priority := p } := by
  cases fuel with
  | zero => exact ends_none
  | succ fuel =>
      refine ends_ite (fun same => ends_some ?_) fun _ => ?_
      · have equal : { k.tcb t with priority := p } = k.tcb t := by
          rw [← same]
        rw [equal, Function.update_eq_self]
      refine ends_ite (fun ready => ?_) fun _ => ?_
      · obtain ⟨k', changed, _, run, tcb, _⟩ :=
          kept.adjustReady indifferent isTask ready small
        rw [run]
        exact ends_some tcb
      refine ends_ite (fun waiting => ?_) fun _ => ends_some rfl
      refine ends_ite (fun isMutex => ?_) fun _ => ends_some rfl
      rw [plain waiting] at isMutex
      cases isMutex

/-- The walk of `inheritPriority`. -/
theorem inheritPriority_adjusted (kept : Kept rule none k lists)
    (indifferent : rule.Indifferent) (known : k.Known)
    (isTask : k.isTask t = true) :
    Ends (inheritPriority fuel k t) fun k' =>
      ∃ lists', Adjusted rule k k' lists lists' := by
  have small := (kept.consistent.tasks.valid _ kept.curr).priority
  refine ends_ite (fun _ => ?_) fun _ => ends_some ⟨lists, .refl kept⟩
  refine Ends.bind (setCurrentPriority_adjusted kept indifferent known isTask
    small) fun _ adjusted => ends_some adjusted

/-! ## The end of a wait for a mutex -/

theorem restoreHolderPriority_adjusted (kept : Kept rule none k lists)
    (indifferent : rule.Indifferent) (known : k.Known)
    (isMutex : k.isMutex m = true) (awake : (k.tcb t).taskWaitReason = .none)
    (rc : Bool) :
    Ends (restoreHolderPriority fuel k t (some (.mutex m)) rc) fun (k', _) =>
      ∃ lists', Adjusted rule k k' lists lists' := by
  unfold restoreHolderPriority
  simp only [getMutexByWaitQueque, awake, Option.bind_eq_bind,
    Option.bind_some, reduceCtorEq, if_false]
  cases holder : (k.mutex m).holder with
  | none => exact ends_some ⟨lists, .refl kept⟩
  | some tmpTask =>
      have isTask := known.holder m tmpTask isMutex holder
      have base := (kept.consistent.tasks.valid tmpTask
        (isTask_iff.mp isTask)).basePriority
      refine ends_ite (fun _ => ?_) fun _ => ends_some ⟨lists, .refl kept⟩
      refine Ends.bind (findMaxBlockedPriority_le m _) fun q lower => ?_
      refine Ends.bind (setCurrentPriority_adjusted kept indifferent known
        isTask (lower.trans_lt base)) fun _ adjusted => ends_some adjusted

end Adjusted

end UsbBulk
