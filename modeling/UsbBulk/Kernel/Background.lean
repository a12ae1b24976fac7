import UsbBulk.Kernel.Clients
import UsbBulk.Kernel.Frames

/-!
# Ticks and sleeps beside a program

A tick ends sleeps only, as long as all other waits have no timeout, and a task that
goes to sleep is in no wait list.  Neither is seen by a program that shares queues
and pools.
-/

namespace UsbBulk

section Blind

variable {γ : Type} {view : (TaskId → Tcb) → γ} {m : γ} {rule : Rule}
variable {k : Kernel} {lists : Lists} {t u : TaskId}

theorem tickTask_blind (blind : Blind view u) (same : view k.tcb = m)
    (plain : (k.tcb u).tickCount = 1 →
      (k.tcb u).taskWaitReason.isMutex = false) (fuel : Nat) :
    Ends (tickTask fuel k u) (view ·.tcb = m) := by
  have counted : view (k.setTcb u { k.tcb u with
      tickCount := (k.tcb u).tickCount - 1 }).tcb = m :=
    blind.setTcb same rfl
  refine ends_ite (fun _ => ?_) fun _ => ends_some same
  refine ends_ite (fun zero => ?_) fun _ => ends_some counted
  have notMutex : ((k.setTcb u { k.tcb u with
      tickCount := (k.tcb u).tickCount - 1 }).tcb u).taskWaitReason.isMutex =
      false := by
    simpa [Kernel.setTcb] using plain (by bv_omega)
  refine (taskWaitComplete_blind fuel blind counted notMutex).bind
    fun after same => ?_
  exact ends_ite (fun _ => ends_some (blind.setTcb same rfl))
    fun _ => ends_some same

/-- The walk stores into the control blocks of tasks with timeouts. -/
theorem tickFrom_blind (kept : Kept rule none k lists)
    (front : List TaskId) {rest : List TaskId}
    (split : lists.timer = front ++ u :: rest)
    (plain : ∀ t ∈ u :: rest, (k.tcb t).Due → (k.tcb t).pwaitQueue = none)
    (blind : ∀ t ∈ u :: rest, Blind view t) (same : view k.tcb = m)
    (fuel rounds : Nat) :
    Ends (tickFrom fuel rounds k (.entry u)) (view ·.tcb = m) := by
  induction rounds generalizing k lists front u rest with
  | zero => exact ends_none
  | succ rounds ih =>
      have timed : (k.tcb u).Timed :=
        (kept.consistent.tasks.timed u).mp (by simp [split])
      obtain ⟨k₁, lists₁, front₁, run, after, others, left, next⟩ :=
        tickTask_spec kept split (plain u (by simp)) fuel
      have notMutex : (k.tcb u).tickCount = 1 →
          (k.tcb u).taskWaitReason.isMutex = false := fun one =>
        (kept.consistent.tasks.valid u timed.1).noMutex timed.2.1
          (plain u (by simp) ⟨timed, one⟩)
      have same₁ := tickTask_blind (blind u (by simp)) same notMutex fuel _ run
      simp only [tickFrom, getTaskByTimerQueque, Option.bind_eq_bind,
        Option.bind_some, run, next]
      cases rest with
      | nil =>
          exact ends_ite (fun _ => ends_some same₁) fun other => absurd rfl other
      | cons v rest =>
          have nodup := kept.consistent.timer_nodup
          rw [split] at nodup
          have absent : u ∉ v :: rest :=
            (List.nodup_cons.mp (List.nodup_append.mp nodup).2.1).1
          simp only [List.map_cons, List.headD_cons, reduceCtorEq, if_false]
          refine ih after front₁ left (fun t member due => ?_)
            (fun t member => blind t (List.mem_cons_of_mem _ member)) same₁
          have place := others.place t fun equal => absent (equal ▸ member)
          rw [place.pwaitQueue]
          exact plain t (List.mem_cons_of_mem _ member)
            ⟨place.timed.mp due.1, place.tickCount.symm.trans due.2⟩

theorem roundRobin_blind (same : view k.tcb = m)
    (sliced : ∀ count, view (k.setTcb k.tnCurrRunTask
      { k.tcb k.tnCurrRunTask with tsliceCount := count }).tcb = m) :
    Ends (roundRobin k) (view ·.tcb = m) := by
  refine ends_ite (fun _ => ?_) fun _ => ends_some same
  refine ends_ite (fun _ => ?_) fun _ => ends_some (sliced _)
  refine ends_ite (fun _ => ?_) fun _ => ends_some (sliced 0)
  exact ends_bind fun _ => ends_some (sliced 0)

/-- A tick stores into the control blocks of tasks with timeouts. -/
theorem tnTickIntProcessing_blind (kept : Kept rule none k lists)
    (plain : ∀ t, (k.tcb t).Due → (k.tcb t).pwaitQueue = none)
    (blind : ∀ t, (k.tcb t).Timed → Blind view t) (same : view k.tcb = m)
    (sliced : ∀ count, view (k.setTcb k.tnCurrRunTask
      { k.tcb k.tnCurrRunTask with tsliceCount := count }).tcb = m)
    (fuel : Nat) : Ends (tnTickIntProcessing fuel k) (view ·.tcb = m) := by
  refine ends_ite (fun _ => ends_some same) fun _ => ?_
  obtain ⟨k₁, lists₁, rotated, after, others, timer⟩ := roundRobin_spec kept
  have same₁ := roundRobin_blind same sliced _ rotated
  rw [rotated]
  refine ends_ite (fun some => ?_) fun _ => ends_some same₁
  have first := after.consistent.timer.next_head_single
  cases split : lists₁.timer with
  | nil =>
      have empty := after.consistent.timer.isQueueEmpty_single.mpr split
      simp [empty] at some
  | cons u rest =>
      rw [split, List.map_cons, List.headD_cons] at first
      rw [first]
      refine tickFrom_blind after [] split (fun t _ due => ?_)
        (fun t member => blind t ?_) same₁ fuel fuel
      · have place := others.place t trivial
        rw [place.pwaitQueue]
        exact plain t
          ⟨place.timed.mp due.1, place.tickCount.symm.trans due.2⟩
      · rw [← split, timer] at member
        exact (kept.consistent.tasks.timed t).mp member

end Blind

section Shares

variable {rule : Rule} {queues : DqueId → Prop} {pools : FmpId → Prop}
variable {k k' : Kernel} {lists : Lists} {s : Shared} {reply : Reply}
variable {timeout : Word}

theorem Shares.moved (shares : Shares rule queues pools k lists s)
    {lists' : Lists} (kept : Kept rule none k' lists')
    (waits : ∀ list, lists'.task (.wait list) = lists.task (.wait list))
    (dataElem : ∀ t, (k'.tcb t).dataElem = (k.tcb t).dataElem)
    (objects : (k'.dque, k'.fmp, k'.mem) = (k.dque, k.fmp, k.mem)) :
    Shares rule queues pools k' lists'
      { s with waitRc := fun t => (k'.tcb t).taskWaitRc } := by
  obtain ⟨dque, fmp, mem⟩ := (Prod.mk.injEq ..).mp objects |>.imp_right
    (Prod.mk.injEq ..).mp
  exact {
    kept
    waiting := fun list => (waits list).trans (shares.waiting list)
    elem := fun t => (dataElem t).trans (shares.elem t)
    waitRc := fun _ => rfl
    mem := mem.trans shares.mem
    queue := fun d member => (shares.queue d member).congr (congrFun dque d)
    pool := fun f member => (shares.pool f member).congr (congrFun fmp f)
      fun block _ => congrFun mem block }

theorem objects_apart : Apart fun k => (k.dque, k.fmp, k.mem) := by
  intro k k' only
  rw [only]

theorem Shares.tick (shares : Shares rule queues pools k lists s)
    (plain : ∀ t, (k.tcb t).Due → (k.tcb t).pwaitQueue = none) {fuel : Nat}
    (run : tnTickIntProcessing fuel k = some k') :
    k'.mode = k.mode ∧ ∃ lists' waitRc,
      Shares rule queues pools k' lists' { s with waitRc := waitRc } ∧
      ∀ t, ¬(k.tcb t).Timed → waitRc t = s.waitRc t := by
  obtain ⟨lists', kept, waits⟩ :=
    (tnTickIntProcessing_spec shares.kept plain fuel).2 k' run
  have dataElem : (fun t => (k'.tcb t).dataElem) =
      fun t => (k.tcb t).dataElem := by
    have changes : ∀ (tcb : TaskId → Tcb) (t : TaskId) (new : Tcb),
        new.dataElem = (tcb t).dataElem →
        (fun u => (Function.update tcb t new u).dataElem) =
          fun u => (tcb u).dataElem := by
      intro tcb t new same
      funext u
      by_cases equal : u = t
      · subst equal
        simpa using same
      · simp [equal]
    exact @tnTickIntProcessing_blind _ (fun tcb u => (tcb u).dataElem) _ _ _ _
      shares.kept plain
      (fun t _ tcb new shape =>
        changes tcb t new (by rw [shape])) rfl
      (fun _ => changes k.tcb _ _ rfl) fuel k' run
  have waitRc : ∀ t, ¬(k.tcb t).Timed →
      (k'.tcb t).taskWaitRc = (k.tcb t).taskWaitRc := by
    intro t untimed
    refine @tnTickIntProcessing_blind _ (fun tcb => (tcb t).taskWaitRc) _ _ _ _
      shares.kept plain (fun u timed tcb new _ => ?_) rfl (fun count => ?_)
      fuel k' run
    · have other : t ≠ u := fun equal => untimed (equal ▸ timed)
      simp [Function.update_of_ne other]
    · by_cases running : t = k.tnCurrRunTask
      · simp [Kernel.setTcb, running]
      · simp [Kernel.setTcb, running]
  have mode : k'.footing = k.footing :=
    tnTickIntProcessing_apart footing_apart fuel rfl k' run
  exact ⟨congrArg Footing.mode mode, lists', _,
    shares.moved kept waits (congrFun dataElem)
      (tnTickIntProcessing_apart objects_apart fuel rfl k' run),
    fun t untimed => (waitRc t untimed).trans (shares.waitRc t)⟩

theorem Shares.taskSleep (shares : Shares rule queues pools k lists s)
    (context : k.wrongNonIntContext = false)
    (running : (k.tcb k.tnCurrRunTask).taskState = .runnable)
    (stop : rule.stop k.tnCurrRunTask) (waits : rule.waits none timeout)
    (accepted : timeout ≠ 0) :
    ∃ k' reply lists', tnTaskSleep k timeout = some (k', reply) ∧
      reply.rc = some .noErr ∧ SameContext k k' ∧
      Shares rule queues pools k' lists' s := by
  have kept := shares.kept
  unfold tnTaskSleep
  rw [if_neg accepted, if_neg (by simp [context])]
  dsimp only
  split
  · refine ⟨_, _, lists, rfl, rfl, ⟨rfl, rfl, rfl, rfl⟩,
      Quiet.shares ?_ ?_ shares⟩
    · exact .of_update (kept.setTcb ⟨rfl, rfl, rfl, rfl, rfl, rfl, rfl⟩ rfl)
        (fun _ => rfl) rfl rfl
        ⟨rfl, rfl, rfl, rfl, rfl, rfl, rfl, rfl, rfl, rfl⟩
    · exact setTcb_aspect _ rfl
  · obtain ⟨_, _, _, _, slept, after⟩ := kept.taskCurrToWaitAction running
      stop waits (show WaitReason.fits .sleep none = true from rfl) (by simp)
    rw [slept]
    have absent : ∀ list, k.tnCurrRunTask ∉ lists.task (.wait list) :=
      fun list member => shares.asleep (shares.waiting list ▸ member) running
    refine ⟨_, _, (lists.detach k.tnCurrRunTask).block k.tnCurrRunTask none
      timeout, rfl, rfl, ⟨rfl, rfl, rfl, rfl⟩, Quiet.shares ?_ ?_ shares⟩
    · exact .of_update after (fun list => drop_of_absent (absent list)) rfl rfl
        ⟨rfl, rfl, rfl, rfl, rfl, rfl, rfl, rfl, rfl, rfl⟩
    · exact setTcb_aspect ((k.tcb k.tnCurrRunTask).asleep none .sleep timeout)
        rfl

end Shares

end UsbBulk
