import UsbBulk.Kernel.Run

/-!
# Runs that are written down

A script lists the steps of a run.  Its evaluation tabulates the links after each
step: a list is a function, and without a table every later look at it would go
through all the changes that were ever made.
-/

namespace UsbBulk

/-! ## Tabulated functions -/

section Tabulate

variable {α β : Type} [DecidableEq α]

/-- Go on with the choice that equals a value, if there is one. -/
def choose (value : α) (go : α → β) : List α → β
  | [] => go value
  | choice :: choices =>
      if value = choice then go choice else choose value go choices

theorem choose_eq (value : α) (go : α → β) (choices : List α) :
    choose value go choices = go value := by
  induction choices with
  | nil => rfl
  | cons choice choices ih =>
      rw [choose]
      split
      · next same => rw [same]
      · exact ih

/-- Go on with a function whose values at some arguments have been looked up. -/
def tabulate (choices : List α) (f : α → α) :
    List α → ((α → α) → β) → β
  | [], go => go f
  | arg :: args, go =>
      choose (f arg) (fun value => tabulate choices f args fun g =>
        go (Function.update g arg value)) choices

theorem tabulate_eq (choices : List α) (f : α → α) (args : List α)
    (go : (α → α) → β) : tabulate choices f args go = go f := by
  induction args generalizing go with
  | nil => rfl
  | cons arg args ih =>
      rw [tabulate, choose_eq, ih, Function.update_eq_self]

def Links.settle (links : Links α) (nodes : List α) (go : Links α → β) : β :=
  tabulate nodes links.next nodes fun next =>
    tabulate nodes links.prev nodes fun prev => go ⟨prev, next⟩

theorem Links.settle_eq (links : Links α) (nodes : List α) (go : Links α → β) :
    links.settle nodes go = go links := by
  rw [Links.settle, tabulate_eq, tabulate_eq]

end Tabulate

/-! ## Scripts -/

/-- One step of a script. -/
inductive Move where
  | task (call : Call)
  | irq (call : Call)
  | switch

/-- The tasks, lists and mutexes that a script is about. -/
structure Stage where
  tasks : List TaskId
  heads : List QueueHead
  mutexes : List MutexId

/-- The nodes of the lists that are tabulated. -/
def Kernel.settle {β : Type} (stage : Stage) (k : Kernel) (go : Kernel → β) :
    β :=
  k.taskLinks.settle (stage.heads.map .head ++ stage.tasks.map .entry)
    fun taskLinks =>
  k.mutexLinks.settle (stage.tasks.map .head ++ stage.mutexes.map .entry)
    fun mutexLinks =>
  k.lockLinks.settle (.head () :: stage.mutexes.map .entry) fun lockLinks =>
  k.blockLinks.settle (.head () :: stage.tasks.map .entry) fun blockLinks =>
    go { k with
      taskLinks := taskLinks
      mutexLinks := mutexLinks
      lockLinks := lockLinks
      blockLinks := blockLinks }

theorem Kernel.settle_eq {β : Type} (stage : Stage) (k : Kernel)
    (go : Kernel → β) : k.settle stage go = go k := by
  simp only [Kernel.settle, Links.settle_eq]

namespace Move

/-- The state after a step that is possible. -/
def exec (image : Image) (fuel : Nat) (k : Kernel) : Move → Option Kernel
  | task call =>
      if call.fromInterrupt = false ∧
          (k.tcb k.tnCurrRunTask).taskState = .runnable ∧
          k.tnCurrRunTask ≠ image.idleTask then
        (call.exec image.tnTaskExit fuel k).map Prod.fst
      else none
  | irq call =>
      if call.fromInterrupt = true then
        (call.exec image.tnTaskExit fuel k.enterIrq).map fun after =>
          after.1.leaveIrq
      else none
  | switch => tnSwitchContext k

/-- The call of the step may be made in every state. -/
def Free (allowed : Kernel → Call → Prop) : Move → Prop
  | task call | irq call => ∀ k, allowed k call
  | switch => True

/-- The call of the step may be made in this state. -/
def May (allowed : Kernel → Call → Prop) (k : Kernel) : Move → Prop
  | task call | irq call => allowed k call
  | switch => True

theorem Free.may {allowed : Kernel → Call → Prop} {move : Move}
    (free : move.Free allowed) (k : Kernel) : move.May allowed k := by
  cases move with
  | task call => exact free k
  | irq call => exact free k
  | switch => trivial

theorem exec_step {image : Image} {allowed : Kernel → Call → Prop}
    {fuel : Nat} {k k' : Kernel} {move : Move} (may : move.May allowed k)
    (run : move.exec image fuel k = some k') :
    ∃ action, Step image allowed k action k' := by
  cases move with
  | task call =>
      obtain ⟨⟨task, running, notIdle⟩, run⟩ := Option.ite_none_right_eq_some.mp
        run
      obtain ⟨⟨_, reply⟩, exec, rfl⟩ := Option.map_eq_some_iff.mp run
      exact ⟨_, .call fuel task running notIdle may exec⟩
  | irq call =>
      obtain ⟨irq, run⟩ := Option.ite_none_right_eq_some.mp run
      obtain ⟨⟨_, reply⟩, exec, rfl⟩ := Option.map_eq_some_iff.mp run
      exact ⟨_, .interrupt fuel irq may exec⟩
  | switch => exact ⟨_, .dispatch run⟩

end Move

/-- The state after all steps of a script. -/
def Kernel.follow (image : Image) (fuel : Nat) (stage : Stage) :
    Kernel → List Move → Option Kernel
  | k, [] => some k
  | k, move :: moves => (move.exec image fuel k).bind fun k =>
      k.settle stage fun k => k.follow image fuel stage moves

theorem Reachable.follow {image : Image} {allowed : Kernel → Call → Prop}
    {fuel : Nat} {stage : Stage} {moves : List Move} {k k' : Kernel}
    (reachable : Reachable image allowed k)
    (free : ∀ move ∈ moves, move.Free allowed)
    (run : k.follow image fuel stage moves = some k') :
    Reachable image allowed k' := by
  induction moves generalizing k with
  | nil =>
      cases run
      exact reachable
  | cons move moves ih =>
      obtain ⟨k₁, exec, run⟩ := Option.bind_eq_some_iff.mp run
      rw [Kernel.settle_eq] at run
      obtain ⟨action, step⟩ :=
        Move.exec_step ((free move List.mem_cons_self).may k) exec
      exact ih (.next reachable step)
        (fun later member => free later (List.mem_cons_of_mem move member)) run

/-- What is found at the end of a script holds of a reachable state. -/
theorem Reachable.of_script {allowed : Kernel → Call → Prop} {fuel : Nat}
    {stage : Stage} {moves : List Move} {holds : Kernel → Bool}
    (free : ∀ move ∈ moves, move.Free allowed)
    (found : (Kernel.started.follow .sample fuel stage moves).any holds = true) :
    ∃ k, Reachable .sample allowed k ∧ holds k = true := by
  obtain ⟨k, run, ends⟩ := (Option.any_eq_true ..).mp found
  have started : Reachable .sample allowed .started :=
    .start Kernel.fresh_zeroed tnStartSystem_started
  exact ⟨k, started.follow free run, ends⟩

/-! ## Scripts with tests -/

/-- The state after all steps, if a test succeeds before each of them. -/
def Kernel.followTested (image : Image) (fuel : Nat) (stage : Stage)
    (test : Kernel → Move → Bool) : Kernel → List Move → Option Kernel
  | k, [] => some k
  | k, move :: moves =>
      if test k move then
        (move.exec image fuel k).bind fun k =>
          k.settle stage fun k => k.followTested image fuel stage test moves
      else none

/-- The test has to allow a call only in states that are reachable. -/
theorem Reachable.followTested {image : Image}
    {allowed : Kernel → Call → Prop} {fuel : Nat} {stage : Stage}
    {test : Kernel → Move → Bool} {moves : List Move} {k k' : Kernel}
    (reachable : Reachable image allowed k)
    (sound : ∀ move ∈ moves, ∀ k, Reachable image allowed k →
      test k move = true → move.May allowed k)
    (run : k.followTested image fuel stage test moves = some k') :
    Reachable image allowed k' := by
  induction moves generalizing k with
  | nil =>
      cases run
      exact reachable
  | cons move moves ih =>
      obtain ⟨passed, run⟩ := Option.ite_none_right_eq_some.mp run
      obtain ⟨k₁, exec, run⟩ := Option.bind_eq_some_iff.mp run
      rw [Kernel.settle_eq] at run
      obtain ⟨action, step⟩ := Move.exec_step
        (sound move List.mem_cons_self k reachable passed) exec
      exact ih (.next reachable step) (fun later member =>
        sound later (List.mem_cons_of_mem move member)) run

theorem Reachable.of_testedScript {allowed : Kernel → Call → Prop}
    {fuel : Nat} {stage : Stage} {test : Kernel → Move → Bool}
    {moves : List Move} {holds : Kernel → Bool}
    (sound : ∀ move ∈ moves, ∀ k, Reachable .sample allowed k →
      test k move = true → move.May allowed k)
    (found : (Kernel.started.followTested .sample fuel stage test moves).any
      holds = true) :
    ∃ k, Reachable .sample allowed k ∧ holds k = true := by
  obtain ⟨k, run, ends⟩ := (Option.any_eq_true ..).mp found
  have started : Reachable .sample allowed .started :=
    .start Kernel.fresh_zeroed tnStartSystem_started
  exact ⟨k, started.followTested sound run, ends⟩

end UsbBulk
