import UsbBulk.Kernel.TaskEnd

/-!
# Deletion of kernel objects

A deletion releases the waiting tasks one after the other.  As soon as one of them
can run it switches to that task and goes on later, so it is a sequence of
sections: each one ends in a switch or deletes the object.
-/

namespace UsbBulk

/-- One round of the loop: the first waiting task is released, and `prepare` is
what the service does to it before.  The answer says whether the task can run. -/
def releaseFirst (fuel : Nat) (k : Kernel) (list : WaitList)
    (prepare : Kernel → TaskId → Option Kernel) : Option (Kernel × Bool) := do
  let (k, task) ← removeWaiter k list
  let k ← prepare k task
  let (k, woken) ← taskWaitComplete fuel k task
  if woken then
    some (k.setTcb task { k.tcb task with taskWaitRc := .dlt }, true)
  else some (k, false)

/-- The loop up to the next switch; the answer says whether there is one. -/
def releaseAll (fuel : Nat) (list : WaitList)
    (prepare : Kernel → TaskId → Option Kernel) :
    Nat → Kernel → Option (Kernel × Bool)
  | 0, _ => none
  | rounds + 1, k =>
      if k.noWaiters list then some (k, false)
      else do
        let (k, woken) ← releaseFirst fuel k list prepare
        if woken then some (k, true)
        else releaseAll fuel list prepare rounds k

/-- A section of a deletion: the loops over these wait lists, and the end. -/
def deleteSection (fuel : Nat) (prepare : Kernel → TaskId → Option Kernel)
    (finish : Kernel → Kernel) : List WaitList → Kernel → Outcome
  | [], k => some (finish k, .ret .noErr)
  | list :: lists, k => do
      let (k, woken) ← releaseAll fuel list prepare fuel k
      if woken then some (k, .block)
      else deleteSection fuel prepare finish lists k

def finishSem (k : Kernel) (sem : SemId) : Kernel :=
  k.setSem sem { k.sem sem with idSem := 0 }

def tnSemDelete (fuel : Nat) (k : Kernel) (sem : Option SemId) : Outcome :=
  checked k sem (fun _ => false) k.isSem k.wrongNonIntContext fun sem =>
    deleteSection fuel (fun k _ => some k) (finishSem · sem) [.sem sem] k

def finishEvent (k : Kernel) (evf : EventId) : Kernel :=
  k.setEvent evf { k.event evf with idEvent := 0 }

def tnEventDelete (fuel : Nat) (k : Kernel) (evf : Option EventId) : Outcome :=
  checked k evf (fun _ => false) k.isEvent k.wrongNonIntContext fun evf =>
    deleteSection fuel (fun k _ => some k) (finishEvent · evf) [.event evf] k

def finishQueue (k : Kernel) (dque : DqueId) : Kernel :=
  k.setDque dque { k.dque dque with idDque := 0 }

def tnQueueDelete (fuel : Nat) (k : Kernel) (dque : Option DqueId) : Outcome :=
  checked k dque (fun _ => false) k.isDque k.wrongNonIntContext fun dque =>
    deleteSection fuel (fun k _ => some k) (finishQueue · dque)
      [.dqueSend dque, .dqueReceive dque] k

def finishFmem (k : Kernel) (fmp : FmpId) : Kernel :=
  k.setFmp fmp { k.fmp fmp with idFmp := 0 }

def tnFmemDelete (fuel : Nat) (k : Kernel) (fmp : Option FmpId) : Outcome :=
  checked k fmp (fun _ => false) k.isFmp k.wrongNonIntContext fun fmp =>
    deleteSection fuel (fun k _ => some k) (finishFmem · fmp) [.fmp fmp] k

/-- A mutex that is locked leaves the lists of locked mutexes. -/
def finishMutex (k : Kernel) (mutex : MutexId) : Kernel :=
  let k := if (k.mutex mutex).holder ≠ none then
      { k with
        mutexLinks := queueRemoveEntry k.mutexLinks (.entry mutex)
        lockLinks := queueRemoveEntry k.lockLinks (.entry mutex) }
    else k
  k.setMutex mutex { k.mutex mutex with idMutex := 0 }

def tnMutexDelete (fuel : Nat) (k : Kernel) (mutex : Option MutexId) :
    Outcome :=
  checked k mutex (fun _ => false) k.isMutex k.wrongNonIntContext fun mutex =>
    deleteSection fuel (removeTaskFromBlockedList fuel) (finishMutex · mutex)
      [.mutex mutex] k

end UsbBulk
