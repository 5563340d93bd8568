import FlanForge.Common.Machine
import FlanForge.Manager.Select

/-!
# What happened

`History` is kept beside the manager's state and never read by its code: it
remembers what the durable tables and the entries forget. Who may write an
allocation's entry, which allocations were ever admitted, which machines
were ever in the pool and how many jobs each has been given, which pool
machines a task has decided to destroy, and which records were written
since a task last read the pool. The results about runs are stated over it.
-/

namespace FlanForge

/-- The marks a task leaves. -/
inductive Note
  /-- This task has decided to destroy the machine. -/
  | chose (vmName : VmName)
  /-- The decision is carried out or given up. -/
  | settled (vmName : VmName)
  /-- An operator asked for the machine's destruction, claim or no claim. -/
  | operatorEvict (vmName : VmName)
  deriving DecidableEq

/-- What a saved hot record was made from: a copy of an earlier one, or the
guest an allocation hands over. The store does not see it. -/
inductive Base
  | copy (guest : HotGuest)
  | fresh (id : AllocationId)
  deriving DecidableEq

/-- A machine of the pool, and the allocation that left it there when that is
known. -/
structure Pooled where
  vmName : VmName
  profile : ProfileName
  lane : HotLane
  size : GuestSize
  builder : Option AllocationId
  deriving DecidableEq

/-- What a record says about its machine. -/
def HotGuest.pooled (guest : HotGuest) (builder : Option AllocationId) : Pooled :=
  ⟨guest.vmName, guest.profile, guest.lane, guest.size, builder⟩

structure History where
  /-- The task that may write an allocation's entry. -/
  driver : AllocationId → Option TaskId
  /-- Every allocation `create` ever admitted, as it was admitted. -/
  admitted : List Allocation
  /-- Those the current process admitted. -/
  current : List AllocationId
  /-- Every identity that was ever given out. -/
  issued : List AllocationId
  /-- The machines each task has decided to destroy. -/
  chosen : List (TaskId × VmName)
  /-- The machines each task destroys on an operator's word. -/
  ordered : List (TaskId × VmName)
  /-- Every configuration that was ever in force. -/
  configs : List Config
  /-- Every machine that was ever in the pool. -/
  pooled : List Pooled
  /-- The machines on whose record a drain reason was stored. -/
  drained : List VmName
  /-- The jobs the machine under a name was given since it joined the pool,
  the one it was built for included. -/
  jobs : VmName → ℕ
  /-- The records other tasks wrote since a task last read the whole pool. -/
  touched : TaskId → List VmName
  /-- The recovery of the current process. -/
  recoverer : Option TaskId

namespace History

/-- Nothing has happened yet. -/
def initial (config : Config) : History where
  driver _ := none
  admitted := []
  current := []
  issued := []
  chosen := []
  ordered := []
  configs := [config]
  pooled := []
  drained := []
  jobs _ := 0
  touched _ := []
  recoverer := none

def note (h : History) (self : TaskId) : Note → History
  | .chose vmName => { h with chosen := (self, vmName) :: h.chosen }
  | .settled vmName => { h with chosen := h.chosen.filter (· ≠ (self, vmName)) }
  | .operatorEvict vmName => { h with ordered := (self, vmName) :: h.ordered }

/-- Who may write the allocation's entry from now on. -/
def drive (h : History) (id : AllocationId) (task : Option TaskId) : History :=
  { h with driver := Function.update h.driver id task }

def issue (h : History) (id : AllocationId) : History := { h with issued := id :: h.issued }

/-- A new task has left no marks. -/
def begin (h : History) (t : TaskId) : History :=
  { h with
    chosen := h.chosen.filter (·.1 ≠ t)
    ordered := h.ordered.filter (·.1 ≠ t) }

/-- The allocation is admitted, and `worker` drives it. -/
def admits (h : History) (allocation : Allocation) (worker : TaskId) : History :=
  { (h.begin worker).drive allocation.id (some worker) with
    admitted := allocation :: h.admitted
    current := allocation.id :: h.current
    jobs := match allocation.origin.hotVmName with
      | some vmName => Function.update h.jobs vmName (h.jobs vmName + 1)
      | none => h.jobs }

/-- The task has read the whole pool. -/
def read (h : History) (self : TaskId) : History :=
  { h with touched := Function.update h.touched self [] }

/-- A task wrote or removed the record under a name. -/
def wrote (h : History) (self : TaskId) (vmName : VmName) : History :=
  { h with touched := fun t => if t = self then h.touched t else vmName :: h.touched t }

/-- A record was stored. A machine that joins the pool starts over under its
name. -/
def saved (h : History) (self : TaskId) (base : Base) (guest : HotGuest) : History :=
  let h := h.wrote self guest.vmName
  match base with
  | .copy _ =>
    if guest.drainReason.isSome then { h with drained := guest.vmName :: h.drained } else h
  | .fresh id =>
    { h with
      pooled := guest.pooled (some id) :: h.pooled
      jobs := Function.update h.jobs guest.vmName 1
      drained := h.drained.filter (· ≠ guest.vmName) }

/-- A record was removed: the machine under the name is out of the pool. -/
def removed (h : History) (self : TaskId) (vmName : VmName) : History :=
  { h.wrote self vmName with drained := h.drained.filter (· ≠ vmName) }

/-- The recovery of a new process starts. -/
def restart (h : History) (t : TaskId) : History :=
  { h with
    driver := fun _ => none
    current := []
    chosen := []
    ordered := []
    recoverer := some t }

/-- The recovery drives every allocation it loaded. -/
def recovering (h : History) (self : TaskId) (allocations : List Allocation) : History :=
  { h with
    driver := fun id => if allocations.any (·.id = id) then some self else h.driver id }

/-- The recovery is over. -/
def recovered (h : History) : History := { h with driver := fun _ => none }

def reloaded (h : History) (config : Config) : History :=
  { h with configs := config :: h.configs }

end History

end FlanForge
