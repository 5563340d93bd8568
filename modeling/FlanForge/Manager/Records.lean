import FlanForge.Manager.Exec

/-!
# Allocation records

How the manager reads and writes one allocation: a copy is taken from the
entries, changed, stored, and put back in a second lock section. Nothing
ties the two sections together; that no other task writes the entry in
between is a fact about who calls this, not about this code.
-/

namespace FlanForge

open Prog (perform)

/-- The allocation under an identity, as the entries have it now. -/
def get (id : AllocationId) : Manager (Except ManagerError Allocation) := do
  let entries ← perform Op.readEntries
  match Table.get Entry.id id entries with
  | some entry => pure (.ok entry.allocation)
  | none => pure (.error (.notFound id))

/-- Read an allocation, change it, store it, and put it back. -/
def update (id : AllocationId) (f : Allocation → UInt64 → Except ManagerError Allocation) :
    Manager (Except ManagerError Unit) := do
  match ← get id with
  | .error e => pure (.error e)
  | .ok allocation =>
    let now ← perform Op.unixTime
    match f allocation now with
    | .error e => pure (.error e)
    | .ok allocation =>
      match ← perform (Op.saveAllocation allocation) with
      | .error e => pure (.error (.store e))
      | .ok _ =>
        let found ← perform (Op.putAllocation allocation)
        pure (if found then .ok () else .error (.notFound id))

def transition (id : AllocationId) (state : AllocationState) :
    Manager (Except ManagerError Unit) := do
  match ← get id with
  | .error e => pure (.error e)
  | .ok _ =>
    update id fun allocation now =>
      match allocation.transition state now with
      | .ok allocation => .ok allocation
      | .error e => .error (.transition e)

def setRunnerId (id : AllocationId) (runnerId : Int64) : Manager (Except ManagerError Unit) :=
  if runnerId ≤ 0 then pure (.error .invalidRunnerId)
  else update id fun allocation now => .ok (allocation.setRunnerId runnerId now)

def setVmCreated (id : AllocationId) : Manager (Except ManagerError Unit) :=
  update id fun allocation now => .ok (allocation.setVmCreated now)

def setSource (id : AllocationId) (source : CloneSource) : Manager (Except ManagerError Unit) :=
  update id fun allocation now => .ok (allocation.setSource source now)

def setCloneSource (id : AllocationId) (source : CloneSource) (warmGeneration : Option UInt64) :
    Manager (Except ManagerError Unit) :=
  update id fun allocation now => .ok (allocation.setCloneSource source warmGeneration now)

/-- Record why the worker stopped; a full host is carried as busy. -/
def setWorkerError (id : AllocationId) (error : WorkerError) : Manager (Except ManagerError Unit) :=
  update id fun allocation now =>
    let allocation := if error.isCapacity then allocation.setCapacityBusy now else allocation
    .ok (allocation.setError error.message now)

def setError (id : AllocationId) (error : String) : Manager (Except ManagerError Unit) :=
  update id fun allocation now => .ok (allocation.setError error now)

def ensureCleaning (id : AllocationId) : Manager (Except ManagerError Unit) := do
  match ← get id with
  | .error e => pure (.error e)
  | .ok allocation =>
    if allocation.state = .cleaning || allocation.state.isTerminal then pure (.ok ())
    else transition id .cleaning

end FlanForge
