import FlanForge.Manager.State

/-!
# What the operations do

The machine under the manager's programs: `exec` gives each operation its
effect on the shared state and its result, under one answer of the
environment. An operation on the entries waits while a `create` holds the
lock.
-/

namespace FlanForge

namespace Answer

def storeError (a : Answer) : StoreError := ⟨a.message⟩

def workerError (a : Answer) : WorkerError :=
  if a.isCapacity then .capacity (boundedText a.message 512) else WorkerError.new a.message

/-- The store call's result, unless it fails. -/
def stored {α : Type} (a : Answer) (x : Except StoreError α) : Except StoreError α :=
  if a.failed then .error a.storeError else x

/-- The backend call's result, unless it fails. -/
def worked {α : Type} (a : Answer) (x : α) : Except WorkerError α :=
  if a.failed then .error a.workerError else .ok x

end Answer

/-- Insert recovered allocations one by one; a double identity ends it. -/
def loadInto (entries : List Entry) : List Allocation → List Entry × Except ManagerError Unit
  | [] => (entries, .ok ())
  | allocation :: rest =>
    if entries.any (·.id = allocation.id) then
      (entries, .error (.duplicateAllocation allocation.id))
    else loadInto (entries ++ [⟨allocation, false, false, false⟩]) rest

namespace State

/-- Change the entry under an identity. -/
def modifyEntry (s : State) (id : AllocationId) (f : Entry → Entry) : State :=
  { s with entries := Table.modify Entry.id id f s.entries }

/-- One caller's turn at cancelling an entry. -/
def beginCancel (s : State) (self : TaskId) (id : AllocationId) : State × CancelTurn :=
  match Table.get Entry.id id s.entries with
  | none => (s, .notFound)
  | some entry =>
    if entry.allocation.state.isTerminal then (s, .settled)
    else if entry.isSupervised then
      (s.modifyEntry id fun e => { e with isCancelled := true }, .settled)
    else if entry.isTerminalizing then
      (s.modifyEntry id fun e => { e with isCancelled := true }, .await)
    else
      ({ s.modifyEntry id fun e => { e with isCancelled := true, isTerminalizing := true } with
          history := s.history.drive id (some self) },
        .drive entry.allocation)

end State

/-- The effect and the result of one operation. -/
def exec (self fresh : TaskId) (op : Op) (a : Answer) (s₀ : State) :
    Option (State × op.Res × Option Kind) :=
  let s := s₀.tick a.elapsed
  match op with
  | .currentConfig => some (s, s.config, none)
  | .configChange => some ({ s with watched := s.config }, (s.watched, s.config), none)
  | .unixTime => if a.now.toNat < 2 ^ 63 then some (s, a.now, none) else none
  | .hotLoadAll =>
    some (if a.failed then s else { s with history := s.history.read self },
      a.stored (.ok s.hot.loadAll), none)
  | .hotLoad vmName => some (s, a.stored (s.hot.load vmName), none)
  | .hotSave base guest =>
    match a.stored (s.hot.save guest) with
    | .ok hot => some ({ s with hot := hot, history := s.history.saved self base guest },
      .ok (), none)
    | .error e => some (s, .error e, none)
  | .hotRemove vmName =>
    if a.failed then some (s, .error a.storeError, none)
    else
      some ({ s with hot := s.hot.remove vmName, history := s.history.removed self vmName },
        .ok (), none)
  | .saveAllocation allocation =>
    if a.failed then some (s, .error a.storeError, none)
    else if !allocation.isValid then
      some (s, .error ⟨"allocation is structurally invalid"⟩, none)
    else if !allocation.isStorable then
      some (s, .error ⟨"a value is outside the storable range"⟩, none)
    else
      some ({ s with allocations := Table.put Allocation.id allocation s.allocations },
        .ok (), none)
  | .loadRecent => some (s, a.stored (.ok (loadRecent s.allocations historyLimit)), none)
  | .imageLoad profile => some (s, a.stored (.ok (s.images.find? (·.profile = profile))), none)
  | .isWarmQuarantined profile => some (s, s.quarantined.contains profile, none)
  | .quarantineWarm profile =>
    some ({ s with quarantined := s.quarantined.insert profile }, (), none)
  | .machines => some (s, a.worked s.host, none)
  | .probeCached => some (s, s.cachedListing, none)
  | .cacheProbe machines => some ({ s with probe := some (s.clock, machines) }, (), none)
  | .baseFingerprint _ => some (s, a.fingerprint, none)
  | .baseStorageMb _ _ => some (s, a.storageMb, none)
  | .backend => some (s, s.backend, none)
  | .warmAvailability _ => some (s, a.worked a.availability, none)
  | .isUnclaimedImage _ => some (s, a.worked a.flag, none)
  | .hotRetain _ _ => some (s, a.worked (), none)
  | .hotReset _ => some (s, a.worked (), none)
  | .isHotLive _ => some (s, a.flag, none)
  | .hotEvict guest =>
    some (if a.failed then s else s.withoutMachine guest.vmName.value, a.worked (), none)
  | .workerRun _ => some (s, a.count, none)
  | .workerStep _ => if a.step.isReported then some (s, a.step, none) else none
  | .cloneGuest allocation =>
    let freed := s.withoutMachine allocation.vmName.value
    some (if a.failed then freed
      else { freed with
        host := freed.host ++
          [⟨allocation.vmName.value, .running, allocation.size, .owned, none⟩] },
      a.worked (), none)
  | .workerResult _ => some (s, a.worked (), none)
  | .cleanup _ => some (s, a.worked (), none)
  | .ensureRecovered => some (s, a.worked (), none)
  | .lockEntries =>
    if s.lock.isNone then some ({ s with lock := some self }, s.entries, none) else none
  | .unlockEntries => some ({ s with lock := none }, (), none)
  | .isClosing => some (s, s.isClosing, none)
  | .newAllocationId =>
    match a.id with
    | some id =>
      if id ∈ s.history.issued then none
      else
        some ({ s with history := s.history.issue id }, (id, a.label), none)
    | none => none
  | .commit allocation profile _ =>
    some ({ s with
        entries := pruneTerminalHistory (s.entries ++ [⟨allocation, false, true, false⟩])
          historyLimit
        lock := none
        history := s.history.admits allocation fresh },
      (), some (.worker allocation profile))
  | .readEntries => if s.lock.isNone then some (s, s.entries, none) else none
  | .putAllocation allocation =>
    if s.lock.isNone then
      some (s.modifyEntry allocation.id fun e => { e with allocation := allocation },
        (s.allocation? allocation.id).isSome, none)
    else none
  | .isCancelled id =>
    some (s, ((Table.get Entry.id id s.entries).map (·.isCancelled)).getD a.flag, none)
  | .beginCancel id =>
    if s.lock.isNone then some ((s.beginCancel self id).1, (s.beginCancel self id).2, none)
    else none
  | .awaitTerminal id =>
    if s.lock.isNone && (s.allocation? id).all (·.state.isTerminal) then some (s, (), none)
    else none
  | .endTerminalizing id =>
    if s.lock.isNone then
      some ({ s.modifyEntry id fun e => { e with isTerminalizing := false } with
        history := s.history.drive id none }, (), none)
    else none
  | .releaseSupervision id =>
    if s.lock.isNone then
      some ({ s.modifyEntry id fun e => { e with isSupervised := false } with
        history := s.history.drive id none }, (), none)
    else none
  | .loadEntries allocations =>
    if s.lock.isNone then
      some ({ s with
          entries := (loadInto s.entries allocations).1
          history := s.history.recovering self allocations },
        (loadInto s.entries allocations).2, none)
    else none
  | .isTeardownBounded => some (s, s.isClosing, none)
  | .serve =>
    some ({ s with isServing := true, history := s.history.recovered }, (), none)
  | .note n => some ({ s with history := s.history.note self n }, (), none)

/-- The moves of the environment. -/
def envMove (e : Env) (s : State) : Option State :=
  match e with
  | .host machines => some { s with host := machines }
  | .images records promoted =>
    some { s with images := records, quarantined := s.quarantined.filter (· ∉ promoted) }
  | .reload config =>
    if config.isValid then some { s with config := config, history := s.history.reloaded config }
    else none
  | .close =>
    if s.lock.isNone then
      some { s with
        isClosing := true
        entries := s.entries.map fun e =>
          if !e.allocation.state.isTerminal && (e.isSupervised || e.isTerminalizing) then
            { e with isCancelled := true }
          else e }
    else none

/-- Requests are served between recovery and the end of the process. -/
def startTask (k : Kind) (fresh : TaskId) (s : State) : Option State :=
  match k with
  | .worker .. | .recover => none
  | _ => if s.isServing then some { s with history := s.history.begin fresh } else none

/-- The process stops, and a new one starts with what is durable. -/
def reboot (fresh : TaskId) (s : State) : State × Kind :=
  ({ s with
      entries := []
      lock := none
      quarantined := []
      probe := none
      isClosing := false
      isServing := false
      watched := s.config
      history := s.history.restart fresh },
    .recover)

end FlanForge
