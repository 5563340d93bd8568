import FlanForge.Manager.Records

/-!
# The hot pool

The programs that move pool machines: eviction and its retry mark, the
bounds pass, the drain, the release at the end of a job with its recycle
gate, the readiness check of a claim, the yield under capacity pressure,
and the reload and operator paths. Each is the source's function of the
same name, one operation per awaited call.
-/

namespace FlanForge

open Prog (perform forEach)

/-! ## Eviction -/

/-- Mark a record that has to go but cannot move yet. -/
def ensureHotEvictionPending (guest : HotGuest) (reason : HotDrainReason) : Manager Unit :=
  if guest.drainReason = some reason then pure ()
  else do
    let _ ← perform (Op.hotSave (.copy guest) { guest with drainReason := some reason })
    pure ()

/-- Destroy one pool machine and retire its record. -/
def ensureHotEvicted (guest : HotGuest) (reason : HotDrainReason) : Manager Unit := do
  match ← perform (Op.hotEvict guest) with
  | .error _ => ensureHotEvictionPending guest reason
  | .ok _ =>
    let _ ← perform (Op.hotRemove guest.vmName)
    pure ()

/-- The reason a record was stamped with while an operation ran over it. -/
def hotDrainPending (vmName : VmName) : Manager (Option HotDrainReason) := do
  match ← perform (Op.hotLoad vmName) with
  | .ok (some guest) => pure guest.drainReason
  | _ => pure none

/-- Retire the record of a machine the host no longer reports. -/
def ensureHotForgotten (guest : HotGuest) : Manager Unit := do
  let _ ← perform (Op.hotRemove guest.vmName)
  pure ()

/-- Destroy a machine this task has decided to destroy. -/
def evictChosen (guest : HotGuest) (reason : HotDrainReason) : Manager Unit := do
  ensureHotEvicted guest reason
  perform (Op.note (.settled guest.vmName))

/-- Decide to destroy a machine, and destroy it. -/
def chooseAndEvict (guest : HotGuest) (reason : HotDrainReason) : Manager Unit := do
  perform (Op.note (.chose guest.vmName))
  evictChosen guest reason

/-! ## Draining -/

/-- Stop a machine taking new claims. A claimed machine keeps its job; an
unclaimed one is destroyed now. -/
def ensureHotDrained (guest : HotGuest) (reason : HotDrainReason) : Manager Unit :=
  if guest.state = .draining then pure ()
  else do
    let now ← perform Op.unixTime
    match guest.ensureState .draining now with
    | .error _ => ensureHotEvictionPending guest reason
    | .ok moved =>
      let draining := { moved with drainReason := some reason }
      if draining.claimedBy.isNone then
        perform (Op.note (.chose guest.vmName))
        match ← perform (Op.hotSave (.copy guest) draining) with
        | .error _ => perform (Op.note (.settled guest.vmName))
        | .ok _ => evictChosen draining reason
      else
        let _ ← perform (Op.hotSave (.copy guest) draining)
        pure ()

/-! ## Bounds -/

/-- The generation the profile currently promotes. -/
def promotedGeneration (name : ProfileName) : Manager (Option UInt64) := do
  match ← perform (Op.imageLoad name) with
  | .ok (some record) => pure (if record.state = .promoted then some record.generation else none)
  | _ => pure none

/-- The machines live entries claim. -/
def hotClaimedNames : Manager (List String) := do
  let entries ← perform Op.readEntries
  pure (liveHotNames entries)

/-- Destroy the draining machines nobody is using. -/
def ensureHotDrainsFinished (guests : List HotGuest) : Manager Unit := do
  let claimed ← hotClaimedNames
  forEach (guests.filter fun guest =>
      guest.state = .draining && !claimed.contains guest.vmName.value) fun guest =>
    chooseAndEvict guest (guest.drainReason.getD .operatorRequest)

/-- Retry every eviction that failed. -/
def ensureHotEvictionsRetried (guests : List HotGuest) : Manager Unit := do
  let claimed ← hotClaimedNames
  forEach (guests.filter fun guest =>
      guest.state ≠ .draining && guest.claimedBy.isNone && !claimed.contains guest.vmName.value &&
        guest.drainReason.isSome) fun guest =>
    chooseAndEvict guest (guest.drainReason.getD .operatorRequest)

/-- Drain every machine of the pool: the global kill switch. -/
def ensureHotPoolDrained (guests : List HotGuest) : Manager Unit := do
  forEach (guests.filter fun guest => !guest.state.isTerminal) fun guest =>
    ensureHotDrained guest .configReloaded
  ensureHotDrainsFinished guests
  ensureHotEvictionsRetried guests

/-- By profile, the protected lane first. -/
def isLaneBefore (a b : ProfileName × HotLane) : Prop :=
  a.1.value < b.1.value ∨ a.1 = b.1 ∧ (a.2 = .protectedLane ∨ b.2 = .unprotectedLane)

instance : DecidableRel isLaneBefore := fun _ _ => inferInstanceAs (Decidable (_ ∨ _))

/-- The lanes that hold an idle machine, each once and in order. -/
def idleLanes (guests : List HotGuest) : List (ProfileName × HotLane) :=
  (((guests.filter (·.state = .idle)).map fun guest => (guest.profile, guest.lane)).dedup
    ).insertionSort isLaneBefore

/-- Retire the idle machines a lane holds beyond `max_idle`. -/
def ensureHotSurplusRetired (guests : List HotGuest) (config : Config) : Manager Unit :=
  forEach (idleLanes guests) fun (name, lane) =>
    match config.enabledHot name with
    | none => pure ()
    | some hot =>
      forEach (surplusIdle guests name lane hot) fun guest => ensureHotDrained guest .maxIdle

/-- Every bound of one machine. -/
def ensureGuestBounded (config : Config) (now : UInt64) (guest : HotGuest) : Manager Unit :=
  if guest.state.isTerminal then pure ()
  else
    match config.profile? guest.profile, config.enabledHot guest.profile with
    | some profile, some hot => do
      let fingerprint ← perform (Op.baseFingerprint profile.template)
      let warmGeneration ← promotedGeneration guest.profile
      match drainReason guest ⟨hot, fingerprint, warmGeneration, now⟩ with
      | some reason => ensureHotDrained guest reason
      | none => pure ()
    | _, _ => ensureHotDrained guest .configReloaded

/-- Apply every lifecycle bound to the whole pool. -/
def ensureHotBounded : Manager Unit := do
  let config ← perform Op.currentConfig
  match ← perform Op.hotLoadAll with
  | .error _ => pure ()
  | .ok guests =>
    let now ← perform Op.unixTime
    if config.runtime.maxHotVms = 0 then ensureHotPoolDrained guests
    else
      forEach guests (ensureGuestBounded config now)
      ensureHotSurplusRetired guests config
      ensureHotDrainsFinished guests
      ensureHotEvictionsRetried guests

/-! ## Release -/

/-- A freshly retained guest was reset when the backend took it over. -/
def gateReset (guest : HotGuest) (isAlreadyReset : Bool) : Manager (Except WorkerError Unit) :=
  if isAlreadyReset then pure (.ok ()) else perform (Op.hotReset guest)

/-- The gate every machine passes on its way into the pool: reset, then join
or be destroyed. -/
def ensureHotGated (guest : HotGuest) (profile : Profile) (isAlreadyReset : Bool) : Manager Unit :=
  match profile.enabledHot with
  | none => chooseAndEvict guest .configReloaded
  | some _ => do
    match ← gateReset guest isAlreadyReset with
    | .error _ => chooseAndEvict guest .resetFailed
    | .ok _ =>
      match ← hotDrainPending guest.vmName with
      | some reason => chooseAndEvict guest reason
      | none =>
        let now ← perform Op.unixTime
        match guest.ensureState .idle now with
        | .error _ => chooseAndEvict guest .resetFailed
        | .ok idle =>
          match ← perform (Op.hotSave (.copy guest) idle) with
          | .error _ => chooseAndEvict idle .resetFailed
          | .ok _ => ensureHotBounded

/-- Release the machine this allocation reused back into the pool. -/
def ensureHotRecycled (allocation : Allocation) (vmName : VmName) (profile : Profile) :
    Manager Unit := do
  match ← perform (Op.hotLoad vmName) with
  | .error _ => pure ()
  | .ok none => pure ()
  | .ok (some guest) =>
    if guest.claimedBy ≠ some allocation.id then pure ()
    else
      let now ← perform Op.unixTime
      match guest.ensureReleased now with
      | .error _ => ensureHotEvicted guest .resetFailed
      | .ok released =>
        match ← perform (Op.hotSave (.copy guest) released) with
        | .error _ => ensureHotEvicted released .resetFailed
        | .ok _ => ensureHotGated released profile false

/-- Take over the guest a hot-flagged allocation cloned. -/
def ensureHotRetained (allocation : Allocation) (profile : Profile) (lane : HotLane) :
    Manager Unit :=
  if !allocation.vmCreated then pure ()
  else
    match profile.enabledHot with
    | none => pure ()
    | some _ => do
      match ← perform (Op.hotLoad allocation.vmName) with
      | .ok (some _) => pure ()
      | _ =>
        let now ← perform Op.unixTime
        match retainedRecord allocation lane now with
        | none => pure ()
        | some guest =>
          match ← perform (Op.hotSave (.fresh allocation.id) guest) with
          | .error _ => pure ()
          | .ok _ =>
            match ← perform (Op.hotRetain guest allocation) with
            | .error _ =>
              match ← perform (Op.hotRemove guest.vmName) with
              | .error _ => ensureHotEvictionPending guest .resetFailed
              | .ok _ => pure ()
            | .ok _ => ensureHotGated guest profile true

/-- Hand a machine to the pool once its job has ended, or let teardown
destroy it. -/
def ensureHotReleased (allocation : Allocation) (profile : Profile) : Manager Unit :=
  match allocation.origin.hotVmName with
  | some vmName => ensureHotRecycled allocation vmName profile
  | none =>
    match allocation.hotLane with
    | some lane => ensureHotRetained allocation profile lane
    | none => pure ()

/-! ## Readiness of a claim -/

/-- Check that the machine this allocation claimed is still there. -/
def ensureHotReady (allocation : Allocation) : Manager (Except WorkerError Unit) :=
  match allocation.origin.hotVmName with
  | none => pure (.ok ())
  | some vmName => do
    match ← perform (Op.hotLoad vmName) with
    | .ok none =>
      pure (.error (.new "the hot guest record this allocation claimed is gone"))
    | .error e => pure (.error (.new e.message))
    | .ok (some guest) =>
      match ← transition allocation.id .preparing with
      | .error e => pure (.error (.new e.message))
      | .ok _ =>
        let isLive ← perform (Op.isHotLive guest)
        if !isLive then
          ensureHotEvicted guest .machineGone
          pure (.error (.new "the claimed hot guest is no longer live"))
        else pure (.ok ())

/-! ## Yielding to capacity pressure -/

/-- List the host, reusing a listing younger than one poll interval. -/
def hostMachines : Manager (Except WorkerError (List HostMachine)) := do
  match ← perform Op.probeCached with
  | some machines => pure (.ok machines)
  | none =>
    match ← perform Op.machines with
    | .error e => pure (.error e)
    | .ok machines =>
      perform (Op.cacheProbe machines)
      pure (.ok machines)

/-- Idle longest first; the name breaks ties. -/
def isLongerIdle (left right : HotGuest) : Bool :=
  !(right.updatedAtUnix < left.updatedAtUnix ||
    (right.updatedAtUnix = left.updatedAtUnix && right.vmName.value < left.vmName.value))

/-- The machines that may give up their slot: idle, listed, unclaimed, and not
under a name an active allocation still has. -/
def yieldCandidates (entries : List Entry) (machines : List HostMachine) (hot : List HotGuest) :
    List HotGuest :=
  let claimed := liveHotNames entries
  let names := hotNames hot machines
  let busy := (activeAllocations entries).map (·.vmName.value)
  hot.filter fun guest =>
    guest.state = .idle && names.contains guest.vmName.value &&
      !claimed.contains guest.vmName.value && !busy.contains guest.vmName.value

/-- The longest idle machine, when and only when admission would refuse
without freeing one. -/
def yieldableHot (config : Config) (requested : GuestSize) : Manager (Option HotGuest) := do
  match ← hostMachines with
  | .error _ => pure none
  | .ok machines =>
    match ← perform Op.hotLoadAll with
    | .error _ => pure none
    | .ok hot =>
      let entries ← perform Op.readEntries
      match ensureCapacity entries config requested machines hot with
      | .ok _ => pure none
      | .error _ => pure (pickBy isLongerIdle (yieldCandidates entries machines hot))

/-- At most `n` evictions under capacity pressure. -/
def yieldLoop (config : Config) (requested : GuestSize) : ℕ → Manager Unit
  | 0 => pure ()
  | n + 1 => do
    match ← yieldableHot config requested with
    | none => pure ()
    | some guest =>
      chooseAndEvict guest .capacityPressure
      yieldLoop config requested n

/-- Free the slots idle machines hold, while the request cannot be admitted
otherwise. -/
def ensureHotYielded (config : Config) (requested : GuestSize) : Manager Unit := do
  let held ← perform Op.hotLoadAll
  yieldLoop config requested
    (match held with
      | .ok hot => hot.length
      | .error _ => 0)

/-! ## Reload, evict requests, operators -/

/-- Drain every machine of every profile a reload invalidated. -/
def ensureHotReloaded (changed : List ProfileName) : Manager Unit :=
  if changed.isEmpty then pure ()
  else do
    match ← perform Op.hotLoadAll with
    | .error _ => pure ()
    | .ok guests =>
      forEach (guests.filter fun guest =>
          guest.state.isHoldingMachine && changed.contains guest.profile) fun guest =>
        ensureHotDrained guest .configReloaded

/-- One round of the reload watch. -/
def hotReload : Manager Unit := do
  let (previous, next) ← perform Op.configChange
  ensureHotReloaded (drainedProfiles previous next)
  ensureHotBounded

/-- Tear down every machine this profile has retained, because a run asked. -/
def ensureHotEvictedFor (profile : ProfileName) (reason : HotDrainReason) : Manager Unit := do
  match ← perform Op.hotLoadAll with
  | .error _ => pure ()
  | .ok guests =>
    forEach (guests.filter fun guest =>
        guest.state.isHoldingMachine && guest.profile = profile) fun guest =>
      ensureHotDrained guest reason

/-- Drain one machine an operator named. -/
def hotDrain (vmName : VmName) : Manager (Except ManagerError Unit) := do
  match ← perform (Op.hotLoad vmName) with
  | .error e => pure (.error (.store e))
  | .ok none => pure (.error (.unknownHotGuest vmName.value))
  | .ok (some guest) =>
    ensureHotDrained guest .operatorRequest
    pure (.ok ())

/-- Destroy one machine an operator named, claim or no claim. -/
def hotEvict (vmName : VmName) : Manager (Except ManagerError Unit) := do
  match ← perform (Op.hotLoad vmName) with
  | .error e => pure (.error (.store e))
  | .ok none => pure (.error (.unknownHotGuest vmName.value))
  | .ok (some guest) =>
    perform (Op.note (.operatorEvict vmName))
    ensureHotEvicted guest .operatorRequest
    pure (.ok ())

end FlanForge
