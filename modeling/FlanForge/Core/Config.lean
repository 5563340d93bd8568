import FlanForge.Core.Allocation

/-!
# Configuration

The part of the configuration the manager reads: the runtime table, the
profiles and their hot policy, with the checks that refuse a configuration
before the daemon uses it. The profile map is an association list; a key is
looked up by its first entry. Sections the manager never reads (server,
OIDC, logging, paths, transports) are left out, and so are their checks.
-/

namespace FlanForge

inductive NetworkMode
  | default
  | softnet
  deriving DecidableEq, Repr

inductive SimulatorReset
  | none
  | apps
  | erase
  deriving DecidableEq, Repr

/-- A profile's hot policy. -/
structure HotConfig where
  enabled : Bool := false
  lanes : HotLanePolicy := .protectedLane
  maxIdle : UInt8 := 1
  maxLifetimeSeconds : UInt64 := 14400
  maxJobs : UInt32 := 20
  idleTtlSeconds : UInt64 := 900
  resetTimeoutSeconds : UInt64 := 120
  simulatorReset : SimulatorReset := .apps
  deriving DecidableEq

structure Profile where
  repository : RepositoryName
  template : VmName
  runnerLabel : RunnerLabel
  jobName : String
  allowedWorkflows : List String
  allowedEvents : List String
  allowedRefs : List String
  requireProtectedRef : Bool
  network : NetworkMode
  cpuCount : UInt8
  memoryMb : UInt32
  storageMb : UInt64
  bootTimeoutSeconds : UInt64
  idleTimeoutSeconds : UInt64
  jobTimeoutSeconds : UInt64
  cleanupTimeoutSeconds : UInt64
  warmTemplate : Option VmName
  regenerationWorkflow : Option String
  hot : Option HotConfig
  reap : Bool
  deriving DecidableEq

/-- The profile's hot policy when it is switched on. -/
def Profile.enabledHot (profile : Profile) : Option HotConfig := profile.hot.filter (·.enabled)

/-- Which backend runs the guests. -/
inductive RuntimeBackendConfig
  | tart
  | libvirt (minStorageFreeMb : UInt64)
  deriving DecidableEq

structure RuntimeConfig where
  backend : RuntimeBackendConfig
  vmPrefix : VmPrefix
  maxRunningVms : UInt8
  maxHotVms : UInt8
  pollSeconds : UInt64
  hostCpuCount : Option UInt8
  hostMemoryMb : Option UInt32
  hostStorageMb : Option UInt64
  deriving DecidableEq

/-- The storage libvirt keeps free; Tart reserves nothing. -/
def RuntimeConfig.storageReserve (runtime : RuntimeConfig) : UInt64 :=
  match runtime.backend with
  | .tart => 0
  | .libvirt minStorageFreeMb => minStorageFreeMb

structure Config where
  runtime : RuntimeConfig
  profiles : List (ProfileName × Profile)
  deriving DecidableEq

/-- The profile under a name. -/
def Config.profile? (config : Config) (name : ProfileName) : Option Profile :=
  (config.profiles.find? fun entry => entry.1 = name).map (·.2)

/-- The profile's switched-on hot policy, if the name is still configured. -/
def Config.enabledHot (config : Config) (name : ProfileName) : Option HotConfig :=
  (config.profile? name).bind Profile.enabledHot

/-! ## Validation -/

inductive ConfigError
  | noProfiles
  | outOfRange (field : String)
  | unsafeValue (field : String)
  | invalidProfile (profile message : String)
  | duplicateRunnerLabel
  deriving DecidableEq, Repr

/-- A configured number of seconds as a span of the monotonic clock, in
nanoseconds. -/
def spanOfSeconds (n : UInt64) : ℕ := n.toNat * 1000000000

/-- `min ≤ value ≤ max`, for the field of that name. -/
def ensureRange (field : String) (value min max : ℕ) : Except ConfigError Unit :=
  if min ≤ value ∧ value ≤ max then .ok () else .error (.outOfRange field)

/-- Every element passes, or the first failure. -/
def ensureAll {α : Type} (check : α → Except ConfigError Unit) : List α → Except ConfigError Unit
  | [] => .ok ()
  | a :: as => do
    check a
    ensureAll check as

/-- One profile against the host budget: it fits, and on libvirt it fits
beside the storage reserve. -/
def ensureProfileFits (runtime : RuntimeConfig) (hostCpuCount : UInt8) (hostMemoryMb : UInt32)
    (entry : ProfileName × Profile) : Except ConfigError Unit :=
  let profile := entry.2
  if profile.cpuCount > hostCpuCount || profile.memoryMb > hostMemoryMb ||
      runtime.hostStorageMb.any (profile.storageMb > ·) then
    .error (.invalidProfile entry.1.value
      "profile is larger than the host budget and can never be admitted")
  else
    match runtime.backend with
    | .tart => .ok ()
    | .libvirt minStorageFreeMb =>
      if 2 ^ 64 ≤ profile.storageMb.toNat + minStorageFreeMb.toNat ||
          runtime.hostStorageMb.all
            (fun host => host.toNat < profile.storageMb.toNat + minStorageFreeMb.toNat) then
        .error (.invalidProfile entry.1.value
        "profile plus the storage reserve is larger than the host budget and can never be admitted")
      else .ok ()

/-- The budget is whole, bounded, and able to admit every profile. -/
def ensureHostBudgetValid (config : Config) : Except ConfigError Unit :=
  let runtime := config.runtime
  let isLibvirt : Bool := runtime.backend ≠ .tart
  if runtime.hostCpuCount.isNone && runtime.hostMemoryMb.isNone && runtime.hostStorageMb.isNone &&
      !isLibvirt then .ok ()
  else
    match runtime.hostCpuCount, runtime.hostMemoryMb with
    | some cpuCount, some memoryMb => do
      if isLibvirt && runtime.hostStorageMb.isNone then
        .error (.outOfRange "runtime.host_storage_mb")
      ensureRange "runtime.host_cpu_count" cpuCount.toNat 1 255
      ensureRange "runtime.host_memory_mb" memoryMb.toNat 2048 1048576
      match runtime.hostStorageMb with
      | some storageMb => ensureRange "runtime.host_storage_mb" storageMb.toNat 16384 16777216
      | none => .ok ()
      ensureAll (ensureProfileFits runtime cpuCount memoryMb) config.profiles
      match runtime.backend with
      | .tart => .ok ()
      | .libvirt minStorageFreeMb =>
        if minStorageFreeMb ≥ runtime.hostStorageMb.getD 0 then
          .error (.outOfRange "runtime.backend.min_storage_free_mb")
        else .ok ()
    | some _, none => .error (.outOfRange "runtime.host_cpu_count")
    | none, some _ => .error (.outOfRange "runtime.host_memory_mb")
    | none, none => .error (.outOfRange "runtime.host_cpu_count")

/-- The runtime table. -/
def ensureRuntimeValid (config : Config) : Except ConfigError Unit := do
  match config.runtime.backend with
  | .tart => .ok ()
  | .libvirt minStorageFreeMb =>
    ensureRange "runtime.backend.min_storage_free_mb" minStorageFreeMb.toNat 1024 16777216
  match config.runtime.vmPrefix.ensureValid with
  | .ok _ => .ok ()
  | .error _ => .error (.unsafeValue "runtime.vm_prefix")
  ensureRange "runtime.max_running_vms" config.runtime.maxRunningVms.toNat 1 255
  ensureRange "runtime.poll_seconds" config.runtime.pollSeconds.toNat 1 30
  ensureHostBudgetValid config

/-- A warm image and the one workflow allowed to produce it. -/
def warmRules (profile : Profile) (vmPrefix : String) : Except String Unit :=
  if profile.warmTemplate.isSome ≠ profile.regenerationWorkflow.isSome then
    .error "warm_template and regeneration_workflow must be declared together"
  else if profile.warmTemplate.any fun warm =>
      (stripHead vmPrefix.toList warm.value.toList).isSome then
    .error "warm_template cannot use the service-owned VM prefix"
  else if profile.warmTemplate.any fun warm =>
    warm.value.utf8ByteSize > 80 - ".previous".utf8ByteSize then
    .error "warm_template is too long for its reserved suffixes"
  else if profile.warmTemplate = some profile.template then
    .error "warm_template cannot be the profile template"
  else if profile.regenerationWorkflow.any fun workflow =>
      !isSafeWorkflowShape workflow false ||
        !profile.allowedWorkflows.any (isGlobMatch · workflow) then
    .error "regeneration_workflow must be an allowed workflow"
  else .ok ()

/-- One profile. -/
def ensureProfile (vmPrefix : String) (entry : ProfileName × Profile) : Except ConfigError Unit :=
  let profile := entry.2
  let invalid (message : String) : Except ConfigError Unit :=
    .error (.invalidProfile entry.1.value message)
  let inRange (value max : UInt64) : Bool := 5 ≤ value && value ≤ max
  if (stripHead vmPrefix.toList profile.template.value.toList).isSome then
    invalid "template cannot use the service-owned VM prefix"
  else if profile.runnerLabel.value.utf8ByteSize + 1 + 36 > 64 then
    invalid "runner label is too long for a per-allocation suffix"
  else if vmPrefix.utf8ByteSize + entry.1.value.utf8ByteSize + 1 + 20 + 1 + 10 > 80 then
    invalid "generated VM name can exceed its maximum length"
  else if profile.allowedWorkflows.isEmpty || profile.allowedEvents.isEmpty ||
      profile.allowedRefs.isEmpty then
    invalid "authorization allowlists cannot be empty"
  else if !profile.allowedWorkflows.all (isSafeWorkflowShape · true) then
    invalid "workflow allowlist contains an unsafe name"
  else
    match warmRules profile vmPrefix with
    | .error message => invalid message
    | .ok _ =>
      if profile.jobName.isEmpty || profile.jobName.utf8ByteSize > 128 ||
          profile.jobName.toList.any (fun c => c.toNat < 32 || c.toNat = 127) then
        invalid "job name contains an unsafe value"
      else if !profile.allowedEvents.all (fun value =>
          !value.isEmpty && value.utf8ByteSize ≤ 64 &&
            value.toList.all fun c => c.isAlphanum || c == '_') then
        invalid "event allowlist contains an unsafe name"
      else if !profile.allowedRefs.all isSafeGitRefPattern then
        invalid "ref allowlist contains an unsafe value"
      else if !(1 ≤ profile.cpuCount && profile.cpuCount ≤ 64) ||
          !(2048 ≤ profile.memoryMb && profile.memoryMb ≤ 131072) ||
          !(16384 ≤ profile.storageMb && profile.storageMb ≤ 1048576) then
        invalid "CPU, memory, or storage is outside the allowed range"
      else if !inRange profile.bootTimeoutSeconds 1800 then
        invalid "boot timeout is outside the allowed range"
      else if !inRange profile.idleTimeoutSeconds 3600 then
        invalid "idle timeout is outside the allowed range"
      else if !inRange profile.jobTimeoutSeconds 43200 then
        invalid "job timeout is outside the allowed range"
      else if !inRange profile.cleanupTimeoutSeconds 600 then
        invalid "cleanup timeout is outside the allowed range"
      else .ok ()

/-- Every profile in turn, and no runner label twice; `labels` are those of the
profiles before. -/
def ensureProfilesValid (vmPrefix : String) (labels : List RunnerLabel) :
    List (ProfileName × Profile) → Except ConfigError Unit
  | [] => .ok ()
  | entry :: entries => do
    ensureProfile vmPrefix entry
    if labels.contains entry.2.runnerLabel then .error .duplicateRunnerLabel
    else ensureProfilesValid vmPrefix (entry.2.runnerLabel :: labels) entries

/-- The bounds of a switched-on hot policy. -/
def ensureBounds (hot : HotConfig) : Except String Unit :=
  if !(300 ≤ hot.maxLifetimeSeconds && hot.maxLifetimeSeconds ≤ 604800) then
    .error "hot.max_lifetime_seconds is outside the allowed range"
  else if !(30 ≤ hot.idleTtlSeconds && hot.idleTtlSeconds ≤ 86400) then
    .error "hot.idle_ttl_seconds is outside the allowed range"
  else if !(5 ≤ hot.resetTimeoutSeconds && hot.resetTimeoutSeconds ≤ 600) then
    .error "hot.reset_timeout_seconds is outside the allowed range"
  else if !(hot.maxJobs ≤ 1000) then .error "hot.max_jobs is outside the allowed range"
  else .ok ()

/-- The global cap against the slots, and every switched-on policy. -/
def ensureHotValid (config : Config) : Except ConfigError Unit := do
  if config.runtime.maxHotVms > config.runtime.maxRunningVms then
    .error (.outOfRange "runtime.max_hot_vms")
  ensureAll (fun entry : ProfileName × Profile =>
    match entry.2.enabledHot with
    | some hot =>
      match ensureBounds hot with
      | .ok _ => .ok ()
      | .error message => .error (.invalidProfile entry.1.value message)
    | none => .ok ()) config.profiles

/-- The configuration as a whole. -/
def Config.ensureValid (config : Config) : Except ConfigError Unit := do
  if config.profiles.isEmpty then .error .noProfiles
  ensureRuntimeValid config
  ensureProfilesValid config.runtime.vmPrefix.value [] config.profiles
  ensureHotValid config

def Config.isValid (config : Config) : Bool := config.ensureValid.isOk

/-! ## Changes of a profile -/

/-- A change a running pool machine cannot absorb. -/
def isHotDrainingChange (old new : Profile) : Bool :=
  old.cpuCount ≠ new.cpuCount || old.memoryMb ≠ new.memoryMb || old.storageMb ≠ new.storageMb ||
    old.network ≠ new.network || old.template ≠ new.template ||
    old.warmTemplate ≠ new.warmTemplate || old.hot ≠ new.hot

/-! ## Resolving a request beneath its profile -/

/-- The request fields that select beneath profile policy. -/
structure RequestOptions where
  warm : Bool := false
  hot : HotRequest := .untouched
  cpuCount : Option UInt8 := none
  memoryMb : Option UInt32 := none
  deriving DecidableEq

/-- The requested size; `none` when it exceeds the profile. -/
def resolveSize (options : RequestOptions) (profile : Profile) : Option GuestSize :=
  let cpuCount := options.cpuCount.getD profile.cpuCount
  let memoryMb := options.memoryMb.getD profile.memoryMb
  if cpuCount > profile.cpuCount || memoryMb > profile.memoryMb then none
  else some ⟨cpuCount, memoryMb, profile.storageMb⟩

/-- The requested lifetime of a retained machine; `none` outside means that it
exceeds the profile's ceiling. -/
def resolveHotAge (request : HotRequest) (profile : Profile) : Option (Option UInt64) :=
  match request with
  | .retain (some ageSeconds) =>
    match profile.enabledHot with
    | none => some none
    | some hot => if ageSeconds > hot.maxLifetimeSeconds then none else some (some ageSeconds)
  | _ => some none

/-- The mode, from the verified workflow file and never from the body alone. -/
def resolveMode (options : RequestOptions) (profile : Profile) (workflowFile : String) :
    AllocationMode :=
  if profile.warmTemplate.isSome && profile.regenerationWorkflow.any (· = workflowFile) then
    .regenerate
  else if options.warm || options.hot.isRetaining then .warm
  else .cold

end FlanForge
