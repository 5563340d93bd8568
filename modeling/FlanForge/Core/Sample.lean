import FlanForge.Core.Image

/-!
# A small installation

The concrete runs and inputs of this development happen in one small
installation: one profile with a hot policy, two slots, a pool of one
machine. A variant of the profile declares a warm image.
-/

namespace FlanForge

def sampleProfile : Profile where
  repository := ⟨"o/r", by decide⟩
  template := ⟨"base", by decide⟩
  runnerLabel := ⟨"mac", by decide⟩
  jobName := "build"
  allowedWorkflows := ["ci.yml"]
  allowedEvents := ["push"]
  allowedRefs := ["refs/heads/main"]
  requireProtectedRef := false
  network := .default
  cpuCount := 2
  memoryMb := 4096
  storageMb := 16384
  bootTimeoutSeconds := 300
  idleTimeoutSeconds := 300
  jobTimeoutSeconds := 300
  cleanupTimeoutSeconds := 300
  warmTemplate := none
  regenerationWorkflow := none
  hot := some { enabled := true, lanes := .any, maxJobs := 2 }
  reap := false

def sampleConfig : Config where
  runtime :=
    { backend := .tart
      vmPrefix := ⟨"ff-", by decide⟩
      maxRunningVms := 2
      maxHotVms := 1
      pollSeconds := 5
      hostCpuCount := some 8
      hostMemoryMb := some 16384
      hostStorageMb := none }
  profiles := [(⟨"p", by decide⟩, sampleProfile)]

def firstId : AllocationId := ⟨"00000000-0000-0000-0000-000000000001", by decide⟩
def secondId : AllocationId := ⟨"00000000-0000-0000-0000-000000000002", by decide⟩
def thirdId : AllocationId := ⟨"00000000-0000-0000-0000-000000000003", by decide⟩

/-- The machine the run 7 leaves in the pool. -/
def sampleMachine : VmName := ⟨"ff-p-7-1", by decide⟩

def sampleProfileName : ProfileName := ⟨"p", by decide⟩

/-- The request of run 7. -/
def sampleRequest : AllocationRequest := ⟨sampleProfileName, ⟨"o/r", by decide⟩, 7, 1⟩

/-- The allocation of run 7, as admission makes it. -/
def sampleAllocation (mode : AllocationMode) : Allocation :=
  .new firstId 1 sampleRequest sampleMachine ⟨"mac", by decide⟩ mode ⟨2, 4096, 16384⟩

def sampleWarm : VmName := ⟨"warm", by decide⟩

/-- The profile with a warm image. -/
def warmProfile : Profile :=
  { sampleProfile with
    warmTemplate := some sampleWarm
    regenerationWorkflow := some "ci.yml"
    hot := none
    reap := true }

def warmConfig : Config := { sampleConfig with profiles := [(sampleProfileName, warmProfile)] }

/-- A regeneration at the end of its job. -/
def sampleRegeneration (id : AllocationId) : Allocation :=
  { sampleAllocation .regenerate with
    id := id
    vmCreated := true
    source := some ⟨⟨"base", by decide⟩, .template, some ⟨"aa"⟩, none⟩ }

end FlanForge
