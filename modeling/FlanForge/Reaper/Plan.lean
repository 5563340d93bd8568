import FlanForge.Core.Sample
import FlanForge.Manager.Admission

/-!
# What a sweep may delete

The planner of the reaper turns one snapshot of configuration, host,
allocations and records into candidates for deletion. A name that something
alive may still use is protected and never a candidate; of the others, a
name under the service prefix is an orphan of the daemon, and any other name
needs an image record or a profile that claims it. `Collectable` is what the
planner is meant to establish of a candidate.

The protected set holds the VM name of every unfinished allocation, but not
the pool machine an allocation was placed on: that machine is protected
through its hot record, and only as long as the record is there
(`planSweep_takes_claimed`). What a sweep takes is collectable exactly when
that machine is protected all the same, too young, or nobody's to delete.
-/

namespace FlanForge

/-! ## The planner -/

/-- Nothing younger than this is swept. -/
def minAgeSeconds : UInt64 := 3600

/-- An image needs a longer floor. -/
def imageAgeSeconds : UInt64 := 86400

/-- What permits a deletion. -/
inductive ReapAuthorization
  | record (id : AllocationId)
  | staging (profile : ProfileName)
  | image (profile : ProfileName)
  /-- The configured prefix alone: an orphan of the daemon's own making. -/
  | vmPrefix
  deriving DecidableEq

structure ReapCandidate where
  name : String
  state : MachineState
  authorization : ReapAuthorization
  ageSeconds : UInt64
  deriving DecidableEq

structure ReapInputs where
  config : Config
  machines : List HostMachine
  allocations : List Allocation
  images : List WarmImageRecord
  hot : List HotGuest

/-- The name begins with the service prefix. -/
def isPrefixed (config : Config) (name : String) : Bool :=
  (stripHead config.runtime.vmPrefix.value.toList name.toList).isSome

/-- Every image name live configuration claims. The staging name is not among
them: an abandoned candidate is what the sweep collects. -/
def reservedImageNames (config : Config) : List String :=
  config.profiles.flatMap fun (_, profile) =>
    profile.template.value ::
      profile.warmTemplate.toList.flatMap fun warm =>
        warm.value :: (suffixed warm previousSuffix).toList.map (·.value)

/-- The image names a regeneration in flight owns. -/
def regeneratingNames (config : Config) (allocation : Allocation) : List String :=
  if allocation.mode = .regenerate then
    ((config.profile? allocation.request.profile).bind (·.warmTemplate)).toList.flatMap fun warm =>
      (derivedNames warm).map (·.value)
  else []

/-- Names no sweep may consider. -/
def protectedNames (inputs : ReapInputs) : List String :=
  (inputs.allocations.filter fun allocation => !allocation.state.isTerminal).flatMap
      (fun allocation => allocation.vmName.value :: regeneratingNames inputs.config allocation) ++
    (inputs.hot.filter (·.state.isHoldingMachine)).map (·.vmName.value) ++
    reservedImageNames inputs.config

/-- The terminal record that proves the daemon created the clone, or else the
prefix. -/
def cloneAuthorization (inputs : ReapInputs) (name : String) : ReapAuthorization :=
  match inputs.allocations.find? (isTerminalGuest name) with
  | some allocation => .record allocation.id
  | none => .vmPrefix

/-- A profile that opted out keeps its images; a profile that is gone cannot. -/
def isReapableProfile (config : Config) (profile : ProfileName) : Bool :=
  (config.profile? profile).all (·.reap)

/-- Outside the prefix the daemon owns only the names its own records claim. -/
def imageAuthorization (inputs : ReapInputs) (name : String) (ageSeconds : UInt64) :
    Option ReapAuthorization :=
  match inputs.config.profiles.find? fun (_, profile) =>
      profile.reap && profile.warmTemplate.any fun warm =>
        (suffixed warm stagingSuffix).any (·.value = name) with
  | some (profileName, _) => some (.staging profileName)
  | none =>
    if ageSeconds < imageAgeSeconds then none
    else
      ((inputs.images.filter fun record => isReapableProfile inputs.config record.profile).find?
        fun record => ((derivedNames record.warmTemplate).map (·.value)).contains name).map
          fun record => .image record.profile

/-- One machine, with what permits its deletion; a machine without an age is
never a candidate. -/
def candidate (inputs : ReapInputs) (machine : HostMachine) : Option ReapCandidate :=
  machine.ageSeconds.bind fun ageSeconds =>
    if ageSeconds < minAgeSeconds then none
    else
      (if isPrefixed inputs.config machine.name then some (cloneAuthorization inputs machine.name)
        else imageAuthorization inputs machine.name ageSeconds).map
          fun authorization => ⟨machine.name, machine.state, authorization, ageSeconds⟩

/-- Turn one snapshot into candidates. Deletes nothing. -/
def planSweep (inputs : ReapInputs) : List ReapCandidate :=
  (inputs.machines.filter fun machine => !(protectedNames inputs).contains machine.name).filterMap
    (candidate inputs)

/-! ## What a candidate has passed -/

variable {inputs : ReapInputs} {found : ReapCandidate} {name : String} {ageSeconds : UInt64}
variable {authorization : ReapAuthorization}

/-- The record or the profile that lets the sweep take a name outside the
prefix. -/
def IsClaimedImage (inputs : ReapInputs) (found : ReapCandidate) : Prop :=
  (∃ entry ∈ inputs.config.profiles, entry.2.reap = true ∧ ∃ warm staging,
      entry.2.warmTemplate = some warm ∧ warm.withSuffix stagingSuffix = .ok staging ∧
        found.name = staging.value) ∨
    ∃ record ∈ inputs.images, (∃ name ∈ derivedNames record.warmTemplate, found.name = name.value) ∧
      imageAgeSeconds ≤ found.ageSeconds

theorem mem_suffixed {warm name : VmName} {suffix : String} :
    suffixed warm suffix = some name ↔ warm.withSuffix suffix = .ok name := by
  unfold suffixed
  cases warm.withSuffix suffix <;> simp [Except.toOption]

/-- What permits the deletion of an image: a profile whose staging name it is,
or a record of a profile that did not opt out. -/
theorem imageAuthorization_cases
    (h : imageAuthorization inputs name ageSeconds = some authorization) :
    (∃ entry ∈ inputs.config.profiles, entry.2.reap = true ∧ ∃ warm staging,
        entry.2.warmTemplate = some warm ∧ warm.withSuffix stagingSuffix = .ok staging ∧
          name = staging.value) ∨
      ∃ record ∈ inputs.images, isReapableProfile inputs.config record.profile = true ∧
        (∃ derived ∈ derivedNames record.warmTemplate, name = derived.value) ∧
        imageAgeSeconds ≤ ageSeconds := by
  unfold imageAuthorization at h
  split at h
  · rename_i profileName profile hfind
    have hmem := List.mem_of_find?_eq_some hfind
    have hmatch := List.find?_some hfind
    simp only [Bool.and_eq_true, Option.any_eq_true, decide_eq_true_eq] at hmatch
    obtain ⟨hreap, warm, hwarm, staging, hstaging, hname⟩ := hmatch
    exact .inl ⟨_, hmem, hreap, warm, staging, hwarm, mem_suffixed.mp hstaging, hname.symm⟩
  · split at h
    · cases h
    · rename_i hage
      simp only [Option.map_eq_some_iff] at h
      obtain ⟨record, hfind, -⟩ := h
      obtain ⟨hmem, hreapable⟩ := List.mem_filter.mp (List.mem_of_find?_eq_some hfind)
      have hnames := List.find?_some hfind
      simp only [List.contains_eq_mem, List.mem_map, decide_eq_true_eq] at hnames
      obtain ⟨derived, hderived, hvalue⟩ := hnames
      exact .inr ⟨record, hmem, hreapable, ⟨derived, hderived, hvalue.symm⟩, UInt64.not_lt.mp hage⟩

/-- **An image outside the prefix is claimed by a profile or a record.** -/
theorem isClaimedImage_of_authorization
    (h : imageAuthorization inputs found.name found.ageSeconds = some authorization) :
    IsClaimedImage inputs found := by
  rcases imageAuthorization_cases h with hprofile | ⟨record, hmem, -, hnames, hage⟩
  · exact .inl hprofile
  · exact .inr ⟨record, hmem, hnames, hage⟩

/-- A machine the sweep may take unless its name is protected: it is old enough,
and it has the prefix or is authorized as an image. -/
def IsReapable (inputs : ReapInputs) (machine : HostMachine) (ageSeconds : UInt64) : Prop :=
  machine.ageSeconds = some ageSeconds ∧ minAgeSeconds ≤ ageSeconds ∧
    (isPrefixed inputs.config machine.name = true ∨
      (imageAuthorization inputs machine.name ageSeconds).isSome = true)

/-- **The candidates are the unprotected machines that are reapable.** -/
theorem mem_planSweep_iff :
    (∃ found ∈ planSweep inputs, found.name = name ∧ found.ageSeconds = ageSeconds) ↔
      name ∉ protectedNames inputs ∧
        ∃ machine ∈ inputs.machines, machine.name = name ∧
          IsReapable inputs machine ageSeconds := by
  simp only [planSweep, List.mem_filterMap, List.mem_filter, Bool.not_eq_true',
    List.contains_eq_mem, decide_eq_false_iff_not, candidate, Option.bind_eq_some_iff]
  constructor
  · rintro ⟨found, ⟨machine, ⟨hmachine, hfree⟩, age, hage, hcandidate⟩, rfl, rfl⟩
    split at hcandidate
    · cases hcandidate
    · rename_i hold
      obtain ⟨authorization, hauthorization, rfl⟩ := Option.map_eq_some_iff.mp hcandidate
      refine ⟨hfree, machine, hmachine, rfl, hage, UInt64.not_lt.mp hold, ?_⟩
      split at hauthorization
      · exact .inl ‹_›
      · exact .inr (Option.isSome_of_mem hauthorization)
  · rintro ⟨hfree, machine, hmachine, rfl, hage, hold, hauthorized⟩
    obtain ⟨authorization, hauthorization⟩ : ∃ authorization,
        (if isPrefixed inputs.config machine.name then some (cloneAuthorization inputs machine.name)
          else imageAuthorization inputs machine.name ageSeconds) = some authorization := by
      split
      · exact ⟨_, rfl⟩
      · exact Option.isSome_iff_exists.mp (hauthorized.resolve_left ‹_›)
    refine ⟨⟨machine.name, machine.state, authorization, ageSeconds⟩,
      ⟨machine, ⟨hmachine, hfree⟩, ageSeconds, hage, ?_⟩, rfl, rfl⟩
    rw [if_neg (UInt64.not_lt.mpr hold), hauthorization, Option.map_some]

/-- A candidate is unprotected and old enough, and outside the prefix somebody
claims it. -/
theorem mem_planSweep (h : found ∈ planSweep inputs) :
    found.name ∉ protectedNames inputs ∧ minAgeSeconds ≤ found.ageSeconds ∧
      (isPrefixed inputs.config found.name = false → IsClaimedImage inputs found) := by
  obtain ⟨hfree, machine, -, hname, -, hold, hauthorized⟩ :=
    mem_planSweep_iff.mp ⟨found, h, rfl, rfl⟩
  refine ⟨hfree, hold, fun hforeign => ?_⟩
  rw [hname, hforeign] at hauthorized
  obtain ⟨authorization, hauthorization⟩ :=
    Option.isSome_iff_exists.mp (hauthorized.resolve_left Bool.false_ne_true)
  exact isClaimedImage_of_authorization hauthorization

/-! ## Names in use -/

/-- **What the planner is to establish of a candidate**: nothing alive uses the
name, and somebody may delete it. -/
structure Collectable (inputs : ReapInputs) (found : ReapCandidate) : Prop where
  /-- No unfinished allocation runs on it, under its own name or on a pool
  machine. -/
  unbound : ∀ allocation ∈ inputs.allocations, allocation.state.isTerminal = false →
    found.name ∉ heldNames allocation
  unpooled : ∀ guest ∈ inputs.hot, guest.state.isHoldingMachine = true →
    found.name ≠ guest.vmName.value
  unreserved : ∀ entry ∈ inputs.config.profiles, found.name ≠ entry.2.template.value ∧
    ∀ warm, entry.2.warmTemplate = some warm → found.name ≠ warm.value ∧
      ∀ previous, warm.withSuffix previousSuffix = .ok previous → found.name ≠ previous.value
  unregenerated : ∀ allocation ∈ inputs.allocations, allocation.state.isTerminal = false →
    allocation.mode = .regenerate → ∀ profile warm,
      inputs.config.profile? allocation.request.profile = some profile →
      profile.warmTemplate = some warm → ∀ name ∈ derivedNames warm, found.name ≠ name.value
  old : minAgeSeconds ≤ found.ageSeconds
  claimed : isPrefixed inputs.config found.name = false → IsClaimedImage inputs found

/-- Something alive uses the name: an unfinished allocation as its own or for its
regeneration, a hot record that holds a machine, or live configuration. -/
def IsProtected (inputs : ReapInputs) (name : String) : Prop :=
  (∃ allocation ∈ inputs.allocations, allocation.state.isTerminal = false ∧
      (name = allocation.vmName.value ∨ name ∈ regeneratingNames inputs.config allocation)) ∨
    (∃ guest ∈ inputs.hot, guest.state.isHoldingMachine = true ∧ guest.vmName.value = name) ∨
    name ∈ reservedImageNames inputs.config

theorem mem_protectedNames :
    name ∈ protectedNames inputs ↔ IsProtected inputs name := by
  simp [protectedNames, IsProtected, and_assoc]

/-- Every reapable machine of the listing that an unfinished allocation was
placed on is protected under some other name it goes by. -/
def IsPoolRecorded (inputs : ReapInputs) : Prop :=
  ∀ allocation ∈ inputs.allocations, allocation.state.isTerminal = false →
    ∀ pool, allocation.origin.hotVmName = some pool → ∀ machine ∈ inputs.machines,
      machine.name = pool.value → ∀ ageSeconds, IsReapable inputs machine ageSeconds →
        IsProtected inputs pool.value

/-- The template of a profile is protected, and so are its warm image and the
generation before it. -/
theorem mem_protected_of_profile {entry : ProfileName × Profile}
    (hentry : entry ∈ inputs.config.profiles)
    (hname : name = entry.2.template.value ∨ ∃ warm, entry.2.warmTemplate = some warm ∧
      (name = warm.value ∨
        ∃ previous, suffixed warm previousSuffix = some previous ∧ name = previous.value)) :
    name ∈ protectedNames inputs := by
  refine mem_protectedNames.mpr (.inr (.inr (List.mem_flatMap.mpr ⟨entry, hentry, ?_⟩)))
  simpa [eq_comm] using hname

/-- A candidate's name is none of the protected ones. -/
theorem Collectable.of_unprotected (h : found ∈ planSweep inputs)
    (hunbound : ∀ allocation ∈ inputs.allocations, allocation.state.isTerminal = false →
      ∀ pool, allocation.origin.hotVmName = some pool → found.name ≠ pool.value) :
    Collectable inputs found := by
  obtain ⟨hfree, hage, hclaimed⟩ := mem_planSweep h
  have hprotected : ¬ IsProtected inputs found.name := mt mem_protectedNames.mpr hfree
  refine ⟨?_, ?_, ?_, ?_, hage, hclaimed⟩
  · intro allocation hmem hlive hheld
    simp only [heldNames, List.mem_cons, Option.mem_toList, Option.map_eq_some_iff] at hheld
    rcases hheld with hown | ⟨pool, horigin, hpool⟩
    · exact hprotected (.inl ⟨allocation, hmem, hlive, .inl hown⟩)
    · exact hunbound allocation hmem hlive pool horigin hpool.symm
  · intro guest hguest hholding hname
    exact hprotected (.inr (.inl ⟨guest, hguest, hholding, hname.symm⟩))
  · intro entry hentry
    refine ⟨fun hname => hfree (mem_protected_of_profile hentry (.inl hname)),
      fun warm hwarm => ⟨fun hname => ?_, ?_⟩⟩
    · exact hfree (mem_protected_of_profile hentry (.inr ⟨warm, hwarm, .inl hname⟩))
    · intro previous hprevious hname
      exact hfree (mem_protected_of_profile hentry
        (.inr ⟨warm, hwarm, .inr ⟨previous, mem_suffixed.mpr hprevious, hname⟩⟩))
  · intro allocation hmem hlive hmode profile warm hprofile hwarm name hname hfound
    refine hprotected (.inl ⟨allocation, hmem, hlive, .inr ?_⟩)
    simp only [regeneratingNames, hmode, if_true, hprofile, Option.bind_some, hwarm,
      Option.toList_some, List.flatMap_cons, List.flatMap_nil, List.append_nil, List.mem_map]
    exact ⟨name, hname, hfound.symm⟩

/-- **The sweep takes nothing that is in use exactly when every reapable machine
a job was placed on is protected**: by its hot record, as a rule. -/
theorem planSweep_collectable (inputs : ReapInputs) :
    (∀ found ∈ planSweep inputs, Collectable inputs found) ↔ IsPoolRecorded inputs := by
  constructor
  · intro hall allocation hmem hlive pool horigin machine hmachine hname age hreapable
    by_contra hprotected
    have hfree : pool.value ∉ protectedNames inputs := mt mem_protectedNames.mp hprotected
    obtain ⟨found, hfound, hvalue, -⟩ :=
      mem_planSweep_iff.mpr ⟨hfree, machine, hmachine, hname, hreapable⟩
    refine (hall found hfound).unbound allocation hmem hlive ?_
    simp [heldNames, horigin, hvalue]
  · intro hpool found h
    obtain ⟨hfree, machine, hmachine, hname, hreapable⟩ :=
      mem_planSweep_iff.mp ⟨found, h, rfl, rfl⟩
    refine .of_unprotected h fun allocation hmem hlive pool horigin heq => hfree ?_
    rw [heq]
    exact mem_protectedNames.mpr
      (hpool allocation hmem hlive pool horigin machine hmachine (hname.trans heq) _ hreapable)

/-- Run 8, placed on the machine run 7 left in the pool. -/
def placedAllocation : Allocation :=
  { sampleAllocation .cold with
    id := secondId
    state := .running
    vmName := ⟨"ff-p-8-1", by decide⟩
    origin := .hotReuse sampleMachine 1 1 }

/-- The record of that machine. -/
def placedGuest : HotGuest :=
  { HotGuest.new sampleMachine sampleProfileName .protectedLane ⟨2, 4096, 16384⟩
      ⟨sampleProfile.template, .template, none, none⟩ none none 1 with
    state := .claimed
    claimedBy := some secondId }

/-- Two hours after run 7 booted the machine. A machine of an earlier database
runs beside it. -/
def placedInputs (hot : List HotGuest) : ReapInputs where
  config := sampleConfig
  machines := [⟨"ff-p-7-1", .running, none, .owned, some 7200⟩,
    ⟨"ff-p-3-1", .running, none, .owned, some 9000⟩]
  allocations := [placedAllocation]
  images := []
  hot := hot

/-- The sweep still has something to collect beside a recorded machine. -/
theorem planSweep_collectable_orphan :
    Collectable (placedInputs [placedGuest]) ⟨"ff-p-3-1", .running, .vmPrefix, 9000⟩ :=
  (planSweep_collectable (placedInputs [placedGuest])).mpr
    (by
      intro allocation hmem _ pool horigin _ _ _ _ _
      obtain rfl := List.mem_singleton.mp hmem
      cases horigin
      exact .inr (.inl ⟨placedGuest, List.mem_singleton.mpr rfl, rfl, rfl⟩)) _ (by decide +kernel)

/-- **A machine a job runs on is taken**: the allocation names it only through
its origin, and its hot record is gone. -/
theorem planSweep_takes_claimed :
    ∃ inputs : ReapInputs, ∃ found ∈ planSweep inputs, ∃ allocation ∈ inputs.allocations,
      allocation.state = .running ∧ allocation.origin.hotVmName.map (·.value) = some found.name :=
  ⟨placedInputs [], ⟨"ff-p-7-1", .running, .vmPrefix, 7200⟩, by decide +kernel,
    placedAllocation, by simp [placedInputs], rfl, rfl⟩

end FlanForge
