import FlanForge.Libvirt.Resolved
import FlanForge.Manager.Create

/-!
# The recorded source and the volume a guest boots from

An allocation's source is chosen when it is created, from the record and the
pointer document, and resolved again when its guest is prepared, from the
document alone. Here the two run one after the other, as the manager's own
selection over this backend and the backend's preparation, while other tasks
make calls in between: regenerations, restores and sweeps publish and remove
documents, write records and delete volumes.

What the preparation compares with the record is the logical name. A promotion
that lands between the two leaves the name as it is and changes the
generation, and nothing is recorded again. `recorded_source_is_backing` is
what holds when none does and the write of a fallback succeeds.
-/

namespace FlanForge

namespace Libvirt

/-! ## One allocation beside others -/

/-- An image a pointer was read from. The name and the kind are ghosts: the
backend goes on with the pointer alone. -/
structure BootImage where
  name : String
  kind : CloneKind
  pointer : VolumePointer
  deriving DecidableEq

structure BootState where
  host : LibvirtState
  /-- The allocation's record, once it is stored. -/
  allocation : Option Allocation
  /-- What the overlay is backed by, once the volumes exist. -/
  overlay : Option BootImage

/-- What the environment decides at one operation, after the calls of others. -/
structure BootAnswer where
  others : List (LibvirtOp × LibvirtAnswer) := []
  answer : LibvirtAnswer := {}
  fingerprint : Option BaseFingerprint := none
  isQuarantined : Bool := false
  /-- A listing younger than one poll interval. -/
  cached : Option (List HostMachine) := none
  /-- The pointer of the published base. -/
  base : VolumePointer

inductive BootOp
  | manager (op : Op)
  | host (op : LibvirtOp)
  /-- The published base promises the channel the backend is set to. -/
  | readContract (template : VmName)
  | loadPublished (template : VmName)
  | setSource (source : CloneSource)
  /-- Make the overlay and the seed. -/
  | createVolumes (image : BootImage) (storageBytes : UInt64)

abbrev BootOp.Res : BootOp → Type
  | .manager op => op.Res
  | .host op => op.Res
  | .readContract _ => Except WorkerError Unit
  | .loadPublished _ => Except WorkerError VolumePointer
  | .setSource _ => Except ManagerError Unit
  | .createVolumes _ _ => Except WorkerError Unit

abbrev BootProg (α : Type) := Prog BootOp BootOp.Res α

/-- What one of the manager's operations does here; the selection makes no
others. -/
def managerExec : (op : Op) → BootAnswer → BootState → Option (BootState × op.Res)
  | .baseFingerprint _, a, s => some (s, a.fingerprint)
  | .backend, _, s => some (s, {})
  | .isWarmQuarantined _, a, s => some (s, a.isQuarantined)
  | .probeCached, a, s => some (s, a.cached)
  | .machines, a, s => some (s, a.answer.reported a.answer.machines)
  | .cacheProbe _, _, s => some (s, ())
  | .imageLoad profile, a, s => some (s, a.answer.stored (s.host.record profile))
  | .isUnclaimedImage _, _, s => some (s, .ok false)
  | .saveAllocation allocation, a, s =>
    some (if a.answer.outcome = .done then { s with allocation := some allocation } else s,
      a.answer.stored ())
  | _, _, _ => none

/-- What one operation does, once the others have made their calls. -/
def ownExec : (op : BootOp) → BootAnswer → BootState → Option (BootState × op.Res)
  | .manager op, a, s => managerExec op a s
  | .host op, a, s => (libvirtExec op a.answer s.host).map fun (host, r) =>
    ({ s with host := host }, r)
  | .readContract _, a, s => some (s, a.answer.reported ())
  | .loadPublished _, a, s => some (s, a.answer.reported a.base)
  | .setSource source, a, s =>
    match s.allocation with
    | none => none
    | some allocation =>
      if a.answer.outcome = .done then
        some ({ s with allocation := some (allocation.setSource source a.answer.now) }, .ok ())
      else some (s, .error (.store ⟨a.answer.message⟩))
  | .createVolumes image _, a, s =>
    if s.host.hasVolume image.pointer then
      some (if a.answer.outcome = .failed then s else { s with overlay := some image },
        a.answer.reported ())
    else some (s, .error (.new a.answer.message))

def bootExec (op : BootOp) (a : BootAnswer) (s : BootState) : Option (BootState × op.Res) :=
  ownExec op a { s with host := service.beside a.others s.host }

/-- One allocation; there is nothing else to ask for and nothing to recover. -/
def bootService : Service BootState BootOp BootOp.Res BootAnswer Empty where
  exec := bootExec
  code k := nomatch k
  recovery := .ret false
  crash s := s

/-! ## Creation -/

/-- A program of the backend. -/
def onHost {α : Type} : LibvirtProg α → BootProg α
  | .ret a => .ret a
  | .call op k => .call (.host op) fun r => onHost (k r)

/-- One operation by itself. -/
abbrev performBoot (op : BootOp) : BootProg op.Res := Prog.perform op

/-- How this backend answers the manager: for a warm image from its pointer. -/
def answered : (op : Op) → BootProg op.Res
  | .warmAvailability record => onHost (warmPointerAvailability record)
  | op => performBoot (.manager op)

/-- A program of the manager over this backend. -/
def overBackend {α : Type} : Manager α → BootProg α
  | .ret a => .ret a
  | .call op k => answered op >>= fun r => overBackend (k r)

/-- What `create` knows beside the source. -/
structure Creation where
  config : Config
  request : AllocationRequest
  options : RequestOptions
  profile : Profile
  size : GuestSize
  mode : AllocationMode
  lane : HotLane
  ageSeconds : Option UInt64
  context : Option HotContext
  entries : List Entry
  hot : List HotGuest
  id : AllocationId
  label : String
  now : UInt64

/-- The record `create` makes for a selection, when the guest is to be cloned. -/
def Creation.allocation (creation : Creation) (selection : SourceSelection) : Option Allocation :=
  match buildAllocation creation.config creation.request creation.options
      ⟨creation.profile, creation.size, creation.mode, selection, creation.lane,
        creation.ageSeconds⟩
      creation.context {} creation.entries creation.hot creation.id creation.label creation.now with
  | .error _ => none
  | .ok admitted =>
    match admitted.claim with
    | some (.reused ..) => none
    | _ => some admitted.allocation

/-! ## Preparation -/

/-- One of the profile's own two names. -/
def isDeclaredSource (profile : Profile) (source : CloneSource) : Bool :=
  source.name = profile.template || profile.warmTemplate = some source.name

/-- The image a declared warm source resolves to, or why it does not. -/
def warmPointerOf (document : PublishedWarm) (requested : CloneSource) :
    Except FallbackReason BootImage :=
  if document.logicalName ≠ requested.name.value then .error .repointed
  else .ok ⟨document.logicalName, .warm, document.current⟩

def coldPointer (profile : Profile) : BootProg (Except WorkerError BootImage) := do
  match ← performBoot (.loadPublished profile.template) with
  | .error e => return .error e
  | .ok pointer => return .ok ⟨profile.template.value, .template, pointer⟩

def warmPointer (allocation : Allocation) (requested : CloneSource) :
    BootProg (Except FallbackReason BootImage) := do
  match ← performBoot (.host (.loadPointer allocation.request.profile)) with
  | .error _ => return .error .absent
  | .ok none => return .error .absent
  | .ok (some document) => return warmPointerOf document requested

/-- Boot cold after all, and say so; a failed record is only logged. -/
def coldFallback (profile : Profile) (requested : CloneSource) (reason : FallbackReason) :
    BootProg (Except WorkerError BootImage) := do
  match ← coldPointer profile with
  | .error e => return .error e
  | .ok cold =>
    let _ ← performBoot (.setSource
      ⟨profile.template, .template, requested.baseFingerprint, some reason⟩)
    return .ok cold

/-- The boot source, resolved again rather than taken from the decision that
admission made. -/
def resolveBootSource (allocation : Allocation) (profile : Profile) :
    BootProg (Except WorkerError BootImage) := do
  match allocation.source.filter (isDeclaredSource profile) with
  | none => coldPointer profile
  | some requested =>
    if requested.kind ≠ .warm then coldPointer profile
    else
      match ← warmPointer allocation requested with
      | .ok image => return .ok image
      | .error reason => coldFallback profile requested reason

/-- The overlay's capacity: the guest's disk, and at least the base's. -/
def effectiveStorageBytes (allocation : Allocation) (profile : Profile) (baseBytes : UInt64) :
    Except WorkerError UInt64 :=
  match storageBytes allocation profile with
  | none => .error (.new "guest storage size overflows bytes")
  | some requestedBytes => .ok (max requestedBytes baseBytes)

/-- Make the volumes over an image, when their size is known. -/
def makeVolumes (image : BootImage) : Except WorkerError UInt64 → BootProg (Except WorkerError Unit)
  | .error e => return .error e
  | .ok storageBytes => performBoot (.createVolumes image storageBytes)

/-- Resolve the source and make the volumes. -/
def prepare (allocation : Allocation) (profile : Profile) : BootProg (Except WorkerError Unit) := do
  match ← performBoot (.readContract profile.template) with
  | .error e => return .error e
  | .ok _ =>
    match ← resolveBootSource allocation profile with
    | .error e => return .error e
    | .ok image =>
      makeVolumes image (effectiveStorageBytes allocation profile image.pointer.virtualBytes)

/-- An allocation from the choice of its source to its volumes. -/
def createAndPrepare (creation : Creation) : BootProg Unit := do
  let selection ← overBackend
    (resolveSource creation.request.profile creation.profile creation.mode)
  match creation.allocation selection with
  | none => return ()
  | some allocation =>
    match ← performBoot (.manager (.saveAllocation allocation)) with
    | .error _ => return ()
    | .ok _ =>
      let _ ← prepare allocation creation.profile

/-! ## What the two have to agree on -/

/-- What the profile's pointer names. -/
def named (profile : ProfileName) (host : LibvirtState) : Option (String × UInt64) :=
  (host.document profile).map fun document => (document.logicalName, document.generation)

def isWarm (allocation : Allocation) : Bool := allocation.source.any (·.kind = .warm)

/-- The calls of others leave what the pointer names as it is. -/
def isSteady (profile : ProfileName) (s : BootState) (a : BootAnswer) : Bool :=
  named profile (service.beside a.others s.host) = named profile s.host

/-- From the read of the pointer that a warm source was chosen by to the one it
is resolved by, nobody moves the pointer; and the write of a fallback succeeds. -/
def pinned (profile : ProfileName) : Conditions BootState BootOp BootAnswer Empty where
  call s op a :=
    match op with
    | .host (.checkSource _) => isSteady profile s a
    | .manager (.saveAllocation allocation) => !isWarm allocation || isSteady profile s a
    | .readContract _ => !s.allocation.any isWarm || isSteady profile s a
    | .host (.loadPointer _) => !s.allocation.any isWarm || isSteady profile s a
    | .setSource _ => a.answer.outcome = .done
    | _ => true
  start _ _ := true
  crash _ := true

/-- The generation of the image, when it is a warm one. -/
def BootImage.warmGeneration (image : BootImage) : Option UInt64 :=
  if image.kind = .warm then some image.pointer.generation else none

/-- The image is the one a source and a generation say. -/
structure BootImage.IsRecorded (image : BootImage) (source : CloneSource)
    (warmGeneration : Option UInt64) : Prop where
  name : source.name.value = image.name
  kind : source.kind = image.kind
  generation : warmGeneration = image.warmGeneration

/-- A source of the profile: its template, or its warm image as the pointer
names it. -/
inductive IsSource (name : ProfileName) (profile : Profile) (host : LibvirtState)
    (source : CloneSource) (warmGeneration : Option UInt64) : Prop
  | template (hkind : source.kind = .template) (hname : source.name = profile.template)
      (hgeneration : warmGeneration = none)
  | warm (generation : UInt64) (hkind : source.kind = .warm)
      (hname : profile.warmTemplate = some source.name)
        (hgeneration : warmGeneration = some generation)
      (hnamed : named name host = some (source.name.value, generation))

variable {name : ProfileName} {profile : Profile} {s s' : BootState} {α β : Type} {op : Op}
variable {a : BootAnswer} {record : WarmImageRecord} {fingerprint : Option BaseFingerprint}
variable {source : CloneSource}

/-- The image is the one the stored allocation records. -/
def Backs (image : BootImage) (s : BootState) : Prop :=
  ∃ allocation source, s.allocation = some allocation ∧ allocation.source = some source ∧
    image.IsRecorded source allocation.warmGeneration

/-- What is made is what is recorded. -/
def Recorded (s : BootState) : Prop := ∀ image, s.overlay = some image → Backs image s

theorem Recorded.of_none (h : s.overlay = none) : Recorded s := by
  intro image himage
  rw [h] at himage
  cases himage

/-! ## The selection -/

/-- Nothing is stored and nothing is made yet. -/
def Unbooted (s : BootState) : Prop := s.allocation = none ∧ s.overlay = none

/-- The selection's operations that say something about the host or the store. -/
def isAsked : Op → Bool
  | .saveAllocation _ => false
  | .warmAvailability _ => false
  | _ => true

theorem managerExec_asked {r : op.Res} (hop : isAsked op = true)
    (h : managerExec op a s = some (s', r)) : s' = s := by
  cases op with
  | saveAllocation _ => cases hop
  | baseFingerprint _ | backend | isWarmQuarantined _ | probeCached | machines | cacheProbe _
  | imageLoad _ | isUnclaimedImage _ =>
    cases h
    rfl
  | _ => cases h

theorem overBackend_bind (p : Manager α) (f : α → Manager β) :
    overBackend (p >>= f) = overBackend p >>= fun a => overBackend (f a) := by
  induction p with
  | ret a => rfl
  | call op k ih =>
    simp only [Prog.call_bind, overBackend, Prog.bind_assoc]
    exact congrArg (answered op >>= ·) (funext ih)

theorem answered_eq (hop : isAsked op = true) : answered op = performBoot (.manager op) := by
  cases op with
  | saveAllocation _ | warmAvailability _ => cases hop
  | _ => rfl

/-- A question of the selection, whatever others do. -/
theorem asked_keeps (hop : isAsked op = true) (hs : Unbooted s) :
    bootService.Keeps (pinned name) Recorded (answered op) (fun _ => Unbooted) s := by
  rw [answered_eq hop]
  refine .perform fun a s' r _ hexec => ?_
  obtain rfl := managerExec_asked hop hexec
  exact ⟨.of_none hs.2, hs⟩

/-- The record that is loaded is the profile's. -/
theorem imageLoad_keeps (hs : Unbooted s) :
    bootService.Keeps (pinned name) Recorded (answered (.imageLoad name))
      (fun r s' => Unbooted s' ∧ ∀ record, r = .ok (some record) → record.profile = name) s := by
  refine .perform fun a s' r _ hexec => ?_
  cases hexec
  exact ⟨.of_none hs.2, hs, fun record hr => Table.key_of_get (of_stored hr).2⟩

theorem hostMachines_keeps (hs : Unbooted s) :
    bootService.Keeps (pinned name) Recorded (overBackend hostMachines) (fun _ => Unbooted) s := by
  refine .bind (asked_keeps rfl hs) fun cached s₁ hs₁ => ?_
  cases cached with
  | some machines => exact hs₁
  | none =>
    refine .bind (asked_keeps rfl hs₁) fun listed s₂ hs₂ => ?_
    cases listed with
    | error e => exact hs₂
    | ok machines => exact .bind (asked_keeps rfl hs₂) fun _ _ hs₃ => hs₃

/-- What the selection of a warm image ends with. -/
def Selected (name : ProfileName) (profile : Profile) (r : Except FallbackReason SourceSelection)
    (s : BootState) : Prop :=
  Unbooted s ∧ ∀ selection, r = .ok selection →
    IsSource name profile s.host selection.source selection.warmGeneration

theorem missingRecord_keeps (warm : VmName) (hs : Unbooted s) :
    bootService.Keeps (pinned name) Recorded
      (overBackend (missingRecord warm >>= fun reason => pure (.error reason)))
      (Selected name profile) s := by
  refine .bind (asked_keeps rfl hs) fun r s₁ hs₁ => ?_
  rcases r with e | ⟨_ | _⟩ <;> exact ⟨hs₁, nofun⟩

/-- A pointer that is ready is the one the record says, and stays so while its
volume is looked up. -/
theorem warmAvailability_keeps (hs : Unbooted s) :
    bootService.Keeps (pinned record.profile) Recorded (answered (.warmAvailability record))
      (fun r s' => Unbooted s' ∧ (r = .ok .ready →
        named record.profile s'.host = some (record.warmTemplate.value, record.generation))) s := by
  refine .call
    (R := fun r s' => Unbooted s' ∧
      ∀ document, r = .ok (some document) → s'.host.document record.profile = some document)
    (fun a s' r _ hexec => ?_) ?_
  · cases hexec
    exact ⟨.of_none hs.2, hs, fun document hr => (of_reported hr).2⟩
  · rintro r s₁ ⟨hs₁, hdocument⟩
    rcases r with e | ⟨_ | document⟩
    · exact ⟨hs₁, nofun⟩
    · exact ⟨hs₁, nofun⟩
    · have hread := hdocument document rfl
      change bootService.Keeps _ _ (onHost (if _ then _ else _)) _ _
      split
      · exact ⟨hs₁, nofun⟩
      · rename_i hagree
        refine .call
          (R := fun _ s' => Unbooted s' ∧
            named record.profile s'.host = some (record.warmTemplate.value, record.generation))
          (fun a s' r hsteady hexec => ?_) ?_
        · cases hexec
          refine ⟨.of_none hs₁.2, hs₁, (of_decide_eq_true hsteady).trans ?_⟩
          simp only [Bool.or_eq_true, decide_eq_true_eq, not_or, Decidable.not_not] at hagree
          simp [named, hread, hagree]
        · rintro r s₂ ⟨hs₂, hnamed⟩
          cases r with
          | ok _ => exact ⟨hs₂, fun _ => hnamed⟩
          | error _ => exact ⟨hs₂, nofun⟩

/-- A warm image that is usable is the one the pointer names. -/
theorem recordedWarmSource_keeps {warm : VmName} (hwarm : profile.warmTemplate = some warm)
    (hrecord : record.profile = name) (hs : Unbooted s) :
    bootService.Keeps (pinned name) Recorded
      (overBackend (recordedWarmSource warm record fingerprint))
      (Selected name profile) s := by
  subst hrecord
  unfold recordedWarmSource
  split
  · exact ⟨hs, nofun⟩
  · split
    · exact ⟨hs, nofun⟩
    · rename_i hname hstate
      rw [Decidable.not_not] at hname
      refine .bind (warmAvailability_keeps hs) ?_
      rintro r s₁ ⟨hs₁, hready⟩
      rcases r with e | ⟨_ | _ | _⟩
      · exact ⟨hs₁, nofun⟩
      · -- the record agreed with the pointer, and the base has to agree too
        cases fingerprint with
        | none => exact ⟨hs₁, nofun⟩
        | some current =>
          change bootService.Keeps _ _ (overBackend (if _ then _ else _)) _ _
          split
          · exact ⟨hs₁, nofun⟩
          · refine ⟨hs₁, fun selection hr => ?_⟩
            cases hr
            exact .warm record.generation rfl hwarm rfl (hname ▸ hready rfl)
      · exact ⟨hs₁, nofun⟩
      · exact ⟨hs₁, nofun⟩

theorem warmSource_keeps (hs : Unbooted s) :
    bootService.Keeps (pinned name) Recorded (overBackend (warmSource name profile fingerprint))
      (Selected name profile) s := by
  cases hwarm : profile.warmTemplate with
  | none =>
    simp only [warmSource, hwarm]
    exact ⟨hs, nofun⟩
  | some warm =>
    simp only [warmSource, hwarm]
    refine .bind (asked_keeps rfl hs) fun backend s₁ hs₁ => ?_
    change bootService.Keeps _ _ (overBackend (if _ then _ else _)) _ _
    split
    · exact ⟨hs₁, nofun⟩
    · refine .bind (asked_keeps rfl hs₁) fun isQuarantined s₂ hs₂ => ?_
      change bootService.Keeps _ _ (overBackend (if _ then _ else _)) _ _
      split
      · exact ⟨hs₂, nofun⟩
      · rw [overBackend_bind]
        refine .bind (hostMachines_keeps hs₂) fun machines s₃ hs₃ => ?_
        cases machines with
        | error e => exact ⟨hs₃, nofun⟩
        | ok machines =>
          refine .bind (imageLoad_keeps hs₃) ?_
          rintro r s₄ ⟨hs₄, hprofile⟩
          rcases r with e | ⟨_ | record⟩
          · exact missingRecord_keeps warm hs₄
          · exact missingRecord_keeps warm hs₄
          · exact recordedWarmSource_keeps hwarm (hprofile record rfl) hs₄

/-- **What is selected is the template, or the image the pointer names.** -/
theorem resolveSource_keeps (mode : AllocationMode) (hs : Unbooted s) :
    bootService.Keeps (pinned name) Recorded (overBackend (resolveSource name profile mode))
      (fun selection s' => Unbooted s' ∧
        IsSource name profile s'.host selection.source selection.warmGeneration) s := by
  refine .bind (asked_keeps rfl hs) fun fingerprint s₁ hs₁ => ?_
  change bootService.Keeps _ _ (overBackend (if _ then _ else _)) _ _
  split
  · exact ⟨hs₁, .template rfl rfl rfl⟩
  · rw [overBackend_bind]
    refine .bind (warmSource_keeps hs₁) ?_
    rintro r s₂ ⟨hs₂, hsource⟩
    cases r with
    | ok selection => exact ⟨hs₂, hsource selection rfl⟩
    | error reason => exact ⟨hs₂, .template rfl rfl rfl⟩

/-! ## The record -/

theorem IsSource.congr {host host' : LibvirtState} {warmGeneration : Option UInt64}
    (h : IsSource name profile host source warmGeneration)
    (hnamed : source.kind = .warm → named name host' = named name host) :
    IsSource name profile host' source warmGeneration := by
  cases h with
  | template hkind hname hgeneration => exact .template hkind hname hgeneration
  | warm generation hkind hname hgeneration h =>
    exact .warm generation hkind hname hgeneration ((hnamed hkind).trans h)

/-- A decision that reuses no machine leaves the source as it was chosen. -/
theorem apply_source (decision : HotDecision) (allocation : Allocation) (options : RequestOptions)
    (profile : Profile) (now : UInt64)
    (h : ∀ base guest origin source, decision.claim ≠ some (.reused base guest origin source)) :
    (decision.apply allocation options profile now).request = allocation.request ∧
      (decision.apply allocation options profile now).source = allocation.source ∧
      (decision.apply allocation options profile now).warmGeneration =
        allocation.warmGeneration := by
  unfold HotDecision.apply
  split
  · exact absurd ‹_› (h _ _ _ _)
  · exact ⟨rfl, rfl, rfl⟩
  · split
    · exact ⟨rfl, rfl, rfl⟩
    · exact ⟨rfl, rfl, rfl⟩

/-- The record of a guest that is cloned says what was selected. -/
theorem allocation_source {creation : Creation} {selection : SourceSelection}
    {allocation : Allocation} {host : LibvirtState}
    (h : creation.allocation selection = some allocation)
    (hsource : IsSource creation.request.profile creation.profile host selection.source
      selection.warmGeneration) :
    allocation.request = creation.request ∧ allocation.source = some selection.source ∧
      allocation.warmGeneration = selection.warmGeneration := by
  have hgeneration : (if selection.source.kind = .warm then selection.warmGeneration else none) =
      selection.warmGeneration := by
    cases hsource with
    | template hkind _ hnone => simp [hkind, hnone]
    | warm _ hkind _ _ _ => simp [hkind]
  unfold Creation.allocation at h
  split at h
  · cases h
  · rename_i admitted hbuild
    unfold buildAllocation at hbuild
    split at hbuild
    · cases hbuild
    · split at hbuild
      · cases hbuild
      · cases hbuild
        dsimp only at h
        split at h
        · cases h
        · rename_i hclaim
          cases h
          obtain ⟨hrequest, hsource', hwarm⟩ := apply_source
            ⟨_, creation.context, creation.lane, creation.ageSeconds, creation.mode,
              creation.config.runtime.maxHotVms⟩ _ creation.options creation.profile
                creation.now hclaim
          exact ⟨hrequest, hsource', hwarm.trans hgeneration⟩

/-- The allocation is stored with a source of the profile, and nothing is made. -/
def Stored (name : ProfileName) (profile : Profile) (allocation : Allocation) (s : BootState) :
    Prop :=
  s.allocation = some allocation ∧ s.overlay = none ∧ allocation.request.profile = name ∧
    ∃ source, allocation.source = some source ∧
      IsSource name profile s.host source allocation.warmGeneration

theorem isWarm_eq {allocation : Allocation} (h : allocation.source = some source) :
    isWarm allocation = decide (source.kind = .warm) := by
  simp [isWarm, h]

/-- Others that leave the pointer alone leave the source what it was. -/
theorem Stored.beside {allocation : Allocation} (h : Stored name profile allocation s)
    (hsteady : (!s.allocation.any isWarm || isSteady name s a) = true) :
    Stored name profile allocation { s with host := service.beside a.others s.host } := by
  obtain ⟨hallocation, hoverlay, hrequest, source, hsource, his⟩ := h
  refine ⟨hallocation, hoverlay, hrequest, source, hsource, his.congr fun hkind => ?_⟩
  simpa [hallocation, isWarm_eq hsource, hkind, isSteady] using hsteady

/-! ## The preparation -/

variable {allocation : Allocation} {image : BootImage}

/-- A record that is stored with its allocation's own source. -/
theorem saveAllocation_keeps (hs : Unbooted s) (hrequest : allocation.request.profile = name)
    (hsource : allocation.source = some source)
    (his : IsSource name profile s.host source allocation.warmGeneration) :
    bootService.Keeps (pinned name) Recorded (performBoot (.manager (.saveAllocation allocation)))
      (fun r s' => Recorded s' ∧ ∀ u, r = .ok u → Stored name profile allocation s') s := by
  refine .perform fun a s' r hsteady hexec => ?_
  cases hexec
  split
  · refine ⟨.of_none hs.2, .of_none hs.2, fun _ _ => ⟨rfl, hs.2, hrequest, source, hsource, ?_⟩⟩
    refine his.congr fun hkind => ?_
    simpa [pinned, isWarm_eq hsource, hkind, isSteady] using hsteady
  · rename_i hfailed
    exact ⟨.of_none hs.2, .of_none hs.2, fun u hr => absurd (of_stored hr).1 hfailed⟩

/-- The base is the image of a source that is the template. -/
theorem coldPointer_keeps (hs : s.overlay = none) :
    bootService.Keeps (pinned name) Recorded (coldPointer profile)
      (fun r s' => s'.overlay = none ∧ s'.allocation = s.allocation ∧ ∀ image, r = .ok image →
        image.name = profile.template.value ∧ image.kind = .template) s := by
  refine .call
    (R := fun _ s' => s'.overlay = none ∧ s'.allocation = s.allocation)
    (fun a s' r _ hexec => ?_) ?_
  · cases hexec
    exact ⟨.of_none hs, hs, rfl⟩
  · rintro r s₁ ⟨hs₁, heq⟩
    cases r with
    | error e => exact ⟨hs₁, heq, nofun⟩
    | ok pointer =>
      refine ⟨hs₁, heq, fun image hr => ?_⟩
      cases hr
      exact ⟨rfl, rfl⟩

/-- What a resolution ends with. -/
def IsResolved {ε : Type} (r : Except ε BootImage) (s : BootState) : Prop :=
  s.overlay = none ∧ ∀ image, r = .ok image → Backs image s

/-- **The pointer read again gives the image that was recorded**, if it gives
one. -/
theorem warmPointer_keeps (hs : Stored name profile allocation s)
    (hsource : allocation.source = some source) (hwarm : source.kind = .warm) :
    bootService.Keeps (pinned name) Recorded (warmPointer allocation source)
      (fun r s' => IsResolved r s' ∧ s'.allocation = some allocation) s := by
  refine .call
    (R := fun r s' => Stored name profile allocation s' ∧
      ∀ document, r = .ok (some document) → s'.host.document name = some document)
    (fun a s' r hsteady hexec => ?_) ?_
  · have hstored := hs.beside hsteady
    obtain rfl := hs.2.2.1
    cases hexec
    exact ⟨.of_none hs.2.1, hstored, fun document hr => (of_reported hr).2⟩
  · rintro r s₁ ⟨⟨hallocation, hoverlay, -, source', hsource', his⟩, hread⟩
    obtain rfl := Option.some.inj (hsource.symm.trans hsource')
    rcases r with e | ⟨_ | document⟩
    · exact ⟨⟨hoverlay, nofun⟩, hallocation⟩
    · exact ⟨⟨hoverlay, nofun⟩, hallocation⟩
    · refine ⟨⟨hoverlay, fun image hr => ⟨allocation, source, hallocation, hsource, ?_⟩⟩,
        hallocation⟩
      unfold warmPointerOf at hr
      split at hr
      · cases hr
      · rename_i hname
        cases hr
        cases his with
        | template hkind _ _ => simp [hwarm] at hkind
        | warm generation _ _ hgeneration hnamed =>
          simp only [named, hread document rfl, Option.map_some, Option.some.injEq,
            Prod.mk.injEq] at hnamed
          exact ⟨hnamed.1.symm, hwarm, by
            rw [hgeneration, ← hnamed.2, ← document.generation_eq]; rfl⟩

/-- The base, once the fallback is recorded. -/
theorem coldFallback_keeps {requested : CloneSource} {reason : FallbackReason}
    (hallocation : s.allocation = some allocation) (hs : s.overlay = none) :
    bootService.Keeps (pinned name) Recorded (coldFallback profile requested reason) IsResolved
      s := by
  refine .bind (coldPointer_keeps hs) ?_
  rintro r s₁ ⟨hs₁, heq, himage⟩
  cases r with
  | error e => exact ⟨hs₁, nofun⟩
  | ok cold =>
    obtain ⟨hname, hkind⟩ := himage cold rfl
    refine .call (R := fun _ s' => s'.overlay = none ∧ Backs cold s')
      (fun a s' r hdone hexec => ?_) ?_
    · have hdone : a.answer.outcome = .done := of_decide_eq_true hdone
      change (match s₁.allocation with | none => none | some _ => _) = _ at hexec
      rw [heq, hallocation] at hexec
      simp only [hdone, if_true] at hexec
      cases hexec
      exact ⟨.of_none hs₁, hs₁, _, _, rfl, rfl, hname.symm, hkind.symm,
        by simp [Allocation.setSource, BootImage.warmGeneration, hkind]⟩
    · rintro r s₂ ⟨hs₂, hbacks⟩
      refine ⟨hs₂, fun image hr => ?_⟩
      cases hr
      exact hbacks

/-- **The image that is resolved is the one recorded.** -/
theorem resolveBootSource_keeps (hs : Stored name profile allocation s) :
    bootService.Keeps (pinned name) Recorded (resolveBootSource allocation profile) IsResolved
      s := by
  obtain ⟨hallocation, hoverlay, hrequest, source, hsource, his⟩ := hs
  have hdeclared : isDeclaredSource profile source = true := by
    cases his with
    | template _ hname _ => simp [isDeclaredSource, hname]
    | warm _ _ hname _ _ => simp [isDeclaredSource, hname]
  simp only [resolveBootSource, hsource, Option.filter_some, hdeclared, if_true]
  split
  · rename_i hkind
    refine .mono (coldPointer_keeps hoverlay) ?_
    rintro r s₁ ⟨hs₁, heq, himage⟩
    refine ⟨hs₁, fun image hr => ⟨allocation, source, heq.trans hallocation, hsource, ?_⟩⟩
    obtain ⟨hname, htemplate⟩ := himage image hr
    cases his with
    | template hkind' hname' hgeneration =>
      exact ⟨by rw [hname', hname], hkind'.trans htemplate.symm,
        by simp [hgeneration, BootImage.warmGeneration, htemplate]⟩
    | warm _ hkind' _ _ _ => exact absurd hkind' hkind
  · rename_i hkind
    rw [Decidable.not_not] at hkind
    refine .bind (warmPointer_keeps ⟨hallocation, hoverlay, hrequest, source, hsource, his⟩
      hsource hkind) ?_
    rintro r s₁ ⟨hresolved, hallocation₁⟩
    cases r with
    | ok image => exact ⟨hresolved.1, fun _ hr => hresolved.2 _ (congrArg _ (Except.ok.inj hr))⟩
    | error reason => exact coldFallback_keeps hallocation₁ hresolved.1

/-- The volumes are made from the image that was resolved. -/
theorem createVolumes_recorded {storageBytes : UInt64} {r : Except WorkerError Unit}
    (hs : s.overlay = none) (hbacks : Backs image s)
    (hexec : bootService.exec (.createVolumes image storageBytes) a s = some (s', r)) :
    Recorded s' := by
  change (if _ then _ else _) = _ at hexec
  split at hexec
  · cases hexec
    split
    · exact .of_none hs
    · rintro made hmade
      cases hmade
      exact hbacks
  · cases hexec
    exact .of_none hs

theorem makeVolumes_keeps (size : Except WorkerError UInt64) (hs : s.overlay = none)
    (hbacks : Backs image s) :
    bootService.Keeps (pinned name) Recorded (makeVolumes image size) (fun _ => Recorded) s := by
  cases size with
  | error e => exact .of_none hs
  | ok storageBytes =>
    refine .perform fun a s' r _ hexec => ?_
    have hrecorded := createVolumes_recorded hs hbacks hexec
    exact ⟨hrecorded, hrecorded⟩

theorem prepare_keeps (hs : Stored name profile allocation s) :
    bootService.Keeps (pinned name) Recorded (prepare allocation profile)
      (fun _ => Recorded) s := by
  refine .bind (Q := fun _ s' => Stored name profile allocation s')
    (.perform fun a s' r hsteady hexec => ?_) ?_
  · have hstored := hs.beside hsteady
    cases hexec
    exact ⟨.of_none hs.2.1, hstored⟩
  · intro r s₁ hs₁
    cases r with
    | error e => exact .of_none hs₁.2.1
    | ok _ =>
      refine .bind (resolveBootSource_keeps hs₁) ?_
      rintro r s₂ ⟨hs₂, hbacks⟩
      cases r with
      | error e => exact .of_none hs₂
      | ok image => exact makeVolumes_keeps _ hs₂ (hbacks image rfl)

/-- **What is made is what is recorded, at every operation.** -/
theorem createAndPrepare_keeps (creation : Creation) (hs : Unbooted s) :
    bootService.Keeps (pinned creation.request.profile) Recorded (createAndPrepare creation)
      (fun _ => Recorded) s := by
  refine .bind (resolveSource_keeps creation.mode hs) ?_
  rintro selection s₁ ⟨hs₁, his⟩
  change bootService.Keeps _ _
    (match creation.allocation selection with | none => _ | some _ => _) _ _
  split
  · exact .of_none hs₁.2
  · rename_i allocation hallocation
    obtain ⟨hrequest, hsource, hgeneration⟩ := allocation_source hallocation his
    refine .bind
      (saveAllocation_keeps hs₁ (congrArg _ hrequest) hsource (hgeneration ▸ his)) ?_
    rintro r s₂ ⟨hs₂, hstored⟩
    cases r with
    | error e => exact hs₂
    | ok u => exact .bind (prepare_keeps (hstored u rfl)) fun _ _ hs₃ => hs₃

/-- **The source an allocation records is the one its overlay is backed by**,
when nobody moves the profile's pointer between the two reads and the write of
a fallback succeeds; and the machine it leaves in the pool carries the same. -/
theorem recorded_source_is_backing (creation : Creation) {image : BootImage} (hs : Unbooted s)
    (hends : bootService.Ends (pinned creation.request.profile) (createAndPrepare creation) s () s')
    (himage : s'.overlay = some image) :
    ∃ allocation source, s'.allocation = some allocation ∧ allocation.source = some source ∧
      image.IsRecorded source allocation.warmGeneration ∧
      ∀ lane now guest, retainedRecord allocation lane now = some guest →
        image.IsRecorded guest.source guest.warmGeneration := by
  obtain ⟨allocation, source, hallocation, hsource, hrecorded⟩ :=
    (createAndPrepare_keeps creation hs).ends hends image himage
  refine ⟨allocation, source, hallocation, hsource, hrecorded, fun lane now guest hguest => ?_⟩
  unfold retainedRecord at hguest
  rw [hsource] at hguest
  split at hguest
  · rename_i heq
    cases heq
    cases hguest
    exact hrecorded
  · cases hguest

/-! ## Three allocations -/

/-- The second generation is live and recorded. -/
def recordedPool : LibvirtState :=
  { samplePool documentP with
    records := [⟨sampleProfileName, sampleWarm, 2, ⟨"aa"⟩, firstId, 2000, .promoted, none⟩] }

def sampleBoot : BootState := ⟨recordedPool, none, none⟩

/-- Run 7 asks for a warm guest. -/
def sampleCreation : Creation where
  config := warmConfig
  request := sampleRequest
  options := { warm := true }
  profile := warmProfile
  size := ⟨2, 4096, 16384⟩
  mode := .warm
  lane := .protectedLane
  ageSeconds := none
  context := none
  entries := []
  hot := []
  id := thirdId
  label := "1"
  now := 1

/-- Nothing fails. -/
def plain : BootAnswer := { fingerprint := some ⟨"aa"⟩, cached := some [], base := basePointer }

/-- The answers up to the stored allocation. -/
def selected : List BootAnswer := List.replicate 8 plain

/-- The calls of a sweep. -/
def sweepCalls : List (LibvirtOp × LibvirtAnswer) :=
  service.callsOf (ensureSupersededRetired sampleSweep) recordedPool
    [{}, {}, { now := 10000 }, {}, {}]

/-- The calls of a promotion of the third generation. -/
def promotionCalls : List (LibvirtOp × LibvirtAnswer) :=
  service.callsOf (retainWarm sampleWarmRequest) recordedPool (captureAnswers ++ fine 7)

/-- A guest boots from the second generation while the first is retired. -/
theorem recorded_source_is_backing_swept : ∃ s' image,
    bootService.Ends (pinned sampleProfileName) (createAndPrepare sampleCreation) sampleBoot () s' ∧
      s'.host.volume "warm-1.qcow2" = none ∧ s'.overlay = some image ∧
      image.pointer = liveP ∧ ∃ allocation source, s'.allocation = some allocation ∧
        allocation.source = some source ∧ image.IsRecorded source allocation.warmGeneration := by
  obtain ⟨⟨⟩, s', hends, hcheck⟩ : ∃ r s',
      bootService.Ends (pinned sampleProfileName) (createAndPrepare sampleCreation)
        sampleBoot r s' ∧
        (decide (s'.host.volume "warm-1.qcow2" = none) &&
          decide (s'.overlay = some ⟨"warm", .warm, liveP⟩)) = true :=
    Service.exists_ends
      (selected ++ [{ plain with others := sweepCalls }, plain, plain]) (by decide +kernel)
  rw [Bool.and_eq_true] at hcheck
  have himage := of_decide_eq_true hcheck.2
  obtain ⟨allocation, source, hallocation, hsource, hrecorded, -⟩ :=
    recorded_source_is_backing sampleCreation ⟨rfl, rfl⟩ hends himage
  exact ⟨s', _, hends, of_decide_eq_true hcheck.1, himage, rfl, allocation, source, hallocation,
    hsource, hrecorded⟩

/-- Every call succeeds. -/
def allDone : Conditions BootState BootOp BootAnswer Empty where
  call _ _ a := a.answer.outcome = .done
  start _ _ := true
  crash _ := true

/-- Nobody else makes a call. -/
def undisturbed : Conditions BootState BootOp BootAnswer Empty where
  call _ _ a := a.others.isEmpty
  start _ _ := true
  crash _ := true

/-- **A guest boots from an image that is not the one recorded**: from the third
generation when a promotion lands between the two reads, though every call
succeeds, and from the base when the fallback cannot be written, though nobody
else makes a call. Both allocations record the second generation. -/
theorem boot_misreports_source :
    (∃ s' image, bootService.Ends allDone (createAndPrepare sampleCreation) sampleBoot () s' ∧
      s'.overlay = some image ∧ image.kind = .warm ∧ image.pointer.generation = 3 ∧
      s'.allocation.any fun allocation => isWarm allocation ∧ allocation.warmGeneration = some 2) ∧
    ∃ s' image, bootService.Ends undisturbed (createAndPrepare sampleCreation) sampleBoot () s' ∧
      s'.overlay = some image ∧ image.kind = .template ∧
      s'.allocation.any fun allocation => isWarm allocation ∧
        allocation.warmGeneration = some 2 := by
  obtain ⟨⟨⟩, s₁, hends₁, hcheck₁⟩ : ∃ r s',
      bootService.Ends allDone (createAndPrepare sampleCreation) sampleBoot r s' ∧
        decide (s'.overlay = some ⟨"warm", .warm, samplePointer "warm-c.qcow2" 3 5000⟩ ∧
          s'.allocation.any fun allocation =>
            isWarm allocation ∧ allocation.warmGeneration = some 2) = true :=
    Service.exists_ends
      (selected ++ [{ plain with others := promotionCalls }, plain, plain]) (by decide +kernel)
  obtain ⟨⟨⟩, s₂, hends₂, hcheck₂⟩ : ∃ r s',
      bootService.Ends undisturbed (createAndPrepare sampleCreation) sampleBoot r s' ∧
        decide (s'.overlay = some ⟨"base", .template, basePointer⟩ ∧
          s'.allocation.any fun allocation =>
            isWarm allocation ∧ allocation.warmGeneration = some 2) = true :=
    Service.exists_ends
      (selected ++ [plain, { plain with answer := { outcome := .failed } }, plain,
        { plain with answer := { outcome := .failed } }, plain]) (by decide +kernel)
  have h₁ := of_decide_eq_true hcheck₁
  have h₂ := of_decide_eq_true hcheck₂
  exact ⟨⟨s₁, _, hends₁, h₁.1, rfl, rfl, h₁.2⟩, s₂, _, hends₂, h₂.1, rfl, h₂.2⟩

end Libvirt

end FlanForge
