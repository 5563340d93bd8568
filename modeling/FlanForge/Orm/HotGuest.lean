import Mathlib.Data.Int.Notation
import FlanForge.Common.Checks
import FlanForge.Common.Table
import FlanForge.Core.HotGuest

/-!
# Hot records as table rows

A hot record and its row. Enumerations and identifiers travel as their
string tokens, numbers as signed 64-bit columns. Writing fails only on a
number that does not fit its column; reading parses every column and then
re-runs the record's validator, so a row can be written that is not read
back. `hotGuestFromModel_toModel` says exactly which: a written row reads
back as the record it was written from when that record is valid, and not
at all otherwise.

The store is the table: `save` converts and writes without validating,
`load` answers an unreadable row with an error, `loadAll` skips it.
-/

namespace FlanForge

/-- Why a row and a record cannot be mapped onto each other. -/
inductive ConvertError
  | json (field : String)
  | numeric (field : String)
  | invalid (id : String)
  deriving DecidableEq, Repr

/-- The error's text; what the JSON parser adds to it is left out. -/
def ConvertError.message : ConvertError → String
  | json field => field ++ " holds an unmappable value"
  | numeric field => field ++ " is outside the storable range"
  | invalid id => "record " ++ id ++ " is structurally invalid"

/-- One row per retained hot machine. -/
structure HotGuestModel where
  vmName : String
  profile : String
  lane : String
  state : String
  sizeCpuCount : ℤ
  sizeMemoryMb : ℤ
  sizeStorageMb : ℤ
  sourceName : String
  sourceKind : String
  sourceFingerprint : Option String
  sourceFallbackReason : Option String
  warmGeneration : Option ℤ
  ageLimitSeconds : Option ℤ
  bootedAtUnix : ℤ
  updatedAtUnix : ℤ
  jobsServed : ℤ
  claimedBy : Option String
  drainReason : Option String
  deriving DecidableEq

/-! ## Tokens -/

def HotState.token : HotState → String
  | provisioning => "provisioning"
  | idle => "idle"
  | claimed => "claimed"
  | recycling => "recycling"
  | draining => "draining"
  | evicted => "evicted"

def HotDrainReason.token : HotDrainReason → String
  | evictRequested => "evict_requested"
  | capacityPressure => "capacity_pressure"
  | maxLifetime => "max_lifetime"
  | maxJobs => "max_jobs"
  | maxIdle => "max_idle"
  | idleTtl => "idle_ttl"
  | resetFailed => "reset_failed"
  | staleBase => "stale_base"
  | configReloaded => "config_reloaded"
  | machineGone => "machine_gone"
  | unverifiable => "unverifiable"
  | operatorRequest => "operator_request"

def HotLane.token : HotLane → String
  | protectedLane => "protected"
  | unprotectedLane => "unprotected"

def CloneKind.token : CloneKind → String
  | template => "template"
  | warm => "warm"

def FallbackReason.token : FallbackReason → String
  | notDeclared => "not_declared"
  | noRecord => "no_record"
  | repointed => "repointed"
  | absent => "absent"
  | notStopped => "not_stopped"
  | staleBase => "stale_base"
  | unclaimed => "unclaimed"
  | quarantined => "quarantined"
  | notPromoted => "not_promoted"
  | fingerprintUnavailable => "fingerprint_unavailable"
  | unsupported => "unsupported"
  | storageTooSmall => "storage_too_small"
  | unknown => "unknown"

/-- Read an enumeration back: the listed value whose token this is. -/
def fromToken {α : Type} (token : α → String) (values : List α) (field text : String) :
    Except ConvertError α :=
  match values.find? fun a => token a = text with
  | some a => .ok a
  | none => .error (.json field)

def HotState.values : List HotState :=
  [.provisioning, .idle, .claimed, .recycling, .draining, .evicted]

def HotDrainReason.values : List HotDrainReason :=
  [.evictRequested, .capacityPressure, .maxLifetime, .maxJobs, .maxIdle, .idleTtl, .resetFailed,
    .staleBase, .configReloaded, .machineGone, .unverifiable, .operatorRequest]

def HotLane.values : List HotLane := [.protectedLane, .unprotectedLane]

def CloneKind.values : List CloneKind := [.template, .warm]

/-- The reasons this build knows, in the source's order. -/
def FallbackReason.names : List FallbackReason :=
  [.notDeclared, .noRecord, .repointed, .absent, .notStopped, .staleBase, .unclaimed, .quarantined,
    .notPromoted, .fingerprintUnavailable, .unsupported, .storageTooSmall]

/-- Reading a reason never fails: an unlisted text is `unknown`. -/
def FallbackReason.ofToken (text : String) : FallbackReason :=
  (FallbackReason.names.find? fun reason => reason.token = text).getD .unknown

/-- Read an identifier column. -/
def identifierFromToken (rules : IdentifierRules) (field text : String) :
    Except ConvertError (Identifier rules) :=
  match Identifier.new rules text with
  | .ok a => .ok a
  | .error _ => .error (.json field)

def allocationIdFromToken (field text : String) : Except ConvertError AllocationId :=
  match AllocationId.parse text with
  | some id => .ok id
  | none => .error (.json field)

/-- Read an optional column. -/
def optional {α β : Type} (f : α → Except ConvertError β) :
    Option α → Except ConvertError (Option β)
  | none => .ok none
  | some a => (f a).map some

/-! ## Numbers -/

def toI64 (field : String) (value : UInt64) : Except ConvertError ℤ :=
  if value.toNat < 2 ^ 63 then .ok value.toNat else .error (.numeric field)

def toU64 (field : String) (value : ℤ) : Except ConvertError UInt64 :=
  if 0 ≤ value ∧ value < 2 ^ 64 then .ok (UInt64.ofNat value.toNat) else .error (.numeric field)

def toU32 (field : String) (value : ℤ) : Except ConvertError UInt32 :=
  if 0 ≤ value ∧ value < 2 ^ 32 then .ok (UInt32.ofNat value.toNat) else .error (.numeric field)

def toU8 (field : String) (value : ℤ) : Except ConvertError UInt8 :=
  if 0 ≤ value ∧ value < 2 ^ 8 then .ok (UInt8.ofNat value.toNat) else .error (.numeric field)

/-! ## The two directions -/

def hotGuestToModel (guest : HotGuest) : Except ConvertError HotGuestModel := do
  let sizeStorageMb ← toI64 "size_storage_mb" guest.size.storageMb
  let warmGeneration ← optional (toI64 "warm_generation") guest.warmGeneration
  let ageLimitSeconds ← optional (toI64 "age_limit_seconds") guest.ageLimitSeconds
  let bootedAtUnix ← toI64 "booted_at_unix" guest.bootedAtUnix
  let updatedAtUnix ← toI64 "updated_at_unix" guest.updatedAtUnix
  return {
    vmName := guest.vmName.value
    profile := guest.profile.value
    lane := guest.lane.token
    state := guest.state.token
    sizeCpuCount := guest.size.cpuCount.toNat
    sizeMemoryMb := guest.size.memoryMb.toNat
    sizeStorageMb := sizeStorageMb
    sourceName := guest.source.name.value
    sourceKind := guest.source.kind.token
    sourceFingerprint := guest.source.baseFingerprint.map (·.value)
    sourceFallbackReason := guest.source.fallbackReason.map FallbackReason.token
    warmGeneration := warmGeneration
    ageLimitSeconds := ageLimitSeconds
    bootedAtUnix := bootedAtUnix
    updatedAtUnix := updatedAtUnix
    jobsServed := guest.jobsServed.toNat
    claimedBy := guest.claimedBy.map (·.value)
    drainReason := guest.drainReason.map HotDrainReason.token }

/-- Parse every column, before the record's validator is run. -/
def hotGuestOfColumns (model : HotGuestModel) : Except ConvertError HotGuest := do
  let vmName ← identifierFromToken vmNameRules "vm_name" model.vmName
  let profile ← identifierFromToken profileNameRules "profile" model.profile
  let lane ← fromToken HotLane.token HotLane.values "lane" model.lane
  let state ← fromToken HotState.token HotState.values "state" model.state
  let cpuCount ← toU8 "size_cpu_count" model.sizeCpuCount
  let memoryMb ← toU32 "size_memory_mb" model.sizeMemoryMb
  let storageMb ← toU64 "size_storage_mb" model.sizeStorageMb
  let sourceName ← identifierFromToken vmNameRules "source_name" model.sourceName
  let sourceKind ← fromToken CloneKind.token CloneKind.values "source_kind" model.sourceKind
  let warmGeneration ← optional (toU64 "warm_generation") model.warmGeneration
  let ageLimitSeconds ← optional (toU64 "age_limit_seconds") model.ageLimitSeconds
  let bootedAtUnix ← toU64 "booted_at_unix" model.bootedAtUnix
  let updatedAtUnix ← toU64 "updated_at_unix" model.updatedAtUnix
  let jobsServed ← toU32 "jobs_served" model.jobsServed
  let claimedBy ← optional (allocationIdFromToken "claimed_by") model.claimedBy
  let drainReason ←
    optional (fromToken HotDrainReason.token HotDrainReason.values "drain_reason") model.drainReason
  return {
    vmName, profile, lane, state
    size := ⟨cpuCount, memoryMb, storageMb⟩
    source := {
      name := sourceName
      kind := sourceKind
      baseFingerprint := model.sourceFingerprint.map (⟨·⟩)
      fallbackReason := model.sourceFallbackReason.map FallbackReason.ofToken }
    warmGeneration, ageLimitSeconds, bootedAtUnix, updatedAtUnix, jobsServed, claimedBy,
      drainReason }

/-- Rebuild the record and re-run its validator. -/
def hotGuestFromModel (model : HotGuestModel) : Except ConvertError HotGuest :=
  match hotGuestOfColumns model with
  | .error e => .error e
  | .ok guest => if guest.isValid then .ok guest else .error (.invalid model.vmName)

/-! ## Round trips -/

@[simp] theorem fromToken_lane (lane : HotLane) (field : String) :
    fromToken HotLane.token HotLane.values field lane.token = .ok lane := by
  cases lane <;> rfl

@[simp] theorem fromToken_state (state : HotState) (field : String) :
    fromToken HotState.token HotState.values field state.token = .ok state := by
  cases state <;> rfl

@[simp] theorem fromToken_kind (kind : CloneKind) (field : String) :
    fromToken CloneKind.token CloneKind.values field kind.token = .ok kind := by
  cases kind <;> rfl

@[simp] theorem fromToken_drainReason (reason : HotDrainReason) (field : String) :
    fromToken HotDrainReason.token HotDrainReason.values field reason.token = .ok reason := by
  cases reason <;> rfl

@[simp] theorem ofToken_token (reason : FallbackReason) :
    FallbackReason.ofToken reason.token = reason := by
  cases reason <;> rfl

@[simp] theorem identifierFromToken_value {rules : IdentifierRules} (a : Identifier rules)
    (field : String) : identifierFromToken rules field a.value = .ok a := by
  simp [identifierFromToken]

@[simp] theorem allocationIdFromToken_value (id : AllocationId) (field : String) :
    allocationIdFromToken field id.value = .ok id := by
  simp [allocationIdFromToken]

@[simp] theorem toU8_toNat (value : UInt8) (field : String) :
    toU8 field value.toNat = .ok value := by
  have hlt := value.toNat_lt
  simp only [toU8, Int.toNat_natCast, UInt8.ofNat_toNat]
  rw [if_pos ⟨by omega, by omega⟩]

@[simp] theorem toU32_toNat (value : UInt32) (field : String) :
    toU32 field value.toNat = .ok value := by
  have hlt := value.toNat_lt
  simp only [toU32, Int.toNat_natCast, UInt32.ofNat_toNat]
  rw [if_pos ⟨by omega, by omega⟩]

/-- A number that was written reads back. -/
theorem toU64_of_toI64 {value : UInt64} {field field' : String} {column : ℤ}
    (h : toI64 field value = .ok column) : toU64 field' column = .ok value := by
  unfold toI64 at h
  split at h
  · cases h
    have hlt := value.toNat_lt
    simp only [toU64, Int.toNat_natCast, UInt64.ofNat_toNat]
    rw [if_pos ⟨by omega, by omega⟩]
  · cases h

/-- Reading back an optional column, when reading back works for each value. -/
theorem optional_of_optional {α β γ : Type} {f : α → Except ConvertError β}
    {g : β → Except ConvertError γ} {h : α → γ} (hfg : ∀ a b, f a = .ok b → g b = .ok (h a))
    {a : Option α} {b : Option β} (hf : optional f a = .ok b) :
    optional g b = .ok (a.map h) := by
  cases a with
  | none =>
    cases hf
    rfl
  | some a =>
    cases hfa : f a with
    | error e => simp [optional, hfa, Except.map] at hf
    | ok b' =>
      simp only [optional, hfa, Except.map, Except.ok.injEq] at hf
      subst hf
      simp [optional, hfg a b' hfa, Except.map]

/-- Reading back an optional column of tokens. -/
theorem optional_map {α β : Type} {f : β → Except ConvertError α} {g : α → β}
    (hfg : ∀ a, f (g a) = .ok a) (a : Option α) : optional f (a.map g) = .ok a := by
  cases a with
  | none => rfl
  | some a => simp [optional, hfg, Except.map]

/-- Every number of the record fits its column. -/
def HotGuest.isStorable (guest : HotGuest) : Bool :=
  guest.size.storageMb.toNat < 2 ^ 63 && guest.warmGeneration.all (·.toNat < 2 ^ 63) &&
    guest.ageLimitSeconds.all (·.toNat < 2 ^ 63) && guest.bootedAtUnix.toNat < 2 ^ 63 &&
    guest.updatedAtUnix.toNat < 2 ^ 63

theorem exists_toI64 {field : String} {value : UInt64} :
    (∃ column, toI64 field value = .ok column) ↔ value.toNat < 2 ^ 63 := by
  unfold toI64
  split <;> simp_all

theorem exists_optional_toI64 {field : String} {value : Option UInt64} :
    (∃ column, optional (toI64 field) value = .ok column) ↔
      value.all (·.toNat < 2 ^ 63) = true := by
  cases value with
  | none => simp [optional]
  | some value =>
    rw [Option.all_some, decide_eq_true_iff]
    refine Iff.trans ?_ (@exists_toI64 field value)
    cases h : toI64 field value <;> simp [optional, h, Except.map]

variable {guest : HotGuest}

/-- **A record can be written exactly when its numbers fit.** -/
theorem exists_hotGuestToModel :
    (∃ row, hotGuestToModel guest = .ok row) ↔ guest.isStorable = true := by
  simp only [hotGuestToModel, bind_eq_ok, HotGuest.isStorable, Bool.and_eq_true, decide_eq_true_eq]
  constructor
  · rintro ⟨_, _, h₁, _, h₂, _, h₃, _, h₄, _, h₅, _⟩
    exact ⟨⟨⟨⟨exists_toI64.mp ⟨_, h₁⟩, exists_optional_toI64.mp ⟨_, h₂⟩⟩,
      exists_optional_toI64.mp ⟨_, h₃⟩⟩, exists_toI64.mp ⟨_, h₄⟩⟩, exists_toI64.mp ⟨_, h₅⟩⟩
  · rintro ⟨⟨⟨⟨h₁, h₂⟩, h₃⟩, h₄⟩, h₅⟩
    obtain ⟨_, h₁⟩ := exists_toI64.mpr h₁
    obtain ⟨_, h₂⟩ := exists_optional_toI64.mpr h₂
    obtain ⟨_, h₃⟩ := exists_optional_toI64.mpr h₃
    obtain ⟨_, h₄⟩ := exists_toI64.mpr h₄
    obtain ⟨_, h₅⟩ := exists_toI64.mpr h₅
    exact ⟨_, _, h₁, _, h₂, _, h₃, _, h₄, _, h₅, rfl⟩

variable {model : HotGuestModel}

/-- **Every written row parses back to the record it was written from.** -/
theorem hotGuestOfColumns_toModel (h : hotGuestToModel guest = .ok model) :
    hotGuestOfColumns model = .ok guest := by
  simp only [hotGuestToModel, bind_eq_ok] at h
  obtain ⟨storage, hstorage, generation, hgeneration, age, hage, booted, hbooted, updated,
    hupdated, h⟩ := h
  cases h
  have hgeneration' := optional_of_optional (g := toU64 "warm_generation") (h := id)
    (fun _ _ h => toU64_of_toI64 h) hgeneration
  have hage' := optional_of_optional (g := toU64 "age_limit_seconds") (h := id)
    (fun _ _ h => toU64_of_toI64 h) hage
  simp only [Option.map_id_fun, id_eq] at hgeneration' hage'
  simp only [hotGuestOfColumns, ok_bind, identifierFromToken_value, fromToken_lane,
    fromToken_state, toU8_toNat, toU32_toNat, toU64_of_toI64 hstorage, fromToken_kind, hgeneration',
    hage', toU64_of_toI64 hbooted, toU64_of_toI64 hupdated,
    optional_map (fun id => allocationIdFromToken_value id "claimed_by"),
    optional_map (fun reason => fromToken_drainReason reason "drain_reason"), Option.map_map]
  cases guest
  simp [pure, Except.pure, Function.comp_def]

/-- **A written row reads back exactly when the record is valid.** -/
theorem hotGuestFromModel_toModel (h : hotGuestToModel guest = .ok model) :
    hotGuestFromModel model =
      if guest.isValid then .ok guest else .error (.invalid model.vmName) := by
  simp [hotGuestFromModel, hotGuestOfColumns_toModel h]

/-- Writing keeps the key. -/
theorem vmName_of_hotGuestToModel (h : hotGuestToModel guest = .ok model) :
    model.vmName = guest.vmName.value := by
  simp only [hotGuestToModel, bind_eq_ok] at h
  obtain ⟨_, _, _, _, _, _, _, _, _, _, h⟩ := h
  cases h
  rfl

end FlanForge
