import FlanForge.Core.Config

/-!
# Warm images

The durable record of a profile's warm image, the reserved names that hang
off it, and the outcome of an attempt to make the next one. The record says
which generation is live, who produced it and from which base, and keeps
the generation before it for a rollback.
-/

namespace FlanForge

/-! ## Names -/

/-- A name with a suffix, when it is still a name. -/
def VmName.withSuffix (name : VmName) (suffix : String) : Except IdentifierError VmName :=
  Identifier.new vmNameRules (name.value ++ suffix)

/-- Reserved suffix of the candidate image mid-promotion. -/
def stagingSuffix : String := ".staging"

/-- Reserved suffix of the single retained rollback generation. -/
def previousSuffix : String := ".previous"

/-- The suffixed name, or nothing when it is not one. -/
def suffixed (warm : VmName) (suffix : String) : Option VmName := (warm.withSuffix suffix).toOption

/-- Every name the daemon derives from a warm name. -/
def derivedNames (warm : VmName) : List VmName :=
  warm :: (suffixed warm previousSuffix).toList ++ (suffixed warm stagingSuffix).toList

theorem value_of_withSuffix {name derived : VmName} {suffix : String}
    (h : name.withSuffix suffix = .ok derived) : derived.value = name.value ++ suffix :=
  Identifier.value_of_new h

/-- A name that is the suffixed text is the suffixed name. -/
theorem withSuffix_eq {name derived : VmName} {suffix : String}
    (h : name.value ++ suffix = derived.value) : name.withSuffix suffix = .ok derived := by
  rw [VmName.withSuffix, h, Identifier.new_value]

/-- **The names of one image never coincide**: their lengths differ. -/
theorem withSuffix_injective {name a b : VmName} {s t : String} (ha : name.withSuffix s = .ok a)
    (hb : name.withSuffix t = .ok b) (hne : s.length ≠ t.length) : a ≠ b := by
  intro hab
  have hlength := congrArg (fun name : VmName => name.value.length) hab
  simp only [value_of_withSuffix ha, value_of_withSuffix hb, String.length_append] at hlength
  omega

theorem ne_of_withSuffix {name a : VmName} {s : String} (ha : name.withSuffix s = .ok a)
    (hne : s.length ≠ 0) : name ≠ a := by
  intro hab
  have hlength := congrArg (fun name : VmName => name.value.length) hab
  simp only [value_of_withSuffix ha, String.length_append] at hlength
  omega

/-! ## Records -/

inductive WarmImageState
  | staging
  | promoted
  deriving DecidableEq, Repr

/-- What is kept of a generation that was replaced. -/
structure WarmGeneration where
  generation : UInt64
  baseFingerprint : BaseFingerprint
  producedBy : AllocationId
  producedAtUnix : UInt64
  deriving DecidableEq

/-- Provenance of one profile's warm image. -/
structure WarmImageRecord where
  profile : ProfileName
  warmTemplate : VmName
  generation : UInt64
  baseFingerprint : BaseFingerprint
  producedBy : AllocationId
  producedAtUnix : UInt64
  state : WarmImageState
  previous : Option WarmGeneration
  deriving DecidableEq

namespace WarmImageRecord

/-- Name of the candidate image mid-promotion. -/
def stagingName (record : WarmImageRecord) : Except IdentifierError VmName :=
  record.warmTemplate.withSuffix stagingSuffix

/-- Name of the retained rollback generation. -/
def previousName (record : WarmImageRecord) : Except IdentifierError VmName :=
  record.warmTemplate.withSuffix previousSuffix

end WarmImageRecord

/-- What a backend says about the image a record names. -/
inductive WarmAvailability
  | ready
  | busy
  | absent
  deriving DecidableEq, Repr

/-! ## Outcomes -/

inductive RetentionResult
  | promoted
  | rolledBack
  | skipped
  | rejected
  | failed
  deriving DecidableEq, Repr

/-- The step an attempt stopped at. -/
inductive RetentionPhase
  | strip
  | stop
  | stage
  | verify
  | retire
  | promote
  deriving DecidableEq, Repr

/-- Where retention stopped and what it produced. -/
structure RetentionOutcome where
  outcome : RetentionResult
  phase : RetentionPhase
  reason : String
  generation : Option UInt64
  deriving DecidableEq, Repr

/-- The reason is bounded at construction. -/
def RetentionOutcome.new (outcome : RetentionResult) (phase : RetentionPhase) (reason : String)
    (generation : Option UInt64) : RetentionOutcome :=
  ⟨outcome, phase, boundedText reason 256, generation⟩

/-! ## Validation -/

/-- One profile's warm names: outside the service prefix, disjoint from every
template, and reserved by no profile before; the names reserved now. -/
def ensureImageNames (config : Config) (profile : ProfileName) :
    List VmName → List VmName → Except ConfigError (List VmName)
  | reserved, [] => .ok reserved
  | reserved, derived :: names =>
    let invalid (message : String) : Except ConfigError (List VmName) :=
      .error (.invalidProfile profile.value message)
    if (stripHead config.runtime.vmPrefix.value.toList derived.value.toList).isSome then
      invalid "warm image name cannot use the service VM prefix"
    else if (config.profiles.map fun entry => entry.2.template).contains derived then
      invalid "warm image name collides with a configured template"
    else if reserved.contains derived then
      invalid "warm image name is already reserved by a profile"
    else ensureImageNames config profile (derived :: reserved) names

/-- Every declared warm name and its reserved suffixes; `reserved` are those of
the profiles before. -/
def ensureImagesValid (config : Config) (reserved : List VmName) :
    List (ProfileName × Profile) → Except ConfigError Unit
  | [] => .ok ()
  | (name, profile) :: entries =>
    match profile.warmTemplate with
    | none => ensureImagesValid config reserved entries
    | some warm =>
      match warm.withSuffix previousSuffix, warm.withSuffix stagingSuffix with
      | .ok previous, .ok staging =>
        match ensureImageNames config name reserved [warm, previous, staging] with
        | .ok reserved => ensureImagesValid config reserved entries
        | .error e => .error e
      | _, _ => .error (.invalidProfile name.value "warm image name is too long")

/-- An accepted name is outside the prefix and no template. -/
theorem ensureImageNames_spec {config : Config} {profile : ProfileName}
    {reserved names out : List VmName}
    (h : ensureImageNames config profile reserved names = .ok out)
    {name : VmName} (hname : name ∈ names) :
    (stripHead config.runtime.vmPrefix.value.toList name.value.toList).isSome = false ∧
      ∀ entry ∈ config.profiles, name ≠ entry.2.template := by
  induction names generalizing reserved with
  | nil => cases hname
  | cons derived names ih =>
    simp only [ensureImageNames] at h
    split at h
    · cases h
    · rename_i howned
      split at h
      · cases h
      · rename_i htemplate
        split at h
        · cases h
        · rcases List.mem_cons.mp hname with rfl | hname
          · simp only [List.contains_eq_mem, List.mem_map, decide_eq_true_eq, not_exists,
              not_and] at htemplate
            exact ⟨by simpa using howned, fun entry hentry heq => htemplate entry hentry heq.symm⟩
          · exact ih h hname

/-- **The names of a declared image are the daemon's to write.** -/
theorem ensureImagesValid_spec {config : Config} {reserved : List VmName}
    {entries : List (ProfileName × Profile)}
    (h : ensureImagesValid config reserved entries = .ok ())
    {entry : ProfileName × Profile} (hentry : entry ∈ entries) {warm previous staging name : VmName}
    (hwarm : entry.2.warmTemplate = some warm)
    (hprevious : warm.withSuffix previousSuffix = .ok previous)
    (hstaging : warm.withSuffix stagingSuffix = .ok staging)
    (hname : name ∈ [warm, previous, staging]) :
    (stripHead config.runtime.vmPrefix.value.toList name.value.toList).isSome = false ∧
      ∀ entry ∈ config.profiles, name ≠ entry.2.template := by
  induction entries generalizing reserved with
  | nil => cases hentry
  | cons first entries ih =>
    obtain ⟨profileName, profile⟩ := first
    simp only [ensureImagesValid] at h
    rcases List.mem_cons.mp hentry with rfl | hentry
    · -- the profile itself
      dsimp only at hwarm
      simp only [hwarm, hprevious, hstaging] at h
      split at h
      · rename_i hnames
        exact ensureImageNames_spec hnames hname
      · cases h
    · -- a later one: every way to pass this one goes on with the rest
      split at h
      · exact ih h hentry
      · split at h
        · split at h
          · exact ih h hentry
          · cases h
        · cases h

end FlanForge
