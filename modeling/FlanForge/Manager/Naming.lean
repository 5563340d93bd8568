import FlanForge.Auth.Signed
import FlanForge.Core.Names
import FlanForge.Core.Sample
import FlanForge.Core.Uuid

/-!
# Generated names

A machine is named by the service prefix, its profile, its run and its
attempt, with hyphens between; a runner label ends in a UUID. An accepted
configuration leaves room for both, so neither can fail to be built. Profile
names may hold hyphens and digits themselves, and a generated name is read
from its end: the attempt and the run are the digits after the last two
hyphens, and what is left is the prefix with the profile.
-/

namespace FlanForge

open List

open Prog (ReturnsWith)

variable {config : Config} {request : AllocationRequest} {rules : IdentifierRules}
variable {profile : Profile} {entry : ProfileName × Profile} {options : RequestOptions}
variable {claims : ForgejoClaims} {e : ManagerError} {entries : List Entry} {hot : List HotGuest}
variable {resolved : Resolved}

/-! ## Room for a name -/

/-- A text of the right length and alphabet is an identifier. -/
theorem exists_identifier {value : String} (hmin : rules.min ≤ value.utf8ByteSize)
    (hmax : value.utf8ByteSize ≤ rules.max) (hfirst : value.toList.head?.any Char.isAlphanum = true)
    (hvalid : ∀ c ∈ value.toList, rules.valid c = true) :
    ∃ name, Identifier.new rules value = .ok name := by
  have hall : value.toList.all rules.valid = true := all_eq_true.mpr hvalid
  have hcheck : rules.check value = .ok () := by
    rw [IdentifierRules.check, if_neg (by simp [hmin, hmax]), if_neg (by simp [hfirst, hall])]
  have haccepts : rules.accepts value = true := by
    rw [IdentifierRules.accepts, hcheck]
    rfl
  exact ⟨⟨value, haccepts⟩, Identifier.new_value ⟨value, haccepts⟩⟩

/-- What an identifier has passed. -/
theorem Identifier.shape (name : Identifier rules) :
    rules.min ≤ name.value.utf8ByteSize ∧ name.value.utf8ByteSize ≤ rules.max ∧
      name.value.toList.head?.any Char.isAlphanum = true ∧
      ∀ c ∈ name.value.toList, rules.valid c = true := by
  have haccepted := name.accepted
  unfold IdentifierRules.accepts IdentifierRules.check at haccepted
  split_ifs at haccepted with hlength hchars
  · cases haccepted
  · cases haccepted
  · simp only [Bool.not_eq_true', Bool.and_eq_false_iff, decide_eq_false_iff_not, not_or,
      Decidable.not_not] at hlength
    simp only [Bool.or_eq_true, Bool.not_eq_true', not_or, Bool.not_eq_false] at hchars
    exact ⟨hlength.1, hlength.2, hchars.1, all_eq_true.mp hchars.2⟩

theorem isNameByte_of_isProfileByte {c : Char} (h : isProfileByte c = true) :
    isNameByte c = true := by
  simp only [isProfileByte, Bool.or_eq_true] at h
  rcases h with ((hlower | hdigit) | hunder) | hhyphen
  · exact isNameByte_of_isAlphanum (isAlphanum_of_isLower hlower)
  · exact isNameByte_of_isDigit hdigit
  · simp [isNameByte, hunder]
  · simp [isNameByte, hhyphen]

/-- The text of a generated name. -/
def generatedName (config : Config) (request : AllocationRequest) : String :=
  config.runtime.vmPrefix.value ++ request.profile.value ++ "-" ++
    toString request.runId.toNat ++ "-" ++ toString request.runAttempt.toNat

theorem value_of_vmName {name : VmName} (h : vmName config request = .ok name) :
    name.value = generatedName config request := by
  unfold vmName at h
  split at h
  · rename_i found hfound
    cases h
    exact Identifier.value_of_new hfound
  · cases h

theorem toList_generatedName (config : Config) (request : AllocationRequest) :
    (generatedName config request).toList =
      ((config.runtime.vmPrefix.value.toList ++ request.profile.value.toList) ++
        '-' :: (toString request.runId.toNat).toList) ++
          '-' :: (toString request.runAttempt.toNat).toList := by
  simp only [generatedName, String.toList_append, append_assoc]
  rfl

/-- The entry a request names. -/
theorem exists_entry (h : config.profile? request.profile = some profile) :
    ∃ entry ∈ config.profiles, entry.1 = request.profile ∧ entry.2 = profile := by
  obtain ⟨entry, hfind, hprofile⟩ := Option.map_eq_some_iff.mp h
  exact ⟨entry, mem_of_find?_eq_some hfind, by simpa using List.find?_some hfind, hprofile⟩

/-- **The name of a machine can always be built.** -/
theorem exists_vmName (hvalid : config.Accepted)
    (hprofile : config.profile? request.profile = some profile) :
    ∃ name, vmName config request = .ok name := by
  obtain ⟨entry, hentry, hname, -⟩ := exists_entry hprofile
  have hroom := (hvalid.leavesRoom hentry).vmName
  rw [hname] at hroom
  obtain ⟨hmin, -, hfirst, hchars⟩ := config.runtime.vmPrefix.shape
  have hrun : (toString request.runId.toNat).utf8ByteSize ≤ 20 :=
    utf8ByteSize_toString_le (by omega) (Nat.lt_of_lt_of_le request.runId.toNat_lt (by decide))
  have hattempt : (toString request.runAttempt.toNat).utf8ByteSize ≤ 10 :=
    utf8ByteSize_toString_le (by omega) (Nat.lt_of_lt_of_le request.runAttempt.toNat_lt (by decide))
  have hhyphen : "-".utf8ByteSize = 1 := rfl
  have hsize : (generatedName config request).utf8ByteSize ≤ 80 ∧
      1 ≤ (generatedName config request).utf8ByteSize := by
    simp only [generatedName, String.utf8ByteSize_append, hhyphen]
    omega
  have hhead : (generatedName config request).toList.head?.any Char.isAlphanum = true := by
    obtain ⟨c, hc, halnum⟩ := (Option.any_eq_true _ _).mp hfirst
    rw [toList_generatedName, append_assoc, append_assoc, List.head?_append, hc]
    exact halnum
  have hbytes : ∀ c ∈ (generatedName config request).toList, isNameByte c = true := by
    intro c hc
    rw [toList_generatedName] at hc
    simp only [mem_append, mem_cons] at hc
    rcases hc with ((hc | hc) | rfl | hc) | rfl | hc
    · exact hchars c hc
    · exact isNameByte_of_isProfileByte (request.profile.shape.2.2.2 c hc)
    · rfl
    · exact isNameByte_of_isDigit (isDigit_toString hc)
    · rfl
    · exact isNameByte_of_isDigit (isDigit_toString hc)
  obtain ⟨name, hnew⟩ : ∃ name, Identifier.new vmNameRules (generatedName config request) =
    .ok name :=
    exists_identifier hsize.2 hsize.1 hhead hbytes
  refine ⟨name, ?_⟩
  unfold vmName
  rw [show config.runtime.vmPrefix.value ++ request.profile.value ++ "-" ++
    toString request.runId.toNat ++ "-" ++ toString request.runAttempt.toNat =
      generatedName config request from rfl, hnew]

theorem isNameByte_of_isUuidChar {c : Char} (h : Uuid.isUuidChar c = true) :
    isNameByte c = true := by
  simp only [Uuid.isUuidChar, Bool.or_eq_true, Bool.and_eq_true, decide_eq_true_eq] at h
  rcases h with (hhyphen | hdigit) | ⟨hlow, hhigh⟩
  · simp [isNameByte, hhyphen]
  · exact isNameByte_of_isDigit hdigit
  · have hlower : c.isLower = true :=
      Bool.and_eq_true_iff.mpr ⟨decide_eq_true hlow,
        decide_eq_true (Char.le_trans hhigh (by decide))⟩
    exact isNameByte_of_isAlphanum (isAlphanum_of_isLower hlower)

/-- **The label of a runner can always be built.** -/
theorem exists_runnerLabel (hvalid : config.Accepted) (hentry : entry ∈ config.profiles) (id : Uuid)
    :
    ∃ label, Identifier.new runnerLabelRules
      (entry.2.runnerLabel.value ++ "-" ++ id.value) = .ok label := by
  have hroom := (hvalid.leavesRoom hentry).label
  obtain ⟨hmin, -, hfirst, hchars⟩ := entry.2.runnerLabel.shape
  have hhyphen : "-".utf8ByteSize = 1 := rfl
  have htext : (entry.2.runnerLabel.value ++ "-" ++ id.value).toList =
      entry.2.runnerLabel.value.toList ++ '-' :: id.value.toList := by
    simp only [String.toList_append, append_assoc]
    rfl
  have hsize : (entry.2.runnerLabel.value ++ "-" ++ id.value).utf8ByteSize =
      entry.2.runnerLabel.value.utf8ByteSize + 1 + 36 := by
    rw [String.utf8ByteSize_append, String.utf8ByteSize_append, hhyphen, Uuid.utf8ByteSize_value]
  refine exists_identifier ?_ ?_ ?_ ?_
  · rw [hsize]
    exact Nat.le_add_left_of_le (by decide)
  · rw [hsize]
    exact hroom
  · obtain ⟨c, hc, halnum⟩ := (Option.any_eq_true _ _).mp hfirst
    rw [htext, List.head?_append, hc]
    exact halnum
  · intro c hc
    rw [htext] at hc
    simp only [mem_append, mem_cons] at hc
    rcases hc with hc | rfl | hc
    · exact hchars c hc
    · rfl
    · exact isNameByte_of_isUuidChar (Uuid.mem_value hc)

/-! ## Reading a name from its end -/

/-- The part after the last separator is determined. -/
theorem append_sep_inj {sep : Char} {a b d e : List Char} (hd : sep ∉ d) (he : sep ∉ e)
    (h : a ++ sep :: d = b ++ sep :: e) : a = b ∧ d = e := by
  rcases append_eq_append_iff.mp h with ⟨m, hb, hsplit⟩ | ⟨m, ha, hsplit⟩
  · cases m with
    | nil =>
      rw [append_nil] at hb
      exact ⟨hb.symm, (List.cons.inj hsplit).2⟩
    | cons c m =>
      refine absurd ?_ hd
      rw [(List.cons.inj hsplit).2]
      exact mem_append_right _ mem_cons_self
  · cases m with
    | nil =>
      rw [append_nil] at ha
      exact ⟨ha, (List.cons.inj hsplit).2.symm⟩
    | cons c m =>
      refine absurd ?_ he
      rw [(List.cons.inj hsplit).2]
      exact mem_append_right _ mem_cons_self

theorem toString_injective {m n : ℕ} (h : (toString m).toList = (toString n).toList) : m = n := by
  have hread := congrArg parseDigits h
  rw [parseDigits_toString, parseDigits_toString] at hread
  exact Option.some.inj hread

theorem hyphen_not_mem_toString (n : ℕ) : '-' ∉ (toString n).toList :=
  fun h => absurd (isDigit_toString h) (by decide)

/-- **A generated name tells the run apart.** -/
theorem vmName_injective {other : AllocationRequest} {name : VmName}
    (h : vmName config request = .ok name) (h' : vmName config other = .ok name) :
    request.profile = other.profile ∧ request.runId = other.runId ∧
      request.runAttempt = other.runAttempt := by
  have htext : (generatedName config request).toList = (generatedName config other).toList := by
    rw [← value_of_vmName h, value_of_vmName h']
  rw [toList_generatedName, toList_generatedName] at htext
  obtain ⟨hrest, hattempt⟩ := append_sep_inj (hyphen_not_mem_toString _)
    (hyphen_not_mem_toString _) htext
  obtain ⟨hprofile, hrun⟩ := append_sep_inj (hyphen_not_mem_toString _)
    (hyphen_not_mem_toString _) hrest
  refine ⟨Identifier.ext_value (String.toList_inj.mp (append_cancel_left hprofile)), ?_, ?_⟩
  · exact UInt64.toNat_inj.mp (toString_injective hrun)
  · exact UInt32.toNat_inj.mp (toString_injective hattempt)

/-! ## Names that are never generated -/

theorem generatedName_prefixed (config : Config) (request : AllocationRequest) :
    (stripHead config.runtime.vmPrefix.value.toList
      (generatedName config request).toList).isSome = true := by
  rw [toList_generatedName, append_assoc, append_assoc, stripHead_append]
  rfl

/-- The template of a profile, or its warm image. -/
def Profile.Declares (profile : Profile) (name : VmName) : Prop :=
  name = profile.template ∨ profile.warmTemplate = some name

/-- **No generated name is an image**, nor one of the names derived from it. -/
theorem vmName_ne_image {name image : VmName} (hvalid : config.Accepted)
    (hentry : entry ∈ config.profiles) (himage : entry.2.Declares image)
    (h : vmName config request = .ok name) {suffix : String}
    (hsuffix : suffix = "" ∨ suffix = previousSuffix ∨ suffix = stagingSuffix) :
    name.value ≠ image.value ++ suffix := by
  intro heq
  have houtside : (stripHead config.runtime.vmPrefix.value.toList image.value.toList).isSome =
      false := by
    rcases himage with rfl | hwarm
    · exact (hvalid.leavesRoom hentry).template
    · refine (ensureImagesValid_apart hvalid.images hentry ?_).1
      rw [Profile.warmNames, hwarm, Option.toList_some, flatMap_singleton]
      exact mem_cons_self
  have hfree : '-' ∉ suffix.toList := by
    rcases hsuffix with rfl | rfl | rfl <;> decide
  have hstays := stripHead_append_suffix hvalid.hyphenated hfree houtside
  rw [← String.toList_append, ← heq, value_of_vmName h, generatedName_prefixed] at hstays
  cases hstays

/-! ## The errors of a create -/

/-- A name could not be built. -/
def ManagerError.isNaming : ManagerError → Bool
  | .invalidVmName _ | .invalidRunnerLabel _ => true
  | _ => false

/-- What the operations of a create answer: the configuration in force passed
its validation, and a fresh label is a UUID. -/
def Genuine : (o : Op) → o.Res → Prop
  | .currentConfig, config => config.Accepted
  | .newAllocationId, (_, label) => isUuidText label = true
  | _, _ => True

theorem not_isNaming_of_authorize (h : (authorize config request options claims).Returns (.error e))
    :
    e.isNaming = false := by
  unfold authorize at h
  split at h
  · cases h
    rfl
  split at h
  · rename_i e' hprofile
    cases h
    unfold profile at hprofile
    split at hprofile
    · cases hprofile
    · cases hprofile
      rfl
  split at h
  · cases h
    rfl
  split at h
  · obtain ⟨source, -, h⟩ := h.bind
    obtain ⟨size, -, h⟩ := h.bind
    cases h
  · cases h
    rfl

theorem not_isNaming_of_ensureCapacity {size : GuestSize} {machines : List HostMachine}
    (h : ensureCapacity entries config size machines hot = .error e) : e.isNaming = false := by
  unfold ensureCapacity at h
  simp only at h
  split at h
  · cases h
    rfl
  split at h
  · split at h
    · cases h
      rfl
    split at h
    · cases h
      rfl
    · cases h
  · split at h
    · cases h
    · cases h
      rfl

theorem not_isNaming_of_admission {machines : Except WorkerError (List HostMachine)}
    {hot : Except StoreError (List HotGuest)} {isClosing : Bool}
    (h : admission config request resolved machines hot entries isClosing = .error (.error e)) :
    e.isNaming = false := by
  unfold admission at h
  split at h
  · cases h
    rfl
  split at h
  · cases h
  split at h
  · rename_i hsole
    cases h
    unfold ensureSoleProducer at hsole
    split at hsole
    · cases hsole
    split at hsole
    · cases hsole
      rfl
    · cases hsole
  split at h
  · cases h
    rfl
  split at h
  · rename_i hsnapshot
    cases h
    unfold hotSnapshot at hsnapshot
    split at hsnapshot
    · cases hsnapshot
    split at hsnapshot
    · cases hsnapshot
      rfl
    · cases hsnapshot
  split at h
  · rename_i hcapacity
    cases h
    exact not_isNaming_of_ensureCapacity hcapacity
  · cases h

/-- The record of an admitted request is always built. -/
theorem exists_buildAllocation {context : Option HotContext} {backend : Backend} {id : AllocationId}
    {label : String} {now : UInt64} (hvalid : config.Accepted)
    (hprofile : config.profile? request.profile = some resolved.profile)
    (hlabel : isUuidText label = true) :
    ∃ admitted, buildAllocation config request options resolved context backend entries hot id label
      now = .ok admitted := by
  obtain ⟨entry, hentry, -, hresolved⟩ := exists_entry hprofile
  obtain ⟨runnerLabel, hrunner⟩ := exists_runnerLabel hvalid hentry ⟨label, hlabel⟩
  obtain ⟨name, hname⟩ := exists_vmName hvalid hprofile
  unfold buildAllocation
  rw [← hresolved, hrunner, hname]
  exact ⟨_, rfl⟩

theorem not_isNaming_of_commitAdmitted {admitted : Admitted}
    (h : (commitAdmitted admitted profile).Returns (.error e)) : e.isNaming = false := by
  unfold commitAdmitted at h
  obtain ⟨saved, -, h⟩ := h.bind
  cases saved with
  | error e' =>
    obtain ⟨_, -, h⟩ := h.bind
    cases h
    rfl
  | ok _ =>
    obtain ⟨stored, -, h⟩ := h.bind
    cases stored with
    | error e' =>
      obtain ⟨_, -, h⟩ := h.bind
      obtain ⟨_, -, h⟩ := h.bind
      cases h
      rfl
    | ok _ =>
      obtain ⟨_, -, h⟩ := h.bind
      cases h

/-- **A create never fails over a name.** -/
theorem not_isNaming_of_create (h : (create request options claims).ReturnsWith Genuine (.error e))
    :
    e.isNaming = false := by
  unfold create at h
  obtain ⟨config, hvalid, h⟩ := h.perform
  obtain ⟨authorized, hauthorize, h⟩ := h.bind
  cases authorized with
  | error e' =>
    cases h
    exact not_isNaming_of_authorize hauthorize.returns
  | ok resolved =>
    have hprofile := (ForgejoClaims.grants_of_authorize hauthorize.returns).1
    obtain ⟨context, -, h⟩ := h.bind
    obtain ⟨machines, -, h⟩ := h.bind
    obtain ⟨hot, -, h⟩ := h.perform
    obtain ⟨entries, -, h⟩ := h.perform
    unfold createLocked at h
    obtain ⟨isClosing, -, h⟩ := h.perform
    split at h
    · rename_i answer hadmission
      obtain ⟨_, -, h⟩ := h.perform
      cases h
      exact not_isNaming_of_admission hadmission
    · obtain ⟨⟨id, label⟩, hlabel, h⟩ := h.perform
      obtain ⟨now, -, h⟩ := h.perform
      obtain ⟨backend, -, h⟩ := h.perform
      split at h
      · rename_i e' hbuild
        obtain ⟨admitted, hadmitted⟩ := exists_buildAllocation hvalid hprofile hlabel
        rw [hadmitted] at hbuild
        cases hbuild
      · exact not_isNaming_of_commitAdmitted h.returns

/-! ## All names of a configuration -/

/-- **Generated names can be built, tell the runs apart, and never meet an
image.** Under an accepted configuration a create does not fail over a name;
the name of a machine determines profile, run and attempt; it is no template
and no warm image and none of their reserved names; and the warm names of all
profiles are distinct from each other and from every template. -/
theorem generated_names_apart (config : Config) (hvalid : config.Accepted) :
    (∀ request profile, config.profile? request.profile = some profile →
      (∃ name, vmName config request = .ok name) ∧ ∀ id : Uuid, ∃ label,
        Identifier.new runnerLabelRules (profile.runnerLabel.value ++ "-" ++ id.value) =
          .ok label) ∧
    (∀ request options claims e,
      (create request options claims).ReturnsWith Genuine (.error e) → e.isNaming = false) ∧
    (∀ request other name, vmName config request = .ok name → vmName config other = .ok name →
      request.profile = other.profile ∧ request.runId = other.runId ∧
        request.runAttempt = other.runAttempt) ∧
    (∀ request name, vmName config request = .ok name → ∀ entry ∈ config.profiles, ∀ image,
      entry.2.Declares image → ∀ suffix ∈ ["", previousSuffix, stagingSuffix],
        name.value ≠ image.value ++ suffix) ∧
    (config.profiles.flatMap (·.2.warmNames)).Nodup ∧
    ∀ entry ∈ config.profiles, ∀ name ∈ entry.2.warmNames, ∀ other ∈ config.profiles,
      name ≠ other.2.template := by
  refine ⟨fun request profile hprofile => ⟨exists_vmName hvalid hprofile, fun id => ?_⟩,
    fun _ _ _ _ h => not_isNaming_of_create h, fun _ _ _ h h' => vmName_injective h h',
    fun request name hname entry hentry image himage suffix hsuffix => ?_,
    (ensureImagesValid_nodup hvalid.images).1,
    fun entry hentry name hname => (ensureImagesValid_apart hvalid.images hentry hname).2⟩
  · obtain ⟨entry, hentry, -, rfl⟩ := exists_entry hprofile
    exact exists_runnerLabel hvalid hentry id
  · simp only [mem_cons, not_mem_nil, or_false] at hsuffix
    exact vmName_ne_image hvalid hentry himage hname hsuffix

theorem generated_names_apart_warm :
    warmConfig.Accepted ∧ (warmConfig.profiles.flatMap (·.2.warmNames)).Nodup ∧
      ∃ name, vmName warmConfig sampleRequest = .ok name := by
  have hvalid : warmConfig.Accepted := ⟨by decide +kernel, by decide +kernel⟩
  obtain ⟨hbuilt, -, -, -, hnodup, -⟩ := generated_names_apart warmConfig hvalid
  exact ⟨hvalid, hnodup, (hbuilt sampleRequest warmProfile (by decide +kernel)).1⟩

end FlanForge
