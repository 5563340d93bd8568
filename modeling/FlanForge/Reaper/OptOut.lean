import FlanForge.Core.Names
import FlanForge.Reaper.Plan

/-!
# Images a profile keeps

A profile that sets `reap = false` opts its images out of the sweep. The warm
image and the generation before it are protected under any profile. The
staging name is not: the planner asks for the opt-out where a profile or a
record would authorize the deletion, not where a name belongs to a profile
that opted out. Accepted configurations keep the profiles apart, so no other
profile stands in; a record does, when it was left by a profile that is gone
or by one that was pointed elsewhere (`stale_record_takes_staging`).
-/

namespace FlanForge

variable {inputs : ReapInputs} {found : ReapCandidate} {entry : ProfileName × Profile}

/-- Where a record the sweep may act on derives the staging name of a profile
that opted out, no image old enough to be taken is listed under that name, or
the name is protected for another reason. -/
def IsUnclaimedElsewhere (inputs : ReapInputs) : Prop :=
  ∀ record ∈ inputs.images, isReapableProfile inputs.config record.profile = true →
    ∀ entry ∈ inputs.config.profiles, entry.2.reap = false → ∀ warm ∈ entry.2.warmTemplate,
      ∀ staging ∈ suffixed warm stagingSuffix, staging ∈ derivedNames record.warmTemplate →
        ∀ machine ∈ inputs.machines, machine.name = staging.value →
          ∀ ageSeconds ∈ machine.ageSeconds, imageAgeSeconds ≤ ageSeconds →
            IsProtected inputs staging.value

/-- A warm name that is not protected is the staging name. -/
theorem staging_of_unprotected {warm name : VmName} (hentry : entry ∈ inputs.config.profiles)
    (hwarm : entry.2.warmTemplate = some warm) (hname : name ∈ derivedNames warm)
    (hfree : name.value ∉ protectedNames inputs) : suffixed warm stagingSuffix = some name := by
  simp only [derivedNames, List.cons_append, List.mem_cons, List.mem_append,
    Option.mem_toList] at hname
  rcases hname with rfl | hprevious | hstaging
  · exact absurd (mem_protected_of_profile hentry (.inr ⟨_, hwarm, .inl rfl⟩)) hfree
  · exact absurd (mem_protected_of_profile hentry (.inr ⟨_, hwarm, .inr ⟨_, hprevious, rfl⟩⟩)) hfree
  · exact hstaging

theorem mem_warmNames_staging {warm staging : VmName} (hwarm : entry.2.warmTemplate = some warm)
    (hstaging : warm.withSuffix stagingSuffix = .ok staging) : staging ∈ entry.2.warmNames := by
  rw [Profile.warmNames, hwarm, Option.toList_some, List.flatMap_singleton]
  simp [derivedNames, mem_suffixed.mpr hstaging]

/-- A record of a profile that did not opt out authorizes the deletion of every
name it derives, once it is a day old. -/
theorem imageAuthorization_isSome {record : WarmImageRecord} {name : VmName} {ageSeconds : UInt64}
    (hrecord : record ∈ inputs.images)
    (hreapable : isReapableProfile inputs.config record.profile = true)
    (hname : name ∈ derivedNames record.warmTemplate) (hage : imageAgeSeconds ≤ ageSeconds) :
    (imageAuthorization inputs name.value ageSeconds).isSome = true := by
  unfold imageAuthorization
  split
  · rfl
  · rw [if_neg (UInt64.not_lt.mpr hage), Option.isSome_map, List.find?_isSome]
    refine ⟨record, List.mem_filter.mpr ⟨hrecord, hreapable⟩, ?_⟩
    simpa using ⟨name, hname, rfl⟩

/-- **A profile that opted out keeps its images exactly when** no record of a
profile that is gone or did not opt out derives the staging name of an image
that is listed, unprotected and a day old. -/
theorem opted_out_images_kept (inputs : ReapInputs) (hvalid : inputs.config.Accepted) :
    (∀ entry ∈ inputs.config.profiles, entry.2.reap = false → ∀ name ∈ entry.2.warmNames,
      ∀ found ∈ planSweep inputs, found.name ≠ name.value) ↔ IsUnclaimedElsewhere inputs := by
  constructor
  · intro hkept record hrecord hreapable entry hentry hopted warm hwarm staging hstaging hderived
      machine hmachine hname age hage hold
    by_contra hprotected
    have hauthorized : (imageAuthorization inputs machine.name age).isSome = true := by
      rw [hname]
      exact imageAuthorization_isSome hrecord hreapable hderived hold
    obtain ⟨found, hfound, hvalue, -⟩ := mem_planSweep_iff.mpr
      ⟨mt mem_protectedNames.mp hprotected, machine, hmachine, hname, hage,
        UInt64.le_trans (by decide) hold, .inr hauthorized⟩
    exact hkept entry hentry hopted staging (mem_warmNames_staging hwarm (mem_suffixed.mp hstaging))
      found hfound hvalue
  · intro hrecords entry hentry hkept name hname found hfound heq
    obtain ⟨hfree, machine, hmachine, hmachineName, hage, -, hauthorized⟩ :=
      mem_planSweep_iff.mp ⟨found, hfound, rfl, rfl⟩
    have hforeign : isPrefixed inputs.config machine.name = false := by
      rw [hmachineName, heq]
      exact (ensureImagesValid_apart hvalid.images hentry hname).1
    obtain ⟨authorization, hauthorization⟩ := Option.isSome_iff_exists.mp
      (hauthorized.resolve_left (by rw [hforeign]; exact Bool.false_ne_true))
    rcases imageAuthorization_cases hauthorization with
      ⟨other, hother, hreap, warm, staging, hwarm, hstaging, hvalue⟩ |
        ⟨record, hrecord, hreapable, ⟨derived, hderived, hvalue⟩, hold⟩
    · -- the other profile would share a warm name with this one
      have hsame : name = staging :=
        Identifier.ext_value (heq.symm.trans (hmachineName.symm.trans hvalue))
      have hone := hvalid.eq_of_warmNames hentry hother hname
        (hsame ▸ mem_warmNames_staging hwarm hstaging)
      rw [hone, hreap] at hkept
      cases hkept
    · obtain rfl : name = derived :=
        Identifier.ext_value (heq.symm.trans (hmachineName.symm.trans hvalue))
      obtain ⟨warm, hwarm, hname⟩ := List.mem_flatMap.mp hname
      rw [Option.mem_toList] at hwarm
      have hstaging := staging_of_unprotected hentry hwarm hname (heq ▸ hfree)
      exact hfree (heq ▸ mem_protectedNames.mpr (hrecords record hrecord hreapable entry hentry
        hkept warm hwarm name hstaging hderived machine hmachine hvalue _ hage hold))

/-! ## A record of a renamed profile -/

/-- The warm profile, opted out. -/
def keptConfig : Config :=
  { sampleConfig with profiles := [(sampleProfileName, { warmProfile with reap := false })] }

theorem keptConfig_accepted : keptConfig.Accepted := ⟨by decide +kernel, by decide +kernel⟩

/-- A record of the warm image, under the name of some profile. -/
def imageRecord (profile : ProfileName) : WarmImageRecord where
  profile := profile
  warmTemplate := sampleWarm
  generation := 1
  baseFingerprint := ⟨"aa"⟩
  producedBy := firstId
  producedAtUnix := 1
  state := .promoted
  previous := none

/-- A candidate image of the profile, a day old, and the record of a profile. -/
def stagedInputs (profile : ProfileName) : ReapInputs where
  config := keptConfig
  machines := [⟨"warm.staging", .stopped, none, .unknown, some 90000⟩]
  allocations := []
  images := [imageRecord profile]
  hot := []

theorem opted_out_images_kept_own_record :
    isReapableProfile keptConfig sampleProfileName = false ∧
      ∀ entry ∈ keptConfig.profiles, entry.2.reap = false → ∀ name ∈ entry.2.warmNames,
        ∀ found ∈ planSweep (stagedInputs sampleProfileName), found.name ≠ name.value :=
  ⟨by decide +kernel,
    (opted_out_images_kept (stagedInputs sampleProfileName) keptConfig_accepted).mpr (by
      intro record hrecord hreapable
      obtain rfl := List.mem_singleton.mp hrecord
      exact absurd hreapable (by decide +kernel))⟩

/-- **The record of a renamed profile takes the candidate image.** The profile
was called `old` when the record was written; under its new name it opts its
images out. -/
theorem stale_record_takes_staging :
    ∃ inputs : ReapInputs, inputs.config.Accepted ∧ ∃ entry ∈ inputs.config.profiles,
      entry.2.reap = false ∧ ∃ name ∈ entry.2.warmNames, ∃ found ∈ planSweep inputs,
        found.name = name.value :=
  ⟨stagedInputs ⟨"old", by decide⟩, keptConfig_accepted, _, List.mem_singleton.mpr rfl, rfl,
    ⟨"warm.staging", by decide⟩, by decide +kernel,
    ⟨"warm.staging", .stopped, .image ⟨"old", by decide⟩, 90000⟩, by decide +kernel, rfl⟩

end FlanForge
