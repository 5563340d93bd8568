import Mathlib.Data.List.Nodup
import Mathlib.Data.List.Pairwise
import FlanForge.Common.Checks
import FlanForge.Core.Image

/-!
# The names of a configuration

What validation says about names. A profile leaves room for the names that
are generated for its allocations, no template and no warm image is under
the service prefix, and the names of all warm images, with their reserved
suffixes, are distinct from each other and from every template.

The prefix ends in a hyphen and the reserved suffixes have none, so a name
outside the prefix stays outside with a suffix.
-/

namespace FlanForge

open List

variable {config : Config} {profile : ProfileName} {entry : ProfileName × Profile}
variable {entries : List (ProfileName × Profile)} {reserved names out : List VmName}

/-- The configuration passes its validation. -/
structure Config.Accepted (config : Config) : Prop where
  valid : config.isValid = true
  images : ensureImagesValid config [] config.profiles = .ok ()

/-- The names of the warm image a profile declares. -/
def Profile.warmNames (profile : Profile) : List VmName :=
  profile.warmTemplate.toList.flatMap derivedNames

/-! ## Warm images -/

theorem derivedNames_eq {warm previous staging : VmName}
    (hprevious : warm.withSuffix previousSuffix = .ok previous)
    (hstaging : warm.withSuffix stagingSuffix = .ok staging) :
    derivedNames warm = [warm, previous, staging] := by
  simp [derivedNames, suffixed, hprevious, hstaging, Except.toOption]

/-- Names are reserved one by one, and none twice. -/
theorem ensureImageNames_reserved (h : ensureImageNames config profile reserved names = .ok out) :
    (∀ name, name ∈ out ↔ name ∈ names ∨ name ∈ reserved) ∧ names.Nodup ∧
      ∀ name ∈ names, name ∉ reserved := by
  induction names generalizing reserved with
  | nil =>
    cases h
    exact ⟨fun name => by simp, nodup_nil, fun name hname => absurd hname not_mem_nil⟩
  | cons derived names ih =>
    simp only [ensureImageNames] at h
    split_ifs at h with _ _ htaken
    have hfree : derived ∉ reserved := by simpa using htaken
    obtain ⟨hout, hnodup, hnew⟩ := ih h
    refine ⟨fun name => ?_, nodup_cons.mpr ⟨fun hmem => ?_, hnodup⟩, fun name hname => ?_⟩
    · rw [hout, mem_cons, mem_cons]
      constructor
      · rintro (hmem | rfl | hmem)
        · exact .inl (.inr hmem)
        · exact .inl (.inl rfl)
        · exact .inr hmem
      · rintro ((rfl | hmem) | hmem)
        · exact .inr (.inl rfl)
        · exact .inl hmem
        · exact .inr (.inr hmem)
    · exact hnew derived hmem mem_cons_self
    · rcases mem_cons.mp hname with rfl | hmem
      · exact hfree
      · exact fun hreserved => hnew name hmem (mem_cons_of_mem _ hreserved)

/-- One profile of an accepted list: its warm names, and the names that are
reserved for the profiles after it. -/
theorem ensureImagesValid_cons (h : ensureImagesValid config reserved (entry :: entries) = .ok ()) :
    ∃ out, ensureImageNames config entry.1 reserved entry.2.warmNames = .ok out ∧
      ensureImagesValid config out entries = .ok () := by
  obtain ⟨name, profile⟩ := entry
  simp only [ensureImagesValid] at h
  simp only [Profile.warmNames]
  cases hwarm : profile.warmTemplate with
  | none =>
    rw [hwarm] at h
    exact ⟨reserved, rfl, h⟩
  | some warm =>
    rw [hwarm] at h
    simp only at h
    split at h
    · rename_i previous staging hprevious hstaging
      rw [Option.toList_some, flatMap_singleton, derivedNames_eq hprevious hstaging]
      split at h
      · rename_i out hnames
        exact ⟨out, hnames, h⟩
      · cases h
    · cases h

/-- **The names of all warm images are distinct.** -/
theorem ensureImagesValid_nodup (h : ensureImagesValid config reserved entries = .ok ()) :
    (entries.flatMap (·.2.warmNames)).Nodup ∧
      ∀ name ∈ entries.flatMap (·.2.warmNames), name ∉ reserved := by
  induction entries generalizing reserved with
  | nil => exact ⟨nodup_nil, fun name hname => absurd hname not_mem_nil⟩
  | cons entry entries ih =>
    obtain ⟨out, hnames, hrest⟩ := ensureImagesValid_cons h
    obtain ⟨hout, hnodup, hnew⟩ := ensureImageNames_reserved hnames
    obtain ⟨hrestNodup, hrestNew⟩ := ih hrest
    rw [flatMap_cons]
    constructor
    · refine nodup_append.mpr ⟨hnodup, hrestNodup, fun a ha b hb hab => ?_⟩
      exact hrestNew b hb ((hout b).mpr (.inl (hab ▸ ha)))
    · intro name hname
      rcases mem_append.mp hname with hown | hlater
      · exact hnew name hown
      · exact fun hreserved => hrestNew name hlater ((hout name).mpr (.inr hreserved))

/-- A warm name is outside the prefix, and no template. -/
theorem ensureImagesValid_apart (h : ensureImagesValid config reserved entries = .ok ())
    (hentry : entry ∈ entries) {name : VmName} (hname : name ∈ entry.2.warmNames) :
    (stripHead config.runtime.vmPrefix.value.toList name.value.toList).isSome = false ∧
      ∀ other ∈ config.profiles, name ≠ other.2.template := by
  induction entries generalizing reserved with
  | nil => cases hentry
  | cons first entries ih =>
    obtain ⟨out, hnames, hrest⟩ := ensureImagesValid_cons h
    rcases mem_cons.mp hentry with rfl | hentry
    · exact ensureImageNames_spec hnames hname
    · exact ih hrest hentry

/-- Two profiles that share a warm name are one. -/
theorem Config.Accepted.eq_of_warmNames (h : config.Accepted) {other : ProfileName × Profile}
    (hentry : entry ∈ config.profiles) (hother : other ∈ config.profiles) {name : VmName}
    (hname : name ∈ entry.2.warmNames) (hname' : name ∈ other.2.warmNames) : entry = other := by
  obtain ⟨-, hdisjoint⟩ := nodup_flatMap.mp (ensureImagesValid_nodup h.images).1
  by_contra hne
  have : Std.Symm (Function.onFun List.Disjoint fun entry : ProfileName × Profile =>
      entry.2.warmNames) := ⟨fun _ _ hab _ hb ha => hab ha hb⟩
  exact hdisjoint.forall hentry hother hne hname hname'

/-! ## Profiles -/

/-- The three parts of an accepted configuration. -/
theorem Config.parts_of_isValid (h : config.isValid = true) :
    ensureRuntimeValid config = .ok () ∧
      ensureProfilesValid config.runtime.vmPrefix.value [] config.profiles = .ok () ∧
      ensureHotValid config = .ok () := by
  have hok : config.ensureValid = .ok () := by
    unfold Config.isValid at h
    cases hv : config.ensureValid with
    | ok => rfl
    | error e =>
      rw [hv] at h
      cases h
  unfold Config.ensureValid at hok
  split_ifs at hok
  · obtain ⟨_, hempty, -⟩ := bind_eq_ok.mp hok
    cases hempty
  · obtain ⟨_, hruntime, hok⟩ := bind_eq_ok.mp hok
    obtain ⟨_, hprofiles, hhot⟩ := bind_eq_ok.mp hok
    exact ⟨hruntime, hprofiles, hhot⟩

/-- An accepted configuration has a profile. -/
theorem Config.profiles_ne_nil_of_isValid (h : config.isValid = true) : config.profiles ≠ [] := by
  intro hnil
  unfold Config.isValid Config.ensureValid at h
  rw [hnil] at h
  cases h

/-- What a profile's check says about its names. -/
structure LeavesRoom (vmPrefix : String) (entry : ProfileName × Profile) : Prop where
  template : (stripHead vmPrefix.toList entry.2.template.value.toList).isSome = false
  label : entry.2.runnerLabel.value.utf8ByteSize + 1 + 36 ≤ 64
  vmName : vmPrefix.utf8ByteSize + entry.1.value.utf8ByteSize + 1 + 20 + 1 + 10 ≤ 80

theorem leavesRoom_of_ensureProfile {vmPrefix : String}
    (h : ensureProfile vmPrefix entry = .ok ()) :
    LeavesRoom vmPrefix entry := by
  unfold ensureProfile at h
  simp only at h
  by_cases htemplate : (stripHead vmPrefix.toList entry.2.template.value.toList).isSome = true
  · rw [if_pos htemplate] at h
    cases h
  rw [if_neg htemplate] at h
  by_cases hlabel : entry.2.runnerLabel.value.utf8ByteSize + 1 + 36 > 64
  · rw [if_pos hlabel] at h
    cases h
  rw [if_neg hlabel] at h
  by_cases hname : vmPrefix.utf8ByteSize + entry.1.value.utf8ByteSize + 1 + 20 + 1 + 10 > 80
  · rw [if_pos hname] at h
    cases h
  exact ⟨by simpa using htemplate, by omega, by omega⟩

theorem leavesRoom_of_ensureProfilesValid {vmPrefix : String} {labels : List RunnerLabel}
    (h : ensureProfilesValid vmPrefix labels entries = .ok ()) (hentry : entry ∈ entries) :
    LeavesRoom vmPrefix entry := by
  induction entries generalizing labels with
  | nil => cases hentry
  | cons first entries ih =>
    obtain ⟨_, hfirst, hrest⟩ := bind_eq_ok.mp h
    split_ifs at hrest
    rcases mem_cons.mp hentry with rfl | hentry
    · exact leavesRoom_of_ensureProfile hfirst
    · exact ih hrest hentry

theorem Config.Accepted.leavesRoom (h : config.Accepted) (hentry : entry ∈ config.profiles) :
    LeavesRoom config.runtime.vmPrefix.value entry :=
  leavesRoom_of_ensureProfilesValid (config.parts_of_isValid h.valid).2.1 hentry

/-- The prefix ends in a hyphen. -/
theorem Config.Accepted.hyphenated (h : config.Accepted) :
    config.runtime.vmPrefix.value.toList.getLast? = some '-' := by
  have hruntime := (config.parts_of_isValid h.valid).1
  unfold ensureRuntimeValid at hruntime
  have hvalid : config.runtime.vmPrefix.ensureValid = .ok () := by
    cases hbackend : config.runtime.backend <;>
      cases hname : config.runtime.vmPrefix.ensureValid <;>
      simp only [hbackend, hname, bind_eq_ok, reduceCtorEq, false_and, exists_false, and_false]
        at hruntime <;> rfl
  unfold VmPrefix.ensureValid at hvalid
  split_ifs at hvalid with hlast
  exact hlast

/-- **A name outside the prefix stays outside with a reserved suffix.** -/
theorem stripHead_append_suffix {head text suffix : List Char} (hlast : head.getLast? = some '-')
    (hsuffix : '-' ∉ suffix) (h : (stripHead head text).isSome = false) :
    (stripHead head (text ++ suffix)).isSome = false := by
  rw [Option.isSome_eq_false_iff, Option.isNone_iff_eq_none,
    Option.eq_none_iff_forall_ne_some] at h ⊢
  intro rest hrest
  have htext := stripHead_eq_some.mp hrest
  rcases append_eq_append_iff.mp htext with ⟨more, hhead, hsplit⟩ | ⟨more, hwhole, hsplit⟩
  · -- the prefix would reach into the suffix, with its hyphen
    by_cases hmore : more = []
    · subst hmore
      rw [append_nil] at hhead
      exact h [] (stripHead_eq_some.mpr (by rw [hhead, append_nil]))
    · refine hsuffix ?_
      rw [hhead, List.getLast?_append_of_ne_nil _ hmore] at hlast
      rw [hsplit]
      exact mem_append_left _ (mem_of_getLast? hlast)
  · exact h more (stripHead_eq_some.mpr hwhole)

end FlanForge
