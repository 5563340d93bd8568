import FlanForge.Tart.Retain

/-!
# The record and the image under the live name

When the record of a profile is `promoted` at a generation, the image under
the profile's warm name is to be that generation. `TartSite.Inv` is the
invariant behind it: a `staging` record knows what the live image is in
each state the promotion passes through, and the retained image is the one
the record can fall back to while the live name is empty.

Recovery sees which names exist and not what they hold. It takes a missing
candidate as a sign that the live image is the new generation, and a present
one as a sign that it is the old. Both readings can be wrong:
`TartSite.regime` says when they are right, and `recorded_generation_is_live`
is the result. The two runs after it show what happens otherwise.
-/

namespace FlanForge

/-! ## Images and records under the operations -/

namespace TartState

variable {s : TartState} {n n' : VmName} {g : UInt64} {p : ProfileName} {r : WarmImageRecord}

@[simp] theorem image_putImage : (s.putImage ⟨n, g⟩).image n = some g := by
  have h : Table.get TartImage.name (TartImage.name ⟨n, g⟩)
      (Table.put TartImage.name ⟨n, g⟩ s.images) = some ⟨n, g⟩ := Table.get_put_self
  simp only at h
  simp [image, putImage, h]

theorem image_putImage_of_ne (h : n ≠ n') : (s.putImage ⟨n, g⟩).image n' = s.image n' := by
  simp only [image, putImage]
  rw [Table.get_put_of_ne (show TartImage.name ⟨n, g⟩ ≠ n' from h)]

@[simp] theorem image_eraseImage : (s.eraseImage n).image n = none := by
  simp [image, eraseImage]

theorem image_eraseImage_of_ne (h : n ≠ n') : (s.eraseImage n).image n' = s.image n' := by
  simp only [image, eraseImage]
  rw [Table.get_erase_of_ne h]

theorem record_putRecord (h : r.profile = p) : (s.putRecord r).record p = some r := by
  subst h
  exact Table.get_put_self

@[simp] theorem record_eraseRecord : (s.eraseRecord p).record p = none := Table.get_erase_self

/-- A listing has a name exactly when there is an image under it. -/
theorem any_listing (running : List String) :
    ((s.listing running).any fun machine => machine.name = n.value) = (s.image n).isSome := by
  rw [Bool.eq_iff_iff]
  simp only [listing, List.any_map, List.any_eq_true, Function.comp_apply, decide_eq_true_eq, image,
    Option.isSome_map, Table.get, List.find?_isSome]
  constructor
  · rintro ⟨i, hi, hname⟩
    exact ⟨i, hi, Identifier.ext_value hname⟩
  · rintro ⟨i, hi, rfl⟩
    exact ⟨i, hi, rfl⟩

theorem find_listing (running : List String) :
    ((s.listing running).find? fun machine => machine.name = n.value).isSome =
      (s.image n).isSome := by
  rw [← any_listing running, Bool.eq_iff_iff]
  simp

end TartState

/-! ## The site -/

/-- One profile that declares a warm image, in a configuration that passes the
check of its image names. -/
structure TartSite where
  config : Config
  name : ProfileName
  profile : Profile
  warm : VmName
  staging : VmName
  previous : VmName
  unique : (config.profiles.map (·.1)).Nodup
  declared : (name, profile) ∈ config.profiles
  warm_eq : profile.warmTemplate = some warm
  staging_eq : warm.withSuffix stagingSuffix = .ok staging
  previous_eq : warm.withSuffix previousSuffix = .ok previous
  valid : ensureImagesValid config [] config.profiles = .ok ()

namespace TartSite

variable (site : TartSite)

abbrev vmPrefix : VmPrefix := site.config.runtime.vmPrefix

/-- The service of this site. -/
abbrev service : Service TartState TartOp TartOp.Res TartAnswer Tart.Kind :=
  Tart.service site.vmPrefix

abbrev names : Tart.Names := ⟨site.warm, site.staging, site.previous⟩

theorem warm_ne_staging : site.warm ≠ site.staging := ne_of_withSuffix site.staging_eq (by decide)

theorem warm_ne_previous : site.warm ≠ site.previous :=
    ne_of_withSuffix site.previous_eq (by decide)

theorem staging_ne_previous : site.staging ≠ site.previous :=
  withSuffix_injective site.staging_eq site.previous_eq (by decide)

/-- The daemon may write the site's names. -/
theorem writable {name : VmName} (hname : name ∈ [site.warm, site.previous, site.staging])
    (record : Option WarmImageRecord) :
    ensureImageWritable site.vmPrefix name (some site.profile) record = .ok () := by
  obtain ⟨howned, htemplate⟩ := ensureImagesValid_spec site.valid site.declared site.warm_eq
    site.previous_eq site.staging_eq hname
  have hderived : name ∈ derivedNames site.warm := by
    simp only [List.mem_cons, List.not_mem_nil, or_false] at hname
    simp only [derivedNames, suffixed, site.previous_eq, site.staging_eq, Except.toOption,
      Option.toList_some, List.cons_append, List.nil_append, List.mem_cons, List.not_mem_nil,
        or_false]
    exact hname
  simp [ensureImageWritable, isOwned, howned, htemplate _ site.declared, site.warm_eq, hderived]

/-! ## The invariant -/

/-- What a record says about the images under the warm and the previous name.
A candidate's record stands while the live image is the old generation, while
there is none, and while it is the new one. -/
def Agrees (record : WarmImageRecord) (warm previous : Option UInt64) : Prop :=
  match record.state with
  | .promoted => warm = some record.generation
  | .staging => ∀ old, record.previous = some old → old.generation ≠ record.generation ∧
      (warm = none → previous = some old.generation) ∧
      ∀ g, warm = some g → g ≠ record.generation → g = old.generation

/-- The record and the images of a site, at every command. -/
structure Inv (s : TartState) : Prop where
  config : s.config = site.config
  /-- No other profile has a record. -/
  sole : ∀ record ∈ s.records, record.profile = site.name
  named : ∀ record, s.record site.name = some record → record.warmTemplate = site.warm
  agrees : ∀ record, s.record site.name = some record →
    Agrees record (s.image site.warm) (s.image site.previous)

variable {site} {s : TartState}

/-- The invariant after the images changed. -/
theorem Inv.ofImages {s' : TartState} (h : site.Inv s) (hconfig : s'.config = s.config)
    (hrecords : s'.records = s.records)
    (hagrees : ∀ record, s.record site.name = some record →
      Agrees record (s.image site.warm) (s.image site.previous) →
      Agrees record (s'.image site.warm) (s'.image site.previous)) : site.Inv s' := by
  have hrecord : s'.record site.name = s.record site.name := by
    unfold TartState.record
    rw [hrecords]
  refine ⟨hconfig.trans h.config, fun record hmem => h.sole record (hrecords ▸ hmem), ?_, ?_⟩
  · intro record hget
    exact h.named record (hrecord ▸ hget)
  · intro record hget
    rw [hrecord] at hget
    exact hagrees record hget (h.agrees record hget)

/-- The candidate's image is not what the record speaks about. -/
theorem Inv.putStaging {g : UInt64} (h : site.Inv s) : site.Inv (s.putImage ⟨site.staging, g⟩) := by
  refine h.ofImages rfl rfl fun record _ hagrees => ?_
  rwa [TartState.image_putImage_of_ne site.warm_ne_staging.symm,
    TartState.image_putImage_of_ne site.staging_ne_previous]

theorem Inv.eraseStaging (h : site.Inv s) : site.Inv (s.eraseImage site.staging) := by
  refine h.ofImages rfl rfl fun record _ hagrees => ?_
  rwa [TartState.image_eraseImage_of_ne site.warm_ne_staging.symm,
    TartState.image_eraseImage_of_ne site.staging_ne_previous]

theorem Inv.putRecord {record : WarmImageRecord} (h : site.Inv s)
    (hprofile : record.profile = site.name) (hwarm : record.warmTemplate = site.warm)
    (hagrees : Agrees record (s.image site.warm) (s.image site.previous)) :
    site.Inv (s.putRecord record) := by
  have hrecord := TartState.record_putRecord (s := s) hprofile
  refine ⟨h.config, fun other hmem => ?_, fun other hget => ?_, fun other hget => ?_⟩
  · rcases Table.mem_put hmem with rfl | hmem
    · exact hprofile
    · exact h.sole other hmem
  · rw [hrecord] at hget
    cases hget
    exact hwarm
  · rw [hrecord] at hget
    cases hget
    exact hagrees

theorem Inv.eraseRecord (h : site.Inv s) : site.Inv (s.eraseRecord site.name) := by
  refine ⟨h.config, fun other hmem => h.sole other (Table.mem_erase.mp hmem).1, ?_, ?_⟩ <;>
  · intro record hget
    rw [TartState.record_eraseRecord] at hget
    cases hget

theorem Inv.withProbe {probe : Option (List HostMachine)} (h : site.Inv s) :
    site.Inv { s with probe := probe } :=
  ⟨h.config, h.sole, h.named, h.agrees⟩

/-! ## When recovery reads the images right -/

variable (site)

/-- The conditions the invariant needs.

While the live name is empty no listing fails, and the clone that fills it
from the retained image takes effect. A regeneration begins when the record's
generation is the live one. A crash beside a `staging` record and a live image
finds the candidate present exactly when the live image is not the candidate's
generation. -/
def regime : Conditions TartState TartOp TartAnswer Tart.Kind where
  call s op a :=
    (s.image site.warm).isSome ||
      match op with
      | .list => a.outcome = .done
      | .clone source destination =>
        !(source = .image site.previous && destination = site.warm && a.outcome = .failed)
      | _ => true
  start s
    | .regenerate allocation _ => allocation.request.profile = site.name &&
        (s.record site.name).all fun record =>
          record.state = .promoted || s.image site.warm = some record.generation
    | .reload _ => false
  crash s :=
    (s.record site.name).all fun record =>
      record.state = .promoted || (s.image site.warm).all fun g =>
        (s.image site.staging).isSome = (g ≠ record.generation)

/-- A program keeps the invariant at every command. -/
abbrev Keeps {α : Type} (p : TartProg α) (Q : α → TartState → Prop) (s : TartState) : Prop :=
  site.service.Keeps site.regime site.Inv p Q s

variable {site}

/-! ## One command -/

section Commands

variable {op : TartOp} {n : VmName} {state : MachineState} {record : Option WarmImageRecord}

/-- A command that leaves the state alone. -/
theorem keeps_silent (h : site.Inv s)
    (hsilent : ∀ a s' r, tartExec op a s = some (s', r) → s' = s) :
    site.Keeps (Tart.perform op) (fun _ s' => s' = s) s := by
  refine .perform fun a s' r _ hexec => ?_
  obtain rfl := hsilent a s' r hexec
  exact ⟨h, rfl⟩

/-- A listing is what the host has, or it failed beside a live image. -/
theorem keeps_list (h : site.Inv s) :
    site.Keeps (Tart.perform .list)
      (fun r s' => s' = s ∧ ((∃ running, r = .ok (s.listing running)) ∨
      (∃ e, r = .error e) ∧ (s.image site.warm).isSome = true)) s := by
  refine .perform fun a s' r hcall hexec => ?_
  cases hexec
  refine ⟨h, rfl, ?_⟩
  by_cases hdone : a.outcome = .done
  · exact .inl ⟨a.running, by simp [TartAnswer.reported, hdone]⟩
  · refine .inr ⟨⟨_, by simp [TartAnswer.reported, hdone]; rfl⟩, ?_⟩
    simpa [regime, hdone] using hcall

theorem keeps_save {record : WarmImageRecord} (h : site.Inv s)
    (h' : site.Inv (s.putRecord record)) :
    site.Keeps (Tart.perform (.save record))
      (fun r s' => (r.isOk = true ∧ s' = s.putRecord record) ∨ (r.isOk = false ∧ s' = s)) s := by
  refine .perform fun a s' r _ hexec => ?_
  cases hexec
  by_cases hdone : a.outcome = .done
  · simp [hdone, h', TartAnswer.stored, Except.isOk, Except.toBool]
  · simp [hdone, h, TartAnswer.stored, Except.isOk, Except.toBool]

theorem keeps_remove (h : site.Inv s) :
    site.Keeps (Tart.perform (.remove site.name))
      (fun r s' => (r.isOk = true ∧ s' = s.eraseRecord site.name) ∨ (r.isOk = false ∧ s' = s))
        s := by
  refine .perform fun a s' r _ hexec => ?_
  cases hexec
  by_cases hdone : a.outcome = .done
  · simp [hdone, h.eraseRecord, TartAnswer.stored, Except.isOk, Except.toBool]
  · simp [hdone, h, TartAnswer.stored, Except.isOk, Except.toBool]

/-- Whether a name is free. A wrong no needs a failed listing, and that a live
image. -/
theorem isAbsentImage_keeps (h : site.Inv s) :
    site.Keeps (Tart.isAbsentImage n) (fun b s' => s' = s ∧ (b = true → s.image n = none) ∧
      (b = false → (s.image n).isSome = true ∨ (s.image site.warm).isSome = true)) s := by
  refine .bind (keeps_list h) ?_
  rintro r s' ⟨rfl, ⟨running, rfl⟩ | ⟨⟨e, rfl⟩, hwarm⟩⟩
  · simp only [Prog.pure_eq, Service.keeps_ret, true_and]
    rw [TartState.any_listing]
    cases s'.image n <;> simp
  · exact ⟨rfl, by simp, fun _ => .inr hwarm⟩

theorem stopListed_keeps (h : site.Inv s) :
    site.Keeps (Tart.stopListed n state) (fun _ s' => s' = s) s := by
  unfold Tart.stopListed
  split
  · exact .bind (keeps_silent h fun _ _ _ hexec => by cases hexec; rfl) fun _ _ hs' => hs'
  · rfl

theorem removeNamed_keeps (h : site.Inv s) (h' : site.Inv (s.eraseImage n)) :
    site.Keeps (Tart.removeNamed n state) (fun r s' => (s' = s ∨ s' = s.eraseImage n) ∧
      (r.isOk = true → s'.image n = none)) s := by
  refine .bind (stopListed_keeps h) ?_
  rintro - s₀ rfl
  refine .bind (Q := fun r s' => (s' = s₀ ∧ r.isOk = false) ∨ s' = s₀.eraseImage n) ?_ ?_
  · refine .perform fun a s' r _ hexec => ?_
    simp only [Tart.service, tartExec] at hexec
    split at hexec
    · cases hexec
      by_cases hfailed : a.outcome = .failed
      · simp [hfailed, h, TartAnswer.reported, Except.isOk, Except.toBool]
      · simp [hfailed, h']
    · cases hexec
      exact ⟨h, .inl ⟨rfl, rfl⟩⟩
  · intro r s' hs'
    have hinv : site.Inv s' := by
      rcases hs' with ⟨rfl, -⟩ | rfl
      · exact h
      · exact h'
    have hreach : s' = s₀ ∨ s' = s₀.eraseImage n := hs'.imp And.left id
    cases r with
    | ok _ =>
      refine ⟨hreach, fun _ => ?_⟩
      rcases hs' with ⟨-, hr⟩ | rfl
      · cases hr
      · exact TartState.image_eraseImage
    | error e =>
      -- a failed delete of a machine that is gone
      refine .bind (isAbsentImage_keeps hinv) ?_
      rintro b s'' ⟨rfl, hnone, -⟩
      cases b with
      | true => exact ⟨hreach, fun _ => hnone rfl⟩
      | false => exact ⟨hreach, fun hr => by cases hr⟩

/-- **A delete leaves the image or removes it**, and if it is reported done,
the name is free. -/
theorem deleteImage_keeps {profile : Option Profile} (h : site.Inv s)
    (h' : site.Inv (s.eraseImage n)) :
    site.Keeps (Tart.deleteImage site.vmPrefix n profile record)
      (fun r s' => (s' = s ∨ s' = s.eraseImage n) ∧ (r.isOk = true → s'.image n = none)) s := by
  unfold Tart.deleteImage
  split
  · exact ⟨.inl rfl, fun hr => by cases hr⟩
  · refine .bind (keeps_list h) ?_
    rintro r s' ⟨rfl, ⟨running, rfl⟩ | ⟨⟨e, rfl⟩, -⟩⟩
    · dsimp only
      split
      · rename_i hfind
        refine ⟨.inl rfl, fun _ => ?_⟩
        have hlisting := TartState.find_listing (s := s') (n := n) running
        rw [hfind] at hlisting
        simpa using hlisting.symm
      · exact removeNamed_keeps h h'
    · exact ⟨.inl rfl, fun hr => by cases hr⟩

/-- **A clone leaves the images or fills a free name** with what its source
holds, and if it is reported done, it did. -/
theorem cloneImage_keeps {source : TartDisk} {profile : Profile} (h : site.Inv s)
    (h' : ∀ g, s.content source = some g → s.image n = none →
      site.Inv (s.putImage ⟨n, g⟩)) :
    site.Keeps (Tart.cloneImage site.vmPrefix source n profile record)
      (fun r s' => (r.isOk = false ∧ s' = s) ∨ ∃ g, s.content source = some g ∧
        s.image n = none ∧ s' = s.putImage ⟨n, g⟩) s := by
  have hclone : site.Keeps (Tart.perform (.clone source n)) (fun r s' => (r.isOk = false ∧ s' = s) ∨
      ∃ g, s.content source = some g ∧ s.image n = none ∧ s' = s.putImage ⟨n, g⟩) s := by
    refine .perform fun a s' r _ hexec => ?_
    simp only [Tart.service, tartExec] at hexec
    split at hexec
    · rename_i g hcontent hfree
      cases hexec
      by_cases hfailed : a.outcome = .failed
      · simp [hfailed, h, TartAnswer.reported, Except.isOk, Except.toBool]
      · simp only [hfailed, if_false]
        exact ⟨h' g hcontent hfree, .inr ⟨g, hcontent, hfree, rfl⟩⟩
    · cases hexec
      exact ⟨h, .inl ⟨rfl, rfl⟩⟩
  unfold Tart.cloneImage
  split
  · exact .inl ⟨rfl, rfl⟩
  · split
    · exact hclone
    · split
      · exact .inl ⟨rfl, rfl⟩
      · exact hclone

end Commands

end TartSite

/-! ## A small site -/

/-- The small installation with a warm image. -/
def sampleSite : TartSite where
  config := warmConfig
  name := sampleProfileName
  profile := warmProfile
  warm := sampleWarm
  staging := ⟨"warm.staging", by decide⟩
  previous := ⟨"warm.previous", by decide⟩
  unique := by decide
  declared := by simp [warmConfig]
  warm_eq := rfl
  staging_eq := withSuffix_eq (by decide)
  previous_eq := withSuffix_eq (by decide)
  valid := by decide +kernel

/-- No record and no image yet. -/
def emptyHost : TartState := ⟨warmConfig, [], [], none⟩

/-- The end of a regeneration's job. -/
def regenerated (id : AllocationId) : Occurrence TartAnswer Tart.Kind :=
  .start (.regenerate (sampleRegeneration id) warmProfile)

/-- The next `n` commands, all with the same answer. -/
def commands (n : ℕ) (a : TartAnswer) : List (Occurrence TartAnswer Tart.Kind) :=
  List.replicate n (.run a)

/-- The first regeneration, from its job's end to its own. -/
def firstRegeneration : List (Occurrence TartAnswer Tart.Kind) :=
  regenerated firstId :: commands 19 {}

end FlanForge
