import FlanForge.Tart.Consistent

/-!
# What promotion and its rollback keep

The assertions a promotion passes through, step by step: the candidate's
record is in place (`Staged`), the live image is still the old generation
(`Retiring`), the live name is empty or holds the candidate (`Publishing`).
A step that fails leaves what the rollback of its phase needs (`Stopped`),
and the rollback ends with the invariant.
-/

namespace FlanForge

open TartState

namespace TartSite

variable {site : TartSite} {request : Tart.RetentionRequest} {s : TartState}

/-! ## Assertions -/

/-- The candidate's record is in place. -/
structure Staged (site : TartSite) (request : Tart.RetentionRequest) (s : TartState) : Prop where
  inv : site.Inv s
  record : ∃ now, s.record site.name = some (request.record site.names .staging now)

/-- The live image, where there is one, is the old generation. -/
structure Retiring (site : TartSite) (request : Tart.RetentionRequest) (s : TartState) : Prop
    extends Staged site request s where
  old : ∀ old, request.previous = some old → ∀ g, s.image site.warm = some g → g = old.generation

/-- The live name is empty or holds the candidate. -/
structure Publishing (site : TartSite) (request : Tart.RetentionRequest) (s : TartState) : Prop
    extends Staged site request s where
  live : s.image site.warm = none ∨ s.image site.warm = some request.generation

/-- What the rollback of a phase begins with. -/
def Stopped (site : TartSite) (request : Tart.RetentionRequest) :
    RetentionPhase → TartState → Prop
  | .retire, s => site.Retiring request s
  | .promote, s => site.Publishing request s
  | _, s => site.Inv s

/-- What the candidate's record says about the images. -/
theorem Staged.agrees (h : site.Staged request s) {old : WarmGeneration}
    (hold : request.previous = some old) : old.generation ≠ request.generation ∧
      (s.image site.warm = none → s.image site.previous = some old.generation) ∧
      ∀ g, s.image site.warm = some g → g ≠ request.generation → g = old.generation := by
  obtain ⟨now, hrecord⟩ := h.record
  exact h.inv.agrees _ hrecord old hold

/-- The images may change as long as the candidate's record still tells. -/
theorem Staged.ofImages {s' : TartState} (h : site.Staged request s)
    (hconfig : s'.config = s.config)
    (hrecords : s'.records = s.records)
    (hagrees : ∀ old, request.previous = some old → old.generation ≠ request.generation →
      (s'.image site.warm = none → s'.image site.previous = some old.generation) ∧
      ∀ g, s'.image site.warm = some g → g ≠ request.generation → g = old.generation) :
    site.Staged request s' := by
  obtain ⟨now, hrecord⟩ := h.record
  refine ⟨h.inv.ofImages hconfig hrecords fun record hget _ => ?_, now, ?_⟩
  · rw [hrecord] at hget
    cases hget
    intro old hold
    exact ⟨(h.agrees hold).1, hagrees old hold (h.agrees hold).1⟩
  · unfold TartState.record at hrecord ⊢
    rw [hrecords]
    exact hrecord

/-- The candidate's image plays no part in any of them. -/
theorem Staged.eraseStaging (h : site.Staged request s) :
    site.Staged request (s.eraseImage site.staging) :=
  ⟨h.inv.eraseStaging, h.record⟩

theorem Stopped.eraseStaging {phase : RetentionPhase} (h : site.Stopped request phase s) :
    site.Stopped request phase (s.eraseImage site.staging) := by
  have hwarm := image_eraseImage_of_ne (s := s) site.warm_ne_staging.symm
  cases phase with
  | retire => exact ⟨h.toStaged.eraseStaging, by rw [hwarm]; exact h.old⟩
  | promote => exact ⟨h.toStaged.eraseStaging, by rw [hwarm]; exact h.live⟩
  | strip | stop | stage | verify => exact Inv.eraseStaging h

theorem Stopped.inv {phase : RetentionPhase} (h : site.Stopped request phase s) : site.Inv s := by
  cases phase with
  | retire => exact h.toStaged.inv
  | promote => exact h.toStaged.inv
  | strip | stop | stage | verify => exact h

/-! ## Records -/

theorem record_keeps {state : WarmImageState} (h : site.Inv s)
    (h' : ∀ now, site.Inv (s.putRecord (request.record site.names state now))) :
    site.Keeps (Tart.record site.vmPrefix request site.names state)
      (fun r s' => (r.isOk = true ∧ ∃ now, s' = s.putRecord (request.record site.names state now)) ∨
        (r.isOk = false ∧ s' = s)) s := by
  refine .bind (keeps_silent h fun _ _ _ hexec => by cases hexec; rfl) ?_
  rintro now s₀ rfl
  have hsave := keeps_save h (h' now)
  refine .bind (Q := fun r s' =>
    (r.isOk = true ∧ s' = s₀.putRecord (request.record site.names state now)) ∨
      (r.isOk = false ∧ s' = s₀)) ?_ ?_
  · unfold recordWarmImage
    split
    · refine .bind (keeps_silent h fun _ _ _ hexec => by cases hexec; rfl) ?_
      rintro - s₁ rfl
      exact hsave
    · exact hsave
  · rintro r s' (⟨hr, rfl⟩ | ⟨hr, rfl⟩)
    · cases r with
      | ok _ => exact .inl ⟨rfl, now, rfl⟩
      | error _ => cases hr
    · cases r with
      | ok _ => cases hr
      | error _ => exact .inr ⟨rfl, rfl⟩

/-- **A revert is right when the live image is the old generation.** -/
theorem ensureWarmReverted_keeps {previous : Option WarmGeneration} (h : site.Inv s)
    (hlive : ∀ old, previous = some old → s.image site.warm = some old.generation) :
    site.Keeps (ensureWarmReverted (Tart.port site.vmPrefix) site.name site.warm previous)
      (fun _ => site.Inv) s := by
  cases previous with
  | none =>
    refine (keeps_remove h).mono ?_
    rintro r s' (⟨-, rfl⟩ | ⟨-, rfl⟩)
    · exact h.eraseRecord
    · exact h
  | some old =>
    have h' : site.Inv (s.putRecord (revertedRecord site.name site.warm old)) :=
      h.putRecord rfl rfl (hlive old rfl)
    refine (keeps_save h h').mono ?_
    rintro r s' (⟨-, rfl⟩ | ⟨-, rfl⟩)
    · exact h'
    · exact h

/-! ## Rollback -/

section Rollback

variable {phase : RetentionPhase} {error : WorkerError}

theorem persistPrevious_keeps (h : site.Inv s)
    (hprofile : request.allocation.request.profile = site.name)
    (hlive : ∀ old, request.previous = some old → s.image site.warm = some old.generation) :
    site.Keeps (Tart.persistPrevious site.vmPrefix request site.names phase error)
      (fun _ => site.Inv) s := by
  unfold Tart.persistPrevious
  rw [hprofile]
  refine .bind (ensureWarmReverted_keeps h hlive) fun r s' h' => ?_
  split <;> exact h'

/-- **The retained image goes back under the empty live name**, or nothing
changes. -/
theorem ensurePreviousRestored_keeps (h : site.Staged request s)
    (hwarm : s.image site.warm = none) :
    site.Keeps (Tart.ensurePreviousRestored site.vmPrefix request site.names)
      (fun r s' => site.Inv s' ∧ (r.isOk = true → ∀ old, request.previous = some old →
        s'.image site.warm = some old.generation)) s := by
  have hrestored {g : UInt64} (hg : s.image site.previous = some g) {old : WarmGeneration}
      (hold : request.previous = some old) : g = old.generation :=
    Option.some.inj (hg.symm.trans ((h.agrees hold).2.1 hwarm))
  have hfill : ∀ g, s.content (.image site.previous) = some g → s.image site.warm = none →
      site.Inv (s.putImage ⟨site.warm, g⟩) := by
    intro g hg _
    suffices hput : site.Staged request (s.putImage ⟨site.warm, g⟩) from hput.inv
    refine h.ofImages rfl rfl fun old hold _ => ⟨fun hnone => ?_, fun g' hg' _ => ?_⟩
    · rw [image_putImage] at hnone
      cases hnone
    · rw [image_putImage] at hg'
      cases hg'
      exact hrestored hg hold
  refine .bind (isAbsentImage_keeps h.inv) ?_
  rintro b s₀ ⟨rfl, -, hpresent⟩
  cases b with
  | false => simp [hwarm] at hpresent
  | true =>
    refine (cloneImage_keeps h.inv hfill).mono ?_
    rintro r s' (⟨hr, rfl⟩ | ⟨g, hg, hfree, rfl⟩)
    · exact ⟨h.inv, fun hok => by rw [hr] at hok; cases hok⟩
    · refine ⟨hfill g hg hfree, fun _ old hold => ?_⟩
      rw [image_putImage, hrestored hg hold]

/-- **The rollback ends with the invariant**, whatever phase it comes from. -/
theorem rollback_keeps (h : site.Stopped request phase s)
    (hprofile : request.allocation.request.profile = site.name) :
    site.Keeps (Tart.rollback site.vmPrefix request site.names phase error)
      (fun _ => site.Inv) s := by
  -- the candidate goes first, and no assertion speaks about it
  refine .bind (Q := fun _ s' => site.Stopped request phase s') ?_ ?_
  · refine .bind (deleteImage_keeps h.inv h.inv.eraseStaging) ?_
    rintro r s' ⟨rfl | rfl, -⟩
    · exact h
    · exact h.eraseStaging
  rintro - s₀ h₀
  refine .bind (isAbsentImage_keeps h₀.inv) ?_
  rintro isAbsent s₁ ⟨rfl, habsent, hpresent⟩
  have hlive (hfalse : isAbsent = false) : ∃ g, s₁.image site.warm = some g :=
    Option.isSome_iff_exists.mp ((hpresent hfalse).elim id id)
  -- the restore, whatever it is followed by when it fails
  have hrestore (hstaged : site.Staged request s₁) (htrue : isAbsent = true)
      {k : Except WorkerError Unit → TartProg RetentionOutcome}
      (hok : k (.ok ()) = Tart.persistPrevious site.vmPrefix request site.names phase error)
      (herror : ∀ e, ∃ outcome, k (.error e) = pure outcome) :
      site.Keeps (Tart.ensurePreviousRestored site.vmPrefix request site.names >>= k)
        (fun _ => site.Inv) s₁ := by
    refine .bind (ensurePreviousRestored_keeps hstaged (habsent htrue)) ?_
    rintro r s' ⟨h', hrestored⟩
    cases r with
    | ok _ =>
      rw [hok]
      exact persistPrevious_keeps h' hprofile (hrestored rfl)
    | error e =>
      obtain ⟨outcome, hk⟩ := herror e
      rw [hk]
      exact h'
  cases phase with
  | strip | stop | stage | verify => cases isAbsent <;> exact h₀
  | retire =>
    cases isAbsent with
    | false =>
      obtain ⟨g, hg⟩ := hlive rfl
      refine persistPrevious_keeps h₀.inv hprofile fun old hold => ?_
      rw [hg, h₀.old old hold g hg]
    | true => exact hrestore h₀.toStaged rfl rfl fun _ => ⟨_, rfl⟩
  | promote =>
    cases isAbsent with
    | false =>
      obtain ⟨g, hg⟩ := hlive rfl
      have hcandidate : s₁.image site.warm = some request.generation :=
        h₀.live.resolve_left fun hnone => by simp [hnone] at hg
      have h' : ∀ now, site.Inv (s₁.putRecord (request.record site.names .promoted now)) :=
        fun now => h₀.inv.putRecord hprofile rfl hcandidate
      refine .bind (record_keeps h₀.inv h') ?_
      rintro r s' (⟨hr, now, rfl⟩ | ⟨hr, rfl⟩)
      · cases r with
        | ok _ => exact h' now
        | error _ => cases hr
      · cases r with
        | ok _ => cases hr
        | error _ => exact h₀.inv
    | true => exact hrestore h₀.toStaged rfl rfl fun _ => ⟨_, rfl⟩

end Rollback

/-! ## The steps -/

/-- The next regeneration of a site, planned on its record. -/
structure Planned (site : TartSite) (request : Tart.RetentionRequest) (s : TartState) : Prop where
  inv : site.Inv s
  profile : request.allocation.request.profile = site.name
  generation : request.generation = (s.record site.name).elim 1 (·.generation + 1)
  previous : request.previous = (s.record site.name).map (·.toGeneration)
  /-- The record's generation is the live one. -/
  live : ∀ record, s.record site.name = some record → s.image site.warm = some record.generation

/-- The old generation, if there is one, is live and has another number. -/
theorem Planned.old (h : site.Planned request s) {old : WarmGeneration}
    (hold : request.previous = some old) :
    s.image site.warm = some old.generation ∧ old.generation ≠ request.generation := by
  rw [h.previous, Option.map_eq_some_iff] at hold
  obtain ⟨record, hrecord, rfl⟩ := hold
  refine ⟨h.live record hrecord, ?_⟩
  rw [h.generation, hrecord]
  simp [WarmImageRecord.toGeneration]

/-- The staged candidate, with the old generation still live. -/
structure Candidate (site : TartSite) (request : Tart.RetentionRequest) (s : TartState) : Prop
    extends Staged site request s where
  live : ∀ old, request.previous = some old → s.image site.warm = some old.generation
  candidate : s.image site.staging = some request.generation

theorem Candidate.toRetiring (h : site.Candidate request s) : site.Retiring request s :=
  ⟨h.toStaged, fun old hold _ hg => Option.some.inj (hg.symm.trans (h.live old hold))⟩

/-- The retained image may change while the old generation is live. -/
theorem Candidate.ofPrevious {s' : TartState} (h : site.Candidate request s)
    (hconfig : s'.config = s.config) (hrecords : s'.records = s.records)
    (himage : ∀ name, name ≠ site.previous → s'.image name = s.image name) :
    site.Candidate request s' := by
  have hwarm := himage _ site.warm_ne_previous
  refine ⟨h.toStaged.ofImages hconfig hrecords fun old hold _ =>
    ⟨fun hnone => ?_, fun g hg _ => ?_⟩,
    fun old hold => hwarm.trans (h.live old hold),
    (himage _ site.staging_ne_previous).trans h.candidate⟩
  · rw [hwarm, h.live old hold] at hnone
    cases hnone
  · rw [hwarm, h.live old hold] at hg
    exact (Option.some.inj hg).symm

/-- **Retirement empties the live name**, or leaves it to the old generation. -/
theorem retire_keeps (h : site.Candidate request s) :
    site.Keeps (Tart.retire site.vmPrefix request site.names)
      (fun r s' => (r.isOk = true → site.Staged request s' ∧ s'.image site.warm = none ∧
          s'.image site.staging = some request.generation) ∧
        (r.isOk = false → site.Retiring request s')) s := by
  have herase : site.Candidate request (s.eraseImage site.previous) :=
    h.ofPrevious rfl rfl fun name hne => image_eraseImage_of_ne hne.symm
  refine .bind (deleteImage_keeps h.inv herase.inv) ?_
  rintro r s₀ ⟨hs₀, -⟩
  have h₀ : site.Candidate request s₀ := by
    rcases hs₀ with rfl | rfl
    · exact h
    · exact herase
  cases r with
  | error e => exact ⟨fun hok => (by cases hok), fun _ => h₀.toRetiring⟩
  | ok _ =>
    refine .bind (isAbsentImage_keeps h₀.inv) ?_
    rintro b s₁ ⟨rfl, habsent, -⟩
    cases b with
    | true => exact ⟨fun _ => ⟨h₀.toStaged, habsent rfl, h₀.candidate⟩, fun hr => by cases hr⟩
    | false =>
      have hput (g : UInt64) : site.Candidate request (s₁.putImage ⟨site.previous, g⟩) :=
        h₀.ofPrevious rfl rfl fun name hne => image_putImage_of_ne hne.symm
      refine .bind (cloneImage_keeps h₀.inv fun g _ _ => (hput g).inv) ?_
      rintro r s₂ (⟨hr, rfl⟩ | ⟨g, hg, -, rfl⟩)
      · cases r with
        | ok _ => cases hr
        | error _ => exact ⟨fun hok => (by cases hok), fun _ => h₀.toRetiring⟩
      cases r with
      | error _ => exact ⟨fun hok => (by cases hok), fun _ => (hput g).toRetiring⟩
      | ok _ =>
        -- the retained image is the live one now, so the live one may go
        have hwarm := image_putImage_of_ne (s := s₁) (g := g) site.warm_ne_previous.symm
        have hgone :
            site.Staged request ((s₁.putImage ⟨site.previous, g⟩).eraseImage site.warm) := by
          refine (hput g).toStaged.ofImages rfl rfl fun old hold _ =>
            ⟨fun _ => ?_, fun g' hg' _ => ?_⟩
          · rw [image_eraseImage_of_ne site.warm_ne_previous, image_putImage]
            exact hg.symm.trans (h₀.live old hold)
          · rw [image_eraseImage] at hg'
            cases hg'
        refine (deleteImage_keeps (hput g).inv hgone.inv).mono ?_
        rintro r s' ⟨rfl | rfl, hfree⟩
        · exact ⟨fun hr => ⟨(hput g).toStaged, hfree hr, (hput g).candidate⟩,
            fun _ => (hput g).toRetiring⟩
        · refine ⟨fun hr => ⟨hgone, hfree hr, ?_⟩, fun _ => ⟨hgone, fun old hold g' hg' => ?_⟩⟩
          · rw [image_eraseImage_of_ne site.warm_ne_staging]
            exact (hput g).candidate
          · rw [image_eraseImage] at hg'
            cases hg'

/-- **Publication puts the candidate under the live name**, or leaves it
empty. -/
theorem publish_keeps (h : site.Staged request s) (hwarm : s.image site.warm = none)
    (hcandidate : s.image site.staging = some request.generation) :
    site.Keeps (Tart.publish site.vmPrefix request site.names)
      (fun r s' => site.Publishing request s' ∧
        (r.isOk = true → s'.image site.warm = some request.generation)) s := by
  have hput : site.Staged request (s.putImage ⟨site.warm, request.generation⟩) := by
    refine h.ofImages rfl rfl fun old hold _ => ⟨fun hnone => ?_, fun g hg hne => ?_⟩
    · rw [image_putImage] at hnone
      cases hnone
    · rw [image_putImage] at hg
      exact absurd (Option.some.inj hg).symm hne
  have hcontent {g : UInt64} (hg : s.content (.image site.staging) = some g) :
      g = request.generation := Option.some.inj (hg.symm.trans hcandidate)
  refine .bind (cloneImage_keeps h.inv fun _ hg _ => hcontent hg ▸ hput.inv) ?_
  rintro r s₀ (⟨hr, rfl⟩ | ⟨g, hg, -, rfl⟩)
  · cases r with
    | ok _ => cases hr
    | error _ => exact ⟨⟨h, .inl hwarm⟩, fun hok => by cases hok⟩
  obtain rfl := hcontent hg
  have hlive : (s.putImage ⟨site.warm, request.generation⟩).image site.warm =
      some request.generation := image_putImage
  cases r with
  | error _ => exact ⟨⟨hput, .inr hlive⟩, fun hok => by cases hok⟩
  | ok _ =>
    refine (deleteImage_keeps hput.inv hput.inv.eraseStaging).mono ?_
    rintro r s' ⟨rfl | rfl, -⟩
    · exact ⟨⟨hput, .inr hlive⟩, fun _ => hlive⟩
    · have hkept := (image_eraseImage_of_ne site.warm_ne_staging.symm).trans hlive
      exact ⟨⟨hput.eraseStaging, .inr hkept⟩, fun _ => hkept⟩

/-! ## The sequence -/

/-- One step before the others. -/
theorem runSteps_cons {phase : RetentionPhase} {step : TartProg (Except WorkerError Unit)}
    {steps : List Tart.Step} {Q : Except (RetentionPhase × WorkerError) Unit → TartState → Prop}
    (h : site.Keeps step (fun r s' => (r.isOk = true → site.Keeps (Tart.runSteps steps) Q s') ∧
      (r.isOk = false → ∀ e, Q (.error (phase, e)) s')) s) :
    site.Keeps (Tart.runSteps ((phase, step) :: steps)) Q s := by
  refine .bind h fun r s' hs' => ?_
  cases r with
  | ok _ => exact hs'.1 rfl
  | error e => exact hs'.2 rfl e

theorem ensureStaged_keeps (h : site.Inv s) :
    site.Keeps (Tart.ensureStaged site.names) (fun _ s' => s' = s) s := by
  refine .bind (Q := fun _ s' => s' = s) ?_ ?_
  · refine .bind (keeps_list h) ?_
    rintro r s' ⟨rfl, -⟩
    cases r <;> rfl
  · rintro b s' rfl
    cases b <;> rfl

/-- **Promotion ends promoted, or stopped in a phase its rollback can take up.** -/
theorem promote_keeps (h : site.Planned request s) :
    site.Keeps (Tart.promote site.vmPrefix request site.names)
      (fun r s' => site.Inv s' ∧ ∀ phase e, r = .error (phase, e) → site.Stopped request phase s')
        s := by
  have hstop (phase : RetentionPhase) {s' : TartState} (hs' : site.Stopped request phase s')
      (e : WorkerError) : site.Inv s' ∧ ∀ phase' e', (Except.error (phase, e) :
        Except (RetentionPhase × WorkerError) Unit) = .error (phase', e') →
          site.Stopped request phase' s' :=
    ⟨hs'.inv, fun _ _ heq => by cases heq; exact hs'⟩
  refine runSteps_cons ((keeps_silent h.inv fun _ _ _ hexec => by cases hexec; rfl).mono ?_)
  rintro r s₀ rfl
  refine ⟨fun _ => ?_, fun _ => hstop .verify h.inv⟩
  refine runSteps_cons ((keeps_silent h.inv fun _ _ _ hexec => by cases hexec; rfl).mono ?_)
  rintro r s₁ rfl
  refine ⟨fun _ => ?_, fun _ => hstop .stop h.inv⟩
  refine runSteps_cons ((cloneImage_keeps h.inv fun _ _ _ => h.inv.putStaging).mono ?_)
  rintro r s₂ (⟨hr, rfl⟩ | ⟨g, hg, -, rfl⟩)
  · exact ⟨fun hok => (by rw [hr] at hok; cases hok), fun _ => hstop .stage h.inv⟩
  -- from here on the candidate is there
  obtain rfl : request.generation = g := Option.some.inj hg
  refine ⟨fun _ => ?_, fun _ => hstop .stage h.inv.putStaging⟩
  refine runSteps_cons ((ensureStaged_keeps h.inv.putStaging).mono ?_)
  rintro r s₃ rfl
  refine ⟨fun _ => ?_, fun _ => hstop .verify h.inv.putStaging⟩
  have hwarm := image_putImage_of_ne (s := s₁) (g := request.generation)
    site.warm_ne_staging.symm
  have hrecord (now : UInt64) : site.Inv ((s₁.putImage ⟨site.staging, request.generation⟩).putRecord
      (request.record site.names .staging now)) := by
    refine h.inv.putStaging.putRecord h.profile rfl fun old hold => ?_
    obtain ⟨hlive, hne⟩ := h.old hold
    refine ⟨hne, fun hnone => ?_, fun g' hg' _ => ?_⟩
    · rw [hwarm, hlive] at hnone
      cases hnone
    · rw [hwarm, hlive] at hg'
      exact (Option.some.inj hg').symm
  refine runSteps_cons ((record_keeps h.inv.putStaging hrecord).mono ?_)
  rintro r s₄ (⟨hr, now, rfl⟩ | ⟨hr, rfl⟩)
  swap
  · exact ⟨fun hok => (by rw [hr] at hok; cases hok), fun _ => hstop .verify h.inv.putStaging⟩
  have hcandidate :
      site.Candidate request ((s₁.putImage ⟨site.staging, request.generation⟩).putRecord
      (request.record site.names .staging now)) :=
    ⟨⟨hrecord now, now, record_putRecord h.profile⟩,
      fun old hold => hwarm.trans (h.old hold).1, image_putImage⟩
  refine ⟨fun _ => ?_, fun hno => (by rw [hr] at hno; cases hno)⟩
  refine runSteps_cons ((retire_keeps hcandidate).mono ?_)
  rintro r s₅ ⟨hok, hretiring⟩
  refine ⟨fun hr => ?_, fun hr => hstop .retire (hretiring hr)⟩
  obtain ⟨hstaged, hnone, hstaging⟩ := hok hr
  refine runSteps_cons ((publish_keeps hstaged hnone hstaging).mono ?_)
  rintro r s₆ ⟨hpublishing, hlive⟩
  refine ⟨fun hr => ?_, fun _ => hstop .promote hpublishing⟩
  have hpromoted (now : UInt64) :
      site.Inv (s₆.putRecord (request.record site.names .promoted now)) :=
    hpublishing.inv.putRecord h.profile rfl (hlive hr)
  refine runSteps_cons ((record_keeps hpublishing.inv hpromoted).mono ?_)
  rintro r s₇ (⟨hr, now, rfl⟩ | ⟨hr, rfl⟩)
  · exact ⟨fun _ => ⟨hpromoted now, fun _ _ heq => by cases heq⟩,
      fun hno => (by rw [hr] at hno; cases hno)⟩
  · exact ⟨fun hok => (by rw [hr] at hok; cases hok), fun _ => hstop .promote hpublishing⟩

end TartSite

end FlanForge
