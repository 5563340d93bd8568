import FlanForge.Common.Trace
import FlanForge.Manager.Alone
import FlanForge.Runs.Drains

/-!
# Draining a claimed machine

The drain of a claimed record leaves the destruction to the release of the
claim. The two only meet in the stored row, and the row the drain writes
still names the claim, so it fails its own validator. The release reads its
machine's record, gets an error, and returns; every listing of the pool
skips the row.
-/

namespace FlanForge

open Machine (Step)

/-! ## The course of a release -/

/-- The store refused a record. -/
def isSaveRefused : Step Op.Res → Bool
  | ⟨.hotSave _ _, .error _⟩ => true
  | _ => false

/-- The machine's record was read. -/
def isRead (vmName : VmName) : Step Op.Res → Bool
  | ⟨.hotLoad read, .ok (some _)⟩ => read = vmName
  | _ => false

/-- The machine is to be destroyed. -/
def isEvicting (vmName : VmName) : Step Op.Res → Bool
  | ⟨.hotEvict guest, _⟩ => guest.vmName = vmName
  | _ => false

/-- The machine is destroyed. -/
def isEvicted (vmName : VmName) : Step Op.Res → Bool
  | ⟨.hotEvict guest, .ok _⟩ => guest.vmName = vmName
  | _ => false

/-- Its record is moved to idle. -/
def isJoining (vmName : VmName) : Step Op.Res → Bool
  | ⟨.hotSave (.copy base) guest, .ok _⟩ =>
    guest.state = .idle && base.state ≠ .idle && guest.vmName = vmName
  | _ => false

/-- The store kept its record. -/
def isRemovalRefused (vmName : VmName) : Step Op.Res → Bool
  | ⟨.hotRemove removed, .error _⟩ => removed = vmName
  | _ => false

/-- All went well for the machine: the release was stored, the machine was reset,
no reason to drain it was read, and it was stored as idle. -/
def isRecycled : List (Step Op.Res) → Bool
  | ⟨.hotLoad _, _⟩ :: ⟨.unixTime, _⟩ :: ⟨.hotSave _ _, .ok _⟩ :: ⟨.hotReset _, .ok _⟩ ::
      ⟨.hotLoad _, _⟩ :: ⟨.unixTime, _⟩ :: ⟨.hotSave _ _, .ok _⟩ :: _ => true
  | _ => false

/-- **The release ended in the machine's destruction.** It was attempted; where it
succeeded the record is gone, and where it did not a listing still shows it;
and the machine did not join the pool again. -/
structure Destroyed (vmName : VmName) (steps : List (Step Op.Res)) (s : State) : Prop where
  attempted : steps.any (isEvicting vmName) = true
  gone : steps.any (isEvicted vmName) = true → s.hot.record vmName = none
  seen : steps.any (isEvicted vmName) = false → ∃ guest ∈ s.hot.loadAll, guest.vmName = vmName
  out : steps.any (isJoining vmName) = false

/-- The record a drain writes. -/
def HotGuest.drained (guest : HotGuest) (reason : HotDrainReason) (now : UInt64) : HotGuest :=
  { guest with state := .draining, updatedAtUnix := now, drainReason := some reason }

/-- The record a release writes. -/
def HotGuest.released (guest : HotGuest) (now : UInt64) : HotGuest :=
  { guest with
    state := .recycling, updatedAtUnix := now, claimedBy := none,
    jobsServed := saturatingAdd32 guest.jobsServed 1 }

variable {s s' s₁ s₂ s₃ : State} {t u : TaskId} {guest found : HotGuest} {reason : HotDrainReason}
variable {x : Allocation} {profile : Profile} {now : UInt64} {vmName : VmName}
variable {steps steps₁ steps₂ : List (Step Op.Res)}

/-- One quiet operation of a course. -/
theorem takes_quiet {α : Type} {b : α} (op : Op) {k : op.Res → Manager α} (ho : op.isQuiet = true)
    (h : manager.Takes t (Prog.perform op >>= k) s steps b s') : ∃ s₁ r rest, s₁.hot = s.hot ∧
      manager.Takes t (k r) s₁ rest b s' ∧ steps = ⟨op, r⟩ :: rest := by
  rw [Prog.perform_bind] at h
  obtain ⟨fresh, a, s₁, r, spawned, rest, hexec, h, hsteps⟩ := h
  exact ⟨s₁, r, rest, (still_of_exec ho hexec).hot, h, hsteps⟩

/-- One save of a course. -/
theorem takes_hotSave {α : Type} {b : α} {base : Base} {k : Except StoreError Unit → Manager α}
    (h : manager.Takes t (Prog.perform (.hotSave base found) >>= k) s steps b s') :
    ∃ s₁ rest, (s₁.hot = s.hot ∧ ∃ e, manager.Takes t (k (.error e)) s₁ rest b s' ∧
        steps = ⟨.hotSave base found, .error e⟩ :: rest) ∨
      (s.hot.save found = .ok s₁.hot ∧ manager.Takes t (k (.ok ())) s₁ rest b s' ∧
        steps = ⟨.hotSave base found, .ok ()⟩ :: rest) := by
  rw [Prog.perform_bind] at h
  obtain ⟨fresh, a, s₁, r, spawned, rest, hexec, h, rfl⟩ := h
  refine ⟨s₁, rest, ?_⟩
  simp only [manager, exec] at hexec
  split at hexec
  · rename_i hot hstored
    cases hexec
    refine .inr ⟨?_, h, rfl⟩
    unfold Answer.stored at hstored
    split at hstored
    · cases hstored
    · exact hstored
  · cases hexec
    exact .inl ⟨rfl, _, h, rfl⟩

/-- The course of a drain of a claim, and what it leaves of the pool. -/
theorem takes_ensureHotDrained (hstate : guest.state = .claimed)
    (hclaim : guest.claimedBy.isSome = true)
    (h : manager.Takes t (ensureHotDrained guest reason) s steps () s₁) :
    (steps.any isSaveRefused = true ∧ s₁.hot = s.hot) ∨ (steps.any isSaveRefused = false ∧
      ∃ now, s₁.hot.record guest.vmName = some (guest.drained reason now)) := by
  have hnot : guest.state ≠ .draining := by simp [hstate]
  simp only [ensureHotDrained, hnot, if_false] at h
  obtain ⟨s₂, now, rest, hhot, hrest, rfl⟩ := takes_quiet .unixTime rfl h
  have hmoved : guest.ensureState .draining now =
      .ok { guest with state := .draining, updatedAtUnix := now } :=
    HotGuest.ensureState_eq_ok.mpr ⟨by simp [hstate, HotState.canTransitionTo], rfl⟩
  have hsome : guest.claimedBy.isNone = false := by simpa using hclaim
  simp only [hmoved, hsome, Bool.false_eq_true, if_false] at hrest
  obtain ⟨s₃, rest, ⟨hsame, e, ⟨rfl, -, rfl⟩, rfl⟩ | ⟨hsave, ⟨rfl, -, rfl⟩, rfl⟩⟩ :=
    takes_hotSave hrest
  · exact .inl ⟨rfl, hsame.trans hhot⟩
  · exact .inr ⟨rfl, now, HotTable.record_save_self hsave⟩

/-- Neither a read nor a listing reports the record a drain of a claim writes. -/
theorem drained_unreadable (hs : s.hot.WellFormed) (hclaim : guest.claimedBy.isSome = true)
    (hr : s.hot.record guest.vmName = some (guest.drained reason now)) :
    (∀ found, s.hot.load guest.vmName ≠ .ok found) ∧
      ∀ g ∈ s.hot.loadAll, g.vmName ≠ guest.vmName := by
  have hinvalid : (guest.drained reason now).isValid ≠ true := by
    rw [Ne, HotGuest.isValid_iff]
    simp [HotGuest.drained, hclaim]
  constructor
  · rintro (_ | found) hload
    · rw [hs.load_eq_none, hr] at hload
      cases hload
    · obtain ⟨hfound, hvalid⟩ := hs.load_eq_some.mp hload
      cases hr.symm.trans hfound
      exact hinvalid hvalid
  · intro g hg hname
    obtain ⟨hrecord, hvalid⟩ := hs.mem_loadAll.mp hg
    rw [hname, hr] at hrecord
    cases hrecord
    exact hinvalid hvalid

/-- The machine has a record that a listing shows. -/
structure Visible (vmName : VmName) (s : State) : Prop where
  table : s.hot.WellFormed
  record : ∃ guest, s.hot.record vmName = some guest ∧ guest.isValid = true

theorem Visible.seen (h : Visible vmName s) : ∃ guest ∈ s.hot.loadAll, guest.vmName = vmName := by
  obtain ⟨guest, hrecord, hvalid⟩ := h.record
  have hname := h.table.vmName_of_record hrecord
  exact ⟨guest, h.table.mem_loadAll.mpr ⟨hname ▸ hrecord, hvalid⟩, hname⟩

theorem Visible.of_eq (h : Visible vmName s) (hot : s'.hot = s.hot) : Visible vmName s' :=
  ⟨hot ▸ h.table, hot ▸ h.record⟩

theorem Visible.saved (h : Visible vmName s) (hsave : s.hot.save found = .ok s'.hot)
    (hname : found.vmName = vmName) (hvalid : found.isValid = true) : Visible vmName s' :=
  ⟨h.table.save hsave, found, hname ▸ HotTable.record_save_self hsave, hvalid⟩

/-- What the end of a release has in common that destroys the machine. -/
structure Evicts (vmName : VmName) (steps : List (Step Op.Res)) (s : State) : Prop where
  read : steps.any (isRead vmName) = false
  destroyed : ∀ first : List (Step Op.Res), first.any (isEvicting vmName) = false →
    first.any (isJoining vmName) = false →
      (Destroyed vmName (first ++ steps) s ↔ steps.any (isRemovalRefused vmName) = false)

theorem not_any_isEvicted {first : List (Step Op.Res)} (h : first.any (isEvicting vmName) = false) :
    first.any (isEvicted vmName) = false := by
  rw [List.any_eq_false] at h ⊢
  intro step hstep
  have hnot := h step hstep
  unfold isEvicting at hnot
  unfold isEvicted
  split <;> simp_all

/-- An operation that does not concern the machine changes nothing. -/
theorem Destroyed.snoc {step : Step Op.Res} (hevicting : isEvicting vmName step = false)
    (hjoining : isJoining vmName step = false) (hhot : s'.hot = s.hot) :
    Destroyed vmName (steps ++ [step]) s' ↔ Destroyed vmName steps s := by
  have hevicted : [step].any (isEvicted vmName) = false :=
    not_any_isEvicted (by simpa using hevicting)
  have hevicting' : (steps ++ [step]).any (isEvicting vmName) = steps.any (isEvicting vmName) := by
    simp [hevicting]
  have hevicted' : (steps ++ [step]).any (isEvicted vmName) = steps.any (isEvicted vmName) := by
    rw [List.any_append, hevicted, Bool.or_false]
  have hjoining' : (steps ++ [step]).any (isJoining vmName) = steps.any (isJoining vmName) := by
    simp [hjoining]
  constructor
  · rintro ⟨hattempted, hgone, hseen, hout⟩
    rw [hevicting'] at hattempted
    rw [hevicted', hhot] at hgone hseen
    rw [hjoining'] at hout
    exact ⟨hattempted, hgone, hseen, hout⟩
  · rintro ⟨hattempted, hgone, hseen, hout⟩
    rw [← hevicting'] at hattempted
    rw [← hevicted', ← hhot] at hgone hseen
    rw [← hjoining'] at hout
    exact ⟨hattempted, hgone, hseen, hout⟩

theorem evicts_ensureHotEvicted (hname : found.vmName = vmName) (hvalid : found.isValid = true)
    (hs : Visible vmName s)
    (h : manager.Takes u (ensureHotEvicted found reason) s steps () s') :
      Evicts vmName steps s' := by
  subst hname
  obtain ⟨fresh, a, s₁, r, spawned, rest, hexec, h, rfl⟩ := h
  have hhot : s₁.hot = s.hot := by
    cases hexec
    split <;> rfl
  have hs₁ := hs.of_eq hhot
  cases r with
  | error e =>
    -- the machine is marked, and it still has a record
    have hleft : rest.any (isRead found.vmName) = false ∧ rest.any (isEvicted found.vmName) =
      false ∧
        rest.any (isJoining found.vmName) = false ∧
        rest.any (isRemovalRefused found.vmName) = false ∧ Visible found.vmName s' := by
      change manager.Takes u (ensureHotEvictionPending found reason) s₁ rest () s' at h
      unfold ensureHotEvictionPending at h
      split at h
      · obtain ⟨rfl, -, rfl⟩ := h
        exact ⟨rfl, rfl, rfl, rfl, hs₁⟩
      · obtain ⟨s₂, rest, ⟨hsame, e, ⟨rfl, -, rfl⟩, rfl⟩ | ⟨hsave, ⟨rfl, -, rfl⟩, rfl⟩⟩ :=
          takes_hotSave h
        · exact ⟨rfl, rfl, rfl, rfl, hs₁.of_eq hsame⟩
        · refine ⟨rfl, rfl, ?_, rfl, hs₁.saved hsave rfl hvalid⟩
          by_cases hidle : found.state = .idle <;> simp [isJoining, hidle]
    obtain ⟨hread, hevicted, hjoining, hremoval, hvisible⟩ := hleft
    refine ⟨by simpa [isRead] using hread, fun first hfirst hout => ?_⟩
    refine iff_of_true ⟨by simp [isEvicting], fun hdone => ?_, fun _ => hvisible.seen, ?_⟩ ?_
    · rw [List.any_append, not_any_isEvicted hfirst] at hdone
      simp [isEvicted, hevicted] at hdone
    · simp [hout, isJoining, hjoining]
    · simp [isRemovalRefused, hremoval]
  | ok _ =>
    obtain ⟨fresh, a, s₂, r, spawned, rest, hremove, ⟨rfl, -, rfl⟩, rfl⟩ := h
    refine ⟨rfl, fun first hfirst hout => ?_⟩
    have hdone : (first ++ (⟨.hotEvict found, .ok ()⟩ : Step Op.Res) ::
        [⟨.hotRemove found.vmName, r⟩]).any (isEvicted found.vmName) = true := by simp [isEvicted]
    simp only [manager, exec] at hremove
    split at hremove
    · cases hremove
      refine iff_of_false (fun hdestroyed => ?_) (by simp [isRemovalRefused])
      obtain ⟨guest, hrecord, -⟩ := hs₁.record
      cases hrecord.symm.trans (hdestroyed.gone hdone)
    · cases hremove
      refine iff_of_true ⟨by simp [isEvicting], fun _ => HotTable.record_remove_self,
        fun hnone => ?_, by simp [hout, isJoining]⟩ (by simp [isRemovalRefused])
      rw [hdone] at hnone
      cases hnone

theorem evicts_evictChosen (hname : found.vmName = vmName) (hvalid : found.isValid = true)
    (hs : Visible vmName s)
    (h : manager.Takes u (evictChosen found reason) s steps () s') : Evicts vmName steps s' := by
  obtain ⟨middle, _, s₁, last, hmiddle, hlast, rfl⟩ := Machine.Takes.of_bind h
  obtain ⟨fresh, a, s₂, r, spawned, rest, hexec, ⟨rfl, -, rfl⟩, rfl⟩ := hlast
  have hhot : s'.hot = s₁.hot := by
    cases hexec
    rfl
  have hevicts := evicts_ensureHotEvicted hname hvalid hs hmiddle
  refine ⟨by simpa [isRead] using hevicts.read, fun first hfirst hout => ?_⟩
  rw [← List.append_assoc, Destroyed.snoc rfl rfl hhot, hevicts.destroyed first hfirst hout]
  simp [isRemovalRefused]

/-- What is pending for a machine is read from its record. -/
theorem takes_hotDrainPending {pending : Option HotDrainReason}
    (h : manager.Takes u (hotDrainPending vmName) s steps pending s') :
    s'.hot = s.hot ∧ ∃ read, steps = [⟨.hotLoad vmName, read⟩] := by
  obtain ⟨s₁, read, rest, hhot, hrest, rfl⟩ := takes_quiet (.hotLoad vmName) rfl h
  rcases read with e | _ | found <;> obtain ⟨rfl, -, rfl⟩ := hrest <;> exact ⟨hhot, _, rfl⟩

/-- A release that cannot read its machine's record does nothing to the pool. -/
theorem takes_unreadable (horigin : x.origin.hotVmName = some guest.vmName)
    (hload : ∀ found, s.hot.load guest.vmName ≠ .ok found)
    (h : manager.Takes u (ensureHotReleased x profile) s steps () s') :
    steps.any (isEvicting guest.vmName) = false ∧ s'.hot = s.hot := by
  simp only [ensureHotReleased, horigin, ensureHotRecycled] at h
  obtain ⟨fresh, a, s₁, r, spawned, rest, hexec, h, rfl⟩ := h
  simp only [manager, exec, Option.some.injEq, Prod.mk.injEq] at hexec
  obtain ⟨rfl, rfl, -⟩ := hexec
  have herror : ∃ e, a.stored ((s.tick a.elapsed).hot.load guest.vmName) = .error e := by
    unfold Answer.stored
    split
    · exact ⟨_, rfl⟩
    · cases hread : (s.tick a.elapsed).hot.load guest.vmName with
      | ok found => exact absurd hread (hload found)
      | error e => exact ⟨e, rfl⟩
  obtain ⟨e, herror⟩ := herror
  rw [herror] at h ⊢
  obtain ⟨rfl, -, rfl⟩ := h
  exact ⟨rfl, rfl⟩

/-- A release that finds its claim in the record puts the machine back or
destroys it, and which one is up to the answers. -/
theorem takes_claimed (hs : s.hot.WellFormed) (hr : s.hot.record guest.vmName = some guest)
    (hvalid : guest.isValid = true) (hstate : guest.state = .claimed)
    (hclaim : guest.claimedBy = some x.id) (horigin : x.origin.hotVmName = some guest.vmName)
    (h : manager.Takes u (ensureHotReleased x profile) s steps () s') :
    Destroyed guest.vmName steps s' ↔ steps.any (isRead guest.vmName) = true ∧
      isRecycled steps = false ∧ steps.any (isRemovalRefused guest.vmName) = false := by
  have hvisible : Visible guest.vmName s := ⟨hs, guest, hr, hvalid⟩
  have hinrange := (HotGuest.isValid_iff.mp hvalid).1
  have hreleased : ∀ now, (guest.released now).isValid = true := fun now =>
    HotGuest.isValid_iff.mpr ⟨hinrange, by simp [HotGuest.released]⟩
  simp only [ensureHotReleased, horigin, ensureHotRecycled] at h
  obtain ⟨fresh, a, s₁, r, spawned, rest, hexec, h, rfl⟩ := h
  simp only [manager, exec, Option.some.injEq, Prod.mk.injEq] at hexec
  obtain ⟨rfl, rfl, -⟩ := hexec
  have hs₁ : Visible guest.vmName (s.tick a.elapsed) := hvisible.of_eq rfl
  obtain ⟨e, hread⟩ | hread : (∃ e, a.stored ((s.tick a.elapsed).hot.load guest.vmName) =
    .error e) ∨
      a.stored ((s.tick a.elapsed).hot.load guest.vmName) = .ok (some guest) := by
    unfold Answer.stored
    split
    · exact .inl ⟨_, rfl⟩
    · exact .inr (hs.load_eq_some.mpr ⟨hr, hvalid⟩)
  · rw [hread] at h ⊢
    obtain ⟨rfl, -, rfl⟩ := h
    exact iff_of_false (fun hdestroyed => by cases hdestroyed.attempted) (by simp [isRead])
  rw [hread] at h ⊢
  change manager.Takes u (if guest.claimedBy ≠ some x.id then _ else _) _ rest () s' at h
  rw [if_neg (not_not.mpr hclaim)] at h
  obtain ⟨s₂, now, rest, hhot, h₂, rfl⟩ := takes_quiet .unixTime rfl h
  have hs₂ := hs₁.of_eq hhot
  have hmoved : guest.ensureReleased now = .ok (guest.released now) :=
    HotGuest.ensureReleased_eq_ok.mpr ⟨hstate, rfl⟩
  simp only [hmoved] at h₂
  -- what the rest of the release does when it ends in the machine's destruction
  have hend : ∀ first last, Evicts guest.vmName last s' →
      first.any (isEvicting guest.vmName) = false → first.any (isJoining guest.vmName) = false →
      first.any (isRemovalRefused guest.vmName) = false → first.any (isRead guest.vmName) = true →
      isRecycled (first ++ last) = false →
      (Destroyed guest.vmName (first ++ last) s' ↔
        (first ++ last).any (isRead guest.vmName) = true ∧ isRecycled (first ++ last) = false ∧
          (first ++ last).any (isRemovalRefused guest.vmName) = false) := by
    intro first last hevicts hfirst hout hremoval hread hrecycled
    rw [hevicts.destroyed first hfirst hout]
    simp [hread, hrecycled, hremoval]
  obtain ⟨s₃, rest, ⟨hsame, e, h₃, rfl⟩ | ⟨hsave, h₃, rfl⟩⟩ := takes_hotSave h₂
  · have hevicts := evicts_ensureHotEvicted rfl (hreleased now) (hs₂.of_eq hsame) h₃
    exact hend [_, _, _] rest hevicts rfl rfl rfl (by simp [isRead]) rfl
  have hs₃ : Visible guest.vmName s₃ := hs₂.saved hsave rfl (hreleased now)
  change manager.Takes u (ensureHotGated (guest.released now) profile false) s₃ rest () s' at h₃
  unfold ensureHotGated at h₃
  split at h₃
  · obtain ⟨s₄, _, rest, hhot, h₄, rfl⟩ := takes_quiet (.note _) rfl h₃
    have hevicts := evicts_evictChosen rfl (hreleased now) (hs₃.of_eq hhot) h₄
    exact hend [_, _, _, _] rest hevicts rfl rfl rfl (by simp [isRead]) rfl
  obtain ⟨s₄, r, rest, hhot, h₄, rfl⟩ := takes_quiet (.hotReset _) rfl h₃
  have hs₄ := hs₃.of_eq hhot
  rcases r with e | _
  · obtain ⟨s₅, _, rest, hhot, h₅, rfl⟩ := takes_quiet (.note _) rfl h₄
    have hevicts := evicts_evictChosen rfl (hreleased now) (hs₄.of_eq hhot) h₅
    exact hend [_, _, _, _, _] rest hevicts rfl rfl rfl (by simp [isRead]) rfl
  obtain ⟨first, pending, s₅, rest, hpending, h₅, rfl⟩ := Machine.Takes.of_bind h₄
  obtain ⟨hhot, read, rfl⟩ := takes_hotDrainPending hpending
  have hs₅ := hs₄.of_eq hhot
  rcases pending with _ | reason
  · obtain ⟨s₆, now', rest, hhot, h₆, rfl⟩ := takes_quiet .unixTime rfl h₅
    have hs₆ := hs₅.of_eq hhot
    have hidle : (guest.released now).ensureState .idle now' =
        .ok { guest.released now with state := .idle, updatedAtUnix := now' } :=
      HotGuest.ensureState_eq_ok.mpr ⟨rfl, rfl⟩
    simp only [hidle] at h₆
    obtain ⟨s₇, rest, ⟨hsame, e, h₇, rfl⟩ | ⟨hsave, h₇, rfl⟩⟩ := takes_hotSave h₆
    · obtain ⟨s₈, _, rest, hhot, h₈, rfl⟩ := takes_quiet (.note _) rfl h₇
      have hidleValid : ({ guest.released now with state := .idle, updatedAtUnix := now' } :
          HotGuest).isValid = true :=
        HotGuest.isValid_iff.mpr ⟨hinrange, by simp [HotGuest.released]⟩
      have hevicts := evicts_evictChosen rfl hidleValid ((hs₆.of_eq hsame).of_eq hhot) h₈
      exact hend [_, _, _, _, _, _, _, _] rest hevicts rfl rfl rfl (by simp [isRead]) rfl
    · refine iff_of_false (fun hdestroyed => ?_) (by simp [isRecycled])
      have hout := hdestroyed.out
      simp [isJoining, HotGuest.released] at hout
  · obtain ⟨s₆, _, rest, hhot, h₆, rfl⟩ := takes_quiet (.note _) rfl h₅
    have hevicts := evicts_evictChosen rfl (hreleased now) (hs₅.of_eq hhot) h₆
    exact hend [_, _, _, _, _, _] rest hevicts rfl rfl rfl (by simp [isRead]) rfl

/-- **A drained claim ends in the machine's destruction exactly where the drain was
not stored**, and the release then reads the claim as if there had been no
drain, does not get the machine back into the pool, and the store lets its
record go. A drain that was stored leaves a row no listing shows. -/
theorem drained_claim_survives (hr : s.hot.record guest.vmName = some guest)
    (hvalid : guest.isValid = true)
    (hstate : guest.state = .claimed) (hclaim : guest.claimedBy = some x.id)
    (horigin : x.origin.hotVmName = some guest.vmName)
    (hdrain : manager.Takes t (ensureHotDrained guest reason) s steps₁ () s₁)
    (hs₂ : s₂.hot.WellFormed)
    (hsame : s₂.hot.record guest.vmName = s₁.hot.record guest.vmName)
    (hrelease : manager.Takes u (ensureHotReleased x profile) s₂ steps₂ () s₃) :
    (Destroyed guest.vmName steps₂ s₃ ↔ steps₁.any isSaveRefused = true ∧
      steps₂.any (isRead guest.vmName) = true ∧ isRecycled steps₂ = false ∧
        steps₂.any (isRemovalRefused guest.vmName) = false) ∧
    (steps₁.any isSaveRefused = false → steps₂.any (isEvicting guest.vmName) = false ∧
      ∀ g ∈ s₃.hot.loadAll, g.vmName ≠ guest.vmName) := by
  have hsome : guest.claimedBy.isSome = true := by simp [hclaim]
  rcases takes_ensureHotDrained hstate hsome hdrain with ⟨hrefused, hhot⟩ | ⟨hstored, now, hrow⟩
  · rw [hhot, hr] at hsame
    have hiff := takes_claimed hs₂ hsame hvalid hstate hclaim horigin hrelease
    exact ⟨by rw [hiff, hrefused]; simp, fun hnot => by rw [hrefused] at hnot; cases hnot⟩
  · obtain ⟨hload, hlist⟩ := drained_unreadable hs₂ hsome (hsame.trans hrow)
    obtain ⟨hnone, hhot⟩ := takes_unreadable horigin hload hrelease
    refine ⟨iff_of_false (fun hdestroyed => ?_) (by simp [hstored]), fun _ => ⟨hnone, hhot ▸ hlist⟩⟩
    rw [hdestroyed.attempted] at hnone
    cases hnone

/-- A live allocation holds the claim of a stored record. -/
def hasWorkingClaim (w : Worlds) : Bool :=
  w.shared.hot.records.any fun guest => guest.isValid && (guest.state = .claimed &&
    w.shared.active.any fun x =>
      guest.claimedBy = some x.id && x.origin.hotVmName = some guest.vmName)

/-- The machine run 8 works on, drained by an operator and released by the
worker: however the two go, it is not destroyed unless the drain was refused. -/
theorem drained_claim_survives_working : ∃ w guest x, Run oneProcess w ∧
    w.shared.hot.record guest.vmName = some guest ∧ x ∈ w.shared.active ∧
    guest.claimedBy = some x.id ∧
    ∀ steps₁ s₁ s₂ steps₂ s₃,
      manager.Takes 4 (ensureHotDrained guest .operatorRequest) w.shared steps₁ () s₁ →
      s₂.hot.WellFormed → s₂.hot.record guest.vmName = s₁.hot.record guest.vmName →
      manager.Takes 3 (ensureHotReleased x sampleProfile) s₂ steps₂ () s₃ →
        Destroyed guest.vmName steps₂ s₃ → steps₁.any isSaveRefused = true := by
  obtain ⟨w, hw, hcheck⟩ : ∃ w, Run oneProcess w ∧ hasWorkingClaim w = true :=
    exists_run sampleState_started
      (firstJob ++ firstRelease ++ secondClaim ++ turns 3 8 { flag := true }) (by decide +kernel)
  simp only [hasWorkingClaim, List.any_eq_true, Bool.and_eq_true, decide_eq_true_eq] at hcheck
  obtain ⟨guest, hguest, hvalid, hstate, x, hx, hclaim, horigin⟩ := hcheck
  have hr := hw.inv.hot.mem_records.mp hguest
  refine ⟨w, guest, x, hw, hr, hx, hclaim,
    fun steps₁ s₁ s₂ steps₂ s₃ hdrain hs₂ hsame hrelease => ?_⟩
  exact fun hdestroyed => ((drained_claim_survives hr hvalid hstate hclaim horigin hdrain hs₂ hsame
    hrelease).1.mp hdestroyed).1

/-! ## A machine nobody sees

An operator drains the machine of run 7 while run 8 works on it. Run 8 ends,
and the bounds of the pool are applied. The machine still runs, its row is
still there, and no listing shows it. -/

/-- Run 8 works, an operator drains its machine, run 8 ends. -/
def drainsWorking : List Event :=
  .env (.host (pressedHost.take 1)) :: secondClaim ++ turns 3 8 { flag := true } ++ drainOfClaim ++
    turns 3 20 {}

/-- **A drained claim is neither destroyed nor seen again.** -/
theorem drained_claim_lost : ∃ w, Run oneProcess w ∧ w.shared.active = [] ∧
    w.shared.hot.length = 1 ∧ w.shared.hot.loadAll = [] ∧
    w.shared.host.map (·.name) = [sampleMachine.value] := by
  obtain ⟨w, hw, hcheck⟩ : ∃ w, Run oneProcess w ∧ (w.shared.active = [] ∧
      w.shared.hot.length = 1 ∧ w.shared.hot.loadAll = [] ∧
      w.shared.host.map (·.name) = [sampleMachine.value] : Bool) = true :=
    exists_run sampleState_started
      (firstJob ++ firstRelease ++ drainsWorking ++ (.start .sweep :: turns 5 5 {}))
      (by decide +kernel)
  exact ⟨w, hw, of_decide_eq_true hcheck⟩

end FlanForge
