import FlanForge.Manager.Surplus
import FlanForge.Runs.Basic

/-!
# A bounds pass over a mixed lane

What a bounds pass does to the idle machines inside their bounds, when no
other task moves and every call is answered; and a lane of three idle
machines, two of them worn out, that loses all three and has one destroyed
twice.
-/

namespace FlanForge

open Machine (Performs Step)

/-- What a reading of the clock answered. -/
def clockReading : Step Op.Res → Option UInt64
  | ⟨.unixTime, now⟩ => some now
  | _ => none

/-- **A pass that nobody disturbs spares the machines inside their bounds exactly
where no lane is mixed** and no idle record is marked to go. That is from any
pool and under any configuration that keeps one, with every call answered: the
pass then drains a machine inside its bounds only as its lane's surplus of
such machines, the least recently updated first. The bounds are those at its
first reading of the clock. -/
theorem undisturbed_pass_spares (reads : PassReads) (t : TaskId) (s : State)
    (hs : s.hot.WellFormed) (hlock : s.lock = none) (hpool : 0 < s.config.runtime.maxHotVms) :
    manager.Performs (granted reads) t ensureHotBounded s fun steps _ s' =>
      ∃ now, steps.findSome? clockReading = some now ∧
        (Spares s.config reads s.images now s.hot.loadAll (writes steps) s'.hot ↔
          Unmixed s.config reads s.images now (liveHotNames s.entries) s.hot.loadAll) := by
  have hstart : Tracked s (writes []) s := .refl hs
  refine (Performs.track (J := fun steps s' => Tracked s (writes steps) s') ?_ hstart
    (performs_ensureHotBounded reads t hs hlock hpool)).mono ?_
  · intro before fresh o a s₁ s₂ r spawned h hexec
    rw [writes_append]
    exact h.step hexec
  rintro steps - s' ⟨⟨now, rest, rfl, hwrites⟩, htracked⟩
  refine ⟨now, rfl, ?_⟩
  have hall : writes ([⟨.currentConfig, s.config⟩, ⟨.hotLoadAll, .ok s.hot.loadAll⟩,
      ⟨.unixTime, now⟩] ++ rest) = passWrites s.config reads s.images now
        (liveHotNames s.entries) s.hot.loadAll := hwrites
  rw [List.nil_append, hall] at htracked
  rw [hall]
  exact ⟨fun hspares => hspares.unmixed hs htracked, fun hunmixed => hunmixed.spares hs htracked⟩

/-! ## Two pools -/

/-- An idle machine of the small installation. -/
def idleGuest (vmName : VmName) (updatedAtUnix : UInt64) (jobsServed : UInt32) : HotGuest :=
  { HotGuest.new vmName sampleProfileName .protectedLane ⟨2, 4096, 16384⟩
      ⟨sampleProfile.template, .template, none, none⟩ none none 1 with
    state := .idle, updatedAtUnix := updatedAtUnix, jobsServed := jobsServed }

/-- The table these records were saved to. -/
def tableOf (guests : List HotGuest) : HotTable :=
  guests.foldl (fun table guest => (table.save guest).toOption.getD table) []

theorem wellFormed_tableOf (guests : List HotGuest) : (tableOf guests).WellFormed := by
  have hfold : ∀ table : HotTable, table.WellFormed → (guests.foldl
      (fun table guest => (table.save guest).toOption.getD table) table).WellFormed := by
    induction guests with
    | nil => exact fun _ h => h
    | cons guest guests ih =>
      intro table h
      refine ih _ ?_
      simp only
      cases hsave : table.save guest with
      | ok saved => exact h.save hsave
      | error e => exact h
  exact hfold [] HotTable.wellFormed_nil

/-- The small installation with a larger pool. -/
def poolOf (guests : List HotGuest) : State :=
  { sampleState with
    config := { sampleConfig with
      runtime := { sampleConfig.runtime with maxRunningVms := 4, maxHotVms := 3 } }
    hot := tableOf guests }

def nothingRead : PassReads := ⟨fun _ => none, fun _ => false⟩

/-- Every call succeeds, at second 100. -/
def atHundred (_ : Op) : Answer := { now := 100 }

def wornStale : HotGuest := idleGuest ⟨"ff-p-1-1", by decide⟩ 10 2
def insideGuest : HotGuest := idleGuest ⟨"ff-p-2-1", by decide⟩ 20 1
def wornFresh : HotGuest := idleGuest ⟨"ff-p-3-1", by decide⟩ 30 2

/-- **A mixed lane.** One of three idle machines is inside its bounds, and the lane
keeps one; the pass drains it all the same. The stalest of the others is
destroyed twice, and its record is saved again after it was removed. -/
theorem mixed_lane_drained :
    let s := poolOf [wornStale, insideGuest, wornFresh]
    let course := manager.alone 0 1 atHundred ensureHotBounded s
    (∀ s o, granted nothingRead s o (atHundred o) = true) ∧
      (insideIdle s.config nothingRead s.images 100 s.hot.loadAll sampleProfileName
        .protectedLane) = [insideGuest] ∧
      (s.config.enabledHot sampleProfileName).map (·.maxIdle) = some 1 ∧
      (course.map fun c => c.1.findSome? clockReading) = some (some 100) ∧
      (course.map fun c => c.2.2.hot.loadAll) = some [] ∧
      (course.map fun c => writes c.1) = some
        [.saved wornStale.vmName .draining, .evicted wornStale.vmName, .removed wornStale.vmName,
          .saved wornFresh.vmName .draining, .evicted wornFresh.vmName, .removed wornFresh.vmName,
          .saved wornStale.vmName .draining, .evicted wornStale.vmName, .removed wornStale.vmName,
          .saved insideGuest.vmName .draining, .evicted insideGuest.vmName,
            .removed insideGuest.vmName] := by
  refine ⟨fun s o => by cases o <;> rfl, ?_⟩
  decide +kernel

/-- Two machines inside their bounds: the staler one goes. -/
theorem unmixed_lane_spared :
    let s := poolOf [idleGuest ⟨"ff-p-1-1", by decide⟩ 10 1, insideGuest]
    ∃ steps s', manager.alone 0 1 atHundred ensureHotBounded s = some (steps, (), s') ∧
      Spares s.config nothingRead s.images 100 s.hot.loadAll (writes steps) s'.hot := by
  intro s
  have hcourse : ((manager.alone 0 1 atHundred ensureHotBounded s).map
      fun c => c.1.findSome? clockReading) = some (some 100) := by decide +kernel
  obtain ⟨⟨steps, _, s'⟩, halone, hreading⟩ := Option.map_eq_some_iff.mp hcourse
  refine ⟨steps, s', halone, ?_⟩
  obtain ⟨now, hnow, hspares⟩ := (undisturbed_pass_spares nothingRead 0 s
    (wellFormed_tableOf _) rfl (by decide)).alone (fun s o => by cases o <;> rfl) halone
  cases hnow.symm.trans hreading
  have hinside : ∀ guest ∈ s.hot.loadAll,
      boundReason s.config nothingRead s.images 100 guest = none := by decide +kernel
  refine hspares.mpr ⟨fun name lane hot _ hmixed => ?_, by decide +kernel⟩
  obtain ⟨guest, hguest, -, hbound⟩ := hmixed
  exact absurd (hinside guest hguest) hbound

end FlanForge
