import FlanForge.Manager.Active
import FlanForge.Runs.Readable

/-!
# The names of cloned guests

A guest bears the name of its run attempt, and a guest that joins the pool
keeps it. The clone step first removes whatever sits under the name. What
keeps it from removing a machine of the pool is only that the attempt has
left none there: every machine of the pool was left by an admitted
allocation of its name, so a name no retaining allocation ever had is free.
-/

namespace FlanForge

/-- No allocation that was to leave its guest to the pool ever had the name,
and no live guest has it. -/
def hasFreshName (s : State) (a : Allocation) : Bool :=
  s.history.admitted.all (fun b => !b.isRetaining || b.vmName ≠ a.vmName) &&
    s.active.all fun b => b.origin ≠ .cloned || b.vmName ≠ a.vmName

/-- Every clone is admitted under a fresh name. -/
def freshNames : ManagerRegime where
  call s _ op _ :=
    match op with
    | .commit a _ _ => a.origin ≠ .cloned || hasFreshName s a
    | _ => true
  start _ _ := true
  env _ _ := true
  reboot _ := true

variable {w : Worlds} {t : TaskId} {s s' : State} {a b : Allocation} {guest : HotGuest}
variable {id : AllocationId} {spawned : Option Kind} {vmName : VmName}

theorem hasFreshName_iff : hasFreshName s a = true ↔
    (∀ b ∈ s.history.admitted, b.isRetaining = true → b.vmName ≠ a.vmName) ∧
      ∀ b ∈ s.active, b.origin = .cloned → b.vmName ≠ a.vmName := by
  simp [hasFreshName, or_iff_not_imp_left]

/-! ## Whose machines the pool holds -/

/-- Every machine that was ever in the pool was left by an admitted allocation
of its name. -/
def LeftByAdmitted (s : State) : Prop :=
  ∀ p ∈ s.history.pooled, ∃ b ∈ s.history.admitted, b.isRetaining = true ∧ b.vmName = p.vmName

/-- The record of a handed-over guest bears the allocation's name. -/
theorem vmName_of_retainedRecord {lane : HotLane} {now : UInt64}
    (h : retainedRecord a lane now = some guest) :
    guest.vmName = a.vmName ∧ guest.profile = a.request.profile ∧ guest.lane = lane := by
  unfold retainedRecord at h
  split at h
  · cases h
    exact ⟨rfl, rfl, rfl⟩
  · cases h

/-- A hand-over is of an admitted, retaining allocation's guest. -/
theorem HandsOver.admitted (h : HandsOver t s id guest) :
    ∃ b ∈ s.history.admitted, b.isRetaining = true ∧ b.vmName = guest.vmName ∧ b.id = id := by
  obtain ⟨x, lane, now, -, hid, -, hx, hcreated, hlane, horigin, -, hguest⟩ := h
  obtain ⟨b, hb, hsame⟩ := hx.admitted hcreated
  refine ⟨b, hb, ?_, ?_, ?_⟩
  · simp [Allocation.isRetaining, ← hsame.hotLane, ← hsame.origin, hlane, horigin]
  · rw [(vmName_of_retainedRecord hguest).1, hsame.vmName]
  · rw [← hsame.id, hid]

theorem leftByAdmitted_of_run {G : ManagerRegime} (hw : Run G w) : LeftByAdmitted w.shared := by
  refine Run.invariant (J := LeftByAdmitted) ?_ ?_ (fun _ _ h => h) ?_ (fun _ _ h _ => h) hw
  · intro s hs p hp
    simp [hs.history, History.initial] at hp
  · intro w t fresh op a s' spawned _ hJ hspec _ _ he p hp
    have hgrow : w.shared.history.admitted ⊆ s'.history.admitted := by
      rcases he.admitted_cases with ⟨h, -⟩ | ⟨a, _, _, -, h, -⟩ <;> simp [h]
    rcases he.pooled_cases with h | ⟨id, guest, rfl, h⟩
    · rw [h] at hp
      exact (hJ p hp).imp fun b hb => ⟨hgrow hb.1, hb.2⟩
    · rw [h, List.mem_cons] at hp
      rcases hp with rfl | hp
      · obtain ⟨b, hb, hretaining, hname, -⟩ := HandsOver.admitted hspec
        exact ⟨b, hgrow hb, hretaining, hname⟩
      · exact (hJ p hp).imp fun b hb => ⟨hgrow hb.1, hb.2⟩
  · intro s e s' hJ _ henv
    rcases henv.config with ⟨-, h⟩ | ⟨config, -, -, -, h⟩ <;> unfold LeftByAdmitted <;> rw [h]
    · exact hJ
    · exact hJ

/-! ## While the guest is cloned -/

/-- The guests of the current process have names of their own. -/
structure OwnNames (s : State) : Prop where
  /-- A new process has admitted nothing before it serves. -/
  recovering : s.isServing = false → s.history.current = []
  /-- A machine of the pool under a live guest's name is that guest. -/
  built : ∀ a ∈ s.active, a.origin = .cloned → a.id ∈ s.history.current →
    ∀ p ∈ s.history.pooled, p.vmName = a.vmName → p.builder = some a.id
  distinct : ∀ a ∈ s.active, a.origin = .cloned → a.id ∈ s.history.current →
    ∀ b ∈ s.active, b.origin = .cloned → b.vmName = a.vmName → b.id = a.id

/-- A live allocation the current process has admitted was admitted before the
operation. -/
theorem mem_current_of_effect {fresh : TaskId} {op : Op} (hspec : OpSpec t s op)
    (he : Effect t fresh s op s' spawned) (ha : a ∈ s.active) (hid : a.id ∈ s'.history.current) :
    a.id ∈ s.history.current := by
  rcases he.admitted_cases with ⟨-, h⟩ | ⟨b, profile, seen, rfl, -, h⟩
  · rwa [h] at hid
  · rw [h, List.mem_cons] at hid
    obtain ⟨e, hmem, rfl⟩ := State.mem_held.mp (State.mem_active.mp ha).1
    exact hid.resolve_left (CommitSpec.unused hspec e hmem)

/-- The task that hands a guest over drives a live clone of that name. -/
theorem HandsOver.active (h : HandsOver t s id guest) :
    ∃ x ∈ s.active, x.id = id ∧ x.origin = .cloned ∧ x.vmName = guest.vmName := by
  obtain ⟨x, lane, now, hdrives, hid, hactive, -, -, -, horigin, -, hguest⟩ := h
  have hx := State.mem_held_of_allocation? (hdrives.entry hactive)
  exact ⟨x, State.mem_active.mpr ⟨hx.1, hactive⟩, hid, horigin,
    (vmName_of_retainedRecord hguest).1.symm⟩

theorem OwnNames.step {fresh : TaskId} {op : Op} {ans : Answer} (hs : Inv s)
    (hleft : LeftByAdmitted s) (hJ : OwnNames s) (hspec : OpSpec t s op)
    (hcall : freshNames.call s t op ans = true) (he : Effect t fresh s op s' spawned) :
    OwnNames s' := by
  have hactive := he.active hs hspec
  have hname : ∀ a profile seen, op = .commit a profile seen → a.origin = .cloned →
      hasFreshName s a = true := by
    rintro a profile seen rfl horigin
    simpa [freshNames, horigin] using hcall
  have hloads : s.isServing = false → ∀ allocations, op = .loadEntries allocations →
      ∀ id, id ∉ s'.history.current := by
    rintro hserving allocations rfl id hid
    rcases he.admitted_cases with ⟨-, h⟩ | ⟨_, _, _, hop, -⟩
    · rw [h, hJ.recovering hserving] at hid
      cases hid
    · cases hop
  refine ⟨fun hserving => ?_, ?_, ?_⟩
  · have hserving : s.isServing = false := by
      rcases he.isServing_cases with h | ⟨-, h⟩
      · rwa [h] at hserving
      · rw [h] at hserving
        cases hserving
    rcases he.admitted_cases with ⟨-, h⟩ | ⟨a, profile, seen, rfl, -⟩
    · rw [h, hJ.recovering hserving]
    · rw [CommitSpec.serving hspec] at hserving
      cases hserving
  · intro a ha horigin hid p hp hpname
    rcases hactive.mem ha with ⟨x, hx, hsame⟩ | ⟨profile, seen, rfl⟩ | ⟨hserving, _, hop, -⟩
    · rw [hsame.id] at hid ⊢
      rw [hsame.origin] at horigin
      rw [hsame.vmName] at hpname
      have hcurrent := mem_current_of_effect hspec he hx hid
      rcases he.pooled_cases with h | ⟨id, guest, rfl, h⟩
      · exact hJ.built x hx horigin hcurrent p (h ▸ hp) hpname
      · rw [h, List.mem_cons] at hp
        rcases hp with rfl | hp
        · -- the guest that is handed over now is the only live one of its name
          obtain ⟨y, hy, hyid, hyorigin, hyname⟩ := HandsOver.active hspec
          have := hJ.distinct x hx horigin hcurrent y hy hyorigin (hyname.trans hpname)
          exact congrArg some (hyid.symm.trans this)
        · exact hJ.built x hx horigin hcurrent p hp hpname
    · have hp : p ∈ s.history.pooled := by
        rcases he.pooled_cases with h | ⟨_, _, hop, -⟩
        · exact h ▸ hp
        · cases hop
      -- a pooled machine has the name of an admitted allocation, which is not fresh
      obtain ⟨b, hb, hretaining, hbname⟩ := hleft p hp
      have hfresh := (hasFreshName_iff.mp (hname a profile seen rfl horigin)).1 b hb hretaining
      exact absurd (hbname.trans hpname) hfresh
    · exact absurd hid (hloads hserving _ hop a.id)
  · intro a ha horigin hid b hb hborigin heq
    rcases hactive.mem ha with ⟨x, hx, hsame⟩ | ⟨profile, seen, rfl⟩ | ⟨hserving, _, hop, -⟩
    · have hcurrent := mem_current_of_effect hspec he hx (hsame.id ▸ hid)
      rw [hsame.origin] at horigin
      rcases hactive.mem hb with ⟨y, hy, hsame'⟩ | ⟨profile, seen, rfl⟩ | ⟨hserving, _, hop, -⟩
      · rw [hsame.id, hsame'.id]
        exact hJ.distinct x hx horigin hcurrent y hy (hsame'.origin ▸ hborigin)
          (by rw [← hsame.vmName, ← hsame'.vmName, heq])
      · have hfresh := (hasFreshName_iff.mp (hname b profile seen rfl hborigin)).2 x hx horigin
        exact absurd (by rw [← hsame.vmName, heq]) hfresh
      · exact absurd hid (hloads hserving _ hop a.id)
    · rcases hactive.mem hb with ⟨y, hy, hsame'⟩ | ⟨profile', seen', hop⟩ | ⟨hserving, _, hop, -⟩
      · have hfresh := (hasFreshName_iff.mp (hname a profile seen rfl horigin)).2 y hy
          (hsame'.origin ▸ hborigin)
        exact absurd (by rw [← hsame'.vmName, heq]) hfresh
      · cases hop
        rfl
      · cases hop
    · exact absurd hid (hloads hserving _ hop a.id)

theorem ownNames_of_run (hw : Run freshNames w) : OwnNames w.shared := by
  refine Run.invariant (J := OwnNames) ?_ ?_
    (fun _ _ h => ⟨h.recovering, h.built, h.distinct⟩) ?_ ?_ hw
  · intro s hs
    refine ⟨fun _ => by simp [hs.history, History.initial], ?_, ?_⟩ <;>
      simp [State.active, activeAllocations, hs.entries]
  · intro w t fresh op ans s' spawned hw hJ hspec _ hcall he
    exact hJ.step hw.inv (leftByAdmitted_of_run hw) hspec hcall he
  · intro s e s' hJ _ henv
    have hactive := State.active_congr henv.held
    rcases henv.config with ⟨-, h⟩ | ⟨config, -, -, -, h⟩
    · exact ⟨by rw [henv.isServing, h]; exact hJ.recovering, by rw [hactive, h]; exact hJ.built,
        by rw [hactive, h]; exact hJ.distinct⟩
    · exact ⟨by rw [henv.isServing, h]; exact hJ.recovering, by rw [hactive, h]; exact hJ.built,
        by rw [hactive, h]; exact hJ.distinct⟩
  · intro t s _ _
    exact ⟨fun _ => rfl, (fun a ha => by cases ha), (fun a ha => by cases ha)⟩

/-! ## The clone step -/

/-- The machine of a stored record was once in the pool. -/
theorem exists_pooled_of_record (hs : Inv s) (h : s.hot.record vmName = some guest) :
    ∃ p ∈ s.history.pooled, p.vmName = vmName := by
  obtain ⟨builder, hp⟩ := hs.pooled vmName guest h
  exact ⟨_, hp, hs.hot.vmName_of_record h⟩

/-- The machine an allocation reuses was once in the pool. -/
theorem exists_pooled_of_origin (hs : Inv s) (hb : b ∈ s.active)
    (h : b.origin.hotVmName = some vmName) : ∃ p ∈ s.history.pooled, p.vmName = vmName := by
  obtain ⟨p, hp, hname, -⟩ := (hs.held b (State.mem_active.mp hb).1).reuse vmName h
  exact ⟨p, hp, hname⟩

/-- A name nothing in the pool ever had is neither a record's nor an origin's. -/
theorem spares_of_unpooled (vmName : VmName) (hs : Inv s)
    (h : ∀ p ∈ s.history.pooled, p.vmName ≠ vmName) :
    s.hot.record vmName = none ∧ ∀ b ∈ s.active, b.origin.hotVmName ≠ some vmName := by
  constructor
  · cases hr : s.hot.record vmName with
    | none => rfl
    | some guest =>
      obtain ⟨p, hp, hname⟩ := exists_pooled_of_record hs hr
      exact absurd hname (h p hp)
  · intro b hb horigin
    obtain ⟨p, hp, hname⟩ := exists_pooled_of_origin hs hb horigin
    exact h p hp hname

/-- **A clone under a fresh name destroys nothing.** An allocation that is
admitted under a fresh name has neither the name of a record nor that of a
machine a live allocation reuses; and where every clone is admitted so, no
clone step removes a machine of the pool or of another live allocation. -/
theorem clone_spares_others (w : Worlds) :
    (∀ t a profile seen, Run .free w → w.pending t = some (.commit a profile seen) →
      a.origin = .cloned → hasFreshName w.shared a = true →
      w.shared.hot.record a.vmName = none ∧
        ∀ b ∈ w.shared.active, b.origin.hotVmName ≠ some a.vmName) ∧
    (∀ t a, Run freshNames w → w.pending t = some (.cloneGuest a) →
      w.shared.hot.record a.vmName = none ∧
        ∀ b ∈ w.shared.active, b.held = a.vmName → b.id = a.id) := by
  constructor
  · intro t a profile seen hw _ _ hfresh
    refine spares_of_unpooled _ hw.inv fun p hp hname => ?_
    obtain ⟨b, hb, hretaining, hbname⟩ := leftByAdmitted_of_run hw p hp
    exact (hasFreshName_iff.mp hfresh).1 b hb hretaining (hbname.trans hname)
  · intro t a hw hp
    obtain ⟨⟨x, hdrives, hactive, hsame⟩, horigin, hcurrent, hunpooled⟩ : CloneSpec t w.shared a :=
      hw.spec hp
    have hx := State.mem_held_of_allocation? (hdrives.entry hactive)
    have hxactive : x ∈ w.shared.active := State.mem_active.mpr ⟨hx.1, hactive⟩
    have hown := ownNames_of_run hw
    have hxorigin : x.origin = .cloned := hsame.origin.trans horigin
    have hxcurrent : x.id ∈ w.shared.history.current := hsame.id ▸ hcurrent
    obtain ⟨hrecord, horigins⟩ := spares_of_unpooled a.vmName hw.inv fun p hp hname =>
      hunpooled p hp (by
        rw [hown.built x hxactive hxorigin hxcurrent p hp (hname.trans hsame.vmName.symm),
          hsame.id])
    refine ⟨hrecord, fun b hb hheld => ?_⟩
    cases hb' : b.origin with
    | cloned =>
      rw [Allocation.held, hb'] at hheld
      rw [← hsame.id]
      exact hown.distinct x hxactive hxorigin hxcurrent b hb hb' (hheld.trans hsame.vmName.symm)
    | hotReuse vmName jobs booted =>
      rw [Allocation.held, hb'] at hheld
      exact absurd (by rw [hb', ← hheld]; rfl) (horigins b hb)

/-- The task is about to commit a clone under a fresh name. -/
def commitsFresh (t : TaskId) (w : Worlds) : Bool :=
  match w.pending t with
  | some (.commit a _ _) => a.origin = .cloned && hasFreshName w.shared a
  | _ => false

/-- The task is about to clone a guest. -/
def clones (t : TaskId) (w : Worlds) : Bool :=
  match w.pending t with
  | some (.cloneGuest _) => true
  | _ => false

/-- A run is created without `hot`, as task 2; its worker, task 3, is about to
clone. -/
def coldJob (runId : UInt64) (text : String) : List Event :=
  .start (.create (sampleBody runId (.flag false)) (sampleClaims text)) ::
    turns 2 16 { id := some secondId } ++ turns 3 1 { count := 1 } ++ turns 3 1 { step := .clone }

/-- The machine of run 7 waits in the pool. -/
def hasPooledFirst (w : Worlds) : Bool :=
  (w.shared.hot.record sampleMachine).any (·.state = .idle)

/-- Run 8 beside the pool machine of run 7: its commit and its clone. -/
theorem clone_spares_others_second :
    (∃ w t a profile seen, Run .free w ∧ w.pending t = some (.commit a profile seen) ∧
      hasPooledFirst w = true ∧ w.shared.hot.record a.vmName = none) ∧
    ∃ w t a, Run freshNames w ∧ w.pending t = some (.cloneGuest a) ∧
      hasPooledFirst w = true ∧ w.shared.hot.record a.vmName = none := by
  constructor
  · obtain ⟨w, hw, hcheck⟩ : ∃ w, Run .free w ∧ (commitsFresh 2 w && hasPooledFirst w) = true :=
      exists_run sampleState_started (firstJob ++ firstRelease ++ (coldJob 8 "8").take 16)
        (by decide +kernel)
    obtain ⟨hcommits, hpooled⟩ := Bool.and_eq_true_iff.mp hcheck
    unfold commitsFresh at hcommits
    split at hcommits
    · rename_i a profile seen hp
      obtain ⟨horigin, hfresh⟩ := Bool.and_eq_true_iff.mp hcommits
      exact ⟨w, 2, a, profile, seen, hw, hp, hpooled,
        ((clone_spares_others w).1 2 a profile seen hw hp (of_decide_eq_true horigin) hfresh).1⟩
    · cases hcommits
  · obtain ⟨w, hw, hcheck⟩ : ∃ w, Run freshNames w ∧ (clones 3 w && hasPooledFirst w) = true :=
      exists_run sampleState_started (firstJob ++ firstRelease ++ coldJob 8 "8") (by decide +kernel)
    obtain ⟨hclones, hpooled⟩ := Bool.and_eq_true_iff.mp hcheck
    unfold clones at hclones
    split at hclones
    · rename_i a hp
      exact ⟨w, 3, a, hw, hp, hpooled, ((clone_spares_others w).2 3 a hw hp).1⟩
    · cases hclones

/-- The task is about to clone over an idle machine of the pool. -/
def clonesOverPool (t : TaskId) (w : Worlds) : Bool :=
  match w.pending t with
  | some (.cloneGuest a) =>
    w.shared.hot.loadAll.any fun guest => guest.state = .idle && guest.vmName = a.vmName
  | _ => false

/-- **An attempt that is created again clones over the machine it left in the
pool.** -/
theorem clone_over_pool_machine : ∃ w t a guest, Run .free w ∧
    w.pending t = some (.cloneGuest a) ∧ guest ∈ w.shared.hot.loadAll ∧ guest.state = .idle ∧
      guest.vmName = a.vmName := by
  obtain ⟨w, hw, hcheck⟩ : ∃ w, Run .free w ∧ clonesOverPool 3 w = true :=
    exists_run sampleState_started (firstJob ++ firstRelease ++ coldJob 7 "7") (by decide +kernel)
  unfold clonesOverPool at hcheck
  split at hcheck
  · rename_i a hp
    obtain ⟨guest, hguest, hsame⟩ := List.any_eq_true.mp hcheck
    simp only [Bool.and_eq_true, decide_eq_true_eq] at hsame
    exact ⟨w, 3, a, guest, hw, hp, hguest, hsame⟩
  · cases hcheck

end FlanForge
