import FlanForge.Manager.Assertion

/-!
# The pool programs keep the discipline

One theorem for each program of `Manager.Pool`, by the rules of
`Manager.Assertion`: whatever a task knows when it calls it (`P`, a frame) it
knows afterwards, and the task has decided nothing it has not carried out.
What they establish on the way are the specifications of the writes and of
the evictions.
-/

namespace FlanForge

open Discipline At

variable {t : TaskId} {P : State → Prop} {c : Option VmName} {α : Type} {Q : α → State → Prop}
variable {guest : HotGuest} {reason : HotDrainReason} {vmName : VmName} {k : Unit → Manager α}
variable {name : ProfileName} {guests : List HotGuest} {f : HotGuest → Manager Unit}
variable {keep : HotGuest → Bool} {lane : HotLane} {config : Config} {profile : Profile}
variable {x : Allocation} {size : GuestSize}

/-! ## Known records -/

/-- What the hot table answers with is known. -/
theorem Known.of_record {s : State} (hs : Inv s) (hr : s.hot.record vmName = some guest)
    (hv : guest.isValid = true) : Known s.history guest ∧ guest.vmName = vmName := by
  obtain ⟨row, -, hrow⟩ := hs.hot.row_of_record hr
  exact ⟨⟨hv, exists_hotGuestToModel.mp ⟨row, hrow⟩, hs.pooled vmName guest hr⟩,
    hs.hot.vmName_of_record hr⟩

/-- A record made from a known one is known, unless a claimed one was drained. -/
theorem Known.of_rewrites {h : History} {s : State} {b : HotGuest} (hk : Known h b)
    (hr : Rewrites t s b guest) (hne : ¬ (b.state = .claimed ∧ guest.state = .draining)) :
    Known h guest := by
  obtain ⟨hstorable, -, hvalid⟩ := hk.rewrites hr
  obtain ⟨builder, hb⟩ := hk.pooled
  exact ⟨hvalid.mpr hne, hstorable, builder, by rwa [hr.pooled_eq builder]⟩

/-- Only an idle or a claimed record moves to `draining`. -/
theorem HotState.eq_of_canTransitionTo_draining {state : HotState} (hne : state ≠ .draining)
    (h : state.canTransitionTo .draining = true) : state = .idle ∨ state = .claimed := by
  cases state <;> simp_all [HotState.canTransitionTo]

theorem mem_surplusIdle {hot : HotConfig} (h : guest ∈ surplusIdle guests name lane hot) :
    guest ∈ guests := by
  have hmem := (List.mem_insertionSort _).mp (List.mem_of_mem_take h)
  exact List.mem_of_mem_filter hmem

/-- A finished allocation's own record is as valid as the allocation. -/
theorem retainedRecord_valid {h : History} {now : UInt64} (hx : Recorded h x)
    (hnow : now.toNat < 2 ^ 63) (hr : retainedRecord x lane now = some guest) :
    guest.isValid = true ∧ guest.isStorable = true ∧ guest.claimedBy = none := by
  have hvalid := hx.valid
  have hstorable := hx.storable
  unfold retainedRecord at hr
  split at hr
  · rename_i size source hsize hsource
    cases hr
    simp only [Allocation.isValid, hsize, hsource, Bool.and_eq_true, Option.all_some] at hvalid
    simp only [Allocation.isStorable, hsize, Bool.and_eq_true, Option.all_some,
      decide_eq_true_eq] at hstorable
    refine ⟨?_, ?_, rfl⟩
    · simp [HotGuest.isValid, HotGuest.validateClaim, HotGuest.new, HotState.isClaimBearing, hvalid]
    · simp only [HotGuest.isStorable, HotGuest.new, hstorable, hnow, decide_true, Bool.and_true]
  · cases hr

/-! ## Reads -/

variable (hP : Frame t P)
include hP

theorem At.unixTime {k : UInt64 → Manager α}
    (hk : ∀ now : UInt64, now.toNat < 2 ^ 63 → discipline.Triple t (At t P c) (k now) Q) :
    discipline.Triple t (At t P c) (.call .unixTime k) Q := by
  refine call (F := fun now _ => now.toNat < 2 ^ 63) hP rfl (fun _ _ _ => trivial) ?_
    fun now => assume (hk now)
  intro s fresh ans s' r spawned _ _ _ hexec
  simp only [exec] at hexec
  split_ifs at hexec with hnow
  cases hexec
  exact hnow

theorem At.currentConfig {k : Config → Manager α}
    (hk : ∀ config, discipline.Triple t
      (At t (fun s => P s ∧ config ∈ s.history.configs) c) (k config) Q) :
    discipline.Triple t (At t P c) (.call .currentConfig k) Q := by
  refine call (F := fun config s => config ∈ s.history.configs) hP rfl
    (fun _ _ _ => trivial) ?_ hk
  intro s fresh ans s' r spawned hs _ _ hexec
  cases hexec
  exact hs.config

/-- A record that is found is readable, and is the one under that name. -/
theorem At.hotLoad {k : Except StoreError (Option HotGuest) → Manager α}
    (hsome : ∀ guest, guest.vmName = vmName →
      discipline.Triple t (At t (fun s => P s ∧ Known s.history guest) c) (k (.ok (some guest))) Q)
    (hnone : discipline.Triple t (At t P c) (k (.ok none)) Q)
    (herror : ∀ e, discipline.Triple t (At t P c) (k (.error e)) Q) :
    discipline.Triple t (At t P c) (.call (.hotLoad vmName) k) Q := by
  refine call (F := fun r s => ∀ guest, r = .ok (some guest) →
    Known s.history guest ∧ guest.vmName = vmName) hP rfl (fun _ _ _ => trivial) ?_ ?_
  · intro s fresh ans s' r spawned hs _ _ hexec guest hr
    cases hexec
    unfold Answer.stored at hr
    split at hr
    · cases hr
    · obtain ⟨hrec, hvalid⟩ := hs.hot.load_eq_some.mp hr
      exact Known.of_record (s := s) hs hrec hvalid
  · rintro (e | (_ | guest))
    · exact weaken (herror e) fun _ h => h.1
    · exact weaken hnone fun _ h => h.1
    · exact fun s hs hA => hsome guest (hA.known.2 guest rfl).2 s hs
        ⟨⟨hA.known.1, (hA.known.2 guest rfl).1⟩, hA.alive, hA.choosing⟩

/-- The records that are listed are readable. -/
theorem At.hotLoadAll {k : Except StoreError (List HotGuest) → Manager α}
    (hok : ∀ guests, discipline.Triple t
      (At t (fun s => P s ∧ ∀ guest ∈ guests, Known s.history guest) c) (k (.ok guests)) Q)
    (herror : ∀ e, discipline.Triple t (At t P c) (k (.error e)) Q) :
    discipline.Triple t (At t P c) (.call .hotLoadAll k) Q := by
  refine call (F := fun r s => ∀ guests, r = .ok guests → ∀ guest ∈ guests,
    Known s.history guest) hP rfl (fun _ _ _ => trivial) ?_ ?_
  · intro s fresh ans s' r spawned hs _ hs' hexec guests hr guest hmem
    have hmove := (PoolMove.of_effect (exec_effect hexec) rfl).1
    cases hexec
    unfold Answer.stored at hr
    split at hr
    · cases hr
    · cases hr
      obtain ⟨hrec, hvalid⟩ := hs.hot.mem_loadAll.mp hmem
      exact (Known.of_record hs hrec hvalid).1.grow hmove.grows
  · rintro (e | guests)
    · exact weaken (herror e) fun _ h => h.1
    · exact weaken (hok guests) fun _ h => ⟨h.1, h.2 guests rfl⟩

/-! ## Marks -/

/-- A decision to destroy a machine. -/
theorem At.chose (hk : ∀ r, discipline.Triple t (At t P (some vmName)) (k r) Q) :
    discipline.Triple t (At t P none) (.call (.note (.chose vmName)) k) Q := by
  refine .call (stable hP) (opTriple (fun s _ hA => ⟨hA.alive, trivial⟩) ?_) hk
  intro s fresh ans s' r spawned _ hA _ hexec
  refine hA.move hP (PoolMove.of_note (exec_effect hexec)) fun v => ?_
  cases hexec
  have hv : (t, v) ∉ s.history.chosen := fun h => by simpa using (hA.choosing v).mp h
  simp [History.note, State.tick, hv, eq_comm]

/-- The decision is carried out. -/
theorem At.settled (hk : ∀ r, discipline.Triple t (At t P none) (k r) Q) :
    discipline.Triple t (At t P (some vmName)) (.call (.note (.settled vmName)) k) Q := by
  refine .call (stable hP) (opTriple (fun s _ hA => ⟨hA.alive, trivial⟩) ?_) hk
  intro s fresh ans s' r spawned _ hA _ hexec
  refine hA.move hP (PoolMove.of_note (exec_effect hexec)) fun v => ?_
  cases hexec
  have hv := (hA.choosing v).mp
  simp only [History.note, State.tick, List.mem_filter, reduceCtorEq, iff_false, not_and]
  intro hmem
  obtain rfl : vmName = v := Option.some.inj (hv hmem)
  simp

/-! ## Eviction -/

/-- The mark of a failed eviction is stamped on a known record. -/
theorem ensureHotEvictionPending_keeps (hg : ∀ s, P s → Known s.history guest) :
    discipline.Keeps t (At t P c) (ensureHotEvictionPending guest reason) := by
  unfold ensureHotEvictionPending
  split
  · exact ret hP fun _ h => h
  · exact skip hP rfl (fun s _ hA => ⟨hg s hA.known, .stamped reason⟩) fun _ =>
      ret hP fun _ h => h

/-- Destroying a machine, by a task that may. -/
theorem ensureHotEvicted_keeps (hg : ∀ s, P s → Known s.history guest)
    (hev : ∀ s, At t P c s → EvictSpec t s guest.vmName) :
    discipline.Keeps t (At t P c) (ensureHotEvicted guest reason) := by
  refine skip hP rfl (fun s _ hA => hev s hA) fun r => ?_
  cases r with
  | error e => exact ensureHotEvictionPending_keeps hP hg
  | ok _ => exact skip hP rfl (fun _ _ _ => trivial) fun _ => ret hP fun _ h => h

theorem hotDrainPending_keeps : discipline.Keeps t (At t P c) (hotDrainPending vmName) := by
  refine skip hP rfl (fun _ _ _ => trivial) fun r => ?_
  rcases r with e | (_ | guest) <;> exact ret hP fun _ h => h

theorem ensureHotForgotten_keeps : discipline.Keeps t (At t P c) (ensureHotForgotten guest) :=
  skip hP rfl (fun _ _ _ => trivial) fun _ => ret hP fun _ h => h

/-- A decided eviction is carried out. -/
theorem evictChosen_keeps (hv : guest.vmName = vmName) (hg : ∀ s, P s → Known s.history guest) :
    discipline.Triple t (At t P (some vmName)) (evictChosen guest reason) fun _ =>
      At t P none := by
  subst hv
  refine .bind (ensureHotEvicted_keeps hP hg fun s hA => ?_) fun _ =>
    settled hP fun _ => ret hP fun _ h => h
  exact .inl ((hA.choosing _).mpr rfl)

theorem chooseAndEvict_keeps (hg : ∀ s, P s → Known s.history guest) :
    discipline.Keeps t (At t P none) (chooseAndEvict guest reason) :=
  chose hP fun _ => evictChosen_keeps hP rfl hg

/-! ## Draining -/

/-- A drain, of whatever copy of a record. -/
theorem ensureHotDrained_keeps (hg : ∀ s, P s → Known s.history guest) :
    discipline.Keeps t (At t P none) (ensureHotDrained guest reason) := by
  simp only [ensureHotDrained, Prog.perform_bind]
  split
  · exact ret hP fun _ h => h
  · rename_i hstate
    refine unixTime hP fun now hnow => ?_
    split
    · exact ensureHotEvictionPending_keeps hP hg
    · rename_i moved hmoved
      obtain ⟨hedge, rfl⟩ := HotGuest.ensureState_eq_ok.mp hmoved
      have hsource := HotState.eq_of_canTransitionTo_draining hstate hedge
      split
      · -- nobody holds it: the drained copy is readable, and the machine goes now
        rename_i hnone
        refine chose hP fun _ => skip hP rfl
          (fun s _ hA => ⟨hg s hA.known, .drained reason now hnow hsource⟩) fun r => ?_
        cases r with
        | error e => exact settled hP fun _ => ret hP fun _ h => h
        | ok _ =>
          refine evictChosen_keeps hP rfl fun s hs => ?_
          have hk := hg s hs
          refine hk.of_rewrites (t := t) (s := s) (.drained reason now hnow hsource) fun hc => ?_
          have hclaim := (HotGuest.isValid_iff.mp hk.valid).2.mpr hc.1
          have hnone : guest.claimedBy = none := Option.isNone_iff_eq_none.mp hnone
          simp [hnone] at hclaim
      · exact skip hP rfl (fun s _ hA => ⟨hg s hA.known, .drained reason now hnow hsource⟩)
          fun _ => ret hP fun _ h => h

/-! ## Bounds -/

theorem promotedGeneration_keeps : discipline.Keeps t (At t P c) (promotedGeneration name) := by
  refine skip hP rfl (fun _ _ _ => trivial) fun r => ?_
  rcases r with e | (_ | record) <;> exact ret hP fun _ h => h

theorem hotClaimedNames_keeps : discipline.Keeps t (At t P c) hotClaimedNames :=
  skip hP rfl (fun _ _ _ => trivial) fun _ => ret hP fun _ h => h

section

variable (hg : ∀ s, P s → ∀ guest ∈ guests, Known s.history guest)
include hg

/-- A loop over known records. -/
theorem forEach_keeps
    (hf : ∀ guest, (∀ s, P s → Known s.history guest) →
      discipline.Keeps t (At t P none) (f guest)) :
    discipline.Keeps t (At t P none) (Prog.forEach guests f) :=
  .forEach (stable hP) fun guest hmem => hf guest fun s hs => hg s hs guest hmem

/-- The same over some of them. -/
theorem forEach_filter_keeps
    (hf : ∀ guest, (∀ s, P s → Known s.history guest) →
      discipline.Keeps t (At t P none) (f guest)) :
    discipline.Keeps t (At t P none) (Prog.forEach (guests.filter keep) f) :=
  forEach_keeps hP (fun s hs guest hmem => hg s hs guest (List.mem_of_mem_filter hmem)) hf

theorem ensureHotDrainsFinished_keeps :
    discipline.Keeps t (At t P none) (ensureHotDrainsFinished guests) :=
  .bind (hotClaimedNames_keeps hP) fun _ =>
    forEach_filter_keeps hP hg fun _ => chooseAndEvict_keeps hP

theorem ensureHotEvictionsRetried_keeps :
    discipline.Keeps t (At t P none) (ensureHotEvictionsRetried guests) :=
  .bind (hotClaimedNames_keeps hP) fun _ =>
    forEach_filter_keeps hP hg fun _ => chooseAndEvict_keeps hP

theorem ensureHotPoolDrained_keeps :
    discipline.Keeps t (At t P none) (ensureHotPoolDrained guests) :=
  .bind (forEach_filter_keeps hP hg fun _ => ensureHotDrained_keeps hP) fun _ =>
    .bind (ensureHotDrainsFinished_keeps hP hg) fun _ =>
      ensureHotEvictionsRetried_keeps hP hg

theorem ensureHotSurplusRetired_keeps :
    discipline.Keeps t (At t P none) (ensureHotSurplusRetired guests config) := by
  refine .forEach (stable hP) fun lane _ => ?_
  simp only
  split
  · exact ret hP fun _ h => h
  · exact forEach_keeps hP (fun s hs guest hmem => hg s hs guest (mem_surplusIdle hmem)) fun _ =>
      ensureHotDrained_keeps hP

end

theorem ensureGuestBounded_keeps {now : UInt64} (hg : ∀ s, P s → Known s.history guest) :
    discipline.Keeps t (At t P none) (ensureGuestBounded config now guest) := by
  simp only [ensureGuestBounded, Prog.perform_bind]
  split
  · exact ret hP fun _ h => h
  · split
    · refine skip hP rfl (fun _ _ _ => trivial) fun fingerprint => ?_
      refine .bind (promotedGeneration_keeps hP) fun generation => ?_
      split
      · exact ensureHotDrained_keeps hP hg
      · exact ret hP fun _ h => h
    · exact ensureHotDrained_keeps hP hg

/-- **The bounds pass.** -/
theorem ensureHotBounded_keeps : discipline.Keeps t (At t P none) ensureHotBounded := by
  simp only [ensureHotBounded, Prog.perform_bind]
  refine skip hP rfl (fun _ _ _ => trivial) fun config => ?_
  refine hotLoadAll hP (fun guests => ?_) fun e => ret hP fun _ h => h
  have hF := hP.and (Frame.knownAll guests)
  have hg : ∀ s, (P s ∧ ∀ guest ∈ guests, Known s.history guest) →
      ∀ guest ∈ guests, Known s.history guest := fun _ h => h.2
  refine forget (unixTime hF fun now _ => ?_)
  split
  · exact ensureHotPoolDrained_keeps hF hg
  · refine .bind (forEach_keeps hF hg fun _ => ensureGuestBounded_keeps hF) fun _ => ?_
    refine .bind (ensureHotSurplusRetired_keeps hF hg) fun _ => ?_
    refine .bind (ensureHotDrainsFinished_keeps hF hg) fun _ => ?_
    exact ensureHotEvictionsRetried_keeps hF hg

/-! ## Release -/

/-- The gate, for a record nobody claims. -/
theorem ensureHotGated_keeps {isAlreadyReset : Bool} (hg : ∀ s, P s → Known s.history guest)
    (hc : guest.claimedBy = none) :
    discipline.Keeps t (At t P none) (ensureHotGated guest profile isAlreadyReset) := by
  unfold ensureHotGated
  split
  · exact chooseAndEvict_keeps hP hg
  · have hreset : discipline.Keeps t (At t P none) (gateReset guest isAlreadyReset) := by
      unfold gateReset
      split
      · exact ret hP fun _ h => h
      · exact skip hP rfl (fun _ _ _ => trivial) fun _ => ret hP fun _ h => h
    refine .bind hreset fun reset => ?_
    cases reset with
    | error e => exact chooseAndEvict_keeps hP hg
    | ok _ =>
      refine .bind (hotDrainPending_keeps hP) fun pending => ?_
      cases pending with
      | some reason => exact chooseAndEvict_keeps hP hg
      | none =>
        simp only [Prog.perform_bind]
        refine unixTime hP fun now hnow => ?_
        split
        · exact chooseAndEvict_keeps hP hg
        · rename_i idle hidle
          have hjoin : ∀ s, Rewrites t s guest idle := fun s => .joined now idle hnow hc hidle
          refine skip hP rfl (fun s _ hA => ⟨hg s hA.known, hjoin s⟩) fun r => ?_
          cases r with
          | error e =>
            refine chooseAndEvict_keeps hP fun s hs => (hg s hs).of_rewrites (hjoin s) fun h => ?_
            obtain ⟨-, rfl⟩ := HotGuest.ensureState_eq_ok.mp hidle
            simp at h
          | ok _ => exact ensureHotBounded_keeps hP

/-- A reused machine is released by the task that drives its allocation. -/
theorem ensureHotRecycled_keeps (hx : ∀ s, P s → Drives t x s)
    (hactive : x.state.isTerminal = false) (horigin : x.origin.hotVmName = some vmName) :
    discipline.Keeps t (At t P none) (ensureHotRecycled x vmName profile) := by
  simp only [ensureHotRecycled, Prog.perform_bind]
  refine hotLoad hP (fun guest hv => ?_) (ret hP fun _ h => h) fun e => ret hP fun _ h => h
  have hF := hP.and (Frame.known guest)
  have hown : ∀ s, P s → EvictSpec t s guest.vmName := fun s hs =>
    .inr (.inr (.inl ⟨x, hx s hs, hactive, by rw [hv, horigin]⟩))
  refine forget ?_
  dsimp only
  split
  · exact ret hF fun _ h => h
  · rename_i hclaim
    have hclaim : guest.claimedBy = some x.id := Decidable.not_not.mp hclaim
    refine unixTime hF fun now hnow => ?_
    split
    · exact ensureHotEvicted_keeps hF (fun _ h => h.2) fun s hA => hown s hA.known.1
    · rename_i released hreleased
      have hrel : ∀ s, P s → Rewrites t s guest released := fun s hs =>
        .released x now released hnow (hx s hs) hactive hclaim (by rw [hv, horigin]) hreleased
      obtain ⟨-, hreq⟩ := HotGuest.ensureReleased_eq_ok.mp hreleased
      have hknown : ∀ s, (P s ∧ Known s.history guest) → Known s.history released := fun s hs =>
        hs.2.of_rewrites (hrel s hs.1) fun h => by simp [hreq] at h
      refine skip hF rfl (fun s _ hA => ⟨hA.known.2, hrel s hA.known.1⟩) fun r => ?_
      cases r with
      | error e =>
        refine ensureHotEvicted_keeps hF hknown fun s hA => ?_
        rw [hreq]
        exact hown s hA.known.1
      | ok _ => exact ensureHotGated_keeps hF hknown (by simp [hreq])

/-- An own guest is handed over by the task that drives its allocation. -/
theorem ensureHotRetained_keeps (hx : ∀ s, P s → Drives t x s)
    (hactive : x.state.isTerminal = false) (hlane : x.hotLane = some lane)
    (horigin : x.origin = .cloned) :
    discipline.Keeps t (At t P none) (ensureHotRetained x profile lane) := by
  simp only [ensureHotRetained, Prog.perform_bind]
  split
  · exact ret hP fun _ h => h
  · rename_i hcreated
    have hcreated : x.vmCreated = true := by simpa using hcreated
    split
    · exact ret hP fun _ h => h
    · refine skip hP rfl (fun _ _ _ => trivial) fun loaded => ?_
      split
      · exact ret hP fun _ h => h
      · refine unixTime hP fun now hnow => ?_
        split
        · exact ret hP fun _ h => h
        · rename_i guest hguest
          have hrec : ∀ s, Inv s → At t P none s → Recorded s.history x := fun s hs hA =>
            hs.held x (State.mem_held_of_allocation? ((hx s hA.known).entry hactive)).1
          have hspec : ∀ s, Inv s → At t P none s → HandsOver t s x.id guest := fun s hs hA =>
            ⟨x, lane, now, hx s hA.known, rfl, hactive, hrec s hs hA, hcreated, hlane,
              horigin, hnow,
              hguest⟩
          refine call (F := fun r s => r = .ok () → Known s.history guest ∧
            guest.claimedBy = none)
            hP rfl hspec ?_ fun r => ?_
          · intro s fresh ans s' r spawned hs hA _ hexec hr
            obtain ⟨hvalid, hstorable, hclaim⟩ := retainedRecord_valid (hrec s hs hA) hnow hguest
            refine ⟨⟨hvalid, hstorable, some x.id, ?_⟩, hclaim⟩
            simp only [exec] at hexec
            split at hexec
            · cases hexec
              simp
            · cases hexec
              cases hr
          · cases r with
            | error e => exact weaken (ret hP fun _ h => h) fun _ h => h.1
            | ok _ =>
              refine weaken (P := fun s => (P s ∧ Known s.history guest) ∧
                guest.claimedBy = none)
                (assume fun hclaim => forget ?_) fun _ h => ⟨⟨h.1, (h.2 rfl).1⟩, (h.2 rfl).2⟩
              have hF := hP.and (Frame.known guest)
              refine skip hF rfl (fun _ _ _ => trivial) fun retained => ?_
              cases retained with
              | ok _ => exact ensureHotGated_keeps hF (fun _ h => h.2) hclaim
              | error e =>
                -- the record is taken back; if that fails too, its machine is evicted
                refine skip hF rfl (fun _ _ _ => trivial) fun removed => ?_
                cases removed with
                | ok _ => exact ret hF fun _ h => h
                | error e => exact ensureHotEvictionPending_keeps hF fun _ h => h.2

/-- **The release at the end of a job**, by the task that drives its
allocation. -/
theorem ensureHotReleased_keeps (hx : ∀ s, P s → Drives t x s)
    (hactive : x.state.isTerminal = false) :
    discipline.Keeps t (At t P none) (ensureHotReleased x profile) := by
  unfold ensureHotReleased
  split
  · rename_i vmName horigin
    exact ensureHotRecycled_keeps hP hx hactive horigin
  · rename_i horigin
    have horigin : x.origin = .cloned := by
      cases h : x.origin with
      | cloned => rfl
      | hotReuse => simp [h, AllocationOrigin.hotVmName] at horigin
    split
    · rename_i lane hlane
      exact ensureHotRetained_keeps hP hx hactive hlane horigin
    · exact ret hP fun _ h => h

/-! ## Yielding, reloads, requests, operators -/

theorem hostMachines_keeps : discipline.Keeps t (At t P c) hostMachines := by
  refine skip hP rfl (fun _ _ _ => trivial) fun cached => ?_
  cases cached with
  | some machines => exact ret hP fun _ h => h
  | none =>
    refine skip hP rfl (fun _ _ _ => trivial) fun listed => ?_
    cases listed with
    | error e => exact ret hP fun _ h => h
    | ok machines =>
      exact skip hP rfl (fun _ _ _ => trivial) fun _ => ret hP fun _ h => h

/-- The machine that yields is one that was listed. -/
theorem yieldableHot_keeps :
    discipline.Triple t (At t P c) (yieldableHot config size) fun r =>
      At t (fun s => P s ∧ ∀ guest, r = some guest → Known s.history guest) c := by
  refine .bind (hostMachines_keeps hP) fun machines => ?_
  cases machines with
  | error e => exact ret hP fun _ h => ⟨⟨h.known, by simp⟩, h.alive, h.choosing⟩
  | ok machines =>
    simp only [Prog.perform_bind]
    refine hotLoadAll hP (fun hot => ?_) fun e =>
      ret hP fun _ h => ⟨⟨h.known, by simp⟩, h.alive, h.choosing⟩
    have hF := hP.and (Frame.knownAll hot)
    refine skip hF rfl (fun _ _ _ => trivial) fun entries => ?_
    split
    · exact ret hF fun _ h => ⟨⟨h.known.1, by simp⟩, h.alive, h.choosing⟩
    · refine ret hF fun s h => ⟨⟨h.known.1, fun guest hguest => ?_⟩, h.alive, h.choosing⟩
      exact h.known.2 guest (List.mem_of_mem_filter (mem_of_pickBy hguest))

theorem yieldLoop_keeps (n : ℕ) : discipline.Keeps t (At t P none) (yieldLoop config size n) := by
  induction n with
  | zero => exact ret hP fun _ h => h
  | succ n ih =>
    refine .bind (yieldableHot_keeps hP) fun r => ?_
    cases r with
    | none => exact weaken (ret hP fun _ h => h) fun _ h => h.1
    | some guest =>
      refine weaken (P := fun s => P s ∧ Known s.history guest) ?_
        fun _ h => ⟨h.1, h.2 guest rfl⟩
      have hF := hP.and (Frame.known guest)
      refine .bind (chooseAndEvict_keeps hF fun _ h => h.2) fun _ => ?_
      exact weaken ih fun _ h => h.1

theorem ensureHotYielded_keeps : discipline.Keeps t (At t P none) (ensureHotYielded config size) :=
  skip hP rfl (fun _ _ _ => trivial) fun _ => yieldLoop_keeps hP _

/-- A drain of some of the records that are listed now. -/
theorem drainListed_keeps :
    discipline.Triple t (At t (fun s => P s ∧ ∀ guest ∈ guests, Known s.history guest) none)
      (Prog.forEach (guests.filter keep) fun guest => ensureHotDrained guest reason) fun _ =>
        At t P none :=
  forget (forEach_filter_keeps (hP.and (Frame.knownAll guests)) (fun _ h => h.2) fun _ =>
    ensureHotDrained_keeps (hP.and (Frame.knownAll guests)))

theorem ensureHotReloaded_keeps {changed : List ProfileName} :
    discipline.Keeps t (At t P none) (ensureHotReloaded changed) := by
  unfold ensureHotReloaded
  split
  · exact ret hP fun _ h => h
  · exact hotLoadAll hP (fun _ => drainListed_keeps hP) fun _ => ret hP fun _ h => h

theorem hotReload_keeps : discipline.Keeps t (At t P none) hotReload := by
  simp only [hotReload, Prog.perform_bind]
  exact skip hP rfl (fun _ _ _ => trivial) fun _ =>
    .bind (ensureHotReloaded_keeps hP) fun _ => ensureHotBounded_keeps hP

theorem ensureHotEvictedFor_keeps :
    discipline.Keeps t (At t P none) (ensureHotEvictedFor name reason) :=
  hotLoadAll hP (fun _ => drainListed_keeps hP) fun _ => ret hP fun _ h => h

theorem hotDrain_keeps : discipline.Keeps t (At t P none) (hotDrain vmName) := by
  simp only [hotDrain, Prog.perform_bind]
  refine hotLoad hP (fun guest _ => forget ?_) (ret hP fun _ h => h) fun _ =>
    ret hP fun _ h => h
  have hF := hP.and (Frame.known guest)
  exact .bind (ensureHotDrained_keeps hF fun _ h => h.2) fun _ => ret hF fun _ h => h

/-- The operator's mark. -/
theorem At.operatorEvict
    (hk : ∀ r, discipline.Triple t
      (At t (fun s => P s ∧ (t, vmName) ∈ s.history.ordered) none) (k r) Q) :
    discipline.Triple t (At t P none) (.call (.note (.operatorEvict vmName)) k) Q := by
  refine .call (stable hP) (opTriple (fun s _ hA => ⟨hA.alive, trivial⟩) ?_) hk
  intro s fresh ans s' r spawned _ hA _ hexec
  have hmove := PoolMove.of_note (exec_effect hexec)
  cases hexec
  have h : At t P none _ := hA.move hP hmove hA.choosing
  exact ⟨⟨h.known, List.mem_cons_self⟩, h.alive, h.choosing⟩

theorem hotEvict_keeps : discipline.Keeps t (At t P none) (hotEvict vmName) := by
  simp only [hotEvict, Prog.perform_bind]
  refine hotLoad hP (fun guest hv => forget ?_) (ret hP fun _ h => h) fun _ =>
    ret hP fun _ h => h
  have hF := hP.and (Frame.known guest)
  refine operatorEvict hF fun _ => forget ?_
  have hF' := hF.and (Frame.ordered vmName)
  refine .bind (ensureHotEvicted_keeps hF' (fun _ h => h.1.2) fun s hA => ?_) fun _ =>
    ret hF' fun _ h => h
  rw [hv]
  exact .inr (.inl hA.known.2)

end FlanForge
