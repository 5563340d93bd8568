import Mathlib.Data.List.Dedup
import FlanForge.Manager.Bounds
import FlanForge.Manager.Effect

/-!
# Which idle machines the bounds pass spares

The second pass counts a lane's idle machines in the listing the first pass
started from, so a machine the first pass has just destroyed still fills one
of the lane's places: it is drained a second time, or a machine inside its
bounds goes in its stead. A lane is *mixed* when this can happen: one of its
idle machines is outside its bounds and the listing has more of them than the
lane keeps. Where no lane is mixed and no idle record is marked to go, the
pass keeps `maxIdle` of the machines inside their bounds, the most recently
updated ones, and destroys every machine at most once.
-/

namespace FlanForge

open List

open Machine (Performs Step)

/-! ## Writes and records -/

/-- The machine a write is about. -/
def Write.vmName : Write → VmName
  | saved vmName _ => vmName
  | evicted vmName => vmName
  | removed vmName => vmName

/-- The state a name's record has after a write. -/
def Write.after (vmName : VmName) (state : Option HotState) : Write → Option HotState
  | saved name next => if name = vmName then some next else state
  | removed name => if name = vmName then none else state
  | evicted _ => state

/-- Two writes in this order: a removed record is not saved again, and no machine
is destroyed twice. -/
def Write.Precedes (first second : Write) : Prop :=
  (∀ vmName state, first = .removed vmName → second ≠ .saved vmName state) ∧
    ∀ vmName, first = .evicted vmName → second ≠ .evicted vmName

/-- The records of the table, as the writes since `s` have left them. -/
structure Tracked (s : State) (ws : List Write) (s' : State) : Prop where
  wellFormed : s'.hot.WellFormed
  state : ∀ vmName, (s'.hot.record vmName).map (·.state) =
    ws.foldl (Write.after vmName) ((s.hot.record vmName).map (·.state))
  unwritten : ∀ vmName, (∀ next, .saved vmName next ∉ ws) → .removed vmName ∉ ws →
    s'.hot.record vmName = s.hot.record vmName

section Records

variable {s s' s₀ : State} {ws : List Write} {vmName : VmName} {w w' : Write} {t fresh : TaskId}
variable {op : Op} {a : Answer}

theorem Tracked.refl (h : s.hot.WellFormed) : Tracked s [] s :=
  ⟨h, fun _ => rfl, fun _ _ _ => rfl⟩

/-- One more write. -/
theorem Tracked.write (h : Tracked s₀ ws s) (hwellFormed : s'.hot.WellFormed)
    (hstate : ∀ vmName, (s'.hot.record vmName).map (·.state) =
      w.after vmName ((s.hot.record vmName).map (·.state)))
    (hother : ∀ vmName, (∀ next, w ≠ .saved vmName next) → w ≠ .removed vmName →
      s'.hot.record vmName = s.hot.record vmName) :
    Tracked s₀ (ws ++ [w]) s' where
  wellFormed := hwellFormed
  state vmName := by rw [hstate, h.state, foldl_append, foldl_cons, foldl_nil]
  unwritten vmName hsaved hremoved := by
    simp only [mem_append, mem_singleton, not_or] at hsaved hremoved
    rw [hother vmName (fun next => Ne.symm (hsaved next).2) (Ne.symm hremoved.2)]
    exact h.unwritten vmName (fun next => (hsaved next).1) hremoved.1

/-- No write, and the table as it was. -/
theorem Tracked.same (h : Tracked s₀ ws s) (hhot : s'.hot = s.hot) : Tracked s₀ (ws ++ []) s' := by
  rw [append_nil]
  refine ⟨hhot ▸ h.wellFormed, fun vmName => ?_, fun vmName => ?_⟩
  · rw [hhot]
    exact h.state vmName
  · rw [hhot]
    exact h.unwritten vmName

/-- A saved record. -/
theorem Tracked.save {guest : HotGuest} (h : Tracked s₀ ws s)
    (hsave : s.hot.save guest = .ok s'.hot) :
    Tracked s₀ (ws ++ [.saved guest.vmName guest.state]) s' := by
  refine h.write (h.wellFormed.save hsave) (fun vmName => ?_) fun vmName hsaved _ => ?_
  · by_cases hname : guest.vmName = vmName
    · subst hname
      rw [HotTable.record_save_self hsave]
      simp [Write.after]
    · rw [HotTable.record_save_of_ne hsave hname]
      simp [Write.after, hname]
  · refine HotTable.record_save_of_ne hsave ?_
    rintro rfl
    exact hsaved _ rfl

/-- A removed record. -/
theorem Tracked.remove (h : Tracked s₀ ws s) (hremove : s'.hot = s.hot.remove vmName) :
    Tracked s₀ (ws ++ [.removed vmName]) s' := by
  refine h.write (hremove ▸ h.wellFormed.remove) (fun name => ?_) fun name _ hremoved => ?_
  · rw [hremove]
    by_cases hname : vmName = name
    · subst hname
      simp [Write.after]
    · rw [HotTable.record_remove_of_ne hname]
      simp [Write.after, hname]
  · rw [hremove]
    exact HotTable.record_remove_of_ne fun hname => hremoved (congrArg _ hname)

/-- Only a save and a removal change the table. -/
theorem hot_of_exec {r : op.Res} {spawned : Option Kind}
    (hsave : ∀ base guest, op ≠ .hotSave base guest) (hremove : ∀ vmName, op ≠ .hotRemove vmName)
    (hexec : exec t fresh op a s = some (s', r, spawned)) : s'.hot = s.hot := by
  cases exec_effect hexec with
  | saved base guest => exact absurd rfl (hsave base guest)
  | removed vmName => exact absurd rfl (hremove vmName)
  | _ => rfl

/-- Every operation leaves the records as its write says. -/
theorem Tracked.step {r : op.Res} {spawned : Option Kind} (h : Tracked s₀ ws s)
    (hexec : exec t fresh op a s = some (s', r, spawned)) :
    Tracked s₀ (ws ++ writes [⟨op, r⟩]) s' := by
  cases op with
  | hotSave base guest =>
    simp only [exec] at hexec
    split at hexec
    · rename_i hot hstored
      cases hexec
      refine h.save ?_
      unfold Answer.stored at hstored
      split_ifs at hstored
      exact hstored
    · cases hexec
      exact h.same rfl
  | hotRemove vmName =>
    simp only [exec] at hexec
    split_ifs at hexec
    · cases hexec
      exact h.same rfl
    · cases hexec
      exact h.remove rfl
  | hotEvict guest =>
    have hhot := hot_of_exec (by simp) (by simp) hexec
    refine h.write (hhot ▸ h.wellFormed) (fun vmName => ?_) fun vmName _ _ => ?_
    · rw [hhot]
      rfl
    · rw [hhot]
  | _ => exact h.same (hot_of_exec (by simp) (by simp) hexec)

/-! ## Reading the records off the writes -/

theorem Write.precedes_of_ne (h : w.vmName ≠ w'.vmName) : w.Precedes w' := by
  refine ⟨?_, ?_⟩
  · rintro vmName state rfl rfl
    exact h rfl
  · rintro vmName rfl rfl
    exact h rfl

/-- Where no record is saved as idle, an idle one at the end was not written. -/
theorem not_written_of_idle {state : Option HotState}
    (hsaves : ∀ name, .saved name .idle ∉ ws)
    (h : ws.foldl (Write.after vmName) state = some .idle) :
    state = some .idle ∧ (∀ next, .saved vmName next ∉ ws) ∧ .removed vmName ∉ ws := by
  induction ws generalizing state with
  | nil => exact ⟨h, by simp, by simp⟩
  | cons w ws ih =>
    rw [foldl_cons] at h
    obtain ⟨hstate, hsaved, hremoved⟩ :=
      ih (fun name hmem => hsaves name (mem_cons_of_mem w hmem)) h
    cases w with
    | saved name next =>
      by_cases hname : name = vmName
      · subst hname
        simp only [Write.after, if_true, Option.some.injEq] at hstate
        subst hstate
        exact absurd mem_cons_self (hsaves name)
      · simp only [Write.after, if_neg hname] at hstate
        simp [hstate, hsaved, hremoved, Ne.symm hname]
    | evicted name =>
      simp only [Write.after] at hstate
      simp [hstate, hsaved, hremoved]
    | removed name =>
      by_cases hname : name = vmName
      · subst hname
        simp [Write.after] at hstate
      · simp only [Write.after, if_neg hname] at hstate
        simp [hstate, hsaved, hremoved, Ne.symm hname]

end Records

/-! ## The machines of the four passes -/

/-- **No lane is mixed, and no idle record is marked to go.** A lane with an idle
machine outside its bounds holds no more idle machines than it keeps, and a
marked idle record is one a live allocation claims. -/
structure Unmixed (config : Config) (reads : PassReads) (images : List WarmImageRecord)
    (now : UInt64) (claimed : List String) (guests : List HotGuest) : Prop where
  lanes : ∀ name lane hot, config.enabledHot name = some hot →
    (∃ guest ∈ guests, guest.isServing name lane = true ∧
      boundReason config reads images now guest ≠ none) →
    (guests.filter (·.isServing name lane)).length ≤ hot.maxIdle.toNat
  unmarked : ∀ guest ∈ guests, guest.state = .idle →
    guest.drainReason = none ∨ guest.vmName.value ∈ claimed

/-- The idle machines of a lane that are inside their bounds. -/
def insideIdle (config : Config) (reads : PassReads) (images : List WarmImageRecord)
    (now : UInt64) (guests : List HotGuest) (name : ProfileName) (lane : HotLane) :
    List HotGuest :=
  guests.filter fun guest =>
    guest.isServing name lane && (boundReason config reads images now guest).isNone

/-- The machines the first pass drains. -/
def outsideGuests (config : Config) (reads : PassReads) (images : List WarmImageRecord)
    (now : UInt64) (guests : List HotGuest) : List HotGuest :=
  guests.filter fun guest => (boundReason config reads images now guest).isSome

/-- The writes of one machine's bounds. -/
def boundDrain (config : Config) (reads : PassReads) (images : List WarmImageRecord)
    (now : UInt64) (guest : HotGuest) : List Write :=
  (boundReason config reads images now guest).elim [] (drainWrites · guest)

section Passes

variable {config : Config} {reads : PassReads} {images : List WarmImageRecord} {now : UInt64}
variable {claimed : List String} {guests : List HotGuest} {guest : HotGuest}
variable {name : ProfileName} {lane : HotLane} {hot : HotConfig} {w : Write}
variable {reason : HotDrainReason}

theorem mem_surplusGuests : guest ∈ surplusGuests config guests ↔
    ∃ hot, config.enabledHot guest.profile = some hot ∧
      guest ∈ surplusIdle guests guest.profile guest.lane hot := by
  simp only [surplusGuests, mem_flatMap, Prod.exists]
  constructor
  · rintro ⟨name, lane, -, hmem⟩
    cases hhot : config.enabledHot name with
    | none =>
      rw [hhot] at hmem
      cases hmem
    | some hot =>
      rw [hhot] at hmem
      obtain ⟨-, rfl, rfl⟩ := HotGuest.isServing_iff.mp (mem_of_mem_surplusIdle hmem).2
      exact ⟨hot, hhot, hmem⟩
  · rintro ⟨hot, hhot, hmem⟩
    obtain ⟨hguest, hserving⟩ := mem_of_mem_surplusIdle hmem
    refine ⟨guest.profile, guest.lane, ?_, by simpa [hhot] using hmem⟩
    rw [idleLanes, mem_insertionSort, mem_dedup]
    refine mem_map.mpr ⟨guest, mem_filter.mpr ⟨hguest, ?_⟩, rfl⟩
    exact decide_eq_true (HotGuest.isServing_iff.mp hserving).1

/-- Where no lane is mixed, only machines inside their bounds are surplus. -/
theorem Unmixed.inside_of_surplus (h : Unmixed config reads images now claimed guests)
    (hmem : guest ∈ surplusGuests config guests) :
    boundReason config reads images now guest = none := by
  obtain ⟨hot, hhot, hsurplus⟩ := mem_surplusGuests.mp hmem
  obtain ⟨hguest, hserving⟩ := mem_of_mem_surplusIdle hsurplus
  by_contra hbound
  have hfew := h.lanes guest.profile guest.lane hot hhot ⟨guest, hguest, hserving, hbound⟩
  -- a lane that keeps them all has no surplus
  have hnone : surplusIdle guests guest.profile guest.lane hot = [] := by
    rw [surplusIdle, length_insertionSort, Nat.sub_eq_zero_of_le hfew]
    rfl
  rw [hnone] at hsurplus
  cases hsurplus

/-- A machine inside its bounds is surplus by its lane's count of such machines. -/
theorem Unmixed.surplusIdle_eq (h : Unmixed config reads images now claimed guests)
    (hhot : config.enabledHot name = some hot) :
    surplusIdle guests name lane hot =
      ((insideIdle config reads images now guests name lane).insertionSort isStaler).take
        ((insideIdle config reads images now guests name lane).length - hot.maxIdle.toNat) := by
  by_cases hmixed : ∃ guest ∈ guests, guest.isServing name lane = true ∧
      boundReason config reads images now guest ≠ none
  · have hfew := h.lanes name lane hot hhot hmixed
    have hfewer : (insideIdle config reads images now guests name lane).length ≤
        (guests.filter (·.isServing name lane)).length := by
      rw [insideIdle, ← countP_eq_length_filter, ← countP_eq_length_filter]
      exact countP_mono_left fun guest _ h => (Bool.and_eq_true_iff.mp h).1
    rw [surplusIdle, length_insertionSort, Nat.sub_eq_zero_of_le hfew,
      Nat.sub_eq_zero_of_le (hfewer.trans hfew)]
    rfl
  · have hinside : insideIdle config reads images now guests name lane =
        guests.filter (·.isServing name lane) := by
      refine filter_congr fun guest hguest => ?_
      cases hserving : guest.isServing name lane with
      | false => rfl
      | true =>
        have hnone : boundReason config reads images now guest = none := by
          by_contra hbound
          exact hmixed ⟨guest, hguest, hserving, hbound⟩
        rw [hnone]
        rfl
    rw [surplusIdle, hinside, length_insertionSort]

theorem nodup_surplusGuests (hguests : guests.Nodup) : (surplusGuests config guests).Nodup := by
  refine nodup_flatMap.mpr ⟨fun lane _ => ?_, ?_⟩
  · cases config.enabledHot lane.1 with
    | none => exact nodup_nil
    | some hot =>
      have hidle := (perm_insertionSort isStaler
        (guests.filter (·.isServing lane.1 lane.2))).nodup_iff.mpr (hguests.filter _)
      exact hidle.sublist (take_sublist _ _)
  · -- a machine is idle in one lane
    have hlanes : (idleLanes guests).Pairwise (· ≠ ·) :=
      (perm_insertionSort isLaneBefore _).nodup_iff.mpr (nodup_dedup _)
    refine hlanes.imp fun {lane lane'} hne guest hmem hmem' => hne ?_
    have hlane : ∀ lane : ProfileName × HotLane, guest ∈ ((config.enabledHot lane.1).elim []
        fun hot => surplusIdle guests lane.1 lane.2 hot) → (guest.profile, guest.lane) = lane := by
      intro lane hmem
      cases hhot : config.enabledHot lane.1 with
      | none =>
        rw [hhot] at hmem
        cases hmem
      | some hot =>
        rw [hhot] at hmem
        obtain ⟨-, hprofile, hlane⟩ := HotGuest.isServing_iff.mp (mem_of_mem_surplusIdle hmem).2
        rw [hprofile, hlane]
    exact (hlane lane hmem).symm.trans (hlane lane' hmem')

/-! ## The order of the writes -/

theorem vmName_of_mem_evictWrites (h : w ∈ evictWrites guest) : w.vmName = guest.vmName := by
  simp only [evictWrites, mem_cons, not_mem_nil, or_false] at h
  rcases h with rfl | rfl <;> rfl

/-- What a drain writes: an idle machine goes, any other record is at most saved. -/
theorem drainWrites_cases (reason : HotDrainReason) (hvalid : guest.isValid = true) :
    (guest.state = .idle ∧
      drainWrites reason guest = .saved guest.vmName .draining :: evictWrites guest) ∨
    guest.state ≠ .idle ∧ (drainWrites reason guest = [] ∨
      guest.state ≠ .draining ∧
        ∃ next, next ≠ .idle ∧ drainWrites reason guest = [.saved guest.vmName next]) := by
  have hclaim := (HotGuest.isValid_iff.mp hvalid).2
  cases hstate : guest.state with
  | idle =>
    have hfree : guest.claimedBy.isNone = true := by simpa [hstate] using hclaim
    exact .inl ⟨rfl, by simp [drainWrites, hstate, hfree]⟩
  | claimed =>
    have hheld : guest.claimedBy.isNone = false := by simpa [hstate] using hclaim
    refine .inr ⟨by simp, .inr ⟨by simp, .draining, by simp, ?_⟩⟩
    simp [drainWrites, hstate, hheld]
  | draining => exact .inr ⟨by simp, .inl (by simp [drainWrites, hstate])⟩
  | provisioning | recycling | evicted =>
    refine .inr ⟨by simp, ?_⟩
    by_cases hstamped : guest.drainReason = some reason
    · exact .inl (by simp [drainWrites, hstate, hstamped])
    · exact .inr ⟨by simp, guest.state, by simp [hstate], by simp [drainWrites, hstate, hstamped]⟩

/-- The writes of one drain: about the one machine, in order, none of them an idle
record; and a drain that writes twice takes an idle machine. -/
structure DrainOf (guest : HotGuest) (ws : List Write) : Prop where
  vmName : ∀ w ∈ ws, w.vmName = guest.vmName
  ordered : ws.Pairwise Write.Precedes
  saves : ∀ name, .saved name .idle ∉ ws
  idle : guest.state = .idle → evictWrites guest ⊆ ws
  other : guest.state ≠ .idle → ∀ w ∈ ws, ∃ next, w = .saved guest.vmName next
  draining : guest.state = .draining → ws = []

theorem drainOf_drainWrites (hvalid : guest.isValid = true) :
    DrainOf guest (drainWrites reason guest) := by
  rcases drainWrites_cases reason hvalid with ⟨hidle, heq⟩ |
    ⟨hidle, heq | ⟨hdraining, next, hnext, heq⟩⟩
  · rw [heq]
    exact ⟨by simp [evictWrites, Write.vmName], by simp [evictWrites, Write.Precedes],
      by simp [evictWrites], fun _ => subset_cons_self _ _, fun h => absurd hidle h,
      fun h => by rw [hidle] at h; cases h⟩
  · rw [heq]
    exact ⟨by simp, .nil, by simp, fun h => absurd h hidle, by simp, fun _ => rfl⟩
  · rw [heq]
    refine ⟨by simp [Write.vmName], pairwise_singleton _ _, ?_,
      fun h => absurd h hidle, ?_, ?_⟩
    · simp [Ne.symm hnext]
    · intro _ w hw
      exact ⟨next, mem_singleton.mp hw⟩
    · exact fun h => absurd h hdraining

/-- What is known of every record of the listing. -/
structure Listed (guests : List HotGuest) : Prop where
  valid : ∀ guest ∈ guests, guest.isValid = true
  names : (guests.map (·.vmName)).Nodup

theorem listed_loadAll {table : HotTable} (h : table.WellFormed) : Listed table.loadAll :=
  ⟨fun _ hguest => (h.mem_loadAll.mp hguest).2, h.nodup_loadAll⟩

theorem Listed.eq {other : HotGuest} (h : Listed guests) (hguest : guest ∈ guests)
    (hother : other ∈ guests) (hname : guest.vmName = other.vmName) : guest = other :=
  inj_on_of_nodup_map h.names hguest hother hname

theorem Listed.nodup (h : Listed guests) : guests.Nodup := h.names.of_map _

/-- One pass over machines of the listing, each with writes in order about itself. -/
structure PassOver (guests l : List HotGuest) (f : HotGuest → List Write) : Prop where
  subset : l ⊆ guests
  names : (l.map (·.vmName)).Nodup
  vmName : ∀ guest ∈ l, ∀ w ∈ f guest, w.vmName = guest.vmName
  ordered : ∀ guest ∈ l, (f guest).Pairwise Write.Precedes

section PassOver

variable {l l' : List HotGuest} {f g : HotGuest → List Write}

theorem PassOver.pairwise (p : PassOver guests l f) : (l.flatMap f).Pairwise Write.Precedes := by
  refine pairwise_flatMap.mpr ⟨p.ordered, ?_⟩
  have hne : l.Pairwise fun guest guest' => guest.vmName ≠ guest'.vmName :=
    pairwise_map.mp p.names
  refine hne.imp_of_mem fun {guest guest'} hmem hmem' hne w hw w' hw' => ?_
  refine Write.precedes_of_ne ?_
  rwa [p.vmName guest hmem w hw, p.vmName guest' hmem' w' hw']

/-- A write about a machine of the listing is one of that machine's. -/
theorem PassOver.mem_of_vmName (p : PassOver guests l f) (h : Listed guests)
    (hguest : guest ∈ guests) (hw : w ∈ l.flatMap f) (hname : w.vmName = guest.vmName) :
    guest ∈ l ∧ w ∈ f guest := by
  obtain ⟨other, hother, hw⟩ := mem_flatMap.mp hw
  obtain rfl := h.eq (p.subset hother) hguest ((p.vmName other hother w hw).symm.trans hname)
  exact ⟨hother, hw⟩

/-- The writes of two passes: in order, unless one machine is in both. -/
theorem PassOver.precedes (p : PassOver guests l f) (p' : PassOver guests l' g)
    (h : Listed guests)
    (hboth : ∀ guest ∈ l, guest ∈ l' → ∀ w ∈ f guest, ∀ w' ∈ g guest, w.Precedes w') :
    ∀ w ∈ l.flatMap f, ∀ w' ∈ l'.flatMap g, w.Precedes w' := by
  intro w hw w' hw'
  by_cases hname : w.vmName = w'.vmName
  · obtain ⟨guest, hguest, hw⟩ := mem_flatMap.mp hw
    have hname' := hname.symm.trans (p.vmName guest hguest w hw)
    obtain ⟨hguest', hw'⟩ := p'.mem_of_vmName h (p.subset hguest) hw' hname'
    exact hboth guest hguest hguest' w hw w' hw'
  · exact Write.precedes_of_ne hname

end PassOver

theorem surplusGuests_subset : surplusGuests config guests ⊆ guests := by
  intro guest hmem
  obtain ⟨hot, -, hsurplus⟩ := mem_surplusGuests.mp hmem
  exact (mem_of_mem_surplusIdle hsurplus).1

theorem idle_of_mem_surplusGuests (h : guest ∈ surplusGuests config guests) :
    guest.state = .idle := by
  obtain ⟨hot, -, hsurplus⟩ := mem_surplusGuests.mp h
  exact (HotGuest.isServing_iff.mp (mem_of_mem_surplusIdle hsurplus).2).1

theorem mem_finishedDrains : guest ∈ finishedDrains claimed guests ↔
    guest ∈ guests ∧ guest.state = .draining ∧ guest.vmName.value ∉ claimed := by
  simp [finishedDrains]

theorem mem_retriedEvictions : guest ∈ retriedEvictions claimed guests ↔
    guest ∈ guests ∧ guest.state ≠ .draining ∧ guest.claimedBy = none ∧
      guest.vmName.value ∉ claimed ∧ guest.drainReason ≠ none := by
  simp [retriedEvictions, Option.isSome_iff_ne_none, and_assoc]

/-- Where no idle record is marked, none is evicted once more. -/
theorem Unmixed.not_idle_of_retried (h : Unmixed config reads images now claimed guests)
    (hmem : guest ∈ retriedEvictions claimed guests) : guest.state ≠ .idle := by
  obtain ⟨hguest, -, -, hfree, hmarked⟩ := mem_retriedEvictions.mp hmem
  intro hidle
  rcases h.unmarked guest hguest hidle with hnone | hclaimed
  · exact hmarked hnone
  · exact hfree hclaimed

/-- The machines outside their bounds, each with its writes. -/
theorem boundWrites_eq : boundWrites config reads images now guests =
    (outsideGuests config reads images now guests).flatMap
      (boundDrain config reads images now) := by
  rw [boundWrites, outsideGuests]
  induction guests with
  | nil => rfl
  | cons guest guests ih =>
    rw [flatMap_cons, filter_cons, ih]
    cases hreason : boundReason config reads images now guest with
    | none => rfl
    | some reason => simp [boundDrain, hreason]

theorem drainOf_boundDrain (h : Listed guests)
    (hmem : guest ∈ outsideGuests config reads images now guests) :
    DrainOf guest (boundDrain config reads images now guest) := by
  obtain ⟨hguest, hbound⟩ := mem_filter.mp hmem
  obtain ⟨reason, hreason⟩ := Option.isSome_iff_exists.mp hbound
  rw [boundDrain, hreason]
  exact drainOf_drainWrites (h.valid guest hguest)

theorem drainOf_surplus (h : Listed guests) (hmem : guest ∈ surplusGuests config guests) :
    DrainOf guest (drainWrites .maxIdle guest) :=
  drainOf_drainWrites (h.valid guest (surplusGuests_subset hmem))

/-! The four passes. -/

theorem passOver_outside (h : Listed guests) : PassOver guests
    (outsideGuests config reads images now guests) (boundDrain config reads images now) where
  subset := filter_subset_self _
  names := h.names.sublist (filter_sublist.map _)
  vmName _ hmem := (drainOf_boundDrain h hmem).vmName
  ordered _ hmem := (drainOf_boundDrain h hmem).ordered

theorem passOver_surplus (h : Listed guests) :
    PassOver guests (surplusGuests config guests) (drainWrites .maxIdle) where
  subset := surplusGuests_subset
  names := (nodup_surplusGuests h.nodup).map_on fun _ hmem _ hmem' hname =>
    h.eq (surplusGuests_subset hmem) (surplusGuests_subset hmem') hname
  vmName _ hmem := (drainOf_surplus h hmem).vmName
  ordered _ hmem := (drainOf_surplus h hmem).ordered

theorem passOver_evictWrites {p : HotGuest → Bool} (h : Listed guests) :
    PassOver guests (guests.filter p) evictWrites where
  subset := filter_subset_self _
  names := h.names.sublist (filter_sublist.map _)
  vmName _ _ _ hw := vmName_of_mem_evictWrites hw
  ordered _ _ := by simp [evictWrites, Write.Precedes]

theorem passOver_finished (h : Listed guests) :
    PassOver guests (finishedDrains claimed guests) evictWrites := passOver_evictWrites h

theorem passOver_retried (h : Listed guests) :
    PassOver guests (retriedEvictions claimed guests) evictWrites := passOver_evictWrites h

/-- A saved record before anything. -/
theorem Write.precedes_of_saved {vmName : VmName} {next : HotState} {w' : Write} :
    (Write.saved vmName next).Precedes w' := by
  simp [Write.Precedes]

/-- **Where no lane is mixed the writes are in order.** -/
theorem Unmixed.ordered (h : Unmixed config reads images now claimed guests)
    (hlisted : Listed guests) :
    (passWrites config reads images now claimed guests).Pairwise Write.Precedes := by
  have outside : PassOver guests (outsideGuests config reads images now guests) _ :=
    passOver_outside hlisted
  have surplus : PassOver guests (surplusGuests config guests) _ := passOver_surplus hlisted
  have finished : PassOver guests (finishedDrains claimed guests) _ := passOver_finished hlisted
  have retried : PassOver guests (retriedEvictions claimed guests) _ := passOver_retried hlisted
  rw [passWrites, boundWrites_eq]
  refine pairwise_append.mpr ⟨pairwise_append.mpr ⟨pairwise_append.mpr
    ⟨outside.pairwise, surplus.pairwise, ?_⟩, finished.pairwise, ?_⟩, retried.pairwise, ?_⟩
  · -- a surplus machine is inside its bounds
    refine outside.precedes surplus hlisted fun guest hmem hmem' => ?_
    have hsome := (mem_filter.mp hmem).2
    rw [h.inside_of_surplus hmem'] at hsome
    cases hsome
  · intro w hw
    rcases mem_append.mp hw with hw | hw
    · -- a record that is draining already is not drained
      refine outside.precedes finished hlisted (fun guest hmem hmem' w hw => ?_) w hw
      rw [(drainOf_boundDrain hlisted hmem).draining (mem_finishedDrains.mp hmem').2.1] at hw
      cases hw
    · refine surplus.precedes finished hlisted (fun guest hmem hmem' => ?_) w hw
      have hdraining := (mem_finishedDrains.mp hmem').2.1
      rw [idle_of_mem_surplusGuests hmem] at hdraining
      cases hdraining
  · intro w hw
    rcases mem_append.mp hw with hw | hw
    · rcases mem_append.mp hw with hw | hw
      · -- a retried machine was at most saved before
        refine outside.precedes retried hlisted (fun guest hmem hmem' w hw w' _ => ?_) w hw
        obtain ⟨next, rfl⟩ :=
          (drainOf_boundDrain hlisted hmem).other (h.not_idle_of_retried hmem') w hw
        exact Write.precedes_of_saved
      · refine surplus.precedes retried hlisted (fun guest hmem hmem' => ?_) w hw
        exact absurd (idle_of_mem_surplusGuests hmem) (h.not_idle_of_retried hmem')
    · refine finished.precedes retried hlisted (fun guest hmem hmem' => ?_) w hw
      exact absurd (mem_finishedDrains.mp hmem).2.1 (mem_retriedEvictions.mp hmem').2.1

/-! ## What is left -/

/-- No record is saved as idle. -/
theorem not_saved_idle (h : Listed guests) (vmName : VmName) :
    .saved vmName .idle ∉ passWrites config reads images now claimed guests := by
  have hevict : ∀ l : List HotGuest, .saved vmName .idle ∉ l.flatMap evictWrites := by
    simp [evictWrites]
  rw [passWrites, boundWrites_eq]
  simp only [mem_append, not_or]
  refine ⟨⟨⟨fun hmem => ?_, fun hmem => ?_⟩, hevict _⟩, hevict _⟩
  · obtain ⟨guest, hguest, hw⟩ := mem_flatMap.mp hmem
    exact (drainOf_boundDrain h hguest).saves vmName hw
  · obtain ⟨guest, hguest, hw⟩ := mem_flatMap.mp hmem
    exact (drainOf_surplus h hguest).saves vmName hw

/-! Every pass destroys its idle machines. -/

theorem evicts_outside (h : Listed guests) (hguest : guest ∈ guests) (hidle : guest.state = .idle)
    (hbound : boundReason config reads images now guest ≠ none) :
    evictWrites guest ⊆ boundWrites config reads images now guests := by
  have hmem : guest ∈ outsideGuests config reads images now guests :=
    mem_filter.mpr ⟨hguest, Option.isSome_iff_ne_none.mpr hbound⟩
  rw [boundWrites_eq]
  exact fun w hw => mem_flatMap.mpr ⟨guest, hmem, (drainOf_boundDrain h hmem).idle hidle hw⟩

theorem evicts_surplus (h : Listed guests) (hmem : guest ∈ surplusGuests config guests) :
    evictWrites guest ⊆ (surplusGuests config guests).flatMap (drainWrites .maxIdle) := fun _ hw =>
  mem_flatMap.mpr
    ⟨guest, hmem, (drainOf_surplus h hmem).idle (idle_of_mem_surplusGuests hmem) hw⟩

theorem evicts_retried (hmem : guest ∈ retriedEvictions claimed guests) :
    evictWrites guest ⊆ (retriedEvictions claimed guests).flatMap evictWrites :=
  fun _ hw => mem_flatMap.mpr ⟨guest, hmem, hw⟩

/-- The record of a surplus machine is removed. -/
theorem removed_of_surplus (h : Listed guests) (hmem : guest ∈ surplusGuests config guests) :
    .removed guest.vmName ∈ passWrites config reads images now claimed guests :=
  mem_append_left _ (mem_append_left _ (mem_append_right _
    (evicts_surplus h hmem (by simp [evictWrites]))))

/-- **A machine inside its bounds that is not surplus is left alone.** -/
theorem Unmixed.kept (h : Unmixed config reads images now claimed guests) (hlisted : Listed guests)
    (hguest : guest ∈ guests) (hidle : guest.state = .idle)
    (hinside : boundReason config reads images now guest = none)
    (hkept : guest ∉ surplusGuests config guests) :
    ∀ w ∈ passWrites config reads images now claimed guests, w.vmName ≠ guest.vmName := by
  intro w hw hname
  rw [passWrites, boundWrites_eq] at hw
  simp only [mem_append, or_assoc] at hw
  rcases hw with hw | hw | hw | hw
  · have hsome := ((passOver_outside hlisted).mem_of_vmName hlisted hguest hw hname).1
    simp [outsideGuests, hinside] at hsome
  · exact hkept ((passOver_surplus hlisted).mem_of_vmName hlisted hguest hw hname).1
  · have hmem := ((passOver_finished hlisted).mem_of_vmName hlisted hguest hw hname).1
    exact absurd hidle (by simp [(mem_finishedDrains.mp hmem).2.1])
  · have hmem := ((passOver_retried hlisted).mem_of_vmName hlisted hguest hw hname).1
    exact h.not_idle_of_retried hmem hidle

end Passes

/-! ## The pass -/

/-- **The pass spares the machines inside their bounds.** Of a lane's idle machines
inside their bounds it leaves `maxIdle`, the most recently updated; it touches
none of them unless there are more; the backend destroys no machine twice; and
a removed record is not saved again. -/
structure Spares (config : Config) (reads : PassReads) (images : List WarmImageRecord)
    (now : UInt64) (guests : List HotGuest) (ws : List Write) (table : HotTable) : Prop where
  left : ∀ name lane hot, config.enabledHot name = some hot →
    let inside := insideIdle config reads images now guests name lane
    let kept := insideIdle config reads images now table.loadAll name lane
    kept.Perm ((inside.insertionSort isStaler).drop (inside.length - hot.maxIdle.toNat)) ∧
      kept.length = min hot.maxIdle.toNat inside.length
  drained : ∀ guest ∈ guests, guest.state = .idle →
    boundReason config reads images now guest = none → (∃ w ∈ ws, w.vmName = guest.vmName) →
    let inside := insideIdle config reads images now guests guest.profile guest.lane
    ∃ hot, config.enabledHot guest.profile = some hot ∧ hot.maxIdle.toNat < inside.length ∧
      guest ∈ (inside.insertionSort isStaler).take (inside.length - hot.maxIdle.toNat)
  once : ∀ vmName, ws.count (.evicted vmName) ≤ 1
  unsaved : ∀ before vmName after, ws = before ++ .removed vmName :: after →
    ∀ state, .saved vmName state ∉ after

section Pass

variable {config : Config} {reads : PassReads} {images : List WarmImageRecord} {now : UInt64}
variable {claimed : List String} {guests : List HotGuest} {guest : HotGuest} {s s' : State}
variable {name : ProfileName} {lane : HotLane} {hot : HotConfig} {ws : List Write} {t : TaskId}

theorem count_evicted_le_one (h : ws.Pairwise Write.Precedes) (vmName : VmName) :
    ws.count (.evicted vmName) ≤ 1 := by
  induction ws with
  | nil => simp
  | cons w ws ih =>
    rw [pairwise_cons] at h
    rw [count_cons]
    by_cases hw : w = .evicted vmName
    · have hnone : ws.count (.evicted vmName) = 0 :=
        count_eq_zero.mpr fun hmem => (h.1 _ hmem).2 vmName hw rfl
      simp [hw, hnone]
    · simpa [hw] using ih h.2

theorem not_saved_after_removed (h : ws.Pairwise Write.Precedes) {before after : List Write}
    {vmName : VmName} (heq : ws = before ++ .removed vmName :: after) (state : HotState) :
    .saved vmName state ∉ after := by
  intro hmem
  rw [heq] at h
  have hafter := (pairwise_cons.mp (pairwise_append.mp h).2.1).1
  exact (hafter _ hmem).1 vmName state rfl rfl

/-- A machine inside its bounds has a profile that keeps a pool. -/
theorem enabledHot_of_inside (hidle : guest.state = .idle)
    (hinside : boundReason config reads images now guest = none) :
    ∃ hot, config.enabledHot guest.profile = some hot := by
  have hlive : ¬ guest.state.isTerminal = true := by
    rw [hidle]
    exact Bool.false_ne_true
  rw [boundReason, if_neg hlive] at hinside
  cases hhot : config.enabledHot guest.profile with
  | none =>
    rw [hhot] at hinside
    cases hprofile : config.profile? guest.profile <;> simp [hprofile] at hinside
  | some hot => exact ⟨hot, rfl⟩

theorem mem_insideIdle : guest ∈ insideIdle config reads images now guests name lane ↔
    guest ∈ guests ∧ guest.isServing name lane = true ∧
      boundReason config reads images now guest = none := by
  simp [insideIdle]

/-- Of the machines inside their bounds, the surplus is what goes first. -/
theorem Unmixed.mem_surplusGuests_iff (h : Unmixed config reads images now claimed guests)
    (hhot : config.enabledHot name = some hot) (hserving : guest.isServing name lane = true) :
    guest ∈ surplusGuests config guests ↔
      guest ∈ ((insideIdle config reads images now guests name lane).insertionSort isStaler).take
        ((insideIdle config reads images now guests name lane).length - hot.maxIdle.toNat) := by
  obtain ⟨-, rfl, rfl⟩ := HotGuest.isServing_iff.mp hserving
  rw [mem_surplusGuests, ← h.surplusIdle_eq hhot, hhot]
  simp

/-- What is not among the first is among the rest. -/
theorem not_mem_take_iff_mem_drop {l : List HotGuest} {n : ℕ} (hnodup : l.Nodup)
    (hmem : guest ∈ l) : guest ∉ l.take n ↔ guest ∈ l.drop n := by
  rw [← take_append_drop n l] at hnodup hmem
  constructor
  · intro hfirst
    exact (mem_append.mp hmem).resolve_left hfirst
  · intro hrest hfirst
    exact (disjoint_of_nodup_append hnodup) hfirst hrest

/-- A machine that is idle at the end is one the pass has not written. -/
theorem Tracked.inside_before
    (htracked : Tracked s (passWrites config reads images now claimed s.hot.loadAll) s')
    (hs : s.hot.WellFormed)
    (hmem : guest ∈ insideIdle config reads images now s'.hot.loadAll name lane) :
    guest ∈ insideIdle config reads images now s.hot.loadAll name lane ∧
      .removed guest.vmName ∉ passWrites config reads images now claimed s.hot.loadAll := by
  obtain ⟨hguest, hserving, hinside⟩ := mem_insideIdle.mp hmem
  obtain ⟨hrecord, hvalid⟩ := htracked.wellFormed.mem_loadAll.mp hguest
  have hstate := htracked.state guest.vmName
  rw [hrecord, Option.map_some, (HotGuest.isServing_iff.mp hserving).1] at hstate
  obtain ⟨-, hsaved, hremoved⟩ :=
    not_written_of_idle (not_saved_idle (listed_loadAll hs)) hstate.symm
  rw [htracked.unwritten guest.vmName hsaved hremoved] at hrecord
  exact ⟨mem_insideIdle.mpr ⟨hs.mem_loadAll.mpr ⟨hrecord, hvalid⟩, hserving, hinside⟩, hremoved⟩

/-- The machines of a lane that are still idle and inside their bounds. -/
theorem Unmixed.mem_left (h : Unmixed config reads images now claimed s.hot.loadAll)
    (hlisted : Listed s.hot.loadAll) (hs : s.hot.WellFormed)
    (htracked : Tracked s (passWrites config reads images now claimed s.hot.loadAll) s')
    (hhot : config.enabledHot name = some hot) :
    guest ∈ insideIdle config reads images now s'.hot.loadAll name lane ↔
      guest ∈ ((insideIdle config reads images now s.hot.loadAll name lane).insertionSort
        isStaler).drop ((insideIdle config reads images now s.hot.loadAll name lane).length -
          hot.maxIdle.toNat) := by
  have hsplit : ∀ {guest : HotGuest}, guest ∈ insideIdle config reads images now s.hot.loadAll name
      lane → (guest ∉ surplusGuests config s.hot.loadAll ↔
        guest ∈ ((insideIdle config reads images now s.hot.loadAll name lane).insertionSort
          isStaler).drop ((insideIdle config reads images now s.hot.loadAll name lane).length -
            hot.maxIdle.toNat)) := by
    intro guest hmem
    rw [h.mem_surplusGuests_iff hhot (mem_insideIdle.mp hmem).2.1]
    exact not_mem_take_iff_mem_drop ((perm_insertionSort isStaler _).nodup_iff.mpr
      (hlisted.nodup.filter _)) ((mem_insertionSort isStaler).mpr hmem)
  constructor
  · intro hmem
    obtain ⟨hbefore, hremoved⟩ := htracked.inside_before hs hmem
    exact (hsplit hbefore).mp fun hsurplus => hremoved (removed_of_surplus hlisted hsurplus)
  · intro hmem
    have hinside := (mem_insertionSort isStaler).mp (mem_of_mem_drop hmem)
    obtain ⟨hguest, hserving, hnone⟩ := mem_insideIdle.mp hinside
    obtain ⟨hrecord, hvalid⟩ := hs.mem_loadAll.mp hguest
    have hfree := h.kept hlisted hguest (HotGuest.isServing_iff.mp hserving).1 hnone
      ((hsplit hinside).mpr hmem)
    have hsame := htracked.unwritten guest.vmName (fun next hw => hfree _ hw rfl)
      fun hw => hfree _ hw rfl
    refine mem_insideIdle.mpr ⟨?_, hserving, hnone⟩
    exact htracked.wellFormed.mem_loadAll.mpr ⟨hsame.trans hrecord, hvalid⟩

/-- **Where no lane is mixed, the pass spares.** -/
theorem Unmixed.spares (h : Unmixed config reads images now claimed s.hot.loadAll)
    (hs : s.hot.WellFormed)
    (htracked : Tracked s (passWrites config reads images now claimed s.hot.loadAll) s') :
    Spares config reads images now s.hot.loadAll
      (passWrites config reads images now claimed s.hot.loadAll) s'.hot := by
  have hlisted := listed_loadAll hs
  refine ⟨fun name lane hot hhot => ?_, fun guest hguest hidle hinside htouched => ?_,
    count_evicted_le_one (h.ordered hlisted), fun before vmName after heq =>
      not_saved_after_removed (h.ordered hlisted) heq⟩
  · have hnodup : ((insideIdle config reads images now s.hot.loadAll name lane).insertionSort
        isStaler).Nodup :=
      (perm_insertionSort isStaler _).nodup_iff.mpr (hlisted.nodup.filter _)
    have hleft := (listed_loadAll htracked.wellFormed).nodup
    have hperm := (perm_ext_iff_of_nodup (hleft.filter _)
      (hnodup.sublist (drop_sublist _ _))).mpr
        fun guest => h.mem_left hlisted hs htracked hhot
    refine ⟨hperm, hperm.length_eq.trans ?_⟩
    rw [length_drop, length_insertionSort]
    omega
  · obtain ⟨hot, hhot⟩ := enabledHot_of_inside hidle hinside
    have hserving : guest.isServing guest.profile guest.lane = true :=
      HotGuest.isServing_iff.mpr ⟨hidle, rfl, rfl⟩
    have hsurplus : guest ∈ surplusGuests config s.hot.loadAll := by
      by_contra hkept
      obtain ⟨w, hw, hname⟩ := htouched
      exact h.kept hlisted hguest hidle hinside hkept w hw hname
    have htake := (h.mem_surplusGuests_iff hhot hserving).mp hsurplus
    refine ⟨hot, hhot, ?_, htake⟩
    by_contra hfew
    rw [Nat.sub_eq_zero_of_le (Nat.not_lt.mp hfew)] at htake
    cases htake

/-! ## A pass that spares -/

/-- Without a second eviction, no machine is in two of the passes. -/
theorem Spares.counts {table : HotTable} (h : Spares config reads images now guests
    (passWrites config reads images now claimed guests) table) (vmName : VmName) :
    (boundWrites config reads images now guests).count (.evicted vmName) +
      ((surplusGuests config guests).flatMap (drainWrites .maxIdle)).count (.evicted vmName) +
      ((retriedEvictions claimed guests).flatMap evictWrites).count (.evicted vmName) ≤ 1 := by
  have honce := h.once vmName
  simp only [passWrites, count_append] at honce
  omega

theorem count_evicted_pos (h : evictWrites guest ⊆ ws) : 0 < ws.count (.evicted guest.vmName) :=
  count_pos_iff.mpr (h (by simp [evictWrites]))

theorem length_lt_of_subset {l l' : List HotGuest} (hl : l.Nodup) (h : l ⊆ l') (hmem : guest ∈ l')
    (hnot : guest ∉ l) : l.length < l'.length :=
  (nodup_cons.mpr ⟨hnot, hl⟩).length_le_of_subset (cons_subset.mpr ⟨hmem, h⟩)

/-- A lane cannot lose a machine inside its bounds and another machine of those
its count has room for: it would be left with too few. -/
theorem Spares.not_both_lost {lost other : HotGuest}
    (h : Spares config reads images now s.hot.loadAll
      (passWrites config reads images now claimed s.hot.loadAll) s'.hot)
    (hs : s.hot.WellFormed)
    (htracked : Tracked s (passWrites config reads images now claimed s.hot.loadAll) s')
    (hhot : config.enabledHot name = some hot)
    (hlost : lost ∈ insideIdle config reads images now s.hot.loadAll name lane)
    (hgone : lost ∉ insideIdle config reads images now s'.hot.loadAll name lane)
    (hother : other ∈ s.hot.loadAll) (hserving : other.isServing name lane = true)
    (hroom : other ∉ surplusGuests config s.hot.loadAll)
    (hother' : other ∉ insideIdle config reads images now s'.hot.loadAll name lane) : False := by
  have hlisted := listed_loadAll hs
  have hkept : (insideIdle config reads images now s'.hot.loadAll name lane).Nodup :=
    (listed_loadAll htracked.wellFormed).nodup.filter _
  let idle := (s.hot.loadAll.filter (·.isServing name lane)).insertionSort isStaler
  have hnodup : idle.Nodup :=
    (perm_insertionSort isStaler _).nodup_iff.mpr (hlisted.nodup.filter _)
  -- what is idle and not surplus is behind the cut
  have hrest : ∀ {guest : HotGuest}, guest ∈ s.hot.loadAll → guest.isServing name lane = true →
      guest ∉ surplusGuests config s.hot.loadAll →
        guest ∈ idle.drop (idle.length - hot.maxIdle.toNat) := by
    intro guest hguest hserves hnot
    refine (not_mem_take_iff_mem_drop hnodup ?_).mp fun htake => hnot ?_
    · exact (mem_insertionSort isStaler).mpr (mem_filter.mpr ⟨hguest, hserves⟩)
    · obtain ⟨-, rfl, rfl⟩ := HotGuest.isServing_iff.mp hserves
      exact mem_surplusGuests.mpr ⟨hot, hhot, htake⟩
  have hfewer := length_lt_of_subset hkept
    (fun guest hmem => (htracked.inside_before hs hmem).1) hlost hgone
  have hfew := length_lt_of_subset hkept (fun guest hmem => by
    obtain ⟨hinside, hremoved⟩ := htracked.inside_before hs hmem
    obtain ⟨hguest, hserves, -⟩ := mem_insideIdle.mp hinside
    exact hrest hguest hserves fun hsurplus => hremoved (removed_of_surplus hlisted hsurplus))
    (hrest hother hserving hroom) hother'
  rw [length_drop] at hfew
  have hlength := (h.left name lane hot hhot).2
  omega

/-- **Only where no lane is mixed does the pass spare.** -/
theorem Spares.unmixed (h : Spares config reads images now s.hot.loadAll
      (passWrites config reads images now claimed s.hot.loadAll) s'.hot)
    (hs : s.hot.WellFormed)
    (htracked : Tracked s (passWrites config reads images now claimed s.hot.loadAll) s') :
    Unmixed config reads images now claimed s.hot.loadAll := by
  have hlisted := listed_loadAll hs
  have hinside : ∀ {guest : HotGuest}, guest ∈ surplusGuests config s.hot.loadAll →
      boundReason config reads images now guest = none := by
    intro guest hmem
    by_contra hbound
    have hcounts := h.counts guest.vmName
    have hfirst := count_evicted_pos (evicts_outside hlisted (surplusGuests_subset hmem)
      (idle_of_mem_surplusGuests hmem) hbound)
    have hsecond := count_evicted_pos (evicts_surplus hlisted hmem)
    omega
  refine ⟨?_, fun guest hguest hidle => ?_⟩
  · rintro name lane hot hhot ⟨guest, hguest, hserving, hbound⟩
    by_contra hmany
    -- the lane has a surplus, all of it inside its bounds, and the machine outside is not in it
    obtain ⟨lost, hlost⟩ : ∃ lost, lost ∈ surplusIdle s.hot.loadAll name lane hot := by
      refine exists_mem_of_length_pos ?_
      rw [surplusIdle, length_take, length_insertionSort]
      omega
    obtain ⟨hmem, hserves⟩ := mem_of_mem_surplusIdle hlost
    have hsurplus : lost ∈ surplusGuests config s.hot.loadAll := by
      obtain ⟨-, rfl, rfl⟩ := HotGuest.isServing_iff.mp hserves
      exact mem_surplusGuests.mpr ⟨hot, hhot, hlost⟩
    refine h.not_both_lost hs htracked hhot (mem_insideIdle.mpr ⟨hmem, hserves, hinside hsurplus⟩)
      (fun hkept => ?_) hguest hserving (fun hguest => hbound (hinside hguest)) fun hkept => ?_
    · exact (htracked.inside_before hs hkept).2 (removed_of_surplus hlisted hsurplus)
    · exact hbound (mem_insideIdle.mp hkept).2.2
  · by_contra hmarked
    obtain ⟨hreason, hfree⟩ := not_or.mp hmarked
    have hnone : guest.claimedBy = none := by
      simpa [hidle] using (HotGuest.isValid_iff.mp (hlisted.valid guest hguest)).2
    have hretried : guest ∈ retriedEvictions claimed s.hot.loadAll :=
      mem_retriedEvictions.mpr ⟨hguest, by simp [hidle], hnone, hfree, hreason⟩
    have hcounts := h.counts guest.vmName
    have hlast := count_evicted_pos (evicts_retried hretried)
    by_cases hbound : boundReason config reads images now guest = none
    · obtain ⟨hot, hhot⟩ := enabledHot_of_inside hidle hbound
      have hserving : guest.isServing guest.profile guest.lane = true :=
        HotGuest.isServing_iff.mpr ⟨hidle, rfl, rfl⟩
      have hgone : guest ∉ insideIdle config reads images now s'.hot.loadAll guest.profile
          guest.lane := fun hkept => (htracked.inside_before hs hkept).2
        (mem_append_right _ (evicts_retried hretried (by simp [evictWrites])))
      refine h.not_both_lost hs htracked hhot (mem_insideIdle.mpr ⟨hguest, hserving, hbound⟩) hgone
        hguest hserving (fun hsurplus => ?_) hgone
      have hsecond := count_evicted_pos (evicts_surplus hlisted hsurplus)
      omega
    · have hfirst := count_evicted_pos (evicts_outside hlisted hguest hidle hbound)
      omega

/-- **The course of the pass**: it reads the configuration, the pool and the clock,
and then makes its writes. -/
theorem performs_ensureHotBounded (reads : PassReads) (t : TaskId) (hs : s.hot.WellFormed)
    (hlock : s.lock = none)
    (hpool : 0 < s.config.runtime.maxHotVms) :
    manager.Performs (granted reads) t ensureHotBounded s fun steps _ _ =>
      ∃ now rest, steps = [⟨.currentConfig, s.config⟩, ⟨.hotLoadAll, .ok s.hot.loadAll⟩,
          ⟨.unixTime, now⟩] ++ rest ∧
        writes rest = passWrites s.config reads s.images now (liveHotNames s.entries)
          s.hot.loadAll := by
  have hstorable : ∀ guest ∈ s.hot.loadAll, guest.isStorable = true := by
    intro guest hguest
    obtain ⟨row, -, hrow⟩ := hs.row_of_record (hs.mem_loadAll.mp hguest).1
    exact exists_hotGuestToModel.mp ⟨row, hrow⟩
  have hon : ¬ s.config.runtime.maxHotVms = 0 := by
    intro hzero
    rw [hzero] at hpool
    exact absurd hpool (by decide)
  unfold ensureHotBounded
  refine ⟨fun _ => ⟨{}, rfl, rfl⟩, fun _ a s₁ config _ _ hexec => ?_⟩
  cases hexec
  refine ⟨fun _ => ⟨{}, rfl, rfl⟩, fun _ b s₂ listed _ hok hexec => ?_⟩
  have hread : b.failed = false := by simpa [granted] using hok
  simp only [manager, exec, Answer.stored, hread, Bool.false_eq_true, if_false] at hexec
  cases hexec
  refine ⟨fun _ => ⟨{}, rfl, rfl⟩, fun _ c s₃ now _ _ hexec => ?_⟩
  simp only [manager, exec] at hexec
  split_ifs at hexec
  cases hexec
  have hconfig : (s.tick a.elapsed).config = s.config := rfl
  simp only [hconfig, if_neg hon]
  refine Performs.mono (writes_passes hstorable ?_) ?_
  · exact hlock
  rintro rest - s₄ ⟨hwrites, -, -⟩
  exact ⟨c.now, rest, rfl, hwrites⟩

end Pass

end FlanForge
