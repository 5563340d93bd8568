import FlanForge.Common.Trace
import FlanForge.Manager.System

/-!
# What the bounds pass writes

`ensureHotBounded` lists the pool once and then makes four passes over that
listing: the bounds of each machine, the surplus of each lane, the drains
nobody waits for, and the evictions to retry. Left alone, and with every call
answered, it writes exactly `passWrites`: which records it saves, which
machines it has the backend destroy and which records it removes, in order,
is a function of the listing and of what it reads on the way.
-/

namespace FlanForge

open Machine (Performs Step)

/-! ## Writes -/

/-- A write of the pool: a record saved in a state, the backend asked to destroy
a machine, or a record removed. -/
inductive Write
  | saved (vmName : VmName) (state : HotState)
  | evicted (vmName : VmName)
  | removed (vmName : VmName)
  deriving DecidableEq

/-- The write an operation made, if it made one. -/
def writeOf : Step Op.Res → Option Write
  | ⟨.hotSave _ guest, .ok _⟩ => some (.saved guest.vmName guest.state)
  | ⟨.hotEvict guest, _⟩ => some (.evicted guest.vmName)
  | ⟨.hotRemove vmName, .ok _⟩ => some (.removed vmName)
  | _ => none

/-- The writes of a course of operations. -/
def writes (steps : List (Step Op.Res)) : List Write := steps.filterMap writeOf

theorem writes_append (steps rest : List (Step Op.Res)) :
    writes (steps ++ rest) = writes steps ++ writes rest := List.filterMap_append

/-! ## What the pass reads and what it writes -/

/-- What the pass reads besides the pool: the base each template has now, and
the profiles whose warm record cannot be read. -/
structure PassReads where
  fingerprint : VmName → Option BaseFingerprint
  isUnreadable : ProfileName → Bool

/-- The generation the profile promotes, as far as it can be read. -/
def PassReads.generation (reads : PassReads) (images : List WarmImageRecord) (name : ProfileName) :
    Option UInt64 :=
  if reads.isUnreadable name then none
  else (images.find? (·.profile = name)).bind fun record =>
    if record.state = .promoted then some record.generation else none

/-- Every call succeeds and reads what there is to read; only the warm records
may be unreadable. -/
def granted (reads : PassReads) (_ : State) (op : Op) (a : Answer) : Bool :=
  match op with
  | .hotLoadAll | .hotSave .. | .hotRemove _ | .hotEvict _ => !a.failed
  | .imageLoad name => a.failed = reads.isUnreadable name
  | .baseFingerprint template => a.fingerprint = reads.fingerprint template
  | _ => true

/-- Why the pass drains a machine, if its own bounds ask for it. -/
def boundReason (config : Config) (reads : PassReads) (images : List WarmImageRecord)
    (now : UInt64) (guest : HotGuest) : Option HotDrainReason :=
  if guest.state.isTerminal then none
  else
    match config.profile? guest.profile, config.enabledHot guest.profile with
    | some profile, some hot =>
      drainReason guest ⟨hot, reads.fingerprint profile.template,
        reads.generation images guest.profile, now⟩
    | _, _ => some .configReloaded

/-- The writes of a completed eviction. -/
def evictWrites (guest : HotGuest) : List Write := [.evicted guest.vmName, .removed guest.vmName]

/-- The writes of a drain. -/
def drainWrites (reason : HotDrainReason) (guest : HotGuest) : List Write :=
  match guest.state with
  | .draining => []
  | .idle | .claimed =>
    .saved guest.vmName .draining :: if guest.claimedBy.isNone then evictWrites guest else []
  | .provisioning | .recycling | .evicted =>
    if guest.drainReason = some reason then [] else [.saved guest.vmName guest.state]

/-- The writes of the first pass: every bound of every machine. -/
def boundWrites (config : Config) (reads : PassReads) (images : List WarmImageRecord)
    (now : UInt64) (guests : List HotGuest) : List Write :=
  guests.flatMap fun guest =>
    (boundReason config reads images now guest).elim [] (drainWrites · guest)

/-- The machines the second pass drains. -/
def surplusGuests (config : Config) (guests : List HotGuest) : List HotGuest :=
  (idleLanes guests).flatMap fun lane =>
    (config.enabledHot lane.1).elim [] fun hot => surplusIdle guests lane.1 lane.2 hot

/-- The machines the third pass destroys. -/
def finishedDrains (claimed : List String) (guests : List HotGuest) : List HotGuest :=
  guests.filter fun guest => guest.state = .draining && !claimed.contains guest.vmName.value

/-- The machines the fourth pass destroys. -/
def retriedEvictions (claimed : List String) (guests : List HotGuest) : List HotGuest :=
  guests.filter fun guest =>
    guest.state ≠ .draining && guest.claimedBy.isNone && !claimed.contains guest.vmName.value &&
      guest.drainReason.isSome

/-- The writes of the whole pass. -/
def passWrites (config : Config) (reads : PassReads) (images : List WarmImageRecord)
    (now : UInt64) (claimed : List String) (guests : List HotGuest) : List Write :=
  boundWrites config reads images now guests ++
    (surplusGuests config guests).flatMap (drainWrites .maxIdle) ++
      (finishedDrains claimed guests).flatMap evictWrites ++
        (retriedEvictions claimed guests).flatMap evictWrites

/-! ## A program and its writes -/

/-- What the pass reads from the state stays as it is. -/
structure Apart (s s' : State) : Prop where
  images : s'.images = s.images
  entries : s'.entries = s.entries
  lock : s'.lock = s.lock

theorem Apart.refl (s : State) : Apart s s := ⟨rfl, rfl, rfl⟩

theorem Apart.trans {s₁ s₂ s₃ : State} (h : Apart s₁ s₂) (h' : Apart s₂ s₃) : Apart s₁ s₃ :=
  ⟨h'.images.trans h.images, h'.entries.trans h.entries, h'.lock.trans h.lock⟩

variable {reads : PassReads} {t : TaskId} {s s' : State} {α β : Type} {ws w : List Write}

/-- **The program, left alone, makes these writes** and returns such a result. -/
def Writes (reads : PassReads) (t : TaskId) (p : Manager α) (s : State) (ws : List Write)
    (R : α → Prop) : Prop :=
  manager.Performs (granted reads) t p s fun steps a s' => writes steps = ws ∧ Apart s s' ∧ R a

namespace Writes

variable {R : α → Prop}

theorem ret {a : α} (h : R a) : Writes reads t (.ret a) s [] R :=
  ⟨rfl, .refl s, h⟩

theorem perform {o : Op} {R : o.Res → Prop}
    (hprogress : ∀ fresh, ∃ a, granted reads s o a = true ∧ (exec t fresh o a s).isSome = true)
    (h : ∀ fresh a s' r spawned, granted reads s o a = true →
      exec t fresh o a s = some (s', r, spawned) → writes [⟨o, r⟩] = ws ∧ Apart s s' ∧ R r) :
    Writes reads t (Prog.perform o) s ws R :=
  ⟨hprogress, fun fresh a s' r spawned hok hexec => h fresh a s' r spawned hok hexec⟩

variable {f : α → Manager β} {R' : β → Prop}

/-- One program after the other. -/
theorem bind {p : Manager α} (hp : Writes reads t p s ws R)
    (hf : ∀ a s', R a → Apart s s' → Writes reads t (f a) s' w R') :
    Writes reads t (p >>= f) s (ws ++ w) R' := by
  refine Performs.bind (Performs.mono hp ?_)
  rintro steps a s₁ ⟨rfl, h₁, ha⟩
  refine Performs.mono (hf a s₁ ha h₁) ?_
  rintro rest b s₂ ⟨rfl, h₂, hb⟩
  exact ⟨writes_append steps rest, h₁.trans h₂, hb⟩

/-- A program that writes nothing, before one that does. -/
theorem reading {p : Manager α} (hp : Writes reads t p s [] R)
    (hf : ∀ a s', R a → Apart s s' → Writes reads t (f a) s' ws R') :
    Writes reads t (p >>= f) s ws R' := bind hp hf

/-- A loop writes what its turns write. -/
theorem forEach {f : β → Manager Unit} {g : β → List Write} {l : List β}
    (h : ∀ b ∈ l, ∀ s', Apart s s' → Writes reads t (f b) s' (g b) fun _ => True) :
    Writes reads t (Prog.forEach l f) s (l.flatMap g) fun _ => True := by
  induction l generalizing s with
  | nil => exact ret trivial
  | cons b bs ih =>
    rw [Prog.forEach_cons, List.flatMap_cons]
    refine bind (h b List.mem_cons_self s (.refl s)) fun _ s₁ _ h₁ => ih fun c hc s₂ h₂ => ?_
    exact h c (List.mem_cons_of_mem b hc) s₂ (h₁.trans h₂)

end Writes

/-! ## The operations of the pass -/

section Operations

variable {guest : HotGuest} {vmName : VmName} {name : ProfileName} {base : Base}

theorem writes_unixTime :
    Writes reads t (Prog.perform Op.unixTime) s [] fun now => now.toNat < 2 ^ 63 := by
  refine .perform (fun _ => ⟨{}, rfl, rfl⟩) fun _ a s' r _ _ hexec => ?_
  simp only [exec] at hexec
  split_ifs at hexec with hnow
  cases hexec
  exact ⟨rfl, ⟨rfl, rfl, rfl⟩, hnow⟩

theorem writes_note {n : Note} : Writes reads t (Prog.perform (Op.note n)) s [] fun _ => True := by
  refine .perform (fun _ => ⟨{}, rfl, rfl⟩) fun _ a s' r _ _ hexec => ?_
  cases hexec
  exact ⟨rfl, ⟨rfl, rfl, rfl⟩, trivial⟩

theorem writes_hotSave (hstorable : guest.isStorable = true) :
    Writes reads t (Prog.perform (Op.hotSave base guest)) s [.saved guest.vmName guest.state]
      (· = .ok ()) := by
  obtain ⟨row, hrow⟩ := exists_hotGuestToModel.mpr hstorable
  have hsave : ∀ s₁ : State, s₁.hot.save guest = .ok (Table.put HotGuestModel.vmName row s₁.hot) :=
    fun s₁ => by simp [HotTable.save, hrow]
  refine .perform (fun _ => ⟨{}, rfl, by simp [exec, Answer.stored, hsave]⟩) ?_
  intro _ a s' r _ hok hexec
  simp only [granted, Bool.not_eq_true'] at hok
  simp only [exec, Answer.stored, hok, Bool.false_eq_true, if_false, hsave] at hexec
  cases hexec
  exact ⟨rfl, ⟨rfl, rfl, rfl⟩, rfl⟩

theorem writes_hotEvict :
    Writes reads t (Prog.perform (Op.hotEvict guest)) s [.evicted guest.vmName] (· = .ok ()) := by
  refine .perform (fun _ => ⟨{}, rfl, rfl⟩) fun _ a s' r _ hok hexec => ?_
  simp only [granted, Bool.not_eq_true'] at hok
  simp only [exec, Answer.worked, hok, Bool.false_eq_true, if_false] at hexec
  cases hexec
  exact ⟨rfl, ⟨rfl, rfl, rfl⟩, rfl⟩

theorem writes_hotRemove :
    Writes reads t (Prog.perform (Op.hotRemove vmName)) s [.removed vmName] (· = .ok ()) := by
  refine .perform (fun _ => ⟨{}, rfl, rfl⟩) fun _ a s' r _ hok hexec => ?_
  simp only [granted, Bool.not_eq_true'] at hok
  simp only [exec, hok, Bool.false_eq_true, if_false] at hexec
  cases hexec
  exact ⟨rfl, ⟨rfl, rfl, rfl⟩, rfl⟩

theorem writes_baseFingerprint {template : VmName} :
    Writes reads t (Prog.perform (Op.baseFingerprint template)) s []
      (· = reads.fingerprint template) := by
  refine .perform (fun _ => ⟨{ fingerprint := reads.fingerprint template }, ?_, rfl⟩) ?_
  · exact decide_eq_true rfl
  intro _ a s' r _ hok hexec
  cases hexec
  exact ⟨rfl, ⟨rfl, rfl, rfl⟩, of_decide_eq_true hok⟩

theorem writes_promotedGeneration :
    Writes reads t (promotedGeneration name) s [] (· = reads.generation s.images name) := by
  have hread : Writes reads t (Prog.perform (Op.imageLoad name)) s [] fun r =>
      (reads.isUnreadable name = true ∧ ∃ e, r = .error e) ∨
        reads.isUnreadable name = false ∧ r = .ok (s.images.find? (·.profile = name)) := by
    refine .perform (fun _ => ⟨{ failed := reads.isUnreadable name }, ?_, rfl⟩) ?_
    · exact decide_eq_true rfl
    intro _ a s' r _ hok hexec
    have hfailed : a.failed = reads.isUnreadable name := of_decide_eq_true hok
    cases hexec
    refine ⟨rfl, ⟨rfl, rfl, rfl⟩, ?_⟩
    cases hunreadable : reads.isUnreadable name with
    | true => exact .inl ⟨rfl, _, by simp only [Answer.stored, hfailed, hunreadable, if_true]; rfl⟩
    | false =>
      refine .inr ⟨rfl, ?_⟩
      simp only [Answer.stored, hfailed, hunreadable, Bool.false_eq_true, if_false]
      rfl
  refine .reading hread ?_
  rintro r s₁ (⟨hunreadable, e, rfl⟩ | ⟨hreadable, rfl⟩) -
  · refine .ret ?_
    simp [PassReads.generation, hunreadable]
  · cases hfound : s.images.find? (·.profile = name) with
    | none =>
      refine .ret ?_
      simp [PassReads.generation, hreadable, hfound]
    | some record =>
      refine .ret ?_
      simp [PassReads.generation, hreadable, hfound]

theorem writes_hotClaimedNames (hlock : s.lock = none) :
    Writes reads t hotClaimedNames s [] (· = liveHotNames s.entries) := by
  have hread : Writes reads t (Prog.perform Op.readEntries) s [] (· = s.entries) := by
    refine .perform (fun _ => ⟨{}, rfl, by simp [exec, State.tick, hlock]⟩) ?_
    intro _ a s' r _ _ hexec
    simp only [exec] at hexec
    split_ifs at hexec
    cases hexec
    exact ⟨rfl, ⟨rfl, rfl, rfl⟩, rfl⟩
  refine .reading hread ?_
  rintro _ s₁ rfl -
  exact .ret rfl

end Operations

/-! ## The programs of the pass -/

section Programs

variable {guest : HotGuest} {reason : HotDrainReason} {config : Config} {now : UInt64}
variable {guests : List HotGuest}

theorem writes_ensureHotEvicted :
    Writes reads t (ensureHotEvicted guest reason) s (evictWrites guest) fun _ => True := by
  refine .bind writes_hotEvict (w := [.removed guest.vmName]) ?_
  rintro _ s₁ rfl -
  refine .bind writes_hotRemove (w := []) fun _ s₂ _ _ => ?_
  exact .ret trivial

theorem writes_evictChosen :
    Writes reads t (evictChosen guest reason) s (evictWrites guest) fun _ => True := by
  rw [← List.append_nil (evictWrites guest)]
  exact .bind writes_ensureHotEvicted fun _ _ _ _ => writes_note

theorem writes_chooseAndEvict :
    Writes reads t (chooseAndEvict guest reason) s (evictWrites guest) fun _ => True :=
  .reading writes_note fun _ _ _ _ => writes_evictChosen

/-- A record that could be written can be written with another state, time and
reason. -/
theorem isStorable_moved {state : HotState} {drainReason : Option HotDrainReason}
    (h : guest.isStorable = true) (hnow : now.toNat < 2 ^ 63) :
    { guest with state, updatedAtUnix := now, drainReason }.isStorable = true := by
  simp only [HotGuest.isStorable, Bool.and_eq_true, decide_eq_true_eq] at h ⊢
  exact ⟨h.1, hnow⟩

/-- A record that cannot move is stamped, once. -/
theorem writes_ensureHotEvictionPending (hstorable : guest.isStorable = true) :
    Writes reads t (ensureHotEvictionPending guest reason) s
      (if guest.drainReason = some reason then [] else [.saved guest.vmName guest.state])
      fun _ => True := by
  unfold ensureHotEvictionPending
  by_cases hstamped : guest.drainReason = some reason
  · rw [if_pos hstamped, if_pos hstamped]
    exact .ret trivial
  · rw [if_neg hstamped, if_neg hstamped]
    have hstored : { guest with drainReason := some reason }.isStorable = true := hstorable
    exact .bind (writes_hotSave hstored) (w := []) fun _ _ _ _ => .ret trivial

/-- A record that can move is saved as draining, and an unclaimed machine is
destroyed. -/
theorem writes_moved (hstorable : guest.isStorable = true) (hnow : now.toNat < 2 ^ 63) :
    let draining := { guest with
      state := HotState.draining, updatedAtUnix := now, drainReason := some reason }
    Writes reads t (if draining.claimedBy.isNone then do
        Prog.perform (Op.note (.chose guest.vmName))
        match ← Prog.perform (Op.hotSave (.copy guest) draining) with
        | .error _ => Prog.perform (Op.note (.settled guest.vmName))
        | .ok _ => evictChosen draining reason
      else do
        let _ ← Prog.perform (Op.hotSave (.copy guest) draining)
        pure ()) s
      (.saved guest.vmName .draining :: if guest.claimedBy.isNone then evictWrites guest else [])
      fun _ => True := by
  intro draining
  have hstored : draining.isStorable = true := isStorable_moved hstorable hnow
  by_cases hfree : guest.claimedBy.isNone = true
  · have hfree' : draining.claimedBy.isNone = true := hfree
    rw [if_pos hfree, if_pos hfree']
    refine .reading writes_note fun _ _ _ _ => .bind (writes_hotSave hstored)
      (w := evictWrites guest) ?_
    rintro _ s₁ rfl -
    exact writes_evictChosen
  · have hheld : ¬ draining.claimedBy.isNone = true := hfree
    rw [if_neg hfree, if_neg hheld]
    exact .bind (writes_hotSave hstored) (w := []) fun _ _ _ _ => .ret trivial

theorem writes_ensureHotDrained (hstorable : guest.isStorable = true) :
    Writes reads t (ensureHotDrained guest reason) s (drainWrites reason guest) fun _ => True := by
  unfold ensureHotDrained
  by_cases hdraining : guest.state = .draining
  · rw [if_pos hdraining, drainWrites, hdraining]
    exact .ret trivial
  rw [if_neg hdraining]
  refine .reading writes_unixTime fun now s₁ hnow _ => ?_
  by_cases hmoves : guest.state.canTransitionTo .draining = true
  · -- idle or claimed
    have hwrites : drainWrites reason guest = .saved guest.vmName .draining ::
        if guest.claimedBy.isNone then evictWrites guest else [] := by
      cases hstate : guest.state <;> rw [hstate] at hmoves hdraining <;>
        simp_all [drainWrites, HotState.canTransitionTo]
    rw [HotGuest.ensureState_eq_ok.mpr ⟨hmoves, rfl⟩, hwrites]
    exact writes_moved hstorable hnow
  · -- in the middle of an operation
    have hwrites : drainWrites reason guest =
        if guest.drainReason = some reason then [] else [.saved guest.vmName guest.state] := by
      cases hstate : guest.state <;> rw [hstate] at hmoves hdraining <;>
        simp_all [drainWrites, HotState.canTransitionTo]
    rw [HotGuest.ensureState, if_pos (by simpa using hmoves), hwrites]
    exact writes_ensureHotEvictionPending hstorable

theorem writes_ensureGuestBounded (hstorable : guest.isStorable = true) :
    Writes reads t (ensureGuestBounded config now guest) s
      ((boundReason config reads s.images now guest).elim [] (drainWrites · guest))
      fun _ => True := by
  unfold ensureGuestBounded boundReason
  by_cases hterminal : guest.state.isTerminal = true
  · rw [if_pos hterminal, if_pos hterminal]
    exact .ret trivial
  rw [if_neg hterminal, if_neg hterminal]
  cases hprofile : config.profile? guest.profile with
  | none => exact writes_ensureHotDrained hstorable
  | some profile =>
    cases hhot : config.enabledHot guest.profile with
    | none => exact writes_ensureHotDrained hstorable
    | some hot =>
      refine .reading writes_baseFingerprint ?_
      rintro _ s₁ rfl h₁
      refine .reading writes_promotedGeneration ?_
      rintro _ s₂ rfl -
      rw [h₁.images]
      simp only
      cases hreason : drainReason guest ⟨hot, reads.fingerprint profile.template,
          reads.generation s.images guest.profile, now⟩ with
      | none => exact .ret trivial
      | some reason => exact writes_ensureHotDrained hstorable

/-- A lane's surplus is among its idle machines. -/
theorem mem_of_mem_surplusIdle {name : ProfileName} {lane : HotLane} {hot : HotConfig}
    (h : guest ∈ surplusIdle guests name lane hot) :
    guest ∈ guests ∧ guest.isServing name lane = true := by
  have hidle := List.mem_of_mem_take h
  rw [List.mem_insertionSort] at hidle
  exact List.mem_filter.mp hidle

theorem writes_ensureHotSurplusRetired (hstorable : ∀ guest ∈ guests, guest.isStorable = true) :
    Writes reads t (ensureHotSurplusRetired guests config) s
      ((surplusGuests config guests).flatMap (drainWrites .maxIdle)) fun _ => True := by
  rw [surplusGuests, List.flatMap_assoc]
  refine .forEach fun (name, lane) _ s₁ _ => ?_
  simp only
  cases hhot : config.enabledHot name with
  | none => exact .ret trivial
  | some hot =>
    refine .forEach fun guest hmem s₂ _ => writes_ensureHotDrained (hstorable guest ?_)
    exact (mem_of_mem_surplusIdle hmem).1

theorem writes_ensureHotDrainsFinished (hlock : s.lock = none) :
    Writes reads t (ensureHotDrainsFinished guests) s
      ((finishedDrains (liveHotNames s.entries) guests).flatMap evictWrites) fun _ => True := by
  refine .reading (writes_hotClaimedNames hlock) ?_
  rintro _ s₁ rfl -
  exact .forEach fun guest _ s₂ _ => writes_chooseAndEvict

theorem writes_ensureHotEvictionsRetried (hlock : s.lock = none) :
    Writes reads t (ensureHotEvictionsRetried guests) s
      ((retriedEvictions (liveHotNames s.entries) guests).flatMap evictWrites) fun _ => True := by
  refine .reading (writes_hotClaimedNames hlock) ?_
  rintro _ s₁ rfl -
  exact .forEach fun guest _ s₂ _ => writes_chooseAndEvict

/-- **The four passes make exactly these writes.** -/
theorem writes_passes (hstorable : ∀ guest ∈ guests, guest.isStorable = true)
    (hlock : s.lock = none) :
    Writes reads t (do
        Prog.forEach guests (ensureGuestBounded config now)
        ensureHotSurplusRetired guests config
        ensureHotDrainsFinished guests
        ensureHotEvictionsRetried guests) s
      (passWrites config reads s.images now (liveHotNames s.entries) guests) fun _ => True := by
  have hbounds : Writes reads t (Prog.forEach guests (ensureGuestBounded config now)) s
      (boundWrites config reads s.images now guests) fun _ => True := by
    refine .forEach fun guest hmem s₁ h₁ => ?_
    rw [← h₁.images]
    exact writes_ensureGuestBounded (hstorable guest hmem)
  rw [passWrites, List.append_assoc, List.append_assoc]
  refine .bind hbounds fun _ s₁ _ h₁ => .bind (writes_ensureHotSurplusRetired hstorable) ?_
  intro _ s₂ _ h₂
  have h₁₂ := h₁.trans h₂
  rw [← h₁₂.entries]
  refine .bind (writes_ensureHotDrainsFinished (h₁₂.lock.trans hlock)) fun _ s₃ _ h₃ => ?_
  rw [← h₃.entries]
  exact writes_ensureHotEvictionsRetried (h₃.lock.trans (h₁₂.lock.trans hlock))

end Programs

end FlanForge
