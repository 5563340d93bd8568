import FlanForge.Runs.CloneNames

/-!
# One claim per machine

Two creates may decide on one snapshot of the pool, as old as they like, and
still never hold the same machine: the claim is refused where the live
entries, read under the lock, already name the machine. That the machine is
of the request's own profile and lane is only read from the snapshot. It is
true of the machine that now has the name as long as a name is never handed
to the pool for another profile or lane.
-/

namespace FlanForge

/-- The process is not restarted. -/
def oneProcess : ManagerRegime where
  call _ _ _ _ := true
  start _ _ := true
  env _ _ := true
  reboot _ := false

variable {G : ManagerRegime} {w : Worlds} {t : TaskId} {s s' : State} {a b : Allocation}
variable {vmName : VmName}

/-- A process that is not restarted serves from the start. -/
theorem serving_of_run (hG : ∀ s, G.reboot s = false) (hw : Run G w) :
    w.shared.isServing = true := by
  refine Run.invariant (J := fun s => s.isServing = true) (fun s hs => hs.serving) ?_
    (fun _ _ h => h) (fun s e s' hJ _ henv => henv.isServing.trans hJ) ?_ hw
  · intro w t fresh op ans s' spawned _ hJ _ _ _ he
    rcases he.isServing_cases with h | ⟨-, h⟩
    · rw [h, hJ]
    · exact h
  · intro t s _ hreboot
    rw [hG] at hreboot
    cases hreboot

/-- While the process serves, an active allocation was so before or is admitted
now. -/
theorem ActiveStep.mem_serving {op : Op} (h : ActiveStep s op s') (hserving : s.isServing = true)
    (hb : b ∈ s'.active) :
    (∃ x ∈ s.active, x.SameRun b) ∨ ∃ profile seen, op = .commit b profile seen := by
  rcases h.mem hb with h | h | ⟨h, -⟩
  · exact .inl h
  · exact .inr h
  · rw [hserving] at h
    cases h

/-- Related allocations of the list are the same one. -/
def AtMostOne (R : Allocation → Allocation → Prop) (l : List Allocation) : Prop :=
  ∀ a ∈ l, ∀ b ∈ l, R a b → a.id = b.id

/-- **What admission refuses stays unique.** A relation between allocations
that only looks at what admission fixed, and that no admitted allocation
stands in to an active one, holds between no two active allocations. -/
theorem ActiveStep.atMostOne {op : Op} {R : Allocation → Allocation → Prop}
    (h : ActiveStep s op s') (hserving : s.isServing = true)
    (hR : ∀ a a' b b' : Allocation, a.SameRun a' → b.SameRun b' → R a' b' → R a b)
    (hnew : ∀ a profile seen, op = .commit a profile seen → ∀ b ∈ s.active, ¬ R a b ∧ ¬ R b a)
    (hJ : AtMostOne R s.active) : AtMostOne R s'.active := by
  intro a ha b hb hab
  -- whichever of the two is new was refused if the other was there
  rcases h.mem_serving hserving ha with ⟨x, hx, hxa⟩ | ⟨profile, seen, hop⟩ <;>
    rcases h.mem_serving hserving hb with ⟨y, hy, hyb⟩ | ⟨profile', seen', hop'⟩
  · rw [hxa.id, hyb.id]
    exact hJ x hx y hy (hR x a y b hxa hyb hab)
  · exact absurd (hR x a b b hxa (.refl b) hab) (hnew b profile' seen' hop' x hx).2
  · exact absurd (hR a a y b (.refl a) hyb hab) (hnew a profile seen hop y hy).1
  · cases hop.symm.trans hop'
    rfl

/-! ## Mutual exclusion -/

/-- Both reuse the same machine. -/
def SharesMachine (a b : Allocation) : Prop :=
  ∃ vmName, a.origin.hotVmName = some vmName ∧ b.origin.hotVmName = some vmName

/-- No two live allocations reuse one machine. -/
def Exclusive (s : State) : Prop := AtMostOne SharesMachine s.active

/-- A committed claim names a machine no live allocation names. -/
theorem CommitSpec.unclaimed {seen : List HotGuest} (h : CommitSpec t s a seen)
    (horigin : a.origin.hotVmName = some vmName) (hb : b ∈ s.active) :
    b.origin.hotVmName ≠ some vmName := by
  obtain ⟨config, -, size, machines, -, -, hclaim⟩ := h.capacity
  cases ho : a.origin with
  | cloned =>
    rw [ho] at horigin
    cases horigin
  | hotReuse name jobs booted =>
    rw [ho] at horigin
    cases horigin
    simp only [ClaimSpec, ho] at hclaim
    obtain ⟨base, -, lane, -, -, -, hfree, -⟩ := hclaim
    intro hname
    refine hfree (List.mem_filterMap.mpr ⟨b, hb, ?_⟩)
    rw [hname]
    rfl

theorem exclusive_of_run (hG : ∀ s, G.reboot s = false) (hw : Run G w) : Exclusive w.shared := by
  refine Run.invariant (J := Exclusive) ?_ ?_ (fun _ _ h => h) ?_ ?_ hw
  · intro s hs a ha
    simp [State.active, activeAllocations, hs.entries] at ha
  · intro w t fresh op ans s' spawned hw hJ hspec _ _ he
    refine (he.active hw.inv hspec).atMostOne (serving_of_run hG hw) ?_ ?_ hJ
    · rintro a a' b b' ha hb ⟨vmName, hva, hvb⟩
      exact ⟨vmName, ha.origin ▸ hva, hb.origin ▸ hvb⟩
    · rintro a profile seen rfl b hb
      refine ⟨?_, ?_⟩
      · rintro ⟨_, hva, hvb⟩
        exact CommitSpec.unclaimed hspec hva hb hvb
      · rintro ⟨_, hvb, hva⟩
        exact CommitSpec.unclaimed hspec hva hb hvb
  · intro s e s' hJ _ henv
    unfold Exclusive
    rw [State.active_congr henv.held]
    exact hJ
  · intro t s _ hreboot
    rw [hG] at hreboot
    cases hreboot

/-! ## Profiles and lanes -/

/-- The machine is handed to the pool under the profile and lane its name had
there before, if it had. -/
def isSameLane (s : State) (guest : HotGuest) : Bool :=
  s.history.pooled.all fun p =>
    p.vmName ≠ guest.vmName || (p.profile = guest.profile && p.lane = guest.lane)

/-- No name changes its profile or lane. -/
def fixedLanes : ManagerRegime where
  call s _ op _ :=
    match op with
    | .hotSave (.fresh _) guest => isSameLane s guest
    | _ => true
  start _ _ := true
  env _ _ := true
  reboot _ := false

theorem isSameLane_iff {guest : HotGuest} : isSameLane s guest = true ↔
    ∀ p ∈ s.history.pooled, p.vmName = guest.vmName →
      p.profile = guest.profile ∧ p.lane = guest.lane := by
  simp [isSameLane, or_iff_not_imp_left]

/-- What admission vouched for stays vouched for. -/
theorem recorded_of_admitted (hw : Run G w) : ∀ a ∈ w.shared.history.admitted,
    Recorded w.shared.history a := by
  refine Run.invariant (J := fun s => ∀ a ∈ s.history.admitted, Recorded s.history a) ?_ ?_
    (fun _ _ h => fun a ha => (h a ha).grow (.of_eq rfl rfl rfl rfl)) ?_
    (fun _ _ h _ => fun a ha => (h a ha).grow (.of_eq rfl rfl rfl rfl)) hw
  · intro s hs a ha
    simp [hs.history, History.initial] at ha
  · intro w t fresh op ans s' spawned _ hJ hspec _ _ he a ha
    rcases he.admitted_cases with ⟨h, -⟩ | ⟨b, profile, seen, rfl, h, -⟩
    · exact (hJ a (h ▸ ha)).grow he.grows
    · rw [h, List.mem_cons] at ha
      rcases ha with rfl | ha
      · exact (CommitSpec.recorded hspec).grow he.grows
      · exact (hJ a ha).grow he.grows
  · intro s e s' hJ _ henv a ha
    refine (hJ a ?_).grow henv.grows
    rcases henv.config with ⟨-, h⟩ | ⟨config, -, -, -, h⟩ <;> rwa [h] at ha

/-- Every name stands for one profile and lane, and every reuse was granted to
an allocation of it. -/
structure LanesKept (s : State) : Prop where
  agree : ∀ p ∈ s.history.pooled, ∀ q ∈ s.history.pooled, p.vmName = q.vmName →
    p.profile = q.profile ∧ p.lane = q.lane
  granted : ∀ a ∈ s.history.admitted, ∀ vmName, a.origin.hotVmName = some vmName →
    ∃ p ∈ s.history.pooled, p.vmName = vmName ∧ p.profile = a.request.profile ∧
      a.hotLane = some p.lane

theorem lanesKept_of_run (hw : Run fixedLanes w) : LanesKept w.shared := by
  refine ⟨?_, fun a ha vmName hv => (recorded_of_admitted hw a ha).reuse vmName hv⟩
  refine Run.invariant (J := fun s => ∀ p ∈ s.history.pooled, ∀ q ∈ s.history.pooled,
    p.vmName = q.vmName → p.profile = q.profile ∧ p.lane = q.lane) ?_ ?_ (fun _ _ h => h) ?_ ?_ hw
  · intro s hs
    simp [hs.history, History.initial]
  · intro w t fresh op ans s' spawned _ hJ _ _ hcall he
    rcases he.pooled_cases with h | ⟨id, guest, rfl, h⟩
    · rw [h]
      exact hJ
    · have hsame := isSameLane_iff.mp (show isSameLane w.shared guest = true from hcall)
      rw [h]
      intro p hp q hq heq
      rcases List.mem_cons.mp hp with rfl | hp <;> rcases List.mem_cons.mp hq with rfl | hq
      · exact ⟨rfl, rfl⟩
      · obtain ⟨hprofile, hlane⟩ := hsame q hq heq.symm
        exact ⟨hprofile.symm, hlane.symm⟩
      · exact hsame p hp heq
      · exact hJ p hp q hq heq
  · intro s e s' hJ _ henv
    rcases henv.config with ⟨-, h⟩ | ⟨config, -, -, -, h⟩ <;> rw [h] <;> exact hJ
  · intro t s _ hreboot
    cases hreboot

/-- **A machine has one live user, of its own profile and lane.** The first part
holds in every run of a process, whatever snapshots its creates decide on;
the second as long as no name is handed to the pool for another profile or
lane than before. -/
theorem reuse_exclusive (w : Worlds) :
    (Run oneProcess w → ∀ a ∈ w.shared.active, ∀ b ∈ w.shared.active, ∀ vmName,
      a.origin.hotVmName = some vmName → b.origin.hotVmName = some vmName → a.id = b.id) ∧
    (Run fixedLanes w → ∀ a ∈ w.shared.history.admitted, ∀ vmName,
      a.origin.hotVmName = some vmName → ∀ p ∈ w.shared.history.pooled, p.vmName = vmName →
        p.profile = a.request.profile ∧ a.hotLane = some p.lane) := by
  refine ⟨fun hw a ha b hb vmName hva hvb =>
    exclusive_of_run (fun _ => rfl) hw a ha b hb ⟨vmName, hva, hvb⟩,
    fun hw a ha vmName hv p hp hname => ?_⟩
  have hkept := lanesKept_of_run hw
  obtain ⟨q, hq, hqname, hprofile, hlane⟩ := hkept.granted a ha vmName hv
  obtain ⟨hpp, hpl⟩ := hkept.agree p hp q hq (hname.trans hqname.symm)
  exact ⟨hpp.trans hprofile, by rw [hlane, hpl]⟩

/-- A live allocation reuses the machine handed over last. -/
def reusesLast (isOwnLane : Bool) (w : Worlds) : Bool :=
  match w.shared.history.pooled with
  | p :: _ => w.shared.active.any fun a => a ∈ w.shared.history.admitted &&
      a.origin.hotVmName = some p.vmName && (a.hotLane = some p.lane : Bool) = isOwnLane
  | [] => false

theorem reusesLast_iff {isOwnLane : Bool} (h : reusesLast isOwnLane w = true) :
    ∃ p a, w.shared.history.pooled.head? = some p ∧ a ∈ w.shared.active ∧
      a ∈ w.shared.history.admitted ∧ a.origin.hotVmName = some p.vmName ∧
      (a.hotLane = some p.lane ↔ isOwnLane = true) := by
  unfold reusesLast at h
  split at h
  · rename_i p rest hpooled
    obtain ⟨a, ha, hsame⟩ := List.any_eq_true.mp h
    simp only [Bool.and_eq_true, decide_eq_true_eq] at hsame
    obtain ⟨⟨hadmitted, horigin⟩, hlane⟩ := hsame
    exact ⟨p, a, by rw [hpooled]; rfl, ha, hadmitted, horigin, by rw [← hlane]; simp⟩
  · cases h

/-- The second run of the small installation, as the one user of the first
run's machine. -/
theorem reuse_exclusive_second : ∃ w a, ∃ p : Pooled, Run oneProcess w ∧ Run fixedLanes w ∧
    a ∈ w.shared.active ∧ a.origin.hotVmName = some p.vmName ∧
      (∀ b ∈ w.shared.active, b.origin.hotVmName = some p.vmName → a.id = b.id) ∧
      p.profile = a.request.profile ∧ a.hotLane = some p.lane := by
  obtain ⟨w, hw, hcheck⟩ : ∃ w, Run fixedLanes w ∧ reusesLast true w = true :=
    exists_run sampleState_started (firstJob ++ firstRelease ++ secondClaim) (by decide +kernel)
  have hw' : Run oneProcess w := hw.mono (fun _ h => h) fun _ act hact => by
    cases act <;> first | exact hact | simp [Machine.allows, oneProcess]
  obtain ⟨p, a, hp, ha, hadmitted, horigin, -⟩ := reusesLast_iff hcheck
  have hlane := (reuse_exclusive w).2 hw a hadmitted p.vmName horigin p
    (List.mem_of_mem_head? (by rw [hp]; rfl)) rfl
  exact ⟨w, a, p, hw', hw, ha, horigin,
    fun b hb hreused => (reuse_exclusive w).1 hw' a ha b hb _ horigin hreused, hlane⟩

/-! ## A reuse across lanes

Run 8 reads the pool and waits for the lock. Run 9 has the machine of run 7
evicted; run 7 is created again, now from an unprotected ref, and leaves a
machine of the same name. Run 8, from a protected ref, claims it. -/

/-- Run 8, as task 2, up to the lock. -/
def lateClaim : List Event :=
  .start (.create (sampleBody 8 (.flag true)) (sampleClaims "8")) :: turns 2 12 {}

/-- Run 9, as task 3, has the profile's machines evicted. -/
def evictsFirst : List Event :=
  .start (.create (sampleBody 9 (.action "evict")) (sampleClaims "9")) :: turns 3 9 {}

/-- Run 7 again, in the other lane, as task 4 with the worker 5. -/
def otherLane : List Event :=
  .start (.create (sampleBody 7 (.flag true)) { sampleClaims "7" with refProtected := "false" }) ::
    turns 4 16 { id := some thirdId } ++ turns 5 39 { count := 1 }

/-- **A stale snapshot grants a machine of the other lane.** -/
theorem reuse_crosses_lanes : ∃ w p a, Run oneProcess w ∧
    w.shared.history.pooled.head? = some p ∧ a ∈ w.shared.active ∧
    a.origin.hotVmName = some p.vmName ∧ a.hotLane ≠ some p.lane := by
  obtain ⟨w, hw, hcheck⟩ : ∃ w, Run oneProcess w ∧ reusesLast false w = true :=
    exists_run sampleState_started (firstJob ++ firstRelease ++ lateClaim ++ evictsFirst ++
      otherLane ++ turns 2 8 { id := some secondId }) (by decide +kernel)
  obtain ⟨p, a, hp, ha, -, horigin, hlane⟩ := reusesLast_iff hcheck
  exact ⟨w, p, a, hw, hp, ha, horigin, fun h => by simpa using hlane.mp h⟩

/-! ## One writer per entry -/

/-- **An entry has one writer**, from one start of the process to the next. A
task that writes an allocation back awaited the store since it read it, and
cancels and workers ran meanwhile: the entry is still active and one legal
step before the write, and no second task is about to write it. -/
theorem entry_writes_serialized (hw : Run oneProcess w)
    (ht : w.pending t = some (.putAllocation a)) :
    (∃ x, w.shared.allocation? a.id = some x ∧ x.state.isTerminal = false ∧ x.Advances a) ∧
      ∀ u b, w.pending u = some (.putAllocation b) → b.id = a.id → u = t := by
  obtain ⟨x, hx, hactive, hadv⟩ := PutSpec.drives (hw.spec ht)
  refine ⟨⟨x, hadv.same.id ▸ hx.entry hactive, hactive, hadv⟩, fun u b hu hid => ?_⟩
  obtain ⟨y, hy, -, hadv'⟩ := PutSpec.drives (hw.spec hu)
  have hdriver := hx.driver
  rw [← hadv.same.id, ← hid, hadv'.same.id, hy.driver] at hdriver
  exact Option.some.inj hdriver

def Op.isPut : Op → Bool
  | .putAllocation _ => true
  | _ => false

/-- The worker of run 7 is about to write its first step. -/
theorem entry_writes_serialized_first : ∃ w a x, Run oneProcess w ∧
    w.pending 1 = some (.putAllocation a) ∧ w.shared.allocation? a.id = some x ∧ x.Advances a := by
  obtain ⟨w, hw, hcheck⟩ : ∃ w, Run oneProcess w ∧ (w.pending 1).any Op.isPut = true :=
    exists_run sampleState_started (firstJob.take 24) (by decide +kernel)
  obtain ⟨op, hp, hput⟩ := (Option.any_eq_true _ _).mp hcheck
  cases op <;> cases hput
  obtain ⟨x, hx, -, hadv⟩ := (entry_writes_serialized hw hp).1
  exact ⟨w, _, x, hw, hp, hx, hadv⟩

end FlanForge
