import FlanForge.Manager.Capacity
import FlanForge.Runs.Exclusion

/-!
# The limits of admission

Admission keeps no counter: each create folds the live entries anew, beside
a host listing and a pool snapshot that may be as old as they like. The
entries are read and extended under one lock, so what the fold accepts is
what the entries then hold. Under one configuration the active allocations
stay within the slots and the budget, and no two of them produce for one
profile or serve one run attempt.
-/

namespace FlanForge

/-- The configuration is not reloaded and the process not restarted. -/
def fixedConfig : ManagerRegime where
  call _ _ _ _ := true
  start _ _ := true
  env _ e :=
    match e with
    | .reload _ => false
    | _ => true
  reboot _ := false

variable {G : ManagerRegime} {w : Worlds} {t fresh : TaskId} {s s' : State} {op : Op}
  {spawned : Option Kind}
variable {a b : Allocation} {seen : List HotGuest}

/-- No operation changes the configuration. -/
theorem Effect.config_eq (he : Effect t fresh s op s' spawned) :
    s'.config = s.config ∧ s'.history.configs = s.history.configs := by
  cases he with
  | saved => exact ⟨rfl, by simp⟩
  | noted n => cases n <;> exact ⟨rfl, rfl⟩
  | _ => exact ⟨rfl, rfl⟩

/-- The one configuration of the run, and it is valid. -/
structure ConfigFixed (s : State) : Prop where
  valid : s.config.isValid = true
  configs : s.history.configs = [s.config]

theorem configFixed_of_run (hrestarts : ∀ s, G.reboot s = false)
    (hreloads : ∀ s config, G.env s (.reload config) = false) (hw : Run G w) :
    ConfigFixed w.shared := by
  refine Run.invariant (J := ConfigFixed) ?_ ?_ (fun _ _ h => ⟨h.valid, h.configs⟩) ?_ ?_ hw
  · intro s hs
    exact ⟨hs.config, by rw [hs.history]; rfl⟩
  · intro w t fresh op ans s' spawned _ hJ _ _ _ he
    obtain ⟨hconfig, hconfigs⟩ := he.config_eq
    exact ⟨by rw [hconfig]; exact hJ.valid, by rw [hconfig, hconfigs]; exact hJ.configs⟩
  · intro s e s' hJ hallow henv
    rcases henv.config with ⟨hconfig, h⟩ | ⟨config, rfl, -⟩
    · exact ⟨by rw [hconfig]; exact hJ.valid, by rw [hconfig, h]; exact hJ.configs⟩
    · rw [hreloads] at hallow
      cases hallow
  · intro t s _ hreboot
    rw [hrestarts] at hreboot
    cases hreboot

/-! ## What a commit was checked for -/

/-- Both regenerate the image of one profile. -/
def SharesProduct (a b : Allocation) : Prop :=
  a.mode = .regenerate ∧ b.mode = .regenerate ∧ a.request.profile = b.request.profile

/-- Both serve one run attempt. -/
def SharesAttempt (a b : Allocation) : Prop := a.request.isSameAttempt b.request = true

theorem CommitSpec.sole (h : CommitSpec t s a seen) (hb : b ∈ s.active) : ¬ SharesProduct b a := by
  rintro ⟨hbmode, hamode, hprofile⟩
  have hsole := h.producer
  simp only [ensureSoleProducer, hamode, ne_eq, not_true_eq_false, if_false] at hsole
  split at hsole
  · cases hsole
  · rename_i hnone
    obtain ⟨hheld, hactive⟩ := State.mem_active.mp hb
    have := List.find?_eq_none.mp hnone b hheld
    simp [hactive, hbmode, hprofile] at this

theorem CommitSpec.first (h : CommitSpec t s a seen) (hb : b ∈ s.active) : ¬ SharesAttempt b a := by
  intro hattempt
  obtain ⟨hheld, hactive⟩ := State.mem_active.mp hb
  have := List.find?_eq_none.mp h.idempotent b hheld
  simp only [hactive, Bool.not_false, Bool.true_and] at this
  exact this hattempt

/-! ## The invariant -/

structure Limited (s : State) : Prop where
  budget : WithinBudget s.config.runtime s.active
  producers : AtMostOne SharesProduct s.active
  attempts : AtMostOne SharesAttempt s.active

theorem Limited.step (hs : Inv s) (hserving : s.isServing = true) (hfixed : ConfigFixed s)
    (hspec : OpSpec t s op) (he : Effect t fresh s op s' spawned) (hJ : Limited s) :
    Limited s' := by
  have hstep := he.active hs hspec
  refine ⟨?_, hstep.atMostOne hserving ?_ ?_ hJ.producers, hstep.atMostOne hserving ?_ ?_
    hJ.attempts⟩
  · rw [he.config_eq.1]
    cases hstep with
    | shrinks hsub => exact hJ.budget.sublist hsub
    | admits a profile seen hop hactive =>
      subst hop
      obtain ⟨config, hconfig, size, machines, hsize, hok, -⟩ := CommitSpec.capacity hspec
      rw [hfixed.configs, List.mem_singleton] at hconfig
      subst hconfig
      rw [hactive]
      exact WithinBudget.admits (budgetValid_of_isValid hfixed.valid) hJ.budget hok hsize
    | loads _ _ hload _ _ =>
      rw [hserving] at hload
      cases hload
  · rintro a a' b b' ha hb ⟨hma, hmb, hp⟩
    exact ⟨ha.mode ▸ hma, hb.mode ▸ hmb, by rw [← ha.request, ← hb.request, hp]⟩
  · rintro a profile seen rfl b hb
    have hsole := CommitSpec.sole hspec hb
    exact ⟨fun ⟨hma, hmb, hp⟩ => hsole ⟨hmb, hma, hp.symm⟩, hsole⟩
  · intro a a' b b' ha hb h
    rwa [SharesAttempt, ha.request, hb.request] at h
  · rintro a profile seen rfl b hb
    have hfirst := CommitSpec.first hspec hb
    refine ⟨fun h => hfirst ?_, hfirst⟩
    rw [SharesAttempt, AllocationRequest.isSameAttempt_iff] at h ⊢
    exact h.symm

theorem limited_of_run (hw : Run fixedConfig w) : Limited w.shared := by
  refine Run.invariant (J := Limited) ?_ ?_ (fun _ _ h => ⟨h.budget, h.producers, h.attempts⟩) ?_ ?_
    hw
  · intro s hs
    have hnone : s.active = [] := by simp [State.active, activeAllocations, hs.entries]
    exact ⟨by rw [hnone]; exact .nil (budgetValid_of_isValid hs.config), by simp [AtMostOne, hnone],
      by simp [AtMostOne, hnone]⟩
  · intro w t fresh op ans s' spawned hw hJ hspec _ _ he
    exact hJ.step hw.inv (serving_of_run (fun _ => rfl) hw)
      (configFixed_of_run (fun _ => rfl) (fun _ _ => rfl) hw) hspec he
  · intro s e s' hJ hallow henv
    have hactive := State.active_congr henv.held
    rcases henv.config with ⟨hconfig, -⟩ | ⟨config, rfl, -⟩
    · exact ⟨by rw [hactive, hconfig]; exact hJ.budget, by rw [hactive]; exact hJ.producers,
        by rw [hactive]; exact hJ.attempts⟩
    · cases hallow
  · intro t s _ hreboot
    cases hreboot

/-- **The active allocations stay within the limits**, under one
configuration and for every interleaving: the slots, the budget by the
recorded sizes, one allocation without a budget, one producer per profile,
one allocation per run attempt. -/
theorem active_within_limits (hw : Run fixedConfig w) :
    let runtime := w.shared.config.runtime
    let active := w.shared.active
    (∀ a ∈ active, a.size.isSome = true) ∧
    active.length ≤ runtime.maxRunningVms.toNat ∧
    (∀ cpuCount memoryMb, runtime.hostCpuCount = some cpuCount →
      runtime.hostMemoryMb = some memoryMb →
      recordedSum (·.cpuCount.toNat) active ≤ cpuCount.toNat ∧
        recordedSum (·.memoryMb.toNat) active ≤ memoryMb.toNat) ∧
    (∀ storageMb, runtime.hostStorageMb = some storageMb →
      recordedSum (·.storageMb.toNat) active + runtime.storageReserve.toNat ≤ storageMb.toNat) ∧
    (runtime.hostCpuCount = none ∨ runtime.hostMemoryMb = none → active.length ≤ 1) ∧
    (∀ a ∈ active, ∀ b ∈ active, a.mode = .regenerate → b.mode = .regenerate →
      a.request.profile = b.request.profile → a = b) ∧
    (∀ a ∈ active, ∀ b ∈ active, a.request.repository = b.request.repository →
      a.request.runId = b.request.runId → a.request.runAttempt = b.request.runAttempt →
      a.request.profile = b.request.profile → a = b) := by
  have hlimited := limited_of_run hw
  have hunique : ∀ a ∈ w.shared.active, ∀ b ∈ w.shared.active, a.id = b.id → a = b := by
    intro a ha b hb hid
    have hget := State.allocation?_of_mem hw.inv.unique (State.mem_active.mp ha).1
    rw [hid, State.allocation?_of_mem hw.inv.unique (State.mem_active.mp hb).1] at hget
    exact (Option.some.inj hget).symm
  refine ⟨hlimited.budget.sized, hlimited.budget.slots, hlimited.budget.computing,
    hlimited.budget.storage, hlimited.budget.serialized, ?_, ?_⟩
  · intro a ha b hb hma hmb hprofile
    exact hunique a ha b hb (hlimited.producers a ha b hb ⟨hma, hmb, hprofile⟩)
  · intro a ha b hb hrepository hrun hattempt hprofile
    refine hunique a ha b hb (hlimited.attempts a ha b hb ?_)
    simp [SharesAttempt, AllocationRequest.isSameAttempt, hrepository, hrun, hattempt, hprofile]

/-- Two runs that fill the two slots. -/
theorem active_within_limits_full : ∃ w, Run fixedConfig w ∧ w.shared.active.length = 2 ∧
    w.shared.active.length ≤ w.shared.config.runtime.maxRunningVms.toNat := by
  obtain ⟨w, hw, hcheck⟩ : ∃ w, Run fixedConfig w ∧ (w.shared.active.length = 2 : Bool) = true :=
    exists_run sampleState_started
      (.start (.create (sampleBody 7 (.flag true)) (sampleClaims "7")) ::
        turns 0 18 { id := some firstId } ++
      (.start (.create (sampleBody 8 (.flag false)) (sampleClaims "8")) ::
        turns 2 13 { id := some secondId })) (by decide +kernel)
  exact ⟨w, hw, of_decide_eq_true hcheck, (active_within_limits hw).2.1⟩

end FlanForge
