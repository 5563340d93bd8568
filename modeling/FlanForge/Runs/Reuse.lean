import FlanForge.Manager.Reuse
import FlanForge.Runs.Uncontended

/-!
# A hot request under capacity pressure

The fold of a request that will take over an idle machine charges them both,
and the yield runs before the claim is planned. Where there is room for both
the request is given a machine of its lane. Where there is room only for the
one that will be left, the yield destroys the machine the request would have
been given.
-/

namespace FlanForge

variable {w w' : Worlds} {t : TaskId} {body : CreateBody} {claims : ForgejoClaims}
variable {request : AllocationRequest} {options : RequestOptions} {profile : Profile}
variable {asked : GuestSize} {events : List Event} {policy : HotPolicy}

/-- **A hot request is given an idle machine, where there is room for both.** The
request passes every check, its profile's policy admits it to the pool, and
the fold accepts it beside the machines the pool holds. Then, as long as no
call fails, no listing is stale and a machine stays inside its bounds, the
create destroys no machine, none of its operations is stuck, and at its end
it has admitted an allocation that reuses an idle machine of its lane. -/
theorem uncontended_create_reuses (storageMb : Option UInt64)
    (htask : w.tasks[t]? = some (createTask body claims))
    (hbody : body.isValid = true) (hparts : body.intoParts = some (request, options))
    (h : Acceptable w.shared request options claims profile asked)
    (hpool : Pooling w.shared request options claims profile policy)
    (hfold : ensureCapacity w.shared.entries w.shared.config (effective asked storageMb)
      w.shared.host w.shared.hot.loadAll = .ok ())
    (hrun : manager.replay (Machine.solo (inviting profile storageMb policy request
      (.fromRefProtected claims.isRefProtected) w.shared) t) w events = some w') :
    (∀ op, w'.pending t = some op → op.isEviction = false ∧
      ∃ a, (manager.step w' (.run t a)).isSome = true) ∧
    (w'.pending t = none → ∃ allocation,
      w'.shared.history.admitted = allocation :: w.shared.history.admitted ∧
      ∃ guest ∈ w.shared.hot.loadAll, guest.isServing request.profile
          (.fromRefProtected claims.isRefProtected) = true ∧
        allocation.origin.hotVmName = some guest.vmName) := by
  have hcode : manager.Completes (inviting profile storageMb policy request
        (.fromRefProtected claims.isRefProtected) w.shared) (fun _ op => op.isEviction = false) t
      (createTask body claims) w.shared fun _ s' => ∃ allocation,
        s'.history.admitted = allocation :: w.shared.history.admitted ∧
        ∃ guest ∈ w.shared.hot.loadAll, guest.isServing request.profile
            (.fromRefProtected claims.isRefProtected) = true ∧
          allocation.origin.hotVmName = some guest.vmName := by
    simp only [createTask, hbody, if_true, hparts]
    refine (create_reuses h hpool hfold).bind ?_
    rintro _ s' ⟨allocation, -, hadmitted, hreuse⟩
    exact ⟨allocation, hadmitted, hreuse⟩
  exact hcode.replay htask hrun

/-! ## Run 8 asks for the machine of run 7 -/

def reusingRequest : AllocationRequest := ⟨sampleProfileName, sampleProfile.repository, 8, 1⟩

def reusingOptions : RequestOptions := { hot := .retain none }

/-- What the small installation knows of its pool. -/
def samplePolicy : HotPolicy := ⟨{ enabled := true, lanes := .any, maxJobs := 2 }, none, none, 0⟩

/-- The world, with the create of run 8 just started. -/
def reusing (w : Worlds) : Worlds :=
  ⟨{ w.shared with history := w.shared.history.begin w.tasks.length },
    w.tasks ++ [createTask (sampleBody 8 (.flag true)) (sampleClaims "8")]⟩

/-- Everything the create of run 8 needs but room. -/
def isReusing (w : Worlds) : Bool :=
  let s := w.shared
  w.tasks.length = 2 && s.isServing && s.lock.isNone && !s.isClosing &&
    s.config.profile? reusingRequest.profile = some sampleProfile &&
    (idempotent s.entries reusingRequest).isNone &&
    (ensureSoleProducer s.entries reusingRequest.profile .warm).isOk &&
    (vmName s.config reusingRequest).isOk && secondId ∉ s.history.issued &&
    s.config.runtime.maxHotVms ≠ 0 && s.backend.hotGuests && s.images.isEmpty

theorem acceptable_of_isReusing (h : isReusing w = true) :
    Acceptable (reusing w).shared reusingRequest reusingOptions (sampleClaims "8") sampleProfile
        ⟨2, 4096, 16384⟩ ∧
      Pooling (reusing w).shared reusingRequest reusingOptions (sampleClaims "8") sampleProfile
        samplePolicy := by
  simp only [isReusing, Bool.and_eq_true, decide_eq_true_eq, Option.isNone_iff_eq_none,
    Bool.not_eq_true', List.isEmpty_iff] at h
  obtain ⟨⟨⟨⟨⟨⟨⟨⟨⟨⟨⟨-, -⟩, hlock⟩, hopen⟩, hprofile⟩, hfirst⟩, hsole⟩, hnamed⟩, hid⟩,
    hslots⟩, hhot⟩,
    himages⟩ := h
  refine ⟨⟨by decide, hprofile, by decide +kernel, by decide, by decide, hlock, hopen,
    hfirst, hsole,
    hnamed, secondId, hid⟩, ⟨rfl, .inr (by decide +kernel), rfl, hslots, by decide, hhot, ?_⟩⟩
  simp [State.promoted, reusing, himages, samplePolicy]

theorem task_reusing (h : isReusing w = true) : (reusing w).tasks[2]? =
    some (createTask (sampleBody 8 (.flag true)) (sampleClaims "8")) := by
  simp only [isReusing, Bool.and_eq_true, decide_eq_true_eq] at h
  obtain ⟨⟨⟨⟨⟨⟨⟨⟨⟨⟨⟨hlength, -⟩, -⟩, -⟩, -⟩, -⟩, -⟩, -⟩, -⟩, -⟩, -⟩, -⟩ := h
  simp [reusing, ← hlength]

/-- The create of run 8 while nobody disturbs it. -/
abbrev reusingAlone (w : Worlds) : ManagerRegime :=
  Machine.solo (inviting sampleProfile none samplePolicy reusingRequest
    (.fromRefProtected (sampleClaims "8").isRefProtected) (reusing w).shared) 2

/-- The host of the small installation runs nothing but the machine of run 7. -/
theorem uncontended_create_reuses_second : ∃ w w' allocation, Run .free w ∧
    manager.replay (reusingAlone w) (reusing w)
      (turns 2 24 { elapsed := 5000000000, id := some secondId }) = some w' ∧
    w'.shared.history.admitted = allocation :: w.shared.history.admitted ∧
    ∃ guest ∈ w.shared.hot.loadAll, allocation.origin.hotVmName = some guest.vmName := by
  obtain ⟨w, hw, hcheck⟩ : ∃ w, Run .free w ∧ (isReusing w &&
      (ensureCapacity w.shared.entries w.shared.config ⟨2, 4096, 16384⟩ w.shared.host
        w.shared.hot.loadAll).isOk &&
      (manager.replay (reusingAlone w) (reusing w)
        (turns 2 24 { elapsed := 5000000000, id := some secondId })).any
        fun w' => (w'.pending 2).isNone) = true :=
    exists_run sampleState_started (firstJob ++ firstRelease ++ [.env (.host (pressedHost.take 1))])
      (by decide +kernel)
  simp only [Bool.and_eq_true, isOk_eq_true] at hcheck
  obtain ⟨⟨hready, hfold⟩, hend⟩ := hcheck
  obtain ⟨w', hrun, hnone⟩ := (Option.any_eq_true _ _).mp hend
  obtain ⟨hacceptable, hpool⟩ := acceptable_of_isReusing hready
  have h := uncontended_create_reuses none (task_reusing hready) (by decide)
    (by decide) hacceptable hpool hfold hrun
  obtain ⟨allocation, hadmitted, guest, hmem, -, horigin⟩ :=
    h.2 (Option.isNone_iff_eq_none.mp hnone)
  exact ⟨w, w', allocation, hw, hrun, hadmitted, guest, hmem, horigin⟩

/-- **The yield destroys the machine the request would have been given.** The
machine of run 7 holds the last slot. Run 8 could take it over, the fold
accepts run 8 once the machine is not charged beside it, every call succeeds
and nobody else moves. The machine is destroyed and run 8 gets a clone. -/
theorem yield_destroys_reusable : ∃ (w w' : Worlds) (machine : HotGuest) (allocation : Allocation),
    Run .free w ∧ (reusing w).tasks[2]? =
      some (createTask (sampleBody 8 (.flag true)) (sampleClaims "8")) ∧
    Acceptable (reusing w).shared reusingRequest reusingOptions (sampleClaims "8") sampleProfile
      ⟨2, 4096, 16384⟩ ∧
    Pooling (reusing w).shared reusingRequest reusingOptions (sampleClaims "8") sampleProfile
      samplePolicy ∧
    claimable w.shared.hot.loadAll reusingRequest.profile
      (.fromRefProtected (sampleClaims "8").isRefProtected) (liveHotNames w.shared.entries)
      samplePolicy = some machine ∧
    ensureCapacity w.shared.entries w.shared.config ⟨2, 4096, 16384⟩
      (freedMachines machine.vmName.value w.shared.host)
      (freedHot machine.vmName.value w.shared.hot.loadAll) = .ok () ∧
    manager.replay (reusingAlone w) (reusing w)
      (turns 2 27 { elapsed := 5000000000, id := some secondId }) = some w' ∧
    w'.pending 2 = none ∧ w'.shared.history.admitted.head? = some allocation ∧
    allocation.origin = .cloned ∧ w'.shared.hot.loadAll = [] ∧
    ∀ found ∈ w'.shared.host, found.name ≠ machine.vmName.value := by
  obtain ⟨w, hw, hcheck⟩ : ∃ w, Run .free w ∧ (isReusing w &&
      (claimable w.shared.hot.loadAll reusingRequest.profile
        (.fromRefProtected (sampleClaims "8").isRefProtected) (liveHotNames w.shared.entries)
        samplePolicy).any fun machine =>
      (ensureCapacity w.shared.entries w.shared.config ⟨2, 4096, 16384⟩
        (freedMachines machine.vmName.value w.shared.host)
        (freedHot machine.vmName.value w.shared.hot.loadAll)).isOk &&
      (manager.replay (reusingAlone w) (reusing w)
        (turns 2 27 { elapsed := 5000000000, id := some secondId })).any
        fun w' => (w'.pending 2).isNone &&
          (w'.shared.history.admitted.head?.any fun allocation => allocation.origin = .cloned) &&
          w'.shared.hot.loadAll.isEmpty &&
          w'.shared.host.all fun found => found.name ≠ machine.vmName.value) = true :=
    exists_run sampleState_started pressedEvents (by decide +kernel)
  simp only [Bool.and_eq_true] at hcheck
  obtain ⟨hready, hcheck⟩ := hcheck
  obtain ⟨machine, hclaimable, hcheck⟩ := (Option.any_eq_true _ _).mp hcheck
  simp only [Bool.and_eq_true, isOk_eq_true] at hcheck
  obtain ⟨hfold, hend⟩ := hcheck
  obtain ⟨w', hrun, hcheck'⟩ := (Option.any_eq_true _ _).mp hend
  simp only [Bool.and_eq_true, Option.any_eq_true, decide_eq_true_eq, List.isEmpty_iff,
    Option.isNone_iff_eq_none, List.all_eq_true] at hcheck'
  obtain ⟨⟨⟨hnone, allocation, hhead, horigin⟩, hempty⟩, hgone⟩ := hcheck'
  obtain ⟨hacceptable, hpool⟩ := acceptable_of_isReusing hready
  exact ⟨w, w', machine, allocation, hw, task_reusing hready, hacceptable, hpool, hclaimable, hfold,
    hrun, hnone, hhead, horigin, hempty, hgone⟩

end FlanForge
