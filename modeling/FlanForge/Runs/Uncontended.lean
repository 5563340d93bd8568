import FlanForge.Manager.Uncontended
import FlanForge.Runs.Drains

/-!
# A create under capacity pressure

The yield frees idle machines until the fold accepts, and the fold of
`create` comes after it. Both read the host through the probe cache, which
an eviction does not touch: while the cached listing is the host's, the
create is admitted and evicts nothing it could have kept; while it is older
than an eviction of the same create, the machine that is gone is charged
once more, as a stranger, since its record is gone too.
-/

namespace FlanForge

variable {w w' : Worlds} {t : TaskId} {body : CreateBody} {claims : ForgejoClaims}
variable {request : AllocationRequest} {options : RequestOptions} {profile : Profile}
variable {asked : GuestSize} {storageMb : Option UInt64} {events : List Event}

/-- **A create nobody disturbs is admitted.** The request passes every check but
the fold, the fold would accept without the idle machines, and a request
that evicts finds no claimed machine of its profile. Then, as long as no call
fails and no listing is stale, whatever the create does next can be done, an
eviction is one the request asks for or one the fold cannot do without, and
at its end the create has admitted an allocation. -/
theorem uncontended_create_admitted (hw : Run .free w)
    (htask : w.tasks[t]? = some (createTask body claims)) (hbody : body.isValid = true)
    (hparts : body.intoParts = some (request, options))
    (h : Acceptable w.shared request options claims profile asked)
    (haccepts : acceptsWithoutIdle w.shared.entries w.shared.config (effective asked storageMb)
      w.shared.host w.shared.hot.loadAll = true)
    (hfree : options.hot.isEvicting = true →
      ∀ g ∈ w.shared.hot.loadAll, g.profile = request.profile → g.state ≠ .claimed)
    (hrun : manager.replay (Machine.solo (smooth profile storageMb) t) w events = some w') :
    (∀ op, w'.pending t = some op →
      isNeeded request options (effective asked storageMb) w'.shared op ∧
        ∃ a, (manager.step w' (.run t a)).isSome = true) ∧
    (w'.pending t = none →
      ∃ allocation, w'.shared.history.admitted = allocation :: w.shared.history.admitted) := by
  have hcode : manager.Completes (smooth profile storageMb)
      (isNeeded request options (effective asked storageMb)) t (createTask body claims) w.shared
      fun _ s' => ∃ allocation,
        s'.history.admitted = allocation :: w.shared.history.admitted := by
    simp only [createTask, hbody, if_true, hparts]
    exact (create_completes hw.inv.hot h haccepts hfree).bind fun _ _ hs' =>
      hs'.imp fun _ h => h.2
  exact hcode.replay htask hrun

/-! ## A foreign machine in the second slot

Run 7 has left an idle machine, somebody else's machine runs beside it, and
run 9 asks for a machine of its own. There is room for it once the idle
machine is gone. -/

/-- Run 9's request. -/
def pressingRequest : AllocationRequest := ⟨sampleProfileName, sampleProfile.repository, 9, 1⟩

/-- The world, with the create of run 9 just started. -/
def pressed (w : Worlds) : Worlds :=
  ⟨{ w.shared with history := w.shared.history.begin w.tasks.length },
    w.tasks ++ [createTask (sampleBody 9 (.flag false)) (sampleClaims "9")]⟩

/-- Everything the create of run 9 needs but room, and room without the idle
machine. -/
def isPressed (w : Worlds) : Bool :=
  let s := w.shared
  w.tasks.length = 2 && s.isServing && s.lock.isNone && !s.isClosing &&
    s.config.profile? pressingRequest.profile = some sampleProfile &&
    (idempotent s.entries pressingRequest).isNone &&
    (ensureSoleProducer s.entries pressingRequest.profile .cold).isOk &&
    (vmName s.config pressingRequest).isOk && secondId ∉ s.history.issued &&
    acceptsWithoutIdle s.entries s.config ⟨2, 4096, 16384⟩ s.host s.hot.loadAll

theorem acceptable_of_isPressed (h : isPressed w = true) :
    Acceptable (pressed w).shared pressingRequest {} (sampleClaims "9") sampleProfile
      ⟨2, 4096, 16384⟩ := by
  simp only [isPressed, Bool.and_eq_true, decide_eq_true_eq, Option.isNone_iff_eq_none,
    Bool.not_eq_true'] at h
  obtain ⟨⟨⟨⟨⟨⟨⟨⟨⟨-, -⟩, hlock⟩, hopen⟩, hprofile⟩, hfirst⟩, hsole⟩, hnamed⟩, hid⟩, -⟩ := h
  exact ⟨by decide, hprofile, by decide +kernel, by decide, by decide, hlock, hopen, hfirst, hsole,
    hnamed, secondId, hid⟩

theorem run_pressed (hw : Run .free w) (h : isPressed w = true) : Run .free (pressed w) := by
  simp only [isPressed, Bool.and_eq_true] at h
  obtain ⟨⟨⟨⟨⟨⟨⟨⟨⟨-, hserving⟩, -⟩, -⟩, -⟩, -⟩, -⟩, -⟩, -⟩, -⟩ := h
  refine Machine.Reachable.step
    (a := .start (.create (sampleBody 9 (.flag false)) (sampleClaims "9")))
    hw rfl ?_
  simp [Machine.step, manager, startTask, hserving, pressed, taskCode]

theorem task_pressed (h : isPressed w = true) : (pressed w).tasks[2]? =
    some (createTask (sampleBody 9 (.flag false)) (sampleClaims "9")) := by
  simp only [isPressed, Bool.and_eq_true, decide_eq_true_eq] at h
  obtain ⟨⟨⟨⟨⟨⟨⟨⟨⟨hlength, -⟩, -⟩, -⟩, -⟩, -⟩, -⟩, -⟩, -⟩, -⟩ := h
  simp [pressed, ← hlength]

theorem accepts_pressed (h : isPressed w = true) :
    acceptsWithoutIdle (pressed w).shared.entries (pressed w).shared.config
      (effective ⟨2, 4096, 16384⟩ none) (pressed w).shared.host (pressed w).shared.hot.loadAll =
      true := by
  simp only [isPressed, Bool.and_eq_true] at h
  exact h.2

/-- Up to the request of run 9. -/
def pressedEvents : List Event := firstJob ++ firstRelease ++ [.env (.host pressedHost)]

/-- Every listing is read anew. -/
def patientYield : List Event := turns 2 24 { elapsed := 5000000000, id := some secondId }

/-- The create of run 9 evicts the idle machine and is admitted. -/
theorem uncontended_create_admitted_patient : ∃ w w' allocation, Run .free w ∧
    manager.replay (Machine.solo (smooth sampleProfile none) 2) w patientYield = some w' ∧
    w'.pending 2 = none ∧
    w'.shared.history.admitted = allocation :: w.shared.history.admitted := by
  obtain ⟨w, hw, hcheck⟩ : ∃ w, Run .free w ∧ (isPressed w &&
      (manager.replay (Machine.solo (smooth sampleProfile none) 2) (pressed w) patientYield).any
        fun w' => (w'.pending 2).isNone) = true :=
    exists_run sampleState_started pressedEvents (by decide +kernel)
  rw [Bool.and_eq_true] at hcheck
  obtain ⟨hpressed, hend⟩ := hcheck
  obtain ⟨w', hrun, hnone⟩ := (Option.any_eq_true _ _).mp hend
  have hnone : w'.pending 2 = none := Option.isNone_iff_eq_none.mp hnone
  have hparts : (sampleBody 9 (.flag false)).intoParts = some (pressingRequest, {}) := by decide
  have h := uncontended_create_admitted (run_pressed hw hpressed) (task_pressed hpressed)
    (by decide) hparts (acceptable_of_isPressed hpressed) (accepts_pressed hpressed)
    (by simp [HotRequest.isEvicting]) hrun
  obtain ⟨allocation, hadmitted⟩ := h.2 hnone
  exact ⟨pressed w, w', allocation, run_pressed hw hpressed, hrun, hnone, hadmitted⟩

/-! ## The same create within one poll interval -/

/-- The listing is read once, before the eviction. -/
def hastyYield : List Event := turns 2 1 { elapsed := 5000000000 } ++ turns 2 17 {}

/-- **A create is refused for the machine it has just evicted.** Every call
succeeds and nobody else moves; when the create ends, the pool is empty, the
host runs the foreign machine alone, and the fold would accept. -/
theorem create_refused_by_stale_listing : ∃ w w' : Worlds, Run .free w ∧
    w.tasks[2]? = some (createTask (sampleBody 9 (.flag false)) (sampleClaims "9")) ∧
    Acceptable w.shared pressingRequest {} (sampleClaims "9") sampleProfile ⟨2, 4096, 16384⟩ ∧
    acceptsWithoutIdle w.shared.entries w.shared.config ⟨2, 4096, 16384⟩ w.shared.host
      w.shared.hot.loadAll = true ∧
    manager.replay (Machine.solo (noFailure sampleProfile none) 2) w hastyYield = some w' ∧
    w'.pending 2 = none ∧ w'.shared.history.admitted.length = w.shared.history.admitted.length ∧
    w'.shared.hot.loadAll = [] ∧
    ensureCapacity w'.shared.entries w'.shared.config ⟨2, 4096, 16384⟩ w'.shared.host
      w'.shared.hot.loadAll = .ok () := by
  obtain ⟨w, hw, hcheck⟩ : ∃ w, Run .free w ∧ (isPressed w &&
      (manager.replay (Machine.solo (noFailure sampleProfile none) 2) (pressed w) hastyYield).any
        fun w' => (w'.pending 2).isNone &&
          w'.shared.history.admitted.length = (pressed w).shared.history.admitted.length &&
          w'.shared.hot.loadAll.isEmpty &&
          (ensureCapacity w'.shared.entries w'.shared.config ⟨2, 4096, 16384⟩ w'.shared.host
            w'.shared.hot.loadAll).isOk) = true :=
    exists_run sampleState_started pressedEvents (by decide +kernel)
  rw [Bool.and_eq_true] at hcheck
  obtain ⟨hpressed, hend⟩ := hcheck
  obtain ⟨w', hrun, hcheck'⟩ := (Option.any_eq_true _ _).mp hend
  simp only [Bool.and_eq_true, decide_eq_true_eq, List.isEmpty_iff, Option.isNone_iff_eq_none,
    isOk_eq_true] at hcheck'
  obtain ⟨⟨⟨hnone, hadmitted⟩, hempty⟩, hok⟩ := hcheck'
  exact ⟨pressed w, w', run_pressed hw hpressed, task_pressed hpressed,
    acceptable_of_isPressed hpressed, accepts_pressed hpressed, hrun, hnone, hadmitted, hempty, hok⟩

end FlanForge
