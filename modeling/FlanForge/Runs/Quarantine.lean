import FlanForge.Manager.Active
import FlanForge.Manager.Footprint
import FlanForge.Runs.Unmoved

/-!
# Which failures quarantine an image

A warm guest that fails before it is ready is evidence against the image it
was cloned from, and the teardown quarantines the image. The test reads the
source and the state on the allocation's record. An allocation that reuses a
pool machine has copied the machine's source, and it passes `Preparing` before
the machine is checked to be alive: a machine built from a warm image that is
gone by then quarantines the image, which nobody has cloned. As long as no
request is given a machine of a warm source, only the failed clones of the
image quarantine it.
-/

namespace FlanForge

open List

/-- The allocation reuses a machine that was built from a warm image. -/
def Allocation.reusesWarm (a : Allocation) : Bool :=
  a.origin.isHotReuse && a.source.any (·.kind = .warm)

/-- No request is given a machine that was built from a warm image. -/
def reusesCold : ManagerRegime where
  call _ _ op _ :=
    match op with
    | .commit a _ _ => !a.reusesWarm
    | _ => true
  start _ _ := true
  env _ _ := true
  reboot _ := true

variable {w w' : Worlds} {t fresh : TaskId} {s s' : State} {a b : Allocation} {op : Op}
variable {spawned : Option Kind} {name : ProfileName}

/-! ## The sources of reused machines -/

/-- No allocation of this process reuses a machine of a warm source. -/
structure ReusesCold (s : State) : Prop where
  /-- A new process has admitted nothing before it serves. -/
  recovering : s.isServing = false → s.history.current = []
  cold : ∀ a ∈ s.held, a.id ∈ s.history.current → a.reusesWarm = false

/-- The next record of an allocation reuses what the last one did. -/
theorem Allocation.Advances.reusesWarm (h : a.Advances b) : b.reusesWarm = a.reusesWarm := by
  unfold Allocation.reusesWarm
  rw [h.same.origin]
  cases hreuse : a.origin.isHotReuse with
  | false => rfl
  | true => rw [h.source hreuse]

theorem ReusesCold.of_eq (hJ : ReusesCold s) (hserving : s'.isServing = s.isServing)
    (hheld : s'.held = s.held) (hcurrent : s'.history.current = s.history.current) :
    ReusesCold s' :=
  ⟨by rw [hserving, hcurrent]; exact hJ.recovering, by rw [hheld, hcurrent]; exact hJ.cold⟩

theorem ReusesCold.step {ans : Answer} (hJ : ReusesCold s) (hspec : OpSpec t s op)
    (hcall : reusesCold.call s t op ans = true) (he : Effect t fresh s op s' spawned) :
    ReusesCold s' := by
  cases he with
  | committed a profile seen clock =>
    refine ⟨fun hserving => ?_, fun b hb hid => ?_⟩
    · have hserving : s.isServing = false := hserving
      rw [CommitSpec.serving hspec] at hserving
      cases hserving
    · obtain ⟨e, he, rfl⟩ := State.mem_held.mp hb
      have he := (pruneTerminalHistory_sublist _ _).subset he
      rcases mem_append.mp he with he | he
      · -- an earlier entry has another identity than the one admitted now
        rcases mem_cons.mp hid with hid | hid
        · exact absurd hid (CommitSpec.unused hspec e he)
        · exact hJ.cold _ (State.mem_held.mpr ⟨e, he, rfl⟩) hid
      · rw [mem_singleton.mp he]
        simpa [reusesCold] using hcall
  | put a clock =>
    refine ⟨hJ.recovering, fun b hb hid => ?_⟩
    obtain ⟨⟨x, hdrives, hactive, hadv⟩, -⟩ := hspec
    have hx := State.mem_held_of_allocation? (hdrives.entry hactive)
    rw [show State.held _ = _ from State.held_put (s := { s with clock := clock })] at hb
    obtain ⟨c, hc, hb⟩ := mem_map.mp hb
    split at hb
    · subst hb
      rw [hadv.reusesWarm]
      exact hJ.cold x hx.1 (hadv.same.id ▸ hid)
    · subst hb
      exact hJ.cold c hc hid
  | loaded allocations clock =>
    obtain ⟨hserving, -, -⟩ := hspec
    have hnone := hJ.recovering hserving
    exact ⟨fun _ => hnone, fun b _ hid => absurd (hnone ▸ hid) not_mem_nil⟩
  | served clock => exact ⟨fun h => (by cases h), hJ.cold⟩
  | cancelled id clock => exact hJ.of_eq rfl (State.held_modifyEntry (s := s) fun _ => rfl) rfl
  | driven id e clock => exact hJ.of_eq rfl (State.held_modifyEntry (s := s) fun _ => rfl) rfl
  | ended id clock => exact hJ.of_eq rfl (State.held_modifyEntry (s := s) fun _ => rfl) rfl
  | released id clock => exact hJ.of_eq rfl (State.held_modifyEntry (s := s) fun _ => rfl) rfl
  | saved base guest clock hot => exact hJ.of_eq rfl rfl (by simp)
  | noted n clock => cases n <;> exact hJ.of_eq rfl rfl rfl
  | _ => exact hJ.of_eq rfl rfl rfl

theorem reusesCold_of_run (hw : Run reusesCold w) : ReusesCold w.shared := by
  refine Run.invariant (J := ReusesCold) ?_ ?_ (fun _ _ h => h.of_eq rfl rfl rfl) ?_ ?_ hw
  · intro s hs
    exact ⟨fun _ => by simp [hs.history, History.initial],
      fun a ha => by simp [State.held, hs.entries] at ha⟩
  · intro w t fresh op ans s' spawned _ hJ hspec _ hcall he
    exact hJ.step hspec hcall he
  · intro s e s' hJ _ henv
    refine hJ.of_eq henv.isServing henv.held ?_
    rcases henv.config with ⟨-, h⟩ | ⟨config, -, -, -, h⟩ <;> rw [h]
    rfl
  · intro t s _ _
    exact ⟨fun _ => rfl, fun a ha => by cases ha⟩

/-! ## Whose teardown it is -/

/-- A driver is a task that was started, and a worker drives nothing but its
own allocation. -/
structure OwnWorkers (kinds : List Kind) (s : State) : Prop where
  started : ∀ id t, s.history.driver id = some t → t < kinds.length
  own : ∀ t a profile, kinds[t]? = some (.worker a profile) →
    ∀ id, s.history.driver id = some t → id = a.id

variable {kinds : List Kind}

/-- Where drivers are only given up, nothing new is driven. -/
theorem OwnWorkers.of_driver (h : OwnWorkers kinds s)
    (hdriver : ∀ id t, s'.history.driver id = some t → s.history.driver id = some t) :
    OwnWorkers kinds s' :=
  ⟨fun id t ht => h.started id t (hdriver id t ht),
    fun t a profile ht id hid => h.own t a profile ht id (hdriver id t hid)⟩

/-- A new task drives nothing yet. -/
theorem OwnWorkers.append (h : OwnWorkers kinds s) (kind : Kind) :
    OwnWorkers (kinds ++ [kind]) s := by
  refine ⟨fun id t ht => ?_, fun t a profile ht id hid => ?_⟩
  · rw [length_append, length_singleton]
    exact Nat.lt_succ_of_lt (h.started id t ht)
  · rw [List.getElem?_append_left (h.started id t hid)] at ht
    exact h.own t a profile ht id hid

/-- A task that is no worker takes allocations over. -/
theorem OwnWorkers.takes (h : OwnWorkers kinds s) (ht : t < kinds.length)
    (hkind : ∀ a profile, kinds[t]? ≠ some (.worker a profile))
    (hdriver : ∀ id t', s'.history.driver id = some t' →
      s.history.driver id = some t' ∨ t' = t) : OwnWorkers kinds s' := by
  refine ⟨fun id t' ht' => ?_, fun t' a profile ht' id hid => ?_⟩
  · rcases hdriver id t' ht' with hid | rfl
    · exact h.started id t' hid
    · exact ht
  · rcases hdriver id t' hid with hid | rfl
    · exact h.own t' a profile ht' id hid
    · exact absurd ht' (hkind a profile)

theorem History.driver_of_drive {h : History} {id id' : AllocationId} {task : Option TaskId}
    (hdriver : (h.drive id task).driver id' = some t) :
    h.driver id' = some t ∨ id' = id ∧ task = some t := by
  simp only [History.drive, Function.update_apply] at hdriver
  split at hdriver
  · rename_i heq
    exact .inr ⟨heq, hdriver⟩
  · exact .inl hdriver

theorem OwnWorkers.step (h : OwnWorkers kinds s) (hlength : kinds.length = fresh)
    (ht : t < kinds.length)
    (hworker : ∀ a profile, kinds[t]? = some (.worker a profile) →
      op.Plain ∨ ∃ name, op = .quarantineWarm name)
    (he : Effect t fresh s op s' spawned) : OwnWorkers (kinds ++ spawned.toList) s' := by
  have hother (hplain : ¬ op.Plain) (hop : ∀ name, op ≠ .quarantineWarm name) :
      ∀ a profile, kinds[t]? ≠ some (.worker a profile) := by
    intro a profile hkind
    rcases hworker a profile hkind with h | ⟨name, h⟩
    · exact hplain h
    · exact hop name h
  cases he with
  | committed a profile seen clock =>
    refine ⟨fun id t' ht' => ?_, fun t' a' profile' ht' id hid => ?_⟩
    · rw [Option.toList_some, length_append, length_singleton]
      rcases History.driver_of_drive (h := s.history.begin fresh) ht' with hid | ⟨-, hid⟩
      · exact Nat.lt_succ_of_lt (h.started id t' hid)
      · rw [← Option.some.inj hid, ← hlength]
        exact Nat.lt_succ_self _
    · rcases History.driver_of_drive (h := s.history.begin fresh) hid with hid | ⟨hid, hworker⟩
      · rw [Option.toList_some, List.getElem?_append_left (h.started id t' hid)] at ht'
        exact h.own t' a' profile' ht' id hid
      · rw [Option.toList_some, ← Option.some.inj hworker, ← hlength,
          List.getElem?_concat_length] at ht'
        cases ht'
        exact hid
  | driven id e clock =>
    rw [Option.toList_none, append_nil]
    refine h.takes ht (hother (fun h => h) (fun _ h => by cases h)) fun id' t' hid => ?_
    rcases History.driver_of_drive hid with hid | ⟨-, hid⟩
    · exact .inl hid
    · cases hid
      exact .inr rfl
  | loaded allocations clock =>
    rw [Option.toList_none, append_nil]
    refine h.takes ht (hother (fun h => h) (fun _ h => by cases h)) fun id' t' hid => ?_
    simp only [History.recovering] at hid
    split at hid
    · cases hid
      exact .inr rfl
    · exact .inl hid
  | ended id clock | released id clock =>
    rw [Option.toList_none, append_nil]
    refine h.of_driver fun id' t' hid => ?_
    rcases History.driver_of_drive hid with hid | ⟨-, hid⟩
    · exact hid
    · cases hid
  | served clock =>
    rw [Option.toList_none, append_nil]
    exact h.of_driver fun _ _ hid => by cases hid
  | saved base guest clock hot =>
    rw [Option.toList_none, append_nil]
    exact h.of_driver fun _ _ hid => by simpa using hid
  | noted n clock =>
    rw [Option.toList_none, append_nil]
    cases n <;> exact h.of_driver fun _ _ hid => hid
  | _ =>
    rw [Option.toList_none, append_nil]
    exact h.of_driver fun _ _ hid => hid

/-- **Every task has a kind, and a worker drives its own allocation only.** -/
theorem exists_ownWorkers {G : ManagerRegime} (hw : Run G w) :
    ∃ kinds, Machine.Assigned manager kinds w ∧ OwnWorkers kinds w.shared := by
  refine Machine.Reachable.assigned ?_ ?_ ?_ ?_ ?_ hw
  · intro s hs
    exact ⟨fun id t ht => by simp [hs.history, History.initial] at ht,
      fun t a profile ht => by simp at ht⟩
  · intro kinds w t op k ans s' r spawned _ hassigned hJ htask hexec
    have ht : t < kinds.length := by
      rw [hassigned.length]
      exact (List.getElem?_eq_some_iff.mp htask).1
    refine hJ.step hassigned.length ht (fun a profile hkind => ?_) (exec_effect hexec)
    obtain ⟨kind, hkind', hrest⟩ := hassigned.pending htask
    rw [hkind] at hkind'
    cases hkind'
    exact (hrest.calls workerTask_calls).1
  · intro kinds kind s s' hJ hstart
    obtain ⟨-, rfl⟩ := startTask_eq hstart
    exact (hJ.append kind).of_driver fun _ _ hid => hid
  · intro kinds e s s' hJ henv
    refine hJ.of_driver fun id t hid => ?_
    rcases (envMove_spec henv).config with ⟨-, h⟩ | ⟨config, -, -, -, h⟩ <;> rw [h] at hid
    · exact hid
    · exact hid
  · intro kinds s hJ
    exact (hJ.append _).of_driver fun _ _ hid => by cases hid

/-! ## Quarantining -/

/-- Nothing but the quarantine itself quarantines. -/
theorem exec_quarantined {ans : Answer} {r : op.Res}
    (h : exec t fresh op ans s = some (s', r, spawned)) :
    s'.quarantined = s.quarantined ∨
      ∃ name, op = .quarantineWarm name ∧ s'.quarantined = s.quarantined.insert name := by
  cases op with
  | quarantineWarm name =>
    cases h
    exact .inr ⟨name, rfl, rfl⟩
  | beginCancel id =>
    left
    simp only [exec] at h
    split at h
    · cases h
      unfold State.beginCancel
      split
      · rfl
      · split_ifs <;> rfl
    · cases h
  | _ =>
    left
    simp only [exec] at h
    first
      | (cases h; rfl)
      | (split at h <;> cases h <;> rfl)
      | (repeat' split at h) <;> cases h <;> rfl

/-- The profile is quarantined in this step only if the step is a quarantine. -/
theorem pending_of_quarantined {event : Event} (hstep : manager.step w event = some w')
    (hnew : name ∈ w'.shared.quarantined) (hold : name ∉ w.shared.quarantined) :
    ∃ t answer, ∃ k : Unit → Manager Unit,
      event = .run t answer ∧ w.tasks[t]? = some (.call (.quarantineWarm name) k) := by
  cases event with
  | run t answer =>
    simp only [Machine.step] at hstep
    split at hstep
    · rename_i op k htask
      split at hstep
      · rename_i s' r spawned hexec
        cases hstep
        rcases exec_quarantined hexec with hsame | ⟨name', rfl, hinsert⟩
        · exact absurd (hsame ▸ hnew) hold
        · rw [hinsert, mem_insert_iff] at hnew
          obtain rfl := hnew.resolve_right hold
          exact ⟨t, answer, k, rfl, htask⟩
      · cases hstep
    · cases hstep
  | start kind =>
    obtain ⟨s', hstart, rfl⟩ := Option.map_eq_some_iff.mp hstep
    obtain ⟨-, rfl⟩ := startTask_eq hstart
    exact absurd hnew hold
  | env e =>
    obtain ⟨s', henv, rfl⟩ := Option.map_eq_some_iff.mp hstep
    refine absurd hnew ?_
    cases e with
    | host =>
      cases henv
      exact hold
    | images =>
      cases henv
      exact fun hmem => hold (mem_of_mem_filter hmem)
    | reload | close =>
      simp only [manager, envMove] at henv
      split at henv
      · cases henv
        exact hold
      · cases henv
  | reboot =>
    cases hstep
    cases hnew

/-- The task is in the teardown of the worker of this allocation, whose run has
ended with the error. -/
def TearsDown (w : Worlds) (t : TaskId) (id : AllocationId) (e : WorkerError) : Prop :=
  ∃ allocation profile left, allocation.id = id ∧ w.tasks[t]? = some left ∧
    (workerAttempt allocation).Returns (.error e) ∧
    (teardown allocation profile (.error e)).Rest left

/-- **A quarantine is the teardown of the failed worker** of an allocation with
a warm source that was not ready yet, and the host was not full. -/
theorem quarantine_of_failure {G : ManagerRegime} (hw : Run G w) {k : Unit → Manager Unit}
    (htask : w.tasks[t]? = some (.call (.quarantineWarm name) k)) :
    ∃ x e, TearsDown w t x.id e ∧ e.isCapacity = false ∧ Drives t x w.shared ∧
      x.id ∈ w.shared.history.current ∧ x.request.profile = name ∧
      x.source.any (·.kind = .warm) = true ∧ (x.state = .preparing ∨ x.state = .booting) := by
  have hpending : w.pending t = some (.quarantineWarm name) := by simp [World.pending, htask]
  obtain ⟨x, hdrives, hcurrent, hprofile, hwarm, hstate⟩ : QuarantineSpec t w.shared name :=
    hw.spec hpending
  obtain ⟨kinds, hassigned, hown⟩ := exists_ownWorkers hw
  obtain ⟨kind, hkind, hrest⟩ := hassigned.pending htask
  obtain ⟨allocation, profile, e, rfl, hreturns, he, hleft⟩ := rest_of_quarantine hrest
  have hid : x.id = allocation.id := hown.own t allocation profile hkind x.id hdrives.driver
  exact ⟨x, e, ⟨allocation, profile, _, hid.symm, htask, hreturns, hleft⟩, he, hdrives, hcurrent,
    hprofile, hwarm, hstate⟩

/-- **An image is quarantined by a failed clone of it.** Where no request is
given a machine of a warm source, whoever is about to quarantine a profile's
image is in the teardown of a worker that failed, not for a full host, while
its allocation of that profile was preparing or booting a guest it had cloned
from the image itself; and no other step quarantines an image. -/
theorem quarantined_by_failed_clone (hw : Run reusesCold w) :
    (∀ t (k : Unit → Manager Unit), w.tasks[t]? = some (.call (.quarantineWarm name) k) →
      ∃ x e, TearsDown w t x.id e ∧ e.isCapacity = false ∧ Drives t x w.shared ∧
        x.request.profile = name ∧ x.origin = .cloned ∧
        x.source.any (·.kind = .warm) = true ∧ (x.state = .preparing ∨ x.state = .booting)) ∧
    ∀ event w', manager.step w event = some w' → name ∈ w'.shared.quarantined →
      name ∉ w.shared.quarantined → ∃ t answer, ∃ k : Unit → Manager Unit,
        event = .run t answer ∧ w.tasks[t]? = some (.call (.quarantineWarm name) k) := by
  refine ⟨fun t k htask => ?_, fun event w' => pending_of_quarantined⟩
  obtain ⟨x, e, hdown, he, hdrives, hcurrent, hprofile, hwarm, hstate⟩ :=
    quarantine_of_failure hw htask
  refine ⟨x, e, hdown, he, hdrives, hprofile, ?_, hwarm, hstate⟩
  have hactive : x.state.isTerminal = false := by rcases hstate with h | h <;> rw [h] <;> rfl
  have hx := (State.mem_held_of_allocation? (hdrives.entry hactive)).1
  have hcold := (reusesCold_of_run hw).cold x hx hcurrent
  cases horigin : x.origin with
  | cloned => rfl
  | hotReuse vmName created jobs =>
    simp [Allocation.reusesWarm, horigin, AllocationOrigin.isHotReuse, hwarm] at hcold

/-! ## A machine that is gone

The profile keeps machines in the pool and has a warm image, which is usable.
Run 7 clones its guest from the image and leaves it to the pool; run 8 is
given the machine, which stops before the worker of run 8 has checked it. -/

/-- The installation, on a backend that leaves the clone source to the worker. -/
def deferredState : State :=
  { warmHotState with backend := { isCloneSourceEvidenceDeferred := true } }

theorem deferredState_started : Started deferredState :=
  ⟨by decide +kernel, rfl, rfl, rfl, rfl, rfl, rfl⟩

/-- The hot request of run 7, as task 0. -/
def warmRequest : List Event :=
  .start (.create (sampleBody 7 (.flag true)) (sampleClaims "7")) ::
    turns 0 23 { id := some firstId, fingerprint := some ⟨"aa"⟩ }

/-- Its worker, task 1, plans the clone of the image. -/
def warmPlan (count : ℕ) : List Event :=
  turns 1 1 { count := count } ++ turns 1 6 { step := .transition .preparing } ++
    turns 1 5 { step := .setCloneSource ⟨sampleWarm, .warm, some ⟨"aa"⟩, none⟩ (some 1) }

/-- It clones the guest, which runs its job and joins the pool. -/
def warmJob : List Event :=
  warmPlan 10 ++ turns 1 2 { step := .clone } ++ turns 1 5 { step := .setVmCreated } ++
    turns 1 6 { step := .transition .booting } ++ turns 1 6 { step := .transition .registering } ++
    turns 1 5 { step := .setRunnerId 1 } ++ turns 1 6 { step := .transition .waitingForJob } ++
    turns 1 6 { step := .transition .ready } ++ turns 1 6 { step := .transition .running } ++
    turns 1 33 {}

/-- Run 8 is given the machine, as task 2, and its worker, task 3, finds it
gone. -/
def goneMachine : List Event :=
  .start (.create (sampleBody 8 (.flag true)) (sampleClaims "8")) ::
    turns 2 25 { id := some secondId, fingerprint := some ⟨"aa"⟩ } ++ turns 3 10 {}

/-- The image the task is about to quarantine. -/
def quarantining (w : Worlds) (t : TaskId) : Option ProfileName :=
  match w.pending t with
  | some (.quarantineWarm name) => some name
  | _ => none

/-- The step that quarantines it. -/
theorem step_of_quarantining (h : quarantining w t = some name) :
    ∃ w', manager.step w (.run t {}) = some w' ∧ name ∈ w'.shared.quarantined := by
  unfold quarantining World.pending at h
  split at h
  · rename_i hpending
    cases h
    split at hpending
    · rename_i op k htask
      cases hpending
      refine ⟨_, by rw [Machine.step, htask]; rfl, ?_⟩
      exact mem_insert_self
    · cases hpending
  · cases h

/-- **A machine that is gone quarantines the image it was built from.** The
allocation of run 8 has cloned nothing. -/
theorem reuse_quarantines_image : ∃ w w' x, Run .free w ∧
    manager.step w (.run 3 {}) = some w' ∧ sampleProfileName ∉ w.shared.quarantined ∧
    sampleProfileName ∈ w'.shared.quarantined ∧ Drives 3 x w.shared ∧
    x.origin.isHotReuse = true ∧ x.state = .preparing := by
  obtain ⟨w, hw, hcheck⟩ : ∃ w, Run .free w ∧
      (quarantining w 3 = some sampleProfileName ∧ w.shared.quarantined = [] ∧
        w.shared.history.driver secondId = some 3 ∧ (w.shared.allocation? secondId).any fun x =>
          x.origin.isHotReuse && x.state = .preparing : Bool) = true :=
    exists_run deferredState_started (warmRequest ++ warmJob ++ goneMachine) (by decide +kernel)
  obtain ⟨hpending, hnone, hdriver, hentry⟩ := of_decide_eq_true hcheck
  obtain ⟨w', hstep, hmem⟩ := step_of_quarantining hpending
  obtain ⟨x, hx, hreuse⟩ := Option.any_eq_true _ _ |>.mp hentry
  simp only [Bool.and_eq_true, decide_eq_true_eq] at hreuse
  rw [← (State.mem_held_of_allocation? hx).2] at hdriver hx
  exact ⟨w, w', x, hw, hstep, by simp [hnone], hmem, ⟨hdriver, fun _ => hx⟩, hreuse⟩

/-- The worker of run 7 fails after it has planned its clone of the image, and
the image is quarantined for it. -/
theorem failed_clone_quarantines_image : ∃ w w' x e, Run reusesCold w ∧
    manager.step w (.run 1 {}) = some w' ∧ sampleProfileName ∈ w'.shared.quarantined ∧
    TearsDown w 1 x.id e ∧ e.isCapacity = false ∧ Drives 1 x w.shared ∧ x.origin = .cloned := by
  obtain ⟨w, hw, hcheck⟩ : ∃ w, Run reusesCold w ∧
      (quarantining w 1 = some sampleProfileName ∧ w.shared.quarantined = [] : Bool) = true :=
    exists_run deferredState_started
      (warmRequest ++ warmPlan 2 ++ turns 1 1 { failed := true } ++ turns 1 1 {})
      (by decide +kernel)
  obtain ⟨hpending, hnone⟩ := of_decide_eq_true hcheck
  obtain ⟨w', hstep, hmem⟩ := step_of_quarantining hpending
  obtain ⟨t, answer, k, heq, htask⟩ :=
    (quarantined_by_failed_clone hw).2 _ w' hstep hmem (by simp [hnone])
  cases heq
  obtain ⟨x, e, hdown, he, hdrives, -, hcloned, -⟩ := (quarantined_by_failed_clone hw).1 1 k htask
  exact ⟨w, w', x, e, hw, hstep, hmem, hdown, he, hdrives, hcloned⟩

end FlanForge
