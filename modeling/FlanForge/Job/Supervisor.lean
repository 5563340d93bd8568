import Mathlib.Data.List.Chain
import FlanForge.Core.Sample
import FlanForge.Job.Listing
import FlanForge.Manager.Admission

/-!
# Supervising the runner

Once the runner of a guest is started, `supervise` polls its status at
Forgejo and its process in the guest until the process exits, a deadline
passes, the token is cancelled or Forgejo has deleted the registration. The
last sends it into a second loop (`ensure_released_runner_exits`), which waits
for the exit alone. `SupervisionWindow` keeps the deadlines and how far the
runner was seen to get.

A supervision is a fold over *rounds*: a round is everything one iteration of
either loop is told, the time that passes included, so a statement about every
list of rounds is one about every sequence of statuses, failures, exits,
cancellations and clock readings. What the loop has seen and said is kept
beside its state as a list of events. Log lines and the calls that stop the
process are left out.
-/

namespace FlanForge

/-! ## What is observed -/

/-- Forgejo refused the request, or it can never be made at all. -/
def ForgejoError.isRejection : ForgejoError → Bool
  | absent | api | configuration | credential => true
  | _ => false

inductive RunnerStatus
  | offline
  | idle
  | active
  deriving DecidableEq

/-- How one guest process ended. -/
inductive GuestExit
  | code (code : Int32)
  | signal (signal : Int32)
  /-- The channel can no longer observe the process. -/
  | lost
  deriving DecidableEq

namespace GuestExit

def isSuccess (exit : GuestExit) : Bool := exit = .code 0

/-- The exit may decide the allocation. -/
def isVerdict (exit : GuestExit) : Bool := exit ≠ .lost

end GuestExit

/-! ## The window -/

/-- How long a released runner may keep shutting down. -/
def releasedRunnerGrace : ℕ := spanOfSeconds 60

/-- The floor under the idle budget the supervision inherits. -/
def postBindingGrace : ℕ := spanOfSeconds 60

/-- How far the runner has been observed to get. -/
inductive ObservedPhase
  | waiting
  | ready
  | running
  deriving DecidableEq

/-- The deadlines of one supervised runner, as readings of the monotonic
clock. -/
structure SupervisionWindow where
  idleTimeout : ℕ
  jobTimeout : ℕ
  idleDeadline : ℕ
  supervisedDeadline : ℕ
  jobDeadline : Option ℕ
  phase : ObservedPhase
  observationFailures : UInt32

namespace SupervisionWindow

/-- `idleDeadline` is what waiting for the job left of the idle budget. -/
def new (profile : Profile) (idleDeadline now : ℕ) : SupervisionWindow :=
  let idleTimeout := spanOfSeconds profile.idleTimeoutSeconds
  let jobTimeout := spanOfSeconds profile.jobTimeoutSeconds
  { idleTimeout := idleTimeout
    jobTimeout := jobTimeout
    idleDeadline := max idleDeadline (now + min idleTimeout postBindingGrace)
    supervisedDeadline := now + jobTimeout
    jobDeadline := none
    phase := .waiting
    observationFailures := 0 }

def isRunning (window : SupervisionWindow) : Bool := window.phase = .running

def startJob (window : SupervisionWindow) (now : ℕ) : SupervisionWindow :=
  { window with
    phase := .running
    observationFailures := 0
    jobDeadline := some (now + window.jobTimeout) }

/-- The states one observed status reports, in order. -/
def advance (window : SupervisionWindow) (status : RunnerStatus) (now : ℕ) :
    SupervisionWindow × List AllocationState :=
  match status, window.phase with
  | .idle, .waiting => ({ window with phase := .ready }, [.ready])
  | .active, .waiting => (window.startJob now, [.ready, .running])
  | .active, .ready => (window.startJob now, [.running])
  | _, _ => (window, [])

def observed (window : SupervisionWindow) : SupervisionWindow :=
  { window with observationFailures := 0 }

/-- A failed observation holds the idle window open, unless Forgejo refused
the request. -/
def unobserved (window : SupervisionWindow) (error : ForgejoError) (now : ℕ) :
    SupervisionWindow :=
  let failures := window.observationFailures
  { window with
    observationFailures := if failures = UInt32.ofNat 4294967295 then failures else failures + 1
    idleDeadline :=
      if !error.isRejection then now + window.idleTimeout else window.idleDeadline }

/-- How long a released runner may still shut down. -/
def releasedDeadline (window : SupervisionWindow) (now : ℕ) : ℕ :=
  min (now + releasedRunnerGrace) window.supervisedDeadline

/-- A runner that got as far as a job owns no verdict on it. -/
def ensureExitCompletedAJob (window : SupervisionWindow) (exit : GuestExit) :
    Except WorkerError Unit :=
  if exit.isSuccess then .ok ()
  else if window.isRunning then .ok ()
  else .error (.new "guest runner exited before completing a job")

/-- A lost observation is not an exit. -/
def ensureExitIsAVerdict (window : SupervisionWindow) (exit : GuestExit) :
    Except WorkerError Unit :=
  if exit.isVerdict then window.ensureExitCompletedAJob exit
  else .error (.new "guest runner became unobservable")

def overrun (window : SupervisionWindow) (now : ℕ) : Option String :=
  if window.supervisedDeadline ≤ now then some "guest runner exceeded its supervised lifetime"
  else if window.jobDeadline.any (· ≤ now) then some "guest job exceeded its timeout"
  else if !window.isRunning && window.idleDeadline ≤ now then
    some "guest runner did not receive a job before its idle timeout"
  else none

end SupervisionWindow

/-! ## The loops -/

/-- Everything one iteration of either loop is told. -/
structure Round where
  /-- The token is cancelled when the iteration starts. -/
  isCancelled : Bool := false
  exit : Except WorkerError (Option GuestExit) := .ok none
  /-- What Forgejo answers; `none` when the token is cancelled meanwhile. -/
  observed : Option (Except ForgejoError RunnerStatus) := none
  /-- The reporter's refusal of a state. -/
  refused : AllocationState → Option ManagerError := fun _ => none
  /-- The time that passes until the clock is first read, and from there until
  the deadlines are checked. -/
  elapsed : ℕ := 0
  checked : ℕ := 0

inductive SupervisionEvent
  | observed (status : RunnerStatus)
  | unobserved (error : ForgejoError)
  | reported (state : AllocationState)
  | exited (exit : GuestExit)
  deriving DecidableEq

inductive SupervisionStage
  /-- The loop of `supervise`. -/
  | watching (window : SupervisionWindow)
  /-- The loop of `ensure_released_runner_exits`. -/
  | releasing (window : SupervisionWindow) (deadline : ℕ)
  | over (result : Except WorkerError Unit)

structure Supervision where
  clock : ℕ
  /-- The token, which stays cancelled. -/
  isCancelled : Bool
  stage : SupervisionStage
  events : List SupervisionEvent

/-- Report the states one after the other, up to the first refusal. -/
def report (refused : AllocationState → Option ManagerError) :
    List AllocationState → List SupervisionEvent × Except WorkerError Unit
  | [] => ([], .ok ())
  | state :: states =>
    match refused state with
    | some e => ([.reported state], .error (.new e.message))
    | none =>
      let (events, result) := report refused states
      (.reported state :: events, result)

namespace Supervision

def finish (s : Supervision) (result : Except WorkerError Unit) : Supervision :=
  { s with stage := .over result }

/-- What both loops begin with: the token, then the process. -/
def ensureOngoing (s : Supervision) (window : SupervisionWindow) (round : Round)
    (next : Supervision) : Supervision :=
  if s.isCancelled || round.isCancelled then s.finish (.error (.new "allocation was cancelled"))
  else
    match round.exit with
    | .error e => s.finish (.error e)
    | .ok (some exit) =>
      { s with
        stage := .over (window.ensureExitIsAVerdict exit)
        events := s.events ++ [.exited exit] }
    | .ok none => next

/-- The check that ends an iteration. -/
def ensureInTime (s : Supervision) (window : SupervisionWindow) (now : ℕ) : Supervision :=
  { s with
    clock := now
    stage := match window.overrun now with
      | some message => .over (.error (.new message))
      | none => .watching window }

/-- A status was observed, and what it reports is reported. -/
def advance (s : Supervision) (window : SupervisionWindow) (round : Round)
    (status : RunnerStatus) : Supervision :=
  let now := s.clock + round.elapsed
  let (window, states) := window.observed.advance status now
  let (events, result) := report round.refused states
  let s := { s with clock := now, events := s.events ++ SupervisionEvent.observed status :: events }
  match result with
  | .error e => s.finish (.error e)
  | .ok _ => s.ensureInTime window (now + round.checked)

/-- One iteration of the first loop. -/
def watch (s : Supervision) (window : SupervisionWindow) (round : Round) : Supervision :=
  s.ensureOngoing window round <|
    let now := s.clock + round.elapsed
    match round.observed with
    | none => { s with clock := now, isCancelled := true }
    | some (.ok status) => s.advance window round status
    | some (.error .absent) =>
      { s with
        clock := now
        stage := .releasing window (window.releasedDeadline now)
        events := s.events ++ [.unobserved .absent] }
    | some (.error e) =>
      ({ s with events := s.events ++ [SupervisionEvent.unobserved e] }).ensureInTime
        (window.unobserved e now) (now + round.checked)

/-- One iteration of the second. -/
def release (s : Supervision) (window : SupervisionWindow) (deadline : ℕ) (round : Round) :
    Supervision :=
  s.ensureOngoing window round <|
    let now := s.clock + round.elapsed
    { s with
      clock := now
      stage :=
        if deadline ≤ now then
          .over (.error (.new "guest runner did not exit after Forgejo released its registration"))
        else .releasing window deadline }

def step (s : Supervision) (round : Round) : Supervision :=
  match s.stage with
  | .watching window => s.watch window round
  | .releasing window deadline => s.release window deadline round
  | .over _ => s

end Supervision

/-- The deadline `start_runner` hands over: one idle budget from when the
runner was told to wait for its job. -/
def idleDeadlineFrom (profile : Profile) (now : ℕ) : ℕ :=
  now + spanOfSeconds profile.idleTimeoutSeconds

/-- The supervision of a runner that was told to wait for its job at `waiting`,
`bound` before it is supervised. -/
def supervise (profile : Profile) (waiting bound : ℕ) (rounds : List Round) : Supervision :=
  rounds.foldl Supervision.step
    { clock := waiting + bound
      isCancelled := false
      stage := .watching (.new profile (idleDeadlineFrom profile waiting) (waiting + bound))
      events := [] }

/-! ## What one observation changes -/

variable {window window' : SupervisionWindow} {status : RunnerStatus} {now : ℕ}

/-- The states that were reported by the time the runner is seen to be in a
phase. -/
def ObservedPhase.reported : ObservedPhase → List AllocationState
  | .waiting => []
  | .ready => [.ready]
  | .running => [.ready, .running]

/-- The states among the events. -/
def reportedStates (events : List SupervisionEvent) : List AllocationState :=
  events.filterMap fun
    | .reported state => some state
    | _ => none

@[simp] theorem reportedStates_append (xs ys : List SupervisionEvent) :
    reportedStates (xs ++ ys) = reportedStates xs ++ reportedStates ys := List.filterMap_append

/-- **A status adds to what was reported**, and moves no deadline that bounds
the supervision. -/
theorem advance_spec (window : SupervisionWindow) (status : RunnerStatus) (now : ℕ) :
    (window.advance status now).1.phase.reported =
        window.phase.reported ++ (window.advance status now).2 ∧
      (window.advance status now).1.idleTimeout = window.idleTimeout ∧
      (window.advance status now).1.idleDeadline = window.idleDeadline ∧
      (window.advance status now).1.supervisedDeadline = window.supervisedDeadline ∧
      ((window.advance status now).1.phase = .running → window.phase = .running ∨
        status = .active) := by
  unfold SupervisionWindow.advance
  cases status <;> cases hphase : window.phase <;>
    simp [ObservedPhase.reported, SupervisionWindow.startJob, hphase]

/-- Refused or not, nothing is reported beyond the states asked for. -/
theorem report_spec (refused : AllocationState → Option ManagerError)
    (states : List AllocationState) :
    reportedStates (report refused states).1 <+: states ∧
      ((report refused states).2 = .ok () → reportedStates (report refused states).1 = states) := by
  induction states with
  | nil => exact ⟨List.nil_prefix, fun _ => rfl⟩
  | cons state states ih =>
    unfold report
    split
    · refine ⟨?_, fun h => by cases h⟩
      exact List.prefix_cons_iff.mpr (.inr ⟨[], rfl, List.nil_prefix⟩)
    · exact ⟨List.prefix_cons_iff.mpr (.inr ⟨_, rfl, ih.1⟩),
        fun h => congrArg (state :: ·) (ih.2 h)⟩

/-- **An overrun at every instant past the supervised lifetime.** -/
theorem overrun_isSome (h : window.supervisedDeadline ≤ now) :
    (window.overrun now).isSome = true := by
  simp [SupervisionWindow.overrun, h]

/-! ## One round -/

variable {s s' : Supervision} {round : Round} {deadline : ℕ}

/-- **What a round does**, by what it is told. -/
inductive RoundStep (s : Supervision) (round : Round) : Supervision → Prop
  | ended (result : Except WorkerError Unit) : s.stage = .over result → RoundStep s round s
  /-- The token is cancelled, or the process cannot be asked. -/
  | failed (e : WorkerError) : RoundStep s round (s.finish (.error e))
  | exited (window : SupervisionWindow) (exit : GuestExit) :
      s.stage = .watching window ∨ (∃ deadline, s.stage = .releasing window deadline) →
      RoundStep s round
        { s with
          stage := .over (window.ensureExitIsAVerdict exit)
          events := s.events ++ [.exited exit] }
  | interrupted (window : SupervisionWindow) : s.stage = .watching window →
      s.isCancelled = false → round.observed = none →
      RoundStep s round { s with clock := s.clock + round.elapsed, isCancelled := true }
  | observed (window : SupervisionWindow) (status : RunnerStatus) : s.stage = .watching window →
      s.isCancelled = false → round.observed = some (.ok status) →
      RoundStep s round (s.advance window round status)
  | released (window : SupervisionWindow) : s.stage = .watching window → s.isCancelled = false →
      round.observed = some (.error .absent) →
      RoundStep s round
        { s with
          clock := s.clock + round.elapsed
          stage := .releasing window (window.releasedDeadline (s.clock + round.elapsed))
          events := s.events ++ [.unobserved .absent] }
  | unobserved (window : SupervisionWindow) (e : ForgejoError) : s.stage = .watching window →
      s.isCancelled = false → round.observed = some (.error e) →
      RoundStep s round
        (({ s with events := s.events ++ [SupervisionEvent.unobserved e] }).ensureInTime
          (window.unobserved e (s.clock + round.elapsed))
          (s.clock + round.elapsed + round.checked))
  | waited (window : SupervisionWindow) (deadline : ℕ) : s.stage = .releasing window deadline →
      s.isCancelled = false →
      RoundStep s round
        { s with
          clock := s.clock + round.elapsed
          stage :=
            if deadline ≤ s.clock + round.elapsed then
              .over (.error
                (.new "guest runner did not exit after Forgejo released its registration"))
            else .releasing window deadline }

/-- What both loops begin with ends the supervision or leads on. -/
theorem ensureOngoing_step {next : Supervision}
    (hstage : s.stage = .watching window ∨ (∃ deadline, s.stage = .releasing window deadline))
    (hnext : s.isCancelled = false → RoundStep s round next) :
    RoundStep s round (s.ensureOngoing window round next) := by
  unfold Supervision.ensureOngoing
  split
  · exact .failed _
  · rename_i hcancelled
    split
    · exact .failed _
    · exact .exited window _ hstage
    · simp only [Bool.or_eq_true, not_or, Bool.not_eq_true] at hcancelled
      exact hnext hcancelled.1

theorem step_spec (s : Supervision) (round : Round) : RoundStep s round (s.step round) := by
  unfold Supervision.step
  split
  · rename_i window hstage
    refine ensureOngoing_step (.inl hstage) fun hcancelled => ?_
    dsimp only
    split
    · rename_i hobserved
      exact .interrupted window hstage hcancelled hobserved
    · rename_i status hobserved
      exact .observed window status hstage hcancelled hobserved
    · rename_i hobserved
      exact .released window hstage hcancelled hobserved
    · rename_i e _ hobserved
      exact .unobserved window e hstage hcancelled hobserved
  · rename_i window deadline hstage
    refine ensureOngoing_step (.inr ⟨deadline, hstage⟩) fun hcancelled => ?_
    exact .waited window deadline hstage hcancelled
  · rename_i result hstage
    exact .ended result hstage

/-! ## Every round -/

/-- The window's deadlines: the supervised lifetime is fixed, and the idle
deadline is at most one idle budget ahead. -/
structure SupervisionWindow.Bounded (lifetime clock : ℕ) (window : SupervisionWindow) : Prop where
  lifetime : window.supervisedDeadline = lifetime
  idle : window.idleDeadline ≤ clock + window.idleTimeout

/-- The window's phase is what was reported, and a running job was observed. -/
structure SupervisionWindow.Accounts (events : List SupervisionEvent)
    (window : SupervisionWindow) : Prop where
  reported : reportedStates events = window.phase.reported
  active : window.phase = .running → .observed .active ∈ events

/-- The process has exited, successfully or after its job was seen to run. -/
def Completed (events : List SupervisionEvent) : Prop :=
  ∃ exit, events.getLast? = some (.exited exit) ∧ exit ≠ .lost ∧
    (exit = .code 0 ∨ .observed .active ∈ events)

/-- **What holds after every round.** -/
def Supervision.Inv (lifetime : ℕ) (s : Supervision) : Prop :=
  match s.stage with
  | .watching window => window.Bounded lifetime s.clock ∧ window.Accounts s.events
  | .releasing window deadline =>
    window.Bounded lifetime s.clock ∧ window.Accounts s.events ∧ deadline ≤ lifetime
  | .over result =>
    reportedStates s.events <+: [.ready, .running] ∧ (result = .ok () → Completed s.events)

variable {lifetime : ℕ} {events : List SupervisionEvent}

theorem ObservedPhase.reported_isPrefix (phase : ObservedPhase) :
    phase.reported <+: [.ready, .running] := by
  cases phase <;> decide

/-- Whatever the stage, a prefix of the two states was reported. -/
theorem Supervision.Inv.reported (h : s.Inv lifetime) :
    reportedStates s.events <+: [.ready, .running] := by
  unfold Supervision.Inv at h
  split at h
  · rw [h.2.reported]
    exact ObservedPhase.reported_isPrefix _
  · rw [h.2.1.reported]
    exact ObservedPhase.reported_isPrefix _
  · exact h.1

theorem SupervisionWindow.Bounded.later {clock clock' : ℕ} (h : window.Bounded lifetime clock)
    (hclock : clock ≤ clock') : window.Bounded lifetime clock' :=
  ⟨h.lifetime, Nat.le_trans h.idle (Nat.add_le_add_right hclock _)⟩

/-- An event that reports nothing changes no account. -/
theorem SupervisionWindow.Accounts.append (h : window.Accounts events) {event : SupervisionEvent}
    (hevent : reportedStates [event] = []) : window.Accounts (events ++ [event]) :=
  ⟨by rw [reportedStates_append, hevent, List.append_nil, h.reported],
    fun hrunning => List.mem_append_left _ (h.active hrunning)⟩

/-- The check at the end of a round. -/
theorem Supervision.Inv.ensureInTime (hbounded : window.Bounded lifetime now)
    (hacc : window.Accounts s.events) : (s.ensureInTime window now).Inv lifetime := by
  unfold Supervision.Inv Supervision.ensureInTime
  cases window.overrun now with
  | none => exact ⟨hbounded, hacc⟩
  | some message => exact ⟨hacc.reported ▸ ObservedPhase.reported_isPrefix _, fun h => by cases h⟩

/-- An exit decides as the window accounts for it. -/
theorem completed_of_verdict {exit : GuestExit} (hacc : window.Accounts events)
    (h : window.ensureExitIsAVerdict exit = .ok ()) : Completed (events ++ [.exited exit]) := by
  unfold SupervisionWindow.ensureExitIsAVerdict at h
  split at h
  · rename_i hverdict
    refine ⟨exit, by simp, by simpa [GuestExit.isVerdict] using hverdict, ?_⟩
    unfold SupervisionWindow.ensureExitCompletedAJob at h
    split at h
    · rename_i hsuccess
      exact .inl (by simpa [GuestExit.isSuccess] using hsuccess)
    · split at h
      · rename_i hrunning
        have hrunning : window.phase = .running := by
          simpa [SupervisionWindow.isRunning] using hrunning
        exact .inr (List.mem_append_left _ (hacc.active hrunning))
      · cases h
  · cases h

/-- A status that is observed. -/
theorem Supervision.Inv.advance (hbounded : window.Bounded lifetime s.clock)
    (hacc : window.Accounts s.events) : (s.advance window round status).Inv lifetime := by
  obtain ⟨hreported, htimeout, hidle, hlifetime, hactive⟩ :=
    advance_spec window.observed status (s.clock + round.elapsed)
  obtain ⟨hsome, hall⟩ := report_spec round.refused
    (window.observed.advance status (s.clock + round.elapsed)).2
  have hstates (events : List SupervisionEvent) :
      reportedStates (s.events ++ .observed status :: events) =
        window.phase.reported ++ reportedStates events := by
    rw [reportedStates_append, hacc.reported]
    rfl
  unfold Supervision.advance
  dsimp only
  split
  · rename_i e hrefused
    refine ⟨?_, fun h => by cases h⟩
    -- the refused state is the last that was reported
    refine List.IsPrefix.trans ?_ (ObservedPhase.reported_isPrefix
      (window.observed.advance status (s.clock + round.elapsed)).1.phase)
    rw [hreported]
    show reportedStates (s.events ++ .observed status :: _) <+: _
    rw [hstates]
    exact (List.prefix_append_right_inj _).mpr hsome
  · rename_i hok
    refine .ensureInTime ⟨hlifetime.trans hbounded.lifetime, ?_⟩ ⟨?_, fun hrunning => ?_⟩
    · rw [hidle, htimeout]
      exact (hbounded.later (by omega)).idle
    · rw [hreported]
      show reportedStates (s.events ++ .observed status :: _) = _
      rw [hstates, hall hok]
      rfl
    · rcases hactive hrunning with hbefore | rfl
      · exact List.mem_append_left _ (hacc.active hbefore)
      · exact List.mem_append_right _ List.mem_cons_self

theorem Supervision.Inv.step (h : s.Inv lifetime) (round : Round) :
    (s.step round).Inv lifetime := by
  have hspec := step_spec s round
  generalize s.step round = s' at hspec
  cases hspec with
  | ended result hstage => exact h
  | failed e => exact ⟨h.reported, fun h => by cases h⟩
  | exited window exit hstage =>
    have hacc : window.Accounts s.events := by
      unfold Supervision.Inv at h
      rcases hstage with hstage | ⟨deadline, hstage⟩ <;> rw [hstage] at h
      · exact h.2
      · exact h.2.1
    refine ⟨?_, completed_of_verdict hacc⟩
    simpa [reportedStates] using h.reported
  | interrupted window hstage =>
    unfold Supervision.Inv at h ⊢
    rw [hstage] at h
    simp only [hstage]
    exact ⟨h.1.later (by omega), h.2⟩
  | observed window status hstage =>
    unfold Supervision.Inv at h
    rw [hstage] at h
    exact .advance h.1 h.2
  | released window hstage =>
    unfold Supervision.Inv at h
    rw [hstage] at h
    refine ⟨h.1.later (Nat.le_add_right _ _), h.2.append rfl, ?_⟩
    exact h.1.lifetime ▸ Nat.min_le_right _ _
  | unobserved window e hstage =>
    unfold Supervision.Inv at h
    rw [hstage] at h
    refine .ensureInTime ⟨h.1.lifetime, ?_⟩ ⟨(h.2.append rfl).reported, (h.2.append rfl).active⟩
    have hidle := h.1.idle
    simp only [SupervisionWindow.unobserved]
    split <;> omega
  | waited window deadline hstage =>
    unfold Supervision.Inv at h
    rw [hstage] at h
    by_cases hpast : deadline ≤ s.clock + round.elapsed
    · simp only [Supervision.Inv, if_pos hpast]
      exact ⟨h.2.1.reported ▸ ObservedPhase.reported_isPrefix _, fun h => by cases h⟩
    · simp only [Supervision.Inv, if_neg hpast]
      exact ⟨h.1.later (Nat.le_add_right _ _), h.2⟩

/-- The reading of the clock at which the supervised lifetime ends. -/
def lifetimeEnd (profile : Profile) (waiting bound : ℕ) : ℕ :=
  waiting + bound + spanOfSeconds profile.jobTimeoutSeconds

theorem supervise_inv (profile : Profile) (waiting bound : ℕ) (rounds : List Round) :
    (supervise profile waiting bound rounds).Inv (lifetimeEnd profile waiting bound) := by
  have hrun : ∀ (rounds : List Round) (s : Supervision), s.Inv (lifetimeEnd profile waiting bound) →
      (rounds.foldl Supervision.step s).Inv (lifetimeEnd profile waiting bound) := by
    intro rounds
    induction rounds with
    | nil => exact fun s h => h
    | cons round rounds ih => exact fun s h => ih _ (h.step round)
  refine hrun rounds _ ⟨⟨rfl, ?_⟩, ⟨rfl, fun h => by cases h⟩⟩
  -- one idle budget from when the runner was told to wait, or the floor
  simp only [SupervisionWindow.new, idleDeadlineFrom]
  omega

/-! ## The idle deadline -/

/-- Where the first loop goes on, nothing has overrun. -/
theorem ensureInTime_watching (h : (s.ensureInTime window now).stage = .watching window') :
    window' = window ∧ window.overrun now = none := by
  unfold Supervision.ensureInTime at h
  cases hover : window.overrun now with
  | none =>
    simp only [hover, SupervisionStage.watching.injEq] at h
    exact ⟨h.symm, rfl⟩
  | some message => simp [hover] at h

/-- **No round moves the idle deadline back**, and one that is told of a
rejection does not move it at all. -/
theorem idleDeadline_step (h : s.Inv lifetime) (hstage : s.stage = .watching window)
    (hnext : (s.step round).stage = .watching window') :
    window.idleDeadline ≤ window'.idleDeadline ∧
      ∀ e, round.observed = some (.error e) → e.isRejection = true →
        window'.idleDeadline = window.idleDeadline := by
  unfold Supervision.Inv at h
  rw [hstage] at h
  have hidle := h.1.idle
  have hspec := step_spec s round
  generalize s.step round = s' at hspec hnext
  cases hspec with
  | ended result hover => simp [hstage] at hover
  | failed e => cases hnext
  | exited w exit => cases hnext
  | interrupted w hw hcancelled hobserved =>
    obtain rfl : window = window' := by simpa [hstage] using hnext
    exact ⟨Nat.le_refl _, fun e he => by simp [hobserved] at he⟩
  | observed w status hw hcancelled hobserved =>
    obtain rfl : window = w := by simpa [hstage] using hw
    obtain ⟨-, -, hsame, -⟩ := advance_spec window.observed status (s.clock + round.elapsed)
    unfold Supervision.advance at hnext
    dsimp only at hnext
    split at hnext
    · cases hnext
    · rw [(ensureInTime_watching hnext).1, hsame]
      exact ⟨Nat.le_refl _, fun _ _ _ => rfl⟩
  | released w => cases hnext
  | unobserved w e hw hcancelled hobserved =>
    obtain rfl : window = w := by simpa [hstage] using hw
    rw [(ensureInTime_watching hnext).1]
    refine ⟨?_, fun e' he' hrejection => ?_⟩
    · simp only [SupervisionWindow.unobserved]
      split <;> omega
    · obtain rfl : e = e' := by simpa [hobserved] using he'
      simp [SupervisionWindow.unobserved, hrejection]
  | waited w deadline hw => simp [hstage] at hw

/-! ## The end of the supervision -/

/-- The next round ends it. -/
def Supervision.Ending (s : Supervision) : Prop :=
  (∃ result, s.stage = .over result) ∨ s.isCancelled = true ∨
    ∃ window deadline, s.stage = .releasing window deadline ∧ deadline ≤ s.clock

theorem Supervision.Ending.step (h : s.Ending) (round : Round) :
    ∃ result, (s.step round).stage = .over result := by
  have hspec := step_spec s round
  generalize s.step round = s' at hspec
  cases hspec with
  | ended result hstage => exact ⟨result, hstage⟩
  | failed e => exact ⟨_, rfl⟩
  | exited window exit => exact ⟨_, rfl⟩
  | waited window deadline hstage hcancelled =>
    rcases h with ⟨result, hover⟩ | hcancelled' | ⟨window', deadline', hreleasing, hpast⟩
    · simp [hstage] at hover
    · simp [hcancelled] at hcancelled'
    · obtain ⟨rfl, rfl⟩ : window = window' ∧ deadline = deadline' := by
        simpa [hstage] using hreleasing
      exact ⟨_, if_pos (Nat.le_trans hpast (Nat.le_add_right _ _))⟩
  | interrupted window hstage hcancelled | observed window status hstage hcancelled
  | released window hstage hcancelled | unobserved window e hstage hcancelled =>
    rcases h with ⟨result, hover⟩ | hcancelled' | ⟨window', deadline', hreleasing, -⟩
    · simp [hstage] at hover
    · simp [hcancelled] at hcancelled'
    · simp [hstage] at hreleasing

/-- The check ends what has outlived its lifetime. -/
theorem ensureInTime_ending (h : window.supervisedDeadline ≤ now) :
    (s.ensureInTime window now).Ending := by
  obtain ⟨message, hmessage⟩ := Option.isSome_iff_exists.mp (overrun_isSome h)
  exact .inl ⟨.error (.new message), by simp [Supervision.ensureInTime, hmessage]⟩

/-- A round past the supervised lifetime is the last but one. -/
theorem ending_of_lifetime (h : s.Inv lifetime) (hclock : lifetime ≤ s.clock) (round : Round) :
    (s.step round).Ending := by
  unfold Supervision.Inv at h
  have hspec := step_spec s round
  generalize s.step round = s' at hspec
  cases hspec with
  | ended result hstage => exact .inl ⟨result, hstage⟩
  | failed e => exact .inl ⟨_, rfl⟩
  | exited window exit => exact .inl ⟨_, rfl⟩
  | interrupted window hstage => exact .inr (.inl rfl)
  | observed window status hstage =>
    rw [hstage] at h
    obtain ⟨-, -, -, hsame, -⟩ := advance_spec window.observed status (s.clock + round.elapsed)
    have hlifetime : (window.observed.advance status (s.clock + round.elapsed)).1.supervisedDeadline
        = lifetime := hsame.trans h.1.lifetime
    unfold Supervision.advance
    dsimp only
    split
    · exact .inl ⟨_, rfl⟩
    · exact ensureInTime_ending (by omega)
  | released window hstage =>
    rw [hstage] at h
    refine .inr (.inr ⟨window, _, rfl, ?_⟩)
    have hlifetime := h.1.lifetime
    simp only [SupervisionWindow.releasedDeadline]
    omega
  | unobserved window e hstage =>
    rw [hstage] at h
    have hlifetime : (window.unobserved e (s.clock + round.elapsed)).supervisedDeadline =
      lifetime :=
      h.1.lifetime
    exact ensureInTime_ending (by omega)
  | waited window deadline hstage =>
    rw [hstage] at h
    have hdeadline := h.2.2
    exact .inl ⟨_, if_pos (by omega)⟩

/-! ## The supervision -/

/-- **What a supervision owes**, `lifetime` being when its job budget ends. -/
structure Supervision.Disciplined (lifetime : ℕ) (s : Supervision) : Prop where
  reported : reportedStates s.events <+: [.ready, .running]
  /-- The reports are steps of the lifecycle from where `start_runner` left the
  allocation. -/
  legal : (.waitingForJob :: reportedStates s.events).IsChain (·.canTransitionTo · = true)
  overrun : ∀ window, s.stage = .watching window → ∀ now, lifetime ≤ now →
    (window.overrun now).isSome = true
  released : ∀ window deadline, s.stage = .releasing window deadline → deadline ≤ lifetime
  /-- Past the lifetime, whatever two more rounds are told ends the
  supervision. -/
  ends : lifetime ≤ s.clock → ∀ first second, ∃ result,
    ((s.step first).step second).stage = .over result
  idle : ∀ window window' round, s.stage = .watching window →
    (s.step round).stage = .watching window' → window.idleDeadline ≤ window'.idleDeadline ∧
      ∀ e, round.observed = some (.error e) → e.isRejection = true →
        window'.idleDeadline = window.idleDeadline
  completed : s.stage = .over (.ok ()) → Completed s.events

theorem isChain_of_reported {states : List AllocationState} (h : states <+: [.ready, .running]) :
    (.waitingForJob :: states).IsChain (·.canTransitionTo · = true) := by
  obtain ⟨rest, hrest⟩ := h
  have hpath : ((.waitingForJob :: states) ++ rest).IsChain (·.canTransitionTo · = true) := by
    rw [List.cons_append, hrest]
    decide
  exact hpath.left_of_append

/-- **Every supervision is disciplined**, whatever its rounds are told. -/
theorem supervise_disciplined (profile : Profile) (waiting bound : ℕ) (rounds : List Round) :
    (supervise profile waiting bound rounds).Disciplined (lifetimeEnd profile waiting bound) := by
  have hinv := supervise_inv profile waiting bound rounds
  generalize supervise profile waiting bound rounds = s at hinv
  refine ⟨hinv.reported, isChain_of_reported hinv.reported, ?_, ?_, ?_, ?_, ?_⟩
  · intro window hstage now hnow
    unfold Supervision.Inv at hinv
    rw [hstage] at hinv
    exact overrun_isSome (hinv.1.lifetime ▸ hnow)
  · intro window deadline hstage
    unfold Supervision.Inv at hinv
    rw [hstage] at hinv
    exact hinv.2.2
  · intro hclock first second
    exact (ending_of_lifetime hinv hclock first).step second
  · intro window window' round hstage hnext
    exact idleDeadline_step hinv hstage hnext
  · intro hstage
    unfold Supervision.Inv at hinv
    rw [hstage] at hinv
    exact hinv.2 rfl

/-- A runner that Forgejo cannot be asked about for a while, then takes its job
and is killed: the job's own result belongs to Forgejo. -/
def killedRunner : List Round :=
  [{ observed := some (.error .unavailable), elapsed := spanOfSeconds 100 },
    { observed := some (.ok .active), elapsed := spanOfSeconds 5 },
    { exit := .ok (some (.signal 15)) }]

/-- It completes, though the clock had passed the idle deadline it began with. -/
theorem supervise_disciplined_killed :
    (supervise sampleProfile 0 (spanOfSeconds 200) killedRunner).stage = .over (.ok ()) ∧
      ∃ exit, (supervise sampleProfile 0 (spanOfSeconds 200) killedRunner).events.getLast? =
        some (.exited exit) ∧ exit ≠ .lost := by
  have hover : (supervise sampleProfile 0 (spanOfSeconds 200) killedRunner).stage =
      .over (.ok ()) := by rfl
  obtain ⟨exit, hlast, hlost, -⟩ :=
    (supervise_disciplined sampleProfile 0 (spanOfSeconds 200) killedRunner).completed hover
  exact ⟨hover, exit, hlast, hlost⟩

end FlanForge
