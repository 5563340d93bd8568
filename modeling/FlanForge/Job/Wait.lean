import FlanForge.Job.Listing
import FlanForge.Manager.Admission

/-!
# Waiting for the job

`pollForJobHandle` asks Forgejo for the labelled jobs again and again until
one can be bound. A search that finds none is explained by a second listing
without the label, and only one explanation ends the wait: a dependent job
whose `runs-on` can never match.

The result of the module is about two waits at once. The label is handed to
the workflow, so any run of the repository can queue jobs that carry it.
What such jobs change is the reason a timeout is worded with (`observed`),
and nothing else: not which handle is bound, nor when the wait fails, nor
with which error.
-/

namespace FlanForge

/-! ## The wait -/

/-- What Forgejo answers during one poll. The unlabelled listing is asked for
only when the labelled one has no job to bind. -/
structure Poll where
  labelled : Except ForgejoError (List ActionRunJob)
  unlabelled : Except ForgejoError (List ActionRunJob)

/-- How a wait stands after some polls; a bound job and a failure name the poll
they come from. -/
inductive PollOutcome
  | bound (poll : ℕ) (handle : String)
  | failed (poll : ℕ) (error : WorkerError)
  | polling
  deriving DecidableEq

def jobHandle (poll : Poll) (binding : JobBinding) : Except ForgejoError (Option String) :=
  match poll.labelled with
  | .error e => .error e
  | .ok jobs => selectJobHandle jobs binding

def jobDiagnosis (poll : Poll) (binding : JobBinding) : Except ForgejoError JobDiagnosis :=
  match poll.unlabelled with
  | .error e => .error e
  | .ok jobs => .ok (diagnoseJobs jobs binding)

/-- The one failure no further polling can change. -/
def mismatchError (binding : JobBinding) (runsOn : List String) : WorkerError :=
  .new ("dependent Forgejo job \"" ++ binding.jobName ++ "\" is queued with runs-on [" ++
    String.intercalate ", " runsOn ++
      "]; the allocation label must be its only entry (expected [\"" ++
    binding.label ++ "\"])")

/-- Record why the labelled search is empty; a diagnosis that cannot be read is
not one. -/
def diagnoseWait (poll : Poll) (binding : JobBinding) (observed : Option String) :
    Option String × Option WorkerError :=
  match jobDiagnosis poll binding with
  | .error _ => (observed, none)
  | .ok diagnosis =>
    (some diagnosis.reason,
      match diagnosis with
      | .runsOnMismatch runsOn => some (mismatchError binding runsOn)
      | _ => none)

/-- The polls of a wait, from the `n`-th on. -/
def pollFrom (binding : JobBinding) : List Poll → ℕ → Option String → PollOutcome × Option String
  | [], _, observed => (.polling, observed)
  | poll :: polls, n, observed =>
    match jobHandle poll binding with
    | .ok (some handle) => (.bound n handle, observed)
    | .ok none =>
      let (observed, error) := diagnoseWait poll binding observed
      match error with
      | some error => (.failed n error, observed)
      | none => pollFrom binding polls (n + 1) observed
    | .error e =>
      if e.isRetryable then pollFrom binding polls (n + 1) observed
      else (.failed n (.new e.message), observed)

/-- Poll for the one job handle the allocation is authorized to run. -/
def pollForJobHandle (binding : JobBinding) (polls : List Poll) : PollOutcome :=
  (pollFrom binding polls 0 none).1

/-! ## Jobs of the signed run -/

variable {binding : JobBinding} {run : UInt64} {job : ActionRunJob} {jobs jobs' : List ActionRunJob}

/-- The job's run is the given one, as numbers. -/
def ActionRunJob.isOfRun (job : ActionRunJob) (run : UInt64) : Bool :=
  job.runId.any fun value => value.toInt = (run.toNat : Int)

/-- A positive number of the listing keeps its value when it is read unsigned. -/
theorem toUInt64_eq_iff {value : Int64} (hvalue : 0 < value) :
    value.toUInt64 = run ↔ value.toInt = (run.toNat : Int) := by
  have hpos : 0 < value.toInt := Int64.lt_iff_toInt_lt.mp hvalue
  have htoNat : value.toUInt64.toNat = value.toInt.toNat :=
    Int64.toNat_toUInt64_of_le (Int64.le_of_lt hvalue)
  rw [← UInt64.toNat_inj, htoNat]
  omega

/-- The code's comparison is the comparison of numbers, for a run that can
exist. -/
theorem ActionRunJob.run_eq_iff : job.run = some run ↔ job.isOfRun run = true ∧ 0 < run := by
  unfold ActionRunJob.run ActionRunJob.isOfRun
  cases job.runId with
  | none => simp
  | some value =>
    have hrun : 0 < run ↔ 0 < run.toNat := UInt64.lt_iff_toNat_lt
    have hpos : 0 < value ↔ 0 < value.toInt := Int64.lt_iff_toInt_lt
    simp only [Option.any_some, decide_eq_true_eq, hrun]
    by_cases hvalue : 0 < value
    · rw [if_pos hvalue, Option.some.injEq, toUInt64_eq_iff hvalue]
      refine ⟨fun h => ⟨h, ?_⟩, And.left⟩
      have := hpos.mp hvalue
      rw [h] at this
      exact_mod_cast this
    · rw [if_neg hvalue]
      refine iff_of_false (by simp) fun ⟨h, hzero⟩ => hvalue (hpos.mpr ?_)
      rw [h]
      exact_mod_cast hzero

theorem filter_run (jobs : List ActionRunJob) :
    jobs.filter (·.run = some run) =
      (jobs.filter (·.isOfRun run)).filter fun _ => decide (0 < run) := by
  rw [List.filter_filter]
  refine List.filter_congr fun job _ => ?_
  rw [Bool.eq_iff_iff]
  simp [ActionRunJob.run_eq_iff, and_comm]

/-! ## Independence of one poll -/

/-- Every job of the listing says which run it belongs to. -/
def CarriesRuns (jobs : List ActionRunJob) : Prop := ∀ job ∈ jobs, job.runId.isSome = true

/-- The listings say the same about the run. -/
def SameOfRun (run : UInt64) (jobs jobs' : List ActionRunJob) : Prop :=
  jobs.filter (·.isOfRun run) = jobs'.filter (·.isOfRun run)

/-- Where jobs carry runs, an empty listing and one without a job of the signed
run are read alike. -/
theorem selectJobHandle_eq (hruns : CarriesRuns jobs) :
    selectJobHandle jobs binding = bindSole (jobs.filter (·.run = some binding.runId)) binding := by
  cases jobs with
  | nil => rfl
  | cons first rest =>
    have hany : (first :: rest).any (·.runId.isSome) = true := by
      simp [hruns first List.mem_cons_self]
    simp only [selectJobHandle, authorizedJobs, hany, if_true, List.isEmpty_cons,
      Bool.false_eq_true, if_false]

theorem selectJobHandle_independent (hruns : CarriesRuns jobs) (hruns' : CarriesRuns jobs')
    (hsame : SameOfRun binding.runId jobs jobs') :
    selectJobHandle jobs binding = selectJobHandle jobs' binding := by
  rw [selectJobHandle_eq hruns, selectJobHandle_eq hruns', filter_run, filter_run, hsame]

/-- Whether the diagnosis blames the dependent job, and for what. -/
def JobDiagnosis.blamed : JobDiagnosis → Option (List String)
  | runsOnMismatch runsOn => some runsOn
  | _ => none

/-- A job is blamed by what the signed run has queued alone. -/
theorem blamed_diagnoseJobs :
    (diagnoseJobs jobs binding).blamed =
      match (jobs.filter (·.run = some binding.runId)).filter (isDependentJob · binding) with
      | [job] => if isOnlyLabel job.runsOn binding.label then none else some job.runsOn
      | _ => none := by
  rw [List.filter_comm]
  unfold diagnoseJobs
  simp only
  split
  · rename_i hempty
    rw [List.isEmpty_iff.mp hempty]
    rfl
  · split
    · rename_i h
      rw [h]
      rfl
    · rename_i job h
      rw [h]
      dsimp only
      split <;> rfl
    · rename_i hnil hone
      split
      · rename_i job h
        exact absurd h (hone job)
      · rfl

theorem blamed_independent (hsame : SameOfRun binding.runId jobs jobs') :
    (diagnoseJobs jobs binding).blamed = (diagnoseJobs jobs' binding).blamed := by
  rw [blamed_diagnoseJobs, blamed_diagnoseJobs, filter_run, filter_run, hsame]

/-! ## Independence of the wait -/

/-- Two answers of Forgejo that only differ in jobs of other runs. -/
def SameListing (run : UInt64) : Except ForgejoError (List ActionRunJob) →
    Except ForgejoError (List ActionRunJob) → Prop
  | .ok jobs, .ok jobs' => SameOfRun run jobs jobs'
  | .error e, .error e' => e = e'
  | _, _ => False

namespace Poll

/-- Every listed job of the poll carries a run. -/
def CarriesRuns (poll : Poll) : Prop :=
  (∀ jobs, poll.labelled = .ok jobs → FlanForge.CarriesRuns jobs) ∧
    ∀ jobs, poll.unlabelled = .ok jobs → FlanForge.CarriesRuns jobs

/-- The polls agree on the run, listing by listing. -/
structure Agrees (run : UInt64) (poll poll' : Poll) : Prop where
  labelled : SameListing run poll.labelled poll'.labelled
  unlabelled : SameListing run poll.unlabelled poll'.unlabelled

variable {poll poll' : Poll}

theorem jobHandle_independent (hruns : poll.CarriesRuns) (hruns' : poll'.CarriesRuns)
    (hagree : poll.Agrees binding.runId poll') :
      jobHandle poll binding = jobHandle poll' binding := by
  have hsame := hagree.labelled
  unfold jobHandle
  split <;> rename_i h <;> rw [h] at hsame <;> split <;> rename_i h' <;> rw [h'] at hsame
  · exact congrArg _ hsame
  · exact absurd hsame id
  · exact absurd hsame id
  · exact selectJobHandle_independent (hruns.1 _ h) (hruns'.1 _ h') hsame

/-- The wait fails in both polls or in neither, with the same error. -/
theorem diagnoseWait_independent {observed observed' : Option String}
    (hagree : poll.Agrees binding.runId poll') :
    (diagnoseWait poll binding observed).2 = (diagnoseWait poll' binding observed').2 := by
  have herror : ∀ diagnosis : JobDiagnosis,
      (match diagnosis with
        | .runsOnMismatch runsOn => some (mismatchError binding runsOn)
        | _ => none) = diagnosis.blamed.map (mismatchError binding) := by
    intro diagnosis
    cases diagnosis <;> rfl
  have hsame := hagree.unlabelled
  unfold diagnoseWait jobDiagnosis
  cases h : poll.unlabelled with
  | error e =>
    cases h' : poll'.unlabelled with
    | error e' => rfl
    | ok jobs' =>
      rw [h, h'] at hsame
      exact absurd hsame id
  | ok jobs =>
    cases h' : poll'.unlabelled with
    | error e' =>
      rw [h, h'] at hsame
      exact absurd hsame id
    | ok jobs' =>
      rw [h, h'] at hsame
      simp only [herror, blamed_independent hsame]

end Poll

variable {polls polls' : List Poll}

/-- From the same poll on, two waits that agree go the same way. -/
theorem pollFrom_independent {n : ℕ} {observed observed' : Option String}
    (hruns : ∀ poll ∈ polls, poll.CarriesRuns) (hruns' : ∀ poll ∈ polls', poll.CarriesRuns)
    (hagree : List.Forall₂ (Poll.Agrees binding.runId) polls polls') :
    (pollFrom binding polls n observed).1 = (pollFrom binding polls' n observed').1 := by
  induction hagree generalizing n observed observed' with
  | nil => rfl
  | @cons poll poll' polls polls' hfirst _ ih =>
    have hhandle := Poll.jobHandle_independent (hruns poll List.mem_cons_self)
      (hruns' poll' List.mem_cons_self) hfirst
    have hwait : (diagnoseWait poll binding observed).2 =
        (diagnoseWait poll' binding observed').2 := Poll.diagnoseWait_independent hfirst
    have hrest : ∀ o o', (pollFrom binding polls (n + 1) o).1 = (pollFrom binding polls'
      (n + 1) o').1 :=
      fun o o' => ih (fun p hp => hruns p (List.mem_cons_of_mem _ hp))
        fun p hp => hruns' p (List.mem_cons_of_mem _ hp)
    simp only [pollFrom, hhandle]
    split
    · rfl
    · -- no job to bind: the diagnoses differ in their wording only
      rw [hwait]
      split
      · rfl
      · exact hrest _ _
    · split
      · exact hrest _ _
      · rfl

/-! ## What is bound -/

/-- **The job a handle may come from**: the only one of the signed run, valid,
under the configured name, waiting, with the label as its whole `runs-on`. -/
structure IsAuthorized (binding : JobBinding) (jobs : List ActionRunJob) (job : ActionRunJob) :
    Prop where
  only : jobs.filter (·.isOfRun binding.runId) = [job]
  valid : job.isValid = true
  name : job.name = binding.jobName
  waiting : job.status = "waiting"
  label : job.runsOn = [binding.label]

theorem eq_of_isOnlyLabel {runsOn : List String} {label : String}
    (h : isOnlyLabel runsOn label = true) : runsOn = [label] := by
  unfold isOnlyLabel at h
  split at h
  · rw [of_decide_eq_true h]
  · cases h

theorem isAuthorized_of_selectJobHandle {handle : String} (hruns : CarriesRuns jobs)
    (h : selectJobHandle jobs binding = .ok (some handle)) :
    ∃ job, IsAuthorized binding jobs job ∧ job.handle = handle := by
  rw [selectJobHandle_eq hruns] at h
  unfold bindSole at h
  split at h
  · cases h
  · rename_i job hjob
    split at h
    · cases h
    · rename_i haccepted
      cases h
      refine ⟨job, ?_, rfl⟩
      -- a bound job has a run, so the signed run is one that can exist
      have hmem : job ∈ jobs.filter (·.run = some binding.runId) := by
        rw [hjob]
        exact List.mem_singleton_self job
      have hpos : 0 < binding.runId :=
        (ActionRunJob.run_eq_iff.mp (of_decide_eq_true (List.mem_filter.mp hmem).2)).2
      rw [filter_run] at hjob
      unfold jobReject at haccepted
      split_ifs at haccepted with hvalid hname hstatus hlabel <;> try cases haccepted rfl
      exact
        { only := by simpa [hpos] using hjob
          valid := by simpa using hvalid
          name := by simpa using hname
          waiting := by simpa using hstatus
          label := eq_of_isOnlyLabel (by simpa using hlabel) }
  · cases h

/-- A bound handle comes from the labelled listing of the poll it names. -/
theorem jobHandle_of_bound {n m : ℕ} {observed : Option String} {handle : String}
    (h : (pollFrom binding polls n observed).1 = .bound m handle) :
    ∃ i poll, m = n + i ∧ polls[i]? = some poll ∧ jobHandle poll binding = .ok (some handle) := by
  induction polls generalizing n observed with
  | nil => cases h
  | cons poll polls ih =>
    have hnext : ∀ o, (pollFrom binding polls (n + 1) o).1 = .bound m handle →
        ∃ i p, m = n + i ∧ (poll :: polls)[i]? = some p ∧ jobHandle p binding = .ok
          (some handle) := by
      intro o ho
      obtain ⟨i, p, hm, hp, hjob⟩ := ih ho
      exact ⟨i + 1, p, by omega, by simpa using hp, hjob⟩
    simp only [pollFrom] at h
    split at h
    · rename_i hjob
      cases h
      exact ⟨0, poll, rfl, rfl, hjob⟩
    · split at h
      · cases h
      · exact hnext _ h
    · split at h
      · exact hnext _ h
      · cases h

/-- **Jobs of other runs cannot influence a binding.** Two waits whose listings
agree, one by one, on the jobs of the signed run bind the same handle at the
same poll, fail at the same poll with the same error, or both go on; and a
handle is bound only to the one authorized job of the listing it comes from. -/
theorem binding_ignores_other_runs (binding : JobBinding) (polls polls' : List Poll)
    (hruns : ∀ poll ∈ polls, poll.CarriesRuns) (hruns' : ∀ poll ∈ polls', poll.CarriesRuns)
    (hagree : List.Forall₂ (Poll.Agrees binding.runId) polls polls') :
    pollForJobHandle binding polls = pollForJobHandle binding polls' ∧
      ∀ n handle, pollForJobHandle binding polls = .bound n handle →
        ∃ poll jobs job, polls[n]? = some poll ∧ poll.labelled = .ok jobs ∧
          IsAuthorized binding jobs job ∧ job.handle = handle := by
  refine ⟨pollFrom_independent hruns hruns' hagree, fun n handle hbound => ?_⟩
  obtain ⟨i, poll, hn, hpoll, hjob⟩ := jobHandle_of_bound hbound
  obtain rfl : n = i := by omega
  unfold jobHandle at hjob
  split at hjob
  · cases hjob
  · rename_i jobs hjobs
    have hlisted := hruns poll (List.mem_of_getElem? hpoll)
    obtain ⟨job, hauthorized, hhandle⟩ := isAuthorized_of_selectJobHandle
      (hlisted.1 jobs hjobs) hjob
    exact ⟨poll, jobs, job, hpoll, hjobs, hauthorized, hhandle⟩

section Decoys

/-- The job of run 7, and one that another run queued under the same label. -/
def ownJob : ActionRunJob := ⟨1, some 7, "own", "build", ["macos-1"], "waiting"⟩

def decoyJob : ActionRunJob := ⟨1, some 8, "decoy", "build", ["macos-1"], "waiting"⟩

def sampleBinding : JobBinding := ⟨"macos-1", "build", 7⟩

/-- A first poll that finds nothing, and a second that finds the job. -/
def quietPolls : List Poll := [⟨.ok [], .ok []⟩, ⟨.ok [ownJob], .ok []⟩]

/-- The same two polls with the other run's job in every listing. -/
def decoyPolls : List Poll :=
  [⟨.ok [decoyJob], .ok [decoyJob]⟩, ⟨.ok [decoyJob, ownJob], .ok [decoyJob]⟩]

/-- The job is bound at the second poll, with and without the decoys. -/
theorem binding_ignores_decoys :
    pollForJobHandle sampleBinding quietPolls = .bound 1 "own" ∧
      pollForJobHandle sampleBinding quietPolls = pollForJobHandle sampleBinding decoyPolls := by
  refine ⟨by decide, (binding_ignores_other_runs sampleBinding quietPolls decoyPolls ?_ ?_ ?_).1⟩
  · simp [quietPolls, Poll.CarriesRuns, CarriesRuns, ownJob]
  · simp [decoyPolls, Poll.CarriesRuns, CarriesRuns, ownJob, decoyJob]
  · have hsame : ∀ jobs jobs' : List ActionRunJob,
        jobs.filter (·.isOfRun 7) = jobs'.filter (·.isOfRun 7) →
          SameListing sampleBinding.runId (.ok jobs) (.ok jobs') := fun _ _ h => h
    exact .cons ⟨hsame _ _ (by decide), hsame _ _ (by decide)⟩
      (.cons ⟨hsame _ _ (by decide), hsame _ _ (by decide)⟩ .nil)

end Decoys

end FlanForge
