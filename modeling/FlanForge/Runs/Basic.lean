import FlanForge.Core.Sample
import FlanForge.Manager.Sound

/-!
# Runs of the manager

`Run G` are the worlds the manager reaches from an empty database under a
regime `G`; `Run.free` is all of them. An invariant of runs is proved
operation by operation (`Run.invariant`): each operation has one of the
effects of `Manager.Effect` where it meets its specification, and a new task,
a move of the environment and a restart change little.

A concrete run is a list of events, and replaying the list is a computation,
so a fact about one run is decided by evaluating it (`exists_run`). The
concrete runs happen in the small installation of `Core.Sample`.
-/

namespace FlanForge

/-- The worlds of the manager. -/
abbrev Worlds := World State Op Op.Res

/-- What a run may contain. -/
abbrev ManagerRegime := Regime State Op Answer Kind Env

/-- One scheduled event of the manager. -/
abbrev Event := Action Answer Kind Env

/-- The world is reached from an empty database under the regime. -/
abbrev Run (G : ManagerRegime) (w : Worlds) : Prop := Machine.Reachable manager G Started w

variable {G : ManagerRegime} {w : Worlds} {s s' : State} {t : TaskId} {op : Op}

/-! ## Invariants of runs -/

/-- What a move of the environment leaves alone; only a reload is remembered. -/
structure EnvMove (s : State) (e : Env) (s' : State) : Prop where
  hot : s'.hot = s.hot
  allocations : s'.allocations = s.allocations
  held : s'.held = s.held
  lock : s'.lock = s.lock
  isServing : s'.isServing = s.isServing
  config : (s'.config = s.config ∧ s'.history = s.history) ∨
    ∃ config, e = .reload config ∧ config.isValid = true ∧ s'.config = config ∧
      s'.history = s.history.reloaded config

theorem envMove_spec {e : Env} (h : envMove e s = some s') : EnvMove s e s' := by
  cases e with
  | host | images =>
    cases h
    exact ⟨rfl, rfl, rfl, rfl, rfl, .inl ⟨rfl, rfl⟩⟩
  | reload config =>
    simp only [envMove] at h
    split at h
    · rename_i hvalid
      cases h
      exact ⟨rfl, rfl, rfl, rfl, rfl, .inr ⟨config, rfl, hvalid, rfl, rfl⟩⟩
    · cases h
  | close =>
    simp only [envMove] at h
    split at h
    · cases h
      exact ⟨rfl, rfl, held_close, rfl, rfl, .inl ⟨rfl, rfl⟩⟩
    · cases h

/-- Nor does the environment forget it. -/
theorem EnvMove.grows {e : Env} (h : EnvMove s e s') : s.history.Grows s'.history := by
  rcases h.config with ⟨-, h⟩ | ⟨config, -, -, -, h⟩ <;> rw [h]
  · exact .refl _
  · exact History.grows_reloaded

theorem Run.inv (hw : Run G w) : Inv w.shared := discipline_sound.inv hw

theorem Run.spec (hw : Run G w) (ho : w.pending t = some op) : OpSpec t w.shared op :=
  (discipline_sound.spec hw ho).2

/-- **An invariant of runs**, operation by operation. What is known of every
run is known of the one so far. -/
theorem Run.invariant {J : State → Prop} (hinit : ∀ s, Started s → J s)
    (hop : ∀ w t fresh op a s' spawned, Run G w → J w.shared → OpSpec t w.shared op → t ≠ fresh →
      G.call w.shared t op a = true → Effect t fresh w.shared op s' spawned → J s')
    (hstart : ∀ s t, J s → J { s with history := s.history.begin t })
    (henv : ∀ s e s', J s → G.env s e = true → EnvMove s e s' → J s')
    (hreboot : ∀ t s, J s → G.reboot s = true → J (reboot t s).1) (hw : Run G w) :
    J w.shared := by
  refine discipline_sound.invariant hinit ?_ ?_ ?_ (fun t w _ hJ h => hreboot t w.shared hJ h) hw
  · intro w t fresh op a s' r spawned hw hJ hspec hne hcall hexec
    exact hop w t fresh op a s' spawned hw hJ hspec.2 hne hcall (exec_effect hexec)
  · intro w k t s' _ hJ h
    obtain ⟨-, rfl⟩ := startTask_eq h
    exact hstart w.shared t hJ
  · intro w e s' _ hJ hallow h
    exact henv w.shared e s' hJ hallow (envMove_spec h)

/-! ## Concrete runs -/

/-- **A check of a replayed run is a fact about some run.** -/
theorem exists_run {check : Worlds → Bool} (hs : Started s) (events : List Event)
    (h : (manager.replay G ⟨s, []⟩ events).any check = true) : ∃ w, Run G w ∧ check w = true := by
  obtain ⟨w, hw, hcheck⟩ := Option.any_eq_true _ _ |>.mp h
  exact ⟨w, Machine.reachable_of_replay hs hw, hcheck⟩

/-- The task performs its next `n` operations, all with the same answer. -/
def turns (t : TaskId) (n : ℕ) (a : Answer) : List Event := List.replicate n (.run t a)

/-! ## Requests to the small installation -/

/-- The claims of run `runId`, first attempt, on the main branch. -/
def sampleClaims (runId : String) : ForgejoClaims where
  actor := "u"
  aud := "a"
  eventName := "push"
  exp := 1
  iat := 1
  iss := "i"
  nbf := 1
  gitRef := "refs/heads/main"
  refProtected := "true"
  refType := "branch"
  repository := "o/r"
  repositoryOwner := "o"
  runAttempt := "1"
  runId := runId
  runNumber := "1"
  sha := "0123456789012345678901234567890123456789"
  sub := "repo:o/r:ref:refs/heads/main"
  workflow := "w"
  workflowRef := "o/r/.forgejo/workflows/ci.yml@refs/heads/main"

/-- The request of that run, with a `hot` field. -/
def sampleBody (runId : UInt64) (hot : Hot) : CreateBody where
  profile := sampleProfileName
  repository := sampleProfile.repository
  runId := .number runId
  runAttempt := 1
  hot := hot

/-- An empty database on an empty host. -/
def sampleState : State where
  config := sampleConfig
  watched := sampleConfig
  backend := {}
  hot := []
  allocations := []
  images := []
  entries := []
  lock := none
  quarantined := []
  probe := none
  clock := 0
  isClosing := false
  host := []
  isServing := true
  history := .initial sampleConfig

theorem sampleState_started : Started sampleState :=
  ⟨by decide +kernel, rfl, rfl, rfl, rfl, rfl, rfl⟩

/-- The hot request of run 7, as task 0, and its worker, task 1, up to the
release of its machine. -/
def firstJob : List Event :=
  .start (.create (sampleBody 7 (.flag true)) (sampleClaims "7")) ::
    turns 0 18 { id := some firstId } ++ turns 1 17 { count := 1 }

/-- The machine joins the pool and the worker ends. -/
def firstRelease : List Event := turns 1 22 {}

end FlanForge
