import Mathlib.Data.List.Basic
import FlanForge.Common.Prog

/-!
# Concurrent machines and their runs

A *machine* gives the operations of a signature their meaning on a shared
state. It is deterministic in an explicit answer, which is everything the
environment decides at that operation (the clock, whether a store fails,
what a backend says), so a run is a list of actions and can be replayed.

A *world* is the shared state and the tasks. A task is the rest of its
program; task identities are positions in the list, which only grows, so
a finished task keeps its place. The actions are: one task performs its
next operation, a new task is started from outside, the environment moves,
or the process stops and is started again, which ends every task.

A *regime* says which actions a run may contain: the assumptions of a
result about runs are a regime, and `Reachable` is reachability under it.
-/

namespace FlanForge

/-- A task's position in the task list. -/
abbrev TaskId := ℕ

/-- The meaning of a signature on a shared state `σ`. -/
structure Machine (σ Op : Type) (Res : Op → Type) (Ans Kind Env : Type) where
  /-- What one operation does, for the task `self` and under an answer:
  the new state, the result, and the task it spawns, which would get the
  identity `fresh`. `none` is an operation that cannot be performed now. -/
  exec : (self fresh : TaskId) → (o : Op) → Ans → σ → Option (σ × Res o × Option Kind)
  /-- The program of each kind of task. -/
  code : Kind → Prog Op Res Unit
  /-- Starting a task from outside, as `fresh`, when that is allowed. -/
  start : Kind → (fresh : TaskId) → σ → Option σ
  /-- The moves of the environment. -/
  env : Env → σ → Option σ
  /-- What is left of the state when the process is started again, and the
  first task of the new process, `fresh`. -/
  reboot : (fresh : TaskId) → σ → σ × Kind

/-- The shared state and the tasks. -/
structure World (σ Op : Type) (Res : Op → Type) where
  shared : σ
  tasks : List (Prog Op Res Unit)

/-- One scheduled event. -/
inductive Action (Ans Kind Env : Type)
  | run (t : TaskId) (a : Ans)
  | start (k : Kind)
  | env (e : Env)
  | reboot

/-- Which actions a run may contain, given the state they happen in. -/
structure Regime (σ Op Ans Kind Env : Type) where
  call : σ → TaskId → Op → Ans → Bool
  start : σ → Kind → Bool
  env : σ → Env → Bool
  reboot : σ → Bool

/-- The regime that allows everything. -/
def Regime.free {σ Op Ans Kind Env : Type} : Regime σ Op Ans Kind Env where
  call _ _ _ _ := true
  start _ _ := true
  env _ _ := true
  reboot _ := true

namespace World

variable {σ Op : Type} {Res : Op → Type}

/-- The operation a task performs next. -/
def pending (w : World σ Op Res) (t : TaskId) : Option Op :=
  match w.tasks[t]? with
  | some (.call o _) => some o
  | _ => none

end World

namespace Machine

variable {σ Op : Type} {Res : Op → Type} {Ans Kind Env : Type}

/-- The world after one action, when the action can happen. -/
def step (M : Machine σ Op Res Ans Kind Env) (w : World σ Op Res) :
    Action Ans Kind Env → Option (World σ Op Res)
  | .run t a =>
    match w.tasks[t]? with
    | some (.call o k) =>
      match M.exec t w.tasks.length o a w.shared with
      | some (s, r, spawned) =>
        some ⟨s, w.tasks.set t (k r) ++ (spawned.map M.code).toList⟩
      | none => none
    | _ => none
  | .start k => (M.start k w.tasks.length w.shared).map fun s => ⟨s, w.tasks ++ [M.code k]⟩
  | .env e => (M.env e w.shared).map fun s => ⟨s, w.tasks⟩
  | .reboot =>
    let (s, k) := M.reboot w.tasks.length w.shared
    some ⟨s, w.tasks.map (fun _ => .ret ()) ++ [M.code k]⟩

/-- The action is one the regime allows in this world. -/
def allows (G : Regime σ Op Ans Kind Env) (w : World σ Op Res) : Action Ans Kind Env → Bool
  | .run t a => (w.pending t).all fun o => G.call w.shared t o a
  | .start k => G.start w.shared k
  | .env e => G.env w.shared e
  | .reboot => G.reboot w.shared

/-- Replay a list of actions, each of which the regime has to allow. -/
def replay (M : Machine σ Op Res Ans Kind Env) (G : Regime σ Op Ans Kind Env) :
    World σ Op Res → List (Action Ans Kind Env) → Option (World σ Op Res)
  | w, [] => some w
  | w, a :: as =>
    if allows G w a then
      match M.step w a with
      | some w' => replay M G w' as
      | none => none
    else none

/-- The worlds reached from an initial state by actions the regime allows,
starting with no task. -/
inductive Reachable (M : Machine σ Op Res Ans Kind Env) (G : Regime σ Op Ans Kind Env)
    (init : σ → Prop) : World σ Op Res → Prop
  | init {s : σ} : init s → Reachable M G init ⟨s, []⟩
  | step {w w' : World σ Op Res} {a : Action Ans Kind Env} :
      Reachable M G init w → allows G w a = true → M.step w a = some w' →
      Reachable M G init w'

variable {M : Machine σ Op Res Ans Kind Env} {G : Regime σ Op Ans Kind Env}
variable {init : σ → Prop} {w w' : World σ Op Res}

/-- Replaying from a reachable world reaches a reachable world. -/
theorem Reachable.replay {as : List (Action Ans Kind Env)} (hw : Reachable M G init w)
    (h : M.replay G w as = some w') : Reachable M G init w' := by
  induction as generalizing w with
  | nil =>
    cases h
    exact hw
  | cons a as ih =>
    simp only [Machine.replay] at h
    split at h
    · rename_i hallow
      split at h
      · rename_i w₁ hstep
        exact ih (hw.step hallow hstep) h
      · cases h
    · cases h

/-- What `replay` returns is reachable from the state it was started in. -/
theorem reachable_of_replay {s : σ} {as : List (Action Ans Kind Env)} (hs : init s)
    (h : M.replay G ⟨s, []⟩ as = some w) : Reachable M G init w :=
  (Reachable.init hs).replay h

/-- Reachability widens with the regime and with the initial states. -/
theorem Reachable.mono {G' : Regime σ Op Ans Kind Env} {init' : σ → Prop}
    (hinit : ∀ s, init s → init' s)
    (hG : ∀ (w : World σ Op Res) a, allows G w a = true → allows G' w a = true)
    (hw : Reachable M G init w) : Reachable M G' init' w := by
  induction hw with
  | init hs => exact .init (hinit _ hs)
  | step _ hallow hstep ih => exact ih.step (hG _ _ hallow) hstep

end Machine

end FlanForge
