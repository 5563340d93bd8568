import FlanForge.Manager.CreateKeeps

/-!
# The discipline is kept

Every program of the manager keeps the discipline, so does every move of the
environment and every restart. From here on nothing looks at a program again:
a result about runs uses the specifications of single operations
(`Sound.spec`) and invariants proved operation by operation
(`Sound.invariant`).
-/

namespace FlanForge

open Discipline

variable {t : TaskId} {s : State}

theorem Started.inv (h : Started s) : Inv s where
  hot := by
    rw [h.hot]
    exact HotTable.wellFormed_nil
  pooled vmName guest hr := by
    rw [h.hot] at hr
    simp [HotTable.record, Table.get] at hr
  config := by simp [h.history, History.initial]
  unique := by simp [h.entries, Table.Unique]
  held := by simp [State.held, h.entries]
  durable := by simp [h.allocations]
  admitted := by simp [h.history, History.initial]
  builder := by simp [h.history, History.initial]
  driven := by simp [h.history, History.initial]
  undriven := by simp [h.entries]

/-- A request whose answer nobody reads here. -/
theorem answered {α : Type} {p : Manager α} {P : State → Prop}
    (h : discipline.Triple t P p fun _ _ => True) :
    discipline.Triple t P (p >>= fun _ => pure ()) fun _ _ => True :=
  .bind h fun _ _ _ _ _ _ _ => trivial

/-- A program on the pool, as a task of its own. -/
theorem task_of_pool {α : Type} {p : Manager α}
    (h : discipline.Triple t (At t (fun _ => True) none) p fun _ => At t (fun _ => True) none) :
    discipline.Triple t (At t (fun _ => True) none) p fun _ _ => True :=
  h.consequence (fun _ _ h => h) fun _ _ _ _ => trivial

/-- **Every program of the manager keeps the discipline.** -/
theorem taskCode_safe (k : Kind) (hs : Inv s) (hready : Ready k t s) :
    discipline.Safe t (taskCode k) (fun _ _ => True) s := by
  have hkept : Frame t fun _ => True := .const True
  have hpool : At t (fun _ => True) none s := ⟨trivial, hready.1, hready.2.1⟩
  cases k with
  | create body claims =>
    simp only [taskCode, createTask]
    split
    · rename_i hvalid
      split
      · exact fun _ _ _ => trivial
      · rename_i request options hparts
        have hadmissible := CreateBody.admissible_of_intoParts hvalid hparts
        exact answered (create_safe hadmissible) s hs ⟨hready.2.2, hready.1, hready.2.1⟩
    · exact fun _ _ _ => trivial
  | worker allocation profile => exact workerTask_safe s hs hready
  | cancel id => exact answered cancelById_safe s hs hready
  | sweep => exact task_of_pool (ensureHotBounded_keeps hkept) s hs hpool
  | hotReload => exact task_of_pool (hotReload_keeps hkept) s hs hpool
  | hotDrain vmName => exact answered (task_of_pool (hotDrain_keeps hkept)) s hs hpool
  | hotEvict vmName => exact answered (task_of_pool (hotEvict_keeps hkept)) s hs hpool
  | recover => exact recover_safe s hs hready

/-- **The discipline is sound**: in every run from an empty database, with any
number of requests, completions, reloads, sweeps and restarts interleaved in
any order, the invariant holds in every state and every operation meets its
specification where it is performed. -/
theorem discipline_sound : discipline.Sound Started where
  init _ h := h.inv
  code k _ _ hs hready := taskCode_safe k hs hready
  start _ _ _ _ hs h := start_keeps hs h
  env _ _ _ hs h := env_keeps hs h
  reboot t _ hs := reboot_keeps t hs

end FlanForge
