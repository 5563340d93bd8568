import FlanForge.Common.Sequential
import FlanForge.Manager.Effect

/-!
# A manager's task that is left alone

Rules for the programs of the manager under `Completes`, where no other task
moves. Most operations leave everything the fold and the pool look at as it
is (`Still`) and differ only in what they answer, so one rule takes them all.
-/

namespace FlanForge

/-- What is apart from the pool and the host has not changed. -/
structure Beside (s s' : State) : Prop where
  config : s'.config = s.config
  entries : s'.entries = s.entries
  lock : s'.lock = s.lock
  isClosing : s'.isClosing = s.isClosing
  admitted : s'.history.admitted = s.history.admitted
  issued : s'.history.issued = s.history.issued

variable {s₁ s₂ s₃ : State}

theorem Beside.refl (s : State) : Beside s s := ⟨rfl, rfl, rfl, rfl, rfl, rfl⟩

theorem Beside.trans (h : Beside s₁ s₂) (h' : Beside s₂ s₃) : Beside s₁ s₃ :=
  ⟨h'.config.trans h.config, h'.entries.trans h.entries, h'.lock.trans h.lock,
    h'.isClosing.trans h.isClosing, h'.admitted.trans h.admitted, h'.issued.trans h.issued⟩

theorem Beside.of_hot {hot : HotTable} (h : Beside { s₁ with hot := hot } s₂) : Beside s₁ s₂ :=
  ⟨h.config, h.entries, h.lock, h.isClosing, h.admitted, h.issued⟩

/-- What the fold, the pool and the entries are read from has not changed. -/
structure Still (s s' : State) : Prop extends Beside s s' where
  hot : s'.hot = s.hot
  host : s'.host = s.host

theorem Still.refl (s : State) : Still s s := ⟨.refl s, rfl, rfl⟩

theorem Still.trans (h : Still s₁ s₂) (h' : Still s₂ s₃) : Still s₁ s₃ :=
  ⟨h.toBeside.trans h'.toBeside, h'.hot.trans h.hot, h'.host.trans h.host⟩

/-- Operations that only read, or write what only the backend looks at. -/
def Op.isQuiet : Op → Bool
  | .hotSave .. | .hotRemove _ | .saveAllocation _ | .hotEvict _ | .cloneGuest _ | .lockEntries |
    .unlockEntries | .newAllocationId | .commit .. | .putAllocation _ | .beginCancel _ |
    .awaitTerminal _ | .endTerminalizing _ | .releaseSupervision _ | .loadEntries _ |
      .serve => false
  | _ => true

variable {t fresh : TaskId} {s s' : State} {op : Op} {ans : Answer}

theorem still_of_exec {r : op.Res} {spawned : Option Kind} (ho : op.isQuiet = true)
    (h : exec t fresh op ans s = some (s', r, spawned)) : Still s s' := by
  cases op <;> cases ho
  case hotLoadAll =>
    cases h
    split <;> exact ⟨⟨rfl, rfl, rfl, rfl, rfl, rfl⟩, rfl, rfl⟩
  case unixTime | workerStep | readEntries =>
    simp only [exec] at h
    split_ifs at h
    cases h
    exact ⟨⟨rfl, rfl, rfl, rfl, rfl, rfl⟩, rfl, rfl⟩
  case note n =>
    cases h
    cases n <;> exact ⟨⟨rfl, rfl, rfl, rfl, rfl, rfl⟩, rfl, rfl⟩
  all_goals
    cases h
    exact ⟨⟨rfl, rfl, rfl, rfl, rfl, rfl⟩, rfl, rfl⟩

/-- None of them is stuck, while the entries are free where they are read. -/
theorem exec_isSome_of_quiet (ho : op.isQuiet = true) (hlock : op = .readEntries → s.lock = none)
    (fresh : TaskId) : ∃ a, (exec t fresh op a s).isSome = true := by
  cases op <;> cases ho
  case readEntries => exact ⟨{}, by simp [exec, State.tick, hlock rfl]⟩
  all_goals exact ⟨{}, rfl⟩

section Rules

variable {ok : State → Op → Answer → Bool} {spec : State → Op → Prop} {α : Type}
variable {Q : α → State → Prop}

/-- **One quiet operation**: everything is as before, and the answer is one the
environment may give. -/
theorem completes_quiet {k : op.Res → Manager α} (hspec : spec s op) (ho : op.isQuiet = true)
    (hlock : op = .readEntries → s.lock = none)
    (hk : ∀ r s' fresh a spawned, Still s s' → ok s op a = true →
      exec t fresh op a s = some (s', r, spawned) → manager.Completes ok spec t (k r) s' Q) :
    manager.Completes ok spec t (.call op k) s Q :=
  ⟨hspec, exec_isSome_of_quiet ho hlock, fun fresh a s' r spawned hok hexec =>
    hk r s' fresh a spawned (still_of_exec ho hexec) hok hexec⟩

/-- A program of quiet operations. -/
theorem completes_of_quiet {p : Manager α} (hspec : ∀ s o, Op.isQuiet o = true → spec s o)
    (hp : p.Calls (·.isQuiet = true)) (hlock : s.lock = none) :
    manager.Completes ok spec t p s fun _ s' => Still s s' := by
  refine Machine.Completes.of_calls (I := Still s) ?_ hp (.refl s)
  intro s' o hs' ho
  refine ⟨hspec s' o ho, exec_isSome_of_quiet ho fun _ => hs'.lock.trans hlock, ?_⟩
  intro fresh a s'' r spawned _ hexec
  exact hs'.trans (still_of_exec ho hexec)

end Rules

end FlanForge
