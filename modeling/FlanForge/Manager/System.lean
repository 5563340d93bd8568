import FlanForge.Manager.Create

/-!
# The manager as a machine

The program of each kind of task, the machine they run on, and the states a
run starts in.
-/

namespace FlanForge

/-- What a posted create request runs: nothing, unless it passes ingress. -/
def createTask (body : CreateBody) (claims : ForgejoClaims) : Manager Unit :=
  if body.isValid then
    match body.intoParts with
    | none => pure ()
    | some (request, options) => do
      let _ ← create request options claims
      pure ()
  else pure ()

/-- The program of each kind of task. -/
def taskCode : Kind → Manager Unit
  | .create body claims => createTask body claims
  | .worker allocation profile => workerTask allocation profile
  | .cancel id => do
    let _ ← cancelById id
    pure ()
  | .sweep => ensureHotBounded
  | .hotReload => hotReload
  | .hotDrain vmName => do
    let _ ← hotDrain vmName
    pure ()
  | .hotEvict vmName => do
    let _ ← hotEvict vmName
    pure ()
  | .recover => recover

/-- **The manager.** -/
def manager : Machine State Op Op.Res Answer Kind Env where
  exec := exec
  code := taskCode
  start := startTask
  env := envMove
  reboot := reboot

/-- **Where a run starts**: an empty database, read by a process that now serves
requests, under any valid configuration and on any host. Everything durable
is then something the run itself has left, restarts included. -/
structure Started (s : State) : Prop where
  config : s.config.isValid = true
  hot : s.hot = []
  allocations : s.allocations = []
  entries : s.entries = []
  lock : s.lock = none
  serving : s.isServing = true
  history : s.history = .initial s.config

end FlanForge
