import FlanForge.Common.Checks
import FlanForge.Agent.Command
import FlanForge.Libvirt.Ownership

/-!
# The guest-agent boundary

The guest agent runs what it is asked as root, so the helper process that
speaks to it accepts a request only in one of a few shapes, matched argument
by argument. The daemon builds requests on one side (`request`,
`transientUnit`, `stopUnit`) and the helper checks them on the other
(`ensureExecValid`), each with its own spelling of the accepted argument
vectors, sizes and ranges.

`Admits` says what an accepted request can do. The daemon's requests are all
accepted but one: the recycle gate of a pool machine has no shape.
-/

namespace FlanForge

open List

/-! ## The daemon's side -/

def isJobAccount (name : String) (uid : UInt32) : Bool :=
  name != "root" && 1 ≤ name.utf8ByteSize && name.utf8ByteSize ≤ 32 &&
    name.toList.head?.any Char.isLower &&
    name.toList.all (fun c => c.isLower || c.isDigit || c == '_') && 1000 ≤ uid

/-- The account the agent's root process drops to. -/
structure JobAccount where
  name : String
  uid : UInt32
  accepted : isJobAccount name uid = true

/-- The exports a login shell without a session lacks. -/
def JobAccount.prelude (account : JobAccount) : String :=
  "export XDG_RUNTIME_DIR=/run/user/" ++ toString account.uid.toNat ++
    "; export DBUS_SESSION_BUS_ADDRESS=unix:path=/run/user/" ++ toString account.uid.toNat ++
      "/bus; "

structure AgentExecRequest where
  path : String
  arguments : List String
  input : Option (List UInt8)
  isOutputCaptured : Bool
  deriving DecidableEq

def runuser : String := "/usr/sbin/runuser"
def systemdRun : String := "/usr/bin/systemd-run"
def systemctl : String := "/usr/bin/systemctl"

def unitName (handle : Uuid) : String := "flanforge-job-" ++ handle.value ++ ".service"

/-- A command as a login shell for the account. -/
def loginShell (account : JobAccount) (script : String) (input : Option (List UInt8))
    (isOutputCaptured : Bool) : AgentExecRequest where
  path := runuser
  arguments := ["-l", account.name, "-c", account.prelude ++ script]
  input := input
  isOutputCaptured := isOutputCaptured

/-- The deadline systemd holds a unit to. -/
def runtimeMax (lifetime : Duration) : ℕ := max 1 (min lifetime.asSecs 86400)

/-- The job, as a transient unit. -/
def transientUnit (account : JobAccount) (script : String) (handle : Uuid) (lifetime : Duration)
    (input : Option (List UInt8)) : AgentExecRequest where
  path := systemdRun
  arguments :=
    ["--unit=" ++ unitName handle, "--pipe", "--wait",
      "--property=RuntimeMaxSec=" ++ toString (runtimeMax lifetime),
      "--property=TimeoutStopSec=10", runuser, "-l", account.name, "-c",
      account.prelude ++ script]
  input := input
  isOutputCaptured := false

/-- Stop the whole unit. -/
def stopUnit (handle : Uuid) : AgentExecRequest where
  path := systemctl
  arguments := ["stop", unitName handle]
  input := none
  isOutputCaptured := false

def GuestCapture.isBounded : GuestCapture → Bool
  | .discard => false
  | .bounded _ => true

/-- A command as the request the channel sends. A script drops to the account;
a program keeps its arguments, and its stdin is carried for the helper to
refuse. -/
def request (account : JobAccount) (command : GuestCommand) : AgentExecRequest :=
  let input := command.stdin.map GuestSecret.asBytes
  match command.program with
  | .script text => loginShell account text input command.capture.isBounded
  | .program path arguments => ⟨path, arguments, input, command.capture.isBounded⟩

/-- A spawn as the request the channel sends. -/
def spawnRequest (account : JobAccount) (spawn : GuestSpawn) :
    Except WorkerError AgentExecRequest :=
  match spawn.command.program with
  | .script text =>
    .ok (transientUnit account text spawn.handle spawn.lifetime
      (spawn.command.stdin.map GuestSecret.asBytes))
  | .program _ _ =>
    .error (.new "a supervised guest command must be a script the job account can run")

/-- The timeout of one agent call, out of what is left of the caller's. -/
def agentTimeoutSeconds (remaining : Duration) : Option ℕ :=
  if remaining < Duration.fromSecs 1 then none
  else
    let seconds := min (Duration.asSecs (remaining - Duration.fromSecs 1)) 5
    if 0 < seconds then some seconds else none

/-! ## The helper's side -/

def invalid (field : String) : Except WireError Unit := .error ⟨"libvirt helper", field⟩

def isSafeAccountName (value : String) : Bool :=
  isSafeName value 32 && value.toList.head?.any Char.isAlphanum

def ensureTimeout (timeoutSeconds : ℕ) : Except WireError Unit :=
  if 1 ≤ timeoutSeconds && timeoutSeconds ≤ 5 then .ok () else invalid "agent exec timeout"

def ensureLoginShell (account script : String) : Except WireError Unit :=
  if !isSafeAccountName account || account = "root" || script.isEmpty ||
      script.utf8ByteSize > 64 * 1024 + 256 || !isNulFree script then
    invalid "agent exec login shell"
  else .ok ()

/-- The identity in the name of a unit, when the name is the one the identity
has. -/
def jobUnit (unit : String) : Option Uuid :=
  match stripHead "flanforge-job-".toList unit.toList with
  | none => none
  | some rest =>
    match stripTail ".service".toList rest with
    | none => none
    | some value =>
      match Uuid.parseStr (String.ofList value) with
      | none => none
      | some id => if !id.isNil && unitName id = unit then some id else none

def ensureJobUnit (unit : String) : Except WireError Unit :=
  if (jobUnit unit).isSome then .ok () else invalid "agent exec unit"

def ensureBoundedSeconds (value : String) (maximum : ℕ) (field : String) : Except WireError Unit :=
  if value.toList.all Char.isDigit &&
      (parseU64 value).any fun seconds => 1 ≤ seconds.toNat && seconds.toNat ≤ maximum then .ok ()
  else invalid field

def ensureRuntimeMax (property : String) : Except WireError Unit :=
  match stripHead "--property=RuntimeMaxSec=".toList property.toList with
  | none => invalid "agent exec runtime bound"
  | some seconds => ensureBoundedSeconds (String.ofList seconds) 86400 "agent exec runtime bound"

def ensureCaptureFree (request : AgentExecRequest) : Except WireError Unit :=
  if request.isOutputCaptured then invalid "agent exec capture" else .ok ()

def ensureInputFree (request : AgentExecRequest) : Except WireError Unit :=
  if request.input.isSome then invalid "agent exec input" else .ok ()

/-- The unit argument without its flag, and nothing in its place when it has
none. -/
def unitArgument (argument : String) : String :=
  match stripHead "--unit=".toList argument.toList with
  | some unit => String.ofList unit
  | none => ""

/-- The four argument vectors, matched element by element. -/
def ensureShape (request : AgentExecRequest) : Except WireError Unit :=
  match request.arguments with
  | [login, account, shell, script] =>
    if request.path = runuser && login = "-l" && shell = "-c" then ensureLoginShell account script
    else invalid "agent exec shape"
  | [unit, pipe, wait, runtimeMax, stop, program, login, account, shell, script] =>
    if request.path = systemdRun && pipe = "--pipe" && wait = "--wait" &&
        stop = "--property=TimeoutStopSec=10" && program = runuser && login = "-l" &&
        shell = "-c" then do
      ensureJobUnit (unitArgument unit)
      ensureRuntimeMax runtimeMax
      ensureLoginShell account script
    else invalid "agent exec shape"
  | [first, second] =>
    if request.path = systemctl && first = "stop" then do
      ensureCaptureFree request
      ensureInputFree request
      ensureJobUnit second
    else if request.path = guestReadyHelper && first = "--wait-seconds" then do
      ensureInputFree request
      ensureBoundedSeconds second 120 "agent exec wait seconds"
    else invalid "agent exec shape"
  | _ => invalid "agent exec shape"

/-- The check of a request at the boundary. -/
def ensureExecValid (request : AgentExecRequest) (timeoutSeconds : ℕ) : Except WireError Unit := do
  ensureTimeout timeoutSeconds
  if !isNormalAbsolute request.path 4096 || request.arguments.length > 16 ||
      argumentBytes request.arguments > 128 * 1024 || !request.arguments.all isNulFree then
    invalid "agent exec argv"
  else if request.input.any fun input => input.isEmpty || input.length > 64 * 1024 then
    invalid "agent exec input"
  else if request.input.isSome && request.isOutputCaptured then
    invalid "agent exec capture"
  else ensureShape request

/-! ## Sizes and characters -/

@[simp] theorem isNulFree_append (a b : String) :
    isNulFree (a ++ b) = (isNulFree a && isNulFree b) := by
  simp [isNulFree]

theorem isNulFree_of_all {text : String} {p : Char → Bool} (hp : p '\x00' = false)
    (h : text.toList.all p = true) : isNulFree text = true := by
  have hmem : '\x00' ∉ text.toList := fun hmem => by
    rw [all_eq_true.mp h _ hmem] at hp
    cases hp
  simpa [isNulFree] using hmem

theorem isNulFree_toString (n : ℕ) : isNulFree (toString n) = true :=
  isNulFree_of_all rfl (all_eq_true.mpr fun _ => isDigit_toString)

theorem isNulFree_uuid (id : Uuid) : isNulFree id.value = true :=
  isNulFree_of_all rfl (all_eq_true.mpr fun _ => Uuid.mem_value)

theorem hasPair_of_not_mem {c : Char} {text : List Char} (h : c ∉ text) :
    hasPair c text = false := by
  induction text with
  | nil => rfl
  | cons a rest ih =>
    cases rest with
    | nil => rfl
    | cons b rest =>
      have ha : a ≠ c := (ne_of_not_mem_cons h).symm
      simp [hasPair, ha, ih (not_mem_of_not_mem_cons h)]

/-- A unit name has 58 bytes. -/
theorem utf8ByteSize_unitName (id : Uuid) : (unitName id).utf8ByteSize = 58 := by
  rw [unitName, String.utf8ByteSize_append, String.utf8ByteSize_append, Uuid.utf8ByteSize_value]
  rfl

namespace JobAccount

variable (account : JobAccount)

theorem utf8ByteSize_prelude : account.prelude.utf8ByteSize ≤ 128 := by
  have hdigits : (toString account.uid.toNat).utf8ByteSize ≤ 10 :=
    utf8ByteSize_toString_le (by omega) (by have := account.uid.toNat_lt; omega)
  have hfirst : "export XDG_RUNTIME_DIR=/run/user/".utf8ByteSize = 33 := by decide +kernel
  have hsecond : "; export DBUS_SESSION_BUS_ADDRESS=unix:path=/run/user/".utf8ByteSize = 54 := by
    decide +kernel
  have hlast : "/bus; ".utf8ByteSize = 6 := by decide +kernel
  unfold prelude
  rw [String.utf8ByteSize_append, String.utf8ByteSize_append, String.utf8ByteSize_append,
    String.utf8ByteSize_append, hfirst, hsecond, hlast]
  omega

theorem isNulFree_prelude : isNulFree account.prelude = true := by
  unfold prelude
  rw [isNulFree_append, isNulFree_append, isNulFree_append, isNulFree_append, isNulFree_toString]
  decide +kernel

theorem isNulFree_name : isNulFree account.name = true := by
  have h := account.accepted
  simp only [isJobAccount, Bool.and_eq_true] at h
  exact isNulFree_of_all rfl h.1.2

theorem utf8ByteSize_name : account.name.utf8ByteSize ≤ 32 := by
  have h := account.accepted
  simp only [isJobAccount, Bool.and_eq_true, decide_eq_true_eq] at h
  exact h.1.1.1.2

theorem isSafeAccountName_name : isSafeAccountName account.name = true := by
  have h := account.accepted
  simp only [isJobAccount, Bool.and_eq_true, decide_eq_true_eq, Option.any_eq_true,
    all_eq_true, Bool.or_eq_true, beq_iff_eq] at h
  obtain ⟨⟨⟨⟨⟨-, hmin⟩, hmax⟩, head, hhead, hlower⟩, hall⟩, -⟩ := h
  have hdot : '.' ∉ account.name.toList := fun hmem => by
    have := hall _ hmem
    revert this
    decide
  have hname : account.name.toList.all isNameByte = true := all_eq_true.mpr fun c hc => by
    rcases hall c hc with (hc | hc) | rfl
    · exact isNameByte_of_isAlphanum (isAlphanum_of_isLower hc)
    · exact isNameByte_of_isDigit hc
    · decide
  have hne : ∀ text : String, '.' ∈ text.toList → account.name ≠ text :=
    fun text hmem heq => hdot (heq ▸ hmem)
  simp [isSafeAccountName, isSafeName, hmin, hmax, hasPair_of_not_mem hdot, hname,
    hne "." (by decide), hne ".." (by decide), hhead, isAlphanum_of_isLower hlower]

theorem name_ne_root : account.name ≠ "root" := by
  have h := account.accepted
  simp only [isJobAccount, Bool.and_eq_true, bne_iff_ne] at h
  exact h.1.1.1.1.1

/-- A script the constructor of a command accepts still fits behind the
prelude. -/
theorem ensureLoginShell_prelude {script : String}
    (h : (GuestProgram.script script).isValid = true) :
    ensureLoginShell account.name (account.prelude ++ script) = .ok () := by
  simp only [GuestProgram.isValid, Bool.and_eq_true, decide_eq_true_eq, Bool.not_eq_true'] at h
  obtain ⟨⟨hne, hsize⟩, hnul⟩ := h
  have hprelude := account.utf8ByteSize_prelude
  have hempty : (account.prelude ++ script).isEmpty = false := by
    rw [String.isEmpty_eq_utf8ByteSize_beq_zero, beq_eq_false_iff_ne] at hne ⊢
    rw [String.utf8ByteSize_append]
    omega
  have hfits : ¬ (account.prelude ++ script).utf8ByteSize > 64 * 1024 + 256 := by
    rw [String.utf8ByteSize_append]
    omega
  have hclean : isNulFree (account.prelude ++ script) = true := by
    rw [isNulFree_append, account.isNulFree_prelude, hnul, Bool.and_self]
  rw [ensureLoginShell, if_neg]
  simp only [account.isSafeAccountName_name, account.name_ne_root, hempty, hfits, hclean,
    Bool.not_true, decide_false, Bool.or_self, Bool.false_eq_true, not_false_eq_true]

end JobAccount

/-! ## What the daemon sends is accepted -/

variable {timeout : ℕ}

theorem timeout_of_agentTimeoutSeconds {remaining : Duration}
    (h : agentTimeoutSeconds remaining = some timeout) : ensureTimeout timeout = .ok () := by
  unfold agentTimeoutSeconds at h
  split at h
  · cases h
  · simp only at h
    split at h
    · rename_i hpos
      cases h
      rw [ensureTimeout, if_pos]
      simp only [Bool.and_eq_true, decide_eq_true_eq]
      omega
    · cases h

/-- The checks before the shape, for a request made of bounded parts. -/
structure IsBounded (r : AgentExecRequest) : Prop where
  path : isNormalAbsolute r.path 4096 = true
  count : r.arguments.length ≤ 16
  bytes : argumentBytes r.arguments ≤ 128 * 1024
  nulFree : r.arguments.all isNulFree = true
  input : ∀ input, r.input = some input → input ≠ [] ∧ input.length ≤ 64 * 1024
  secret : r.input.isSome = true → r.isOutputCaptured = false

variable {r : AgentExecRequest}

/-- **A bounded request is judged by its shape alone.** -/
theorem ensureExecValid_eq (htimeout : ensureTimeout timeout = .ok ()) (h : IsBounded r) :
    ensureExecValid r timeout = ensureShape r := by
  have hargv : (!isNormalAbsolute r.path 4096 || decide (r.arguments.length > 16) ||
      decide (argumentBytes r.arguments > 128 * 1024) || !r.arguments.all isNulFree) = false := by
    have hcount : ¬ r.arguments.length > 16 := Nat.not_lt.mpr h.count
    have hbytes : ¬ argumentBytes r.arguments > 128 * 1024 := Nat.not_lt.mpr h.bytes
    simp only [h.path, h.nulFree, decide_eq_false hcount, decide_eq_false hbytes, Bool.not_true,
      Bool.or_self]
  have hinput : (r.input.any fun input => input.isEmpty || decide (input.length > 64 * 1024)) =
      false := by
    cases hr : r.input with
    | none => rfl
    | some input =>
      obtain ⟨hne, hle⟩ := h.input input hr
      simp only [Option.any_some, isEmpty_eq_false_iff.mpr hne, Bool.false_or,
        decide_eq_false (Nat.not_lt.mpr hle)]
  have hsecret : (r.input.isSome && r.isOutputCaptured) = false := by
    cases hr : r.input.isSome with
    | false => rfl
    | true => exact h.secret hr
  simp only [ensureExecValid, htimeout, hargv, hinput, hsecret, Bool.false_eq_true, if_false]
  rfl

/-- A secret's bytes fit on a stdin. -/
theorem GuestSecret.asBytes_bounded (secret : GuestSecret) :
    secret.asBytes ≠ [] ∧ secret.asBytes.length ≤ 64 * 1024 := by
  have h := secret.accepted
  simp only [isSecretLine, Bool.and_eq_true, decide_eq_true_eq] at h
  refine ⟨by simp [asBytes], ?_⟩
  have hlength : (utf8Bytes secret.value).length = secret.value.utf8ByteSize := by
    simp [utf8Bytes, ← String.size_toByteArray]
  rw [asBytes, length_append, hlength, length_singleton]
  omega

/-- The stdin of a command is bounded, and its output is then not kept. -/
theorem GuestCommand.input_bounded (command : GuestCommand) :
    (∀ input, command.stdin.map GuestSecret.asBytes = some input →
      input ≠ [] ∧ input.length ≤ 64 * 1024) ∧
    ((command.stdin.map GuestSecret.asBytes).isSome = true →
      command.capture.isBounded = false) := by
  constructor
  · intro input hinput
    obtain ⟨secret, -, rfl⟩ := Option.map_eq_some_iff.mp hinput
    exact secret.asBytes_bounded
  · intro hsome
    have hallowed := command.capture_allowed
    rw [Option.isSome_map] at hsome
    cases hcapture : command.capture with
    | discard => rfl
    | bounded bytes =>
      rw [hcapture, isCaptureAllowed, Option.isNone_iff_eq_none] at hallowed
      rw [hallowed] at hsome
      cases hsome

/-- The size of a login shell's script, behind its prelude. -/
theorem JobAccount.script_bytes (account : JobAccount) {script : String}
    (h : (GuestProgram.script script).isValid = true) :
    (account.prelude ++ script).utf8ByteSize ≤ 65664 ∧
      isNulFree (account.prelude ++ script) = true := by
  simp only [GuestProgram.isValid, Bool.and_eq_true, decide_eq_true_eq] at h
  have hprelude := account.utf8ByteSize_prelude
  constructor
  · rw [String.utf8ByteSize_append]
    omega
  · rw [isNulFree_append, account.isNulFree_prelude, h.2, Bool.and_self]

variable {command : GuestCommand}

theorem loginShell_accepted (account : JobAccount) {script : String}
    (htimeout : ensureTimeout timeout = .ok ()) (h : command.program = .script script) :
    ensureExecValid (request account command) timeout = .ok () := by
  have hvalid : (GuestProgram.script script).isValid = true := h ▸ command.program_valid
  obtain ⟨hsize, hclean⟩ := account.script_bytes hvalid
  have hname := account.utf8ByteSize_name
  obtain ⟨hinput, hsecret⟩ := command.input_bounded
  have hrequest : request account command = loginShell account script
      (command.stdin.map GuestSecret.asBytes) command.capture.isBounded := by
    rw [request, h]
  have hflags : "-l".utf8ByteSize = 2 ∧ "-c".utf8ByteSize = 2 ∧
      isNulFree "-l" = true ∧ isNulFree "-c" = true := by decide +kernel
  have hpath : isNormalAbsolute runuser 4096 = true := by decide +kernel
  have hbounded : IsBounded (loginShell account script
      (command.stdin.map GuestSecret.asBytes) command.capture.isBounded) := by
    refine ⟨hpath, by simp [loginShell], ?_, ?_, hinput, hsecret⟩
    · simp only [loginShell, argumentBytes, map_cons, map_nil, sum_cons,
        sum_nil, hflags.1, hflags.2.1]
      omega
    · simp only [loginShell, all_cons, all_nil, hflags.2.2.1, hflags.2.2.2,
        account.isNulFree_name, hclean, Bool.and_self]
  rw [hrequest, ensureExecValid_eq htimeout hbounded]
  exact account.ensureLoginShell_prelude hvalid

/-- The name of a unit names its identity. -/
theorem jobUnit_unitName {id : Uuid} (h : id.isNil = false) : jobUnit (unitName id) = some id := by
  have hname : (unitName id).toList =
      "flanforge-job-".toList ++ (id.value.toList ++ ".service".toList) := by
    rw [unitName, String.toList_append, String.toList_append, append_assoc]
  rw [jobUnit, stripHead_eq_some.mpr hname]
  simp only [stripTail_eq_some.mpr rfl, String.ofList_toList, Uuid.parseStr_value, h,
    Bool.not_false,
    decide_true, Bool.and_self, if_true]

theorem ensureJobUnit_unitName {id : Uuid} (h : id.isNil = false) :
    ensureJobUnit (unitName id) = .ok () := by
  rw [ensureJobUnit, jobUnit_unitName h, Option.isSome_some, if_pos rfl]

/-- A number in range is accepted as it is printed. -/
theorem ensureBoundedSeconds_toString {n maximum : ℕ} {field : String} (hmin : 1 ≤ n)
    (hmax : n ≤ maximum) (hword : n < 2 ^ 64) :
    ensureBoundedSeconds (toString n) maximum field = .ok () := by
  have hparse : parseU64 (toString n) = some (UInt64.ofNat n) := by
    rw [parseU64, parseDecimal_toString]
    exact if_pos hword
  have hback : (UInt64.ofNat n).toNat = n := by
    rw [UInt64.toNat_ofNat', Nat.mod_eq_of_lt hword]
  have hdigits : (toString n).toList.all Char.isDigit = true :=
    all_eq_true.mpr fun _ => isDigit_toString
  rw [ensureBoundedSeconds, hparse, if_pos]
  simp only [hdigits, Option.any_some, hback, decide_eq_true hmin, decide_eq_true hmax,
    Bool.and_self]

theorem ensureRuntimeMax_runtimeMax (lifetime : Duration) :
    ensureRuntimeMax ("--property=RuntimeMaxSec=" ++ toString (runtimeMax lifetime)) = .ok () := by
  have hstrip : stripHead "--property=RuntimeMaxSec=".toList
      ("--property=RuntimeMaxSec=" ++ toString (runtimeMax lifetime)).toList =
        some (toString (runtimeMax lifetime)).toList := by
    rw [String.toList_append, stripHead_append]
  rw [ensureRuntimeMax, hstrip]
  simp only [String.ofList_toList]
  have hmin : 1 ≤ runtimeMax lifetime := Nat.le_max_left ..
  have hmax : runtimeMax lifetime ≤ 86400 := by
    unfold runtimeMax
    omega
  exact ensureBoundedSeconds_toString hmin hmax (by omega)

theorem unitArgument_append (unit : String) : unitArgument ("--unit=" ++ unit) = unit := by
  rw [unitArgument, String.toList_append, stripHead_append]
  simp only [String.ofList_toList]

theorem transientUnit_bytes (account : JobAccount) {script : String}
    (h : (GuestProgram.script script).isValid = true) (handle : Uuid) (lifetime : Duration)
    (input : Option (List UInt8)) :
    argumentBytes (transientUnit account script handle lifetime input).arguments ≤ 128 * 1024 := by
  have hscript := (account.script_bytes h).1
  have hname := account.utf8ByteSize_name
  have hunit := utf8ByteSize_unitName handle
  have hmax : (toString (runtimeMax lifetime)).utf8ByteSize ≤ 5 := by
    refine utf8ByteSize_toString_le (by omega) ?_
    unfold runtimeMax
    omega
  have hwords : argumentBytes ["--unit=", "--pipe", "--wait", "--property=RuntimeMaxSec=",
      "--property=TimeoutStopSec=10", runuser, "-l", "-c"] = 93 := by decide +kernel
  simp only [argumentBytes, map_cons, map_nil, sum_cons, sum_nil] at hwords
  unfold transientUnit argumentBytes
  simp only [map_cons, map_nil, sum_cons, sum_nil]
  rw [String.utf8ByteSize_append, String.utf8ByteSize_append]
  omega

theorem transientUnit_nulFree (account : JobAccount) {script : String}
    (h : (GuestProgram.script script).isValid = true) (handle : Uuid) (lifetime : Duration)
    (input : Option (List UInt8)) :
    (transientUnit account script handle lifetime input).arguments.all isNulFree = true := by
  have hwords : ["--unit=", "--pipe", "--wait", "--property=RuntimeMaxSec=",
      "--property=TimeoutStopSec=10", runuser, "-l", "-c"].all isNulFree = true := by
    decide +kernel
  have hunit : isNulFree (unitName handle) = true := by
    rw [unitName, isNulFree_append, isNulFree_append, isNulFree_uuid]
    decide +kernel
  simp only [all_cons, all_nil, Bool.and_eq_true] at hwords
  simp only [transientUnit, all_cons, all_nil, Bool.and_eq_true]
  rw [isNulFree_append, isNulFree_append "--property=RuntimeMaxSec=", hunit, isNulFree_toString,
    (account.script_bytes h).2, account.isNulFree_name]
  simp only [hwords, Bool.and_self, and_self]

theorem spawn_accepted (account : JobAccount) {spawn : GuestSpawn}
    (htimeout : ensureTimeout timeout = .ok ()) (h : spawnRequest account spawn = .ok r) :
    ensureExecValid r timeout = .ok () := by
  unfold spawnRequest at h
  split at h
  · rename_i script hscript
    cases h
    have hvalid : (GuestProgram.script script).isValid = true :=
      hscript ▸ spawn.command.program_valid
    obtain ⟨hinput, -⟩ := spawn.command.input_bounded
    have hpath : isNormalAbsolute systemdRun 4096 = true := by decide +kernel
    have hbounded : IsBounded (transientUnit account script spawn.handle spawn.lifetime
        (spawn.command.stdin.map GuestSecret.asBytes)) :=
      ⟨hpath, by simp [transientUnit], transientUnit_bytes account hvalid _ _ _,
        transientUnit_nulFree account hvalid _ _ _, hinput, fun _ => rfl⟩
    rw [ensureExecValid_eq htimeout hbounded]
    simp only [ensureShape, transientUnit, unitArgument_append,
      ensureJobUnit_unitName spawn.identified, ensureRuntimeMax_runtimeMax,
      account.ensureLoginShell_prelude hvalid]
    rfl
  · cases h

theorem stopUnit_accepted {handle : Uuid} (h : handle.isNil = false)
    (htimeout : ensureTimeout timeout = .ok ()) :
    ensureExecValid (stopUnit handle) timeout = .ok () := by
  have hpath : isNormalAbsolute systemctl 4096 = true := by decide +kernel
  have hstop : "stop".utf8ByteSize = 4 ∧ isNulFree "stop" = true := by decide +kernel
  have hunit : isNulFree (unitName handle) = true := by
    rw [unitName, isNulFree_append, isNulFree_append, isNulFree_uuid]
    decide +kernel
  have hbounded : IsBounded (stopUnit handle) := by
    refine ⟨hpath, by simp [stopUnit], ?_, ?_, (fun _ hnone => by cases hnone),
      fun hnone => by cases hnone⟩
    · simp only [stopUnit, argumentBytes, map_cons, map_nil, sum_cons, sum_nil,
        hstop.1, utf8ByteSize_unitName]
      omega
    · simp only [stopUnit, all_cons, all_nil, hstop.2, hunit, Bool.and_self]
  rw [ensureExecValid_eq htimeout hbounded]
  exact ensureJobUnit_unitName h

namespace GuestCommand

/-- A script for the account. -/
def IsScript (command : GuestCommand) : Prop := ∃ text, command.program = .script text

/-- The readiness helper, told how long to wait. -/
def IsReadiness (command : GuestCommand) : Prop :=
  ∃ n, 1 ≤ n ∧ n ≤ 120 ∧
    command.program = .program guestReadyHelper ["--wait-seconds", toString n]

/-- The recycle helper, told what to reset, with its report kept. -/
def IsRecycle (command : GuestCommand) : Prop :=
  ∃ reset : SimulatorReset, command.capture.isBounded = true ∧
    command.program = .program recycleHelper ["--simulator-reset", reset.argument]

end GuestCommand

theorem readiness_accepted (account : JobAccount) (htimeout : ensureTimeout timeout = .ok ())
    (h : command.IsReadiness) (hstdin : command.stdin = none) :
    ensureExecValid (request account command) timeout = .ok () := by
  obtain ⟨n, hmin, hmax, hprogram⟩ := h
  have hrequest : request account command =
      ⟨guestReadyHelper, ["--wait-seconds", toString n], none, command.capture.isBounded⟩ := by
    rw [request, hprogram, hstdin]
    rfl
  have hpath : isNormalAbsolute guestReadyHelper 4096 = true := by decide +kernel
  have hflag : "--wait-seconds".utf8ByteSize = 14 ∧ isNulFree "--wait-seconds" = true := by
    decide +kernel
  have hdigits : (toString n).utf8ByteSize ≤ 3 := utf8ByteSize_toString_le (by omega) (by omega)
  have hbounded : IsBounded
      ⟨guestReadyHelper, ["--wait-seconds", toString n], none, command.capture.isBounded⟩ := by
    refine ⟨hpath, by simp, ?_, ?_, (fun _ hnone => by cases hnone), fun hnone => by cases hnone⟩
    · simp only [argumentBytes, map_cons, map_nil, sum_cons, sum_nil, hflag.1]
      omega
    · simp only [all_cons, all_nil, hflag.2, isNulFree_toString, Bool.and_self]
  rw [hrequest, ensureExecValid_eq htimeout hbounded]
  exact ensureBoundedSeconds_toString hmin hmax (by omega)

/-! ## What is accepted -/

/-- A named account other than root. -/
def IsNamedAccount (account : String) : Prop :=
  isSafeAccountName account = true ∧ account ≠ "root"

/-- A number of seconds in a range, in digits. -/
def IsSecondsWithin (value : String) (maximum : ℕ) : Prop :=
  ∃ n, parseDigits value.toList = some n ∧ 1 ≤ n ∧ n ≤ maximum

/-- What a request runs. -/
inductive Runs (r : AgentExecRequest) : Prop
  | shell {account script : String} (path : r.path = runuser)
      (arguments : r.arguments = ["-l", account, "-c", script]) (named : IsNamedAccount account)
  | unit {id : Uuid} {seconds account script : String} (path : r.path = systemdRun)
      (arguments : r.arguments = ["--unit=" ++ unitName id, "--pipe", "--wait",
        "--property=RuntimeMaxSec=" ++ seconds, "--property=TimeoutStopSec=10", runuser, "-l",
        account, "-c", script])
      (identified : id.isNil = false) (bounded : IsSecondsWithin seconds 86400)
      (named : IsNamedAccount account)
  | stop {id : Uuid} (path : r.path = systemctl) (arguments : r.arguments = ["stop", unitName id])
      (identified : id.isNil = false)
  | ready {seconds : String} (path : r.path = guestReadyHelper)
      (arguments : r.arguments = ["--wait-seconds", seconds])
      (bounded : IsSecondsWithin seconds 120) (input : r.input = none)

/-- An accepted request: what it runs, and that a stdin is never combined with
captured output. -/
structure Admits (r : AgentExecRequest) : Prop where
  runs : Runs r
  secret : r.input.isSome = true → r.isOutputCaptured = false

theorem named_of_ensureLoginShell {account script : String}
    (h : ensureLoginShell account script = .ok ()) : IsNamedAccount account := by
  unfold ensureLoginShell at h
  split at h
  · cases h
  · rename_i hchecks
    simp only [Bool.or_eq_true, decide_eq_true_eq, not_or, Bool.not_eq_true', Bool.not_eq_false]
      at hchecks
    exact ⟨hchecks.1.1.1.1, hchecks.1.1.1.2⟩

theorem unitName_of_ensureJobUnit {unit : String} (h : ensureJobUnit unit = .ok ()) :
    ∃ id : Uuid, id.isNil = false ∧ unit = unitName id := by
  unfold ensureJobUnit at h
  split at h
  · rename_i hsome
    obtain ⟨id, hid⟩ := Option.isSome_iff_exists.mp hsome
    unfold jobUnit at hid
    split at hid
    · cases hid
    split at hid
    · cases hid
    split at hid
    · cases hid
    split at hid
    · rename_i hname
      simp only [Bool.and_eq_true, Bool.not_eq_true', decide_eq_true_eq] at hname
      exact ⟨_, hname.1, hname.2.symm⟩
    · cases hid
  · cases h

theorem seconds_of_ensureBoundedSeconds {value field : String} {maximum : ℕ}
    (h : ensureBoundedSeconds value maximum field = .ok ()) : IsSecondsWithin value maximum := by
  unfold ensureBoundedSeconds at h
  split at h
  · rename_i hchecks
    obtain ⟨hdigits, hany⟩ := Bool.and_eq_true_iff.mp hchecks
    obtain ⟨seconds, hparse, hrange⟩ := (Option.any_eq_true _ _).mp hany
    simp only [Bool.and_eq_true, decide_eq_true_eq] at hrange
    rw [parseU64, parseDecimal_of_digits hdigits] at hparse
    split at hparse
    · rename_i n hn
      split at hparse
      · rename_i hword
        cases hparse
        rw [UInt64.toNat_ofNat', Nat.mod_eq_of_lt hword] at hrange
        exact ⟨n, hn, hrange⟩
      · cases hparse
    · cases hparse
  · cases h

theorem seconds_of_ensureRuntimeMax {property : String} (h : ensureRuntimeMax property = .ok ()) :
    ∃ seconds, property = "--property=RuntimeMaxSec=" ++ seconds ∧
      IsSecondsWithin seconds 86400 := by
  unfold ensureRuntimeMax at h
  split at h
  · cases h
  · rename_i seconds hstrip
    exact ⟨String.ofList seconds, stripHead_toList.mp hstrip, seconds_of_ensureBoundedSeconds h⟩

/-- A flag that is not there leaves no unit to name. -/
theorem unitArgument_of_ensureJobUnit {argument : String}
    (h : ensureJobUnit (unitArgument argument) = .ok ()) :
    ∃ id : Uuid, id.isNil = false ∧ argument = "--unit=" ++ unitName id := by
  obtain ⟨id, hnil, hunit⟩ := unitName_of_ensureJobUnit h
  refine ⟨id, hnil, ?_⟩
  unfold unitArgument at hunit
  split at hunit
  · rename_i unit hstrip
    rw [← hunit, stripHead_toList.mp hstrip]
  · have hsize := utf8ByteSize_unitName id
    rw [← hunit] at hsize
    cases hsize

/-- **An accepted shape is one of the four.** -/
theorem runs_of_ensureShape (h : ensureShape r = .ok ()) : Runs r := by
  unfold ensureShape at h
  split at h
  · rename_i login account shell script harguments
    split at h
    · rename_i hwords
      simp only [Bool.and_eq_true, decide_eq_true_eq] at hwords
      obtain ⟨⟨hpath, rfl⟩, rfl⟩ := hwords
      exact .shell hpath harguments (named_of_ensureLoginShell h)
    · cases h
  · rename_i unit pipe wait limit stop program login account shell script harguments
    split at h
    · rename_i hwords
      simp only [Bool.and_eq_true, decide_eq_true_eq] at hwords
      obtain ⟨⟨⟨⟨⟨⟨hpath, rfl⟩, rfl⟩, rfl⟩, rfl⟩, rfl⟩, rfl⟩ := hwords
      simp only [bind_eq_ok] at h
      obtain ⟨_, hunit, _, hlimit, hshell⟩ := h
      obtain ⟨id, hnil, rfl⟩ := unitArgument_of_ensureJobUnit hunit
      obtain ⟨seconds, rfl, hseconds⟩ := seconds_of_ensureRuntimeMax hlimit
      exact .unit hpath harguments hnil hseconds (named_of_ensureLoginShell hshell)
    · cases h
  · rename_i first second harguments
    split at h
    · rename_i hwords
      simp only [Bool.and_eq_true, decide_eq_true_eq] at hwords
      obtain ⟨hpath, rfl⟩ := hwords
      simp only [bind_eq_ok] at h
      obtain ⟨_, -, _, -, hunit⟩ := h
      obtain ⟨id, hnil, rfl⟩ := unitName_of_ensureJobUnit hunit
      exact .stop hpath harguments hnil
    · split at h
      · rename_i hwords
        simp only [Bool.and_eq_true, decide_eq_true_eq] at hwords
        obtain ⟨hpath, rfl⟩ := hwords
        simp only [bind_eq_ok] at h
        obtain ⟨_, hinput, hseconds⟩ := h
        refine .ready hpath harguments (seconds_of_ensureBoundedSeconds hseconds) ?_
        unfold ensureInputFree at hinput
        split at hinput
        · cases hinput
        · rename_i hnone
          simpa using hnone
      · cases h
  · cases h

/-- **An accepted request does what one of the four shapes does.** -/
theorem admits_of_ensureExecValid (h : ensureExecValid r timeout = .ok ()) : Admits r := by
  unfold ensureExecValid at h
  obtain ⟨_, -, h⟩ := bind_eq_ok.mp h
  split at h
  · cases h
  split at h
  · cases h
  split at h
  · cases h
  rename_i hsecret
  simp only [Bool.and_eq_true, not_and, Bool.not_eq_true] at hsecret
  exact ⟨runs_of_ensureShape h, hsecret⟩

/-! ## The boundary -/

/-- **The boundary admits what the daemon sends, the recycle gate apart, and
nothing else.** Scripts of every accepted command and spawn, the readiness
helper without a stdin, and the stop of every unit pass under every timeout
the actor derives; whatever passes is one of the four shapes. -/
theorem boundary_admits_sent (account : JobAccount) {remaining : Duration} {timeout : ℕ}
    (htimeout : agentTimeoutSeconds remaining = some timeout) :
    (∀ command : GuestCommand, command.IsScript ∨ command.IsReadiness ∧ command.stdin = none →
      ensureExecValid (request account command) timeout = .ok ()) ∧
    (∀ spawn r, spawnRequest account spawn = .ok r → ensureExecValid r timeout = .ok ()) ∧
    (∀ handle : Uuid, handle.isNil = false → ensureExecValid (stopUnit handle) timeout = .ok ()) ∧
    ∀ r seconds, ensureExecValid r seconds = .ok () → Admits r := by
  have hvalid := timeout_of_agentTimeoutSeconds htimeout
  refine ⟨?_, fun _ _ => spawn_accepted account hvalid, fun _ h => stopUnit_accepted h hvalid,
    fun _ _ => admits_of_ensureExecValid⟩
  rintro command (⟨script, hscript⟩ | ⟨hready, hstdin⟩)
  · exact loginShell_accepted account hvalid hscript
  · exact readiness_accepted account hvalid hready hstdin

/-! ## The recycle gate -/

def sampleAccount : JobAccount := ⟨"runner", 1000, by decide +kernel⟩

/-- A script that reads a token from its stdin. -/
def sampleCommand : GuestCommand :=
  ⟨.script "read -r token", some ⟨"secret", by decide +kernel⟩, .discard, by decide +kernel, rfl⟩

def sampleSpawn : GuestSpawn :=
  ⟨sampleCommand, ⟨"00000000-0000-0000-0000-000000000009", by decide⟩, Duration.fromSecs 3600,
    by decide, by decide, rfl⟩

/-- A script, its spawn and the stop of its unit pass. -/
theorem boundary_admits_sample :
    agentTimeoutSeconds (Duration.fromSecs 10) = some 5 ∧
      ensureExecValid (request sampleAccount sampleCommand) 5 = .ok () ∧
      (∃ r, spawnRequest sampleAccount sampleSpawn = .ok r ∧ ensureExecValid r 5 = .ok () ∧
        Admits r) ∧
      ensureExecValid (stopUnit sampleSpawn.handle) 5 = .ok () := by
  have htimeout : agentTimeoutSeconds (Duration.fromSecs 10) = some 5 := by decide
  obtain ⟨hrun, hspawn, hstop, hadmits⟩ := boundary_admits_sent sampleAccount htimeout
  have haccepted := hspawn sampleSpawn _ rfl
  exact ⟨htimeout, hrun sampleCommand (.inl ⟨_, rfl⟩), ⟨_, rfl, haccepted, hadmits _ _ haccepted⟩,
    hstop _ sampleSpawn.identified⟩

/-- The gate of a machine whose simulators are reset app by app. -/
def recycleSample : GuestCommand :=
  ⟨.program recycleHelper ["--simulator-reset", "apps"], none,
    .bounded 4096, by decide +kernel, rfl⟩

/-- **The recycle gate is refused.** The daemon builds it from accepted parts,
as every retention and every reclaim of a pool machine does, and the helper
has no shape for it. -/
theorem recycle_gate_refused :
    recycleCommand .apps = .ok recycleSample ∧ recycleSample.IsRecycle ∧
      agentTimeoutSeconds (Duration.fromSecs 10) = some 5 ∧
      ensureExecValid (request sampleAccount recycleSample) 5 =
        .error ⟨"libvirt helper", "agent exec shape"⟩ := by
  refine ⟨?_, ⟨.apps, rfl, rfl⟩, by decide, by decide +kernel⟩
  have hvalid := recycleSample.program_valid
  simp only [recycleSample] at hvalid
  simp only [recycleCommand, GuestCommand.new, SimulatorReset.argument, hvalid]
  rfl

end FlanForge
