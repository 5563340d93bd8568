import FlanForge.Core.Uuid
import FlanForge.Manager.Admission

/-!
# Guest commands

What the daemon runs in a guest, before a channel has turned it into a
request. A command is a script for the job account or one of the programs
baked into the image, with an optional secret on its stdin and a choice of
keeping its output; a spawn is a command that outlives its call, under a
handle and a lifetime. The constructors are the only way to make either, so
what they check is a field of the type.

A `Duration` is a number of nanoseconds.
-/

namespace FlanForge

/-- A span of time, in nanoseconds. -/
abbrev Duration := ℕ

def Duration.asSecs (d : Duration) : ℕ := d / 10 ^ 9

def Duration.fromSecs (seconds : ℕ) : Duration := seconds * 10 ^ 9

/-! ## Secrets -/

/-- One printable line: what a guest's `read` may be given. -/
def isSecretLine (value : String) : Bool :=
  !value.isEmpty && value.utf8ByteSize ≤ 1024 &&
    value.toList.all fun c => 33 ≤ c.toNat && c.toNat ≤ 126

/-- A secret for a command's stdin. -/
structure GuestSecret where
  value : String
  accepted : isSecretLine value = true

/-- The secret with the newline that ends it. -/
def GuestSecret.asBytes (secret : GuestSecret) : List UInt8 := utf8Bytes secret.value ++ [10]

/-! ## Commands -/

inductive GuestProgram
  | script (text : String)
  | program (path : String) (arguments : List String)
  deriving DecidableEq

inductive GuestCapture
  | discard
  | bounded (bytes : ℕ)
  deriving DecidableEq

def argumentBytes (arguments : List String) : ℕ := (arguments.map String.utf8ByteSize).sum

/-- A text without the character that would end it early. -/
def isNulFree (text : String) : Bool := !text.toList.contains '\x00'

/-- The path check of the command's own constructor. -/
def isProgramPath (path : String) : Bool :=
  !path.isEmpty && path.utf8ByteSize ≤ 4096 && isNulFree path &&
    path.toList.head? = some '/' &&
    !(splitAll '/' path.toList).any fun segment => segment = ['.', '.']

def GuestProgram.isValid : GuestProgram → Bool
  | .script text => !text.isEmpty && text.utf8ByteSize ≤ 64 * 1024 && isNulFree text
  | .program path arguments =>
    isProgramPath path && arguments.length ≤ 16 && argumentBytes arguments ≤ 128 * 1024 &&
      arguments.all isNulFree

/-- Output of a command that carries a secret is never kept. -/
def isCaptureAllowed (stdin : Option GuestSecret) : GuestCapture → Bool
  | .discard => true
  | .bounded _ => stdin.isNone

/-- A bounded command of the daemon. -/
structure GuestCommand where
  program : GuestProgram
  stdin : Option GuestSecret
  capture : GuestCapture
  program_valid : program.isValid = true
  capture_allowed : isCaptureAllowed stdin capture = true

def GuestCommand.new (program : GuestProgram) (stdin : Option GuestSecret)
    (capture : GuestCapture) :
    Except WorkerError GuestCommand :=
  if hvalid : program.isValid = true then
    if hallowed : isCaptureAllowed stdin capture = true then
      .ok ⟨program, stdin, capture, hvalid, hallowed⟩
    else .error (.new "a guest command carrying a secret cannot capture output")
  else .error (.new "guest daemon script is structurally invalid")

/-- A command that outlives its call. -/
structure GuestSpawn where
  command : GuestCommand
  handle : Uuid
  lifetime : Duration
  identified : handle.isNil = false
  lasting : lifetime ≠ 0
  discarded : command.capture = .discard

/-! ## The programs of the image -/

def guestReadyHelper : String := "/usr/local/libexec/flanforge-guest-ready"
def recycleHelper : String := "/usr/local/libexec/flanforge-guest-recycle"

def SimulatorReset.argument : SimulatorReset → String
  | .none => "none"
  | .apps => "apps"
  | .erase => "erase"

/-- The recycle gate of a pool machine. -/
def recycleCommand (reset : SimulatorReset) : Except WorkerError GuestCommand :=
  GuestCommand.new (.program recycleHelper ["--simulator-reset", reset.argument]) none
    (.bounded 4096)

end FlanForge
