/-
Where the bytes of a log end up, and the ways in which writing them can go wrong:

* `DeviceFault`: what a device answers when it fails, with `DeviceFault.message`;
* `WriteAnswer`: how a device answers one write;
* `writeAll`: writing bytes until all are accepted or a write fails;
* `Device`: a file, a device that answers by a script, or one of the two special devices;
* `Device.append`: appending bytes, flushing them and, if asked for, forcing them to the disk.
-/
import ReplicatedCache.Text.Utf8

namespace ReplicatedCache

/-- Why a device did not do what it was asked. -/
inductive DeviceFault where
  /-- An error number of the operating system. -/
  | system (code : Nat)
  /-- A signal arrived before anything was done. -/
  | interrupted
  /-- The device accepts no more bytes. -/
  | stalled
  /-- The name of a file holds the character zero. -/
  | zeroInName
  | other (text : String)
  deriving DecidableEq, Repr

namespace DeviceFault

def notFound : DeviceFault := .system 2

def interruptedCall : DeviceFault := .system 4

def inputOutput : DeviceFault := .system 5

def alreadyExists : DeviceFault := .system 17

def notDirectory : DeviceFault := .system 20

def isDirectory : DeviceFault := .system 21

def invalidArgument : DeviceFault := .system 22

def noSpace : DeviceFault := .system 28

def nameTooLong : DeviceFault := .system 36

/-- What the operating system says about its error numbers, in their order; two of them have no
meaning. -/
def systemTexts : List String :=
  ["Success", "Operation not permitted", "No such file or directory", "No such process",
   "Interrupted system call", "Input/output error", "No such device or address",
   "Argument list too long", "Exec format error", "Bad file descriptor", "No child processes",
   "Resource temporarily unavailable", "Cannot allocate memory", "Permission denied", "Bad address",
   "Block device required", "Device or resource busy", "File exists", "Invalid cross-device link",
   "No such device", "Not a directory", "Is a directory", "Invalid argument",
   "Too many open files in system", "Too many open files", "Inappropriate ioctl for device",
   "Text file busy", "File too large", "No space left on device", "Illegal seek",
   "Read-only file system", "Too many links", "Broken pipe", "Numerical argument out of domain",
   "Numerical result out of range", "Resource deadlock avoided", "File name too long",
   "No locks available", "Function not implemented", "Directory not empty",
   "Too many levels of symbolic links", "", "No message of desired type", "Identifier removed",
   "Channel number out of range", "Level 2 not synchronized", "Level 3 halted", "Level 3 reset",
   "Link number out of range", "Protocol driver not attached", "No CSI structure available",
   "Level 2 halted", "Invalid exchange", "Invalid request descriptor", "Exchange full", "No anode",
   "Invalid request code", "Invalid slot", "", "Bad font file format", "Device not a stream",
   "No data available", "Timer expired", "Out of streams resources",
   "Machine is not on the network", "Package not installed", "Object is remote",
   "Link has been severed", "Advertise error", "Srmount error", "Communication error on send",
   "Protocol error", "Multihop attempted", "RFS specific error", "Bad message",
   "Value too large for defined data type", "Name not unique on network",
   "File descriptor in bad state", "Remote address changed",
   "Can not access a needed shared library", "Accessing a corrupted shared library",
   ".lib section in a.out corrupted", "Attempting to link in too many shared libraries",
   "Cannot exec a shared library directly", "Invalid or incomplete multibyte or wide character",
   "Interrupted system call should be restarted", "Streams pipe error", "Too many users",
   "Socket operation on non-socket", "Destination address required", "Message too long",
   "Protocol wrong type for socket", "Protocol not available", "Protocol not supported",
   "Socket type not supported", "Operation not supported", "Protocol family not supported",
   "Address family not supported by protocol", "Address already in use",
   "Cannot assign requested address", "Network is down", "Network is unreachable",
   "Network dropped connection on reset", "Software caused connection abort",
   "Connection reset by peer", "No buffer space available",
   "Transport endpoint is already connected", "Transport endpoint is not connected",
   "Cannot send after transport endpoint shutdown", "Too many references: cannot splice",
   "Connection timed out", "Connection refused", "Host is down", "No route to host",
   "Operation already in progress", "Operation now in progress", "Stale file handle",
   "Structure needs cleaning", "Not a XENIX named type file", "No XENIX semaphores available",
   "Is a named type file", "Remote I/O error", "Disk quota exceeded", "No medium found",
   "Wrong medium type", "Operation canceled", "Required key not available", "Key has expired",
   "Key has been revoked", "Key was rejected by service", "Owner died", "State not recoverable",
   "Operation not possible due to RF-kill", "Memory page has hardware error"]

/-- What the operating system says about an error number. -/
def systemText (code : Nat) : String :=
  match systemTexts[code]? with
  | some "" | none => "Unknown error " ++ code.repr
  | some text => text

/-- The text of a fault. -/
def message : DeviceFault → String
  | system code => systemText code ++ " (os error " ++ code.repr ++ ")"
  | interrupted => "operation interrupted"
  | stalled => "failed to write whole buffer"
  | zeroInName => "file name contained an unexpected NUL byte"
  | other text => text

/-- Whether a fault only says that the attempt was interrupted, so that it can be repeated. -/
def isInterruption (f : DeviceFault) : Bool :=
  f = interrupted || f = interruptedCall

end DeviceFault

/-- How a device answers one write. -/
inductive WriteAnswer where
  /-- It accepts all bytes. -/
  | whole
  /-- It accepts at most so many of the bytes. -/
  | part (most : Nat)
  | fails (fault : DeviceFault)
  deriving DecidableEq, Repr

/-- What has become of some bytes that were to be written. -/
structure WriteOutcome where
  /-- The bytes that the device accepted. -/
  accepted : Bytes
  /-- Why the rest was not accepted, if there is a rest. -/
  fault : Option DeviceFault
  /-- The answers that the device has not given yet. -/
  script : List WriteAnswer
  /-- The number of writes it took. -/
  calls : Nat
  deriving DecidableEq, Repr

/-- Writes `bs` to a device that answers by a script, and accepts everything once the script is
used up: a write is repeated for the bytes not accepted yet, and after an interruption. -/
def writeAll : List WriteAnswer → Bytes → WriteOutcome
  | [], bs => ⟨bs, none, [], 1⟩
  | .whole :: script, bs => ⟨bs, none, script, 1⟩
  | .part most :: script, bs =>
      if most = 0 then ⟨[], some .stalled, script, 1⟩
      else if bs.length ≤ most then ⟨bs, none, script, 1⟩
      else
        let o := writeAll script (bs.drop most)
        { o with accepted := bs.take most ++ o.accepted, calls := o.calls + 1 }
  | .fails fault :: script, bs =>
      if fault.isInterruption then
        let o := writeAll script bs
        { o with calls := o.calls + 1 }
      else ⟨[], some fault, script, 1⟩

/-- A thing that bytes can be appended to. -/
inductive Device where
  /-- A file on a sound disk. -/
  | file (content : Bytes)
  /-- A device that answers writes and flushes by a script, and without fault after it. The two
  numbers count the writes and flushes so far. -/
  | scripted (content : Bytes) (writes : List WriteAnswer) (flushes : List (Option DeviceFault))
      (writeCalls flushCalls : Nat)
  /-- Swallows everything, and cannot force it to any disk. -/
  | null
  /-- Has no room for a single byte. -/
  | full
  deriving DecidableEq, Repr

namespace Device

/-- The bytes that can be read back. -/
def content : Device → Bytes
  | file content => content
  | scripted content _ _ _ _ => content
  | null => []
  | full => []

/-- Appends `bs`, flushes, and with `sync` also forces the bytes to the disk. The first fault ends
the attempt; bytes accepted before it stay. -/
def append (sync : Bool) (bs : Bytes) : Device → Option DeviceFault × Device
  | file content => (none, file (content ++ bs))
  | null => (if sync then some .invalidArgument else none, null)
  | full => (some .noSpace, full)
  | scripted content writes flushes writeCalls flushCalls =>
      let o := writeAll writes bs
      let content := content ++ o.accepted
      let writeCalls := writeCalls + o.calls
      match o.fault, flushes with
      | some fault, _ => (some fault, scripted content o.script flushes writeCalls flushCalls)
      | none, [] => (none, scripted content o.script [] writeCalls (flushCalls + 1))
      | none, answer :: rest => (answer, scripted content o.script rest writeCalls (flushCalls + 1))

end Device

end ReplicatedCache
