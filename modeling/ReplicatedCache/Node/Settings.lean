/-
The settings of a node, as the environment gives them, and its role, which follows from them: a
primary forwards its changes, a replica only receives them.

* `Role.ofReplicas`: a node with replicas is a primary;
* `Address.parseList`: the addresses of replicas in a list separated by commas;
* `Settings`: all settings, with the values they have when nothing is said;
* `Settings.ofEnvironment`: the settings that some variables ask for; a variable that cannot be
  understood counts as absent.
-/
import ReplicatedCache.Text.Numeral
import ReplicatedCache.Text.Pieces
import ReplicatedCache.Text.Utf8

namespace ReplicatedCache

/-- Whether a node forwards its changes. It does not change while the node runs. -/
inductive Role where
  | primary
  | replica
  deriving DecidableEq, Repr

namespace Role

/-- The name of a role in messages. -/
def name : Role → String
  | primary => "primary"
  | replica => "replica"

/-- The role of a node with the given replicas. -/
def ofReplicas (addresses : List String) : Role :=
  if addresses.isEmpty then replica else primary

def isPrimary (r : Role) : Bool := r = primary

end Role

namespace Address

/-- The addresses in a list separated by commas, without blanks around them; blank ones do not
count. -/
def parseList (raw : String) : List String :=
  ((Text.splitAtEach ',' raw).map Text.trim).filter fun address => address ≠ ""

end Address

/-- The settings of a node. -/
structure Settings where
  capacity : Nat := 1000
  /-- How many seconds an entry may be idle; zero and less mean that nothing expires. -/
  ttlSeconds : Int := 60
  /-- Where the log is; without it nothing is kept. -/
  logFile : Option String := some "cache.wal"
  /-- Whether each record is forced to the disk. -/
  logFsync : Bool := false
  replicaAddresses : List String := []
  /-- How many milliseconds one send may take. -/
  replicationTimeoutMs : Nat := 500
  replicationWorkers : Nat := 1
  serverPort : Nat := 50051
  deriving DecidableEq, Repr

namespace Settings

/-- The text of a variable, if it is set and valid UTF-8. -/
def textOf? (environment : String → Option Bytes) (name : String) : Option String :=
  (environment name).bind Utf8.decode

/-- Reads a truth value. -/
def flag? : String → Option Bool
  | "true" => some true
  | "false" => some false
  | _ => none

/-- The value of a variable without the blanks around it, if `read` understands it. -/
def value? {α : Type} (environment : String → Option Bytes) (read : String → Option α)
    (name : String) : Option α :=
  (textOf? environment name).bind fun text => read (Text.trim text)

/-- Where the log is: nowhere if the variable is set and blank. The name is taken as it stands. -/
def logFileOf (environment : String → Option Bytes) : Option String :=
  match textOf? environment "WAL_FILE" with
  | some path => if Text.trim path = "" then none else some path
  | none => ({} : Settings).logFile

/-- The largest number of a port. -/
def maxPort : Nat := 65535

/-- The settings that the variables ask for. -/
def ofEnvironment (environment : String → Option Bytes) : Settings :=
  let defaults : Settings := {}
  let word (name : String) : Option Nat := value? environment (Text.unsigned? Text.maxWord) name
  { capacity := (word "CACHE_CAPACITY").getD defaults.capacity
    ttlSeconds := (value? environment (Text.signed? 64) "TTL_SECONDS").getD defaults.ttlSeconds
    logFile := logFileOf environment
    logFsync := (value? environment flag? "WAL_FSYNC").getD defaults.logFsync
    replicaAddresses :=
      ((textOf? environment "REPLICA_ADDRESSES").map Address.parseList).getD
        defaults.replicaAddresses
    replicationTimeoutMs := (word "REPLICATION_TIMEOUT_MS").getD defaults.replicationTimeoutMs
    replicationWorkers := (word "REPLICATION_WORKERS").getD defaults.replicationWorkers
    serverPort :=
      (value? environment (Text.unsigned? maxPort) "SERVER_PORT").getD defaults.serverPort }

/-- How long one send may take, in nanoseconds. -/
def replicationTimeoutNanos (s : Settings) : Nat := s.replicationTimeoutMs * 1000000

/-- A node with replicas is a primary. -/
def role (s : Settings) : Role := Role.ofReplicas s.replicaAddresses

end Settings

end ReplicatedCache
