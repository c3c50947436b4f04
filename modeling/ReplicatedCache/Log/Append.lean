/-
Appending records to a log so that a record counts only once it is complete.

* `LogWriter.openAt`: prepares the file at a path; a partial line at its end is ended first;
* `LogWriter.attach`: a writer on a device without a name;
* `LogWriter.line`: the bytes of a record, on a line of its own;
* `LogWriter.append`: writes one record. After a failure a partial line may be left over, so
  the next record starts with a line feed.
* `Log.replayFile`: rebuilds a cache from the log at a path.
-/
import ReplicatedCache.Log.Disk
import ReplicatedCache.Log.Replay
import ReplicatedCache.Text.Quoted

namespace ReplicatedCache

/-- A log that records are appended to. -/
structure LogWriter where
  /-- The number of the device that holds the log. -/
  device : Nat
  path : Option String
  /-- Whether each record is forced to the disk. -/
  fsync : Bool
  /-- The number of records appended so far. -/
  records : Nat
  /-- Whether the last attempt failed, so that part of a line may be left over. -/
  torn : Bool
  deriving DecidableEq, Repr

namespace LogWriter

/-- A writer on a device without a name. -/
def attach (device : Nat) : LogWriter := ⟨device, none, false, 0, false⟩

/-- The fault of a log at `path` that cannot be opened for writing. -/
def cannotOpen (path : String) (fault : DeviceFault) : Fault :=
  .durability ("cannot open WAL " ++ Text.quoted path ++ ": " ++ fault.message)

/-- Whether some bytes end inside a line. -/
def endsInsideLine (bs : Bytes) : Bool :=
  match bs.getLast? with
  | some b => b ≠ Log.lineFeed
  | none => false

/-- Opens the log at `path`, creating it and its directories if needed, and ends a partial line
at its end. -/
def openAt (disk : Disk) (path : String) (fsync : Bool) : Except Fault LogWriter × Disk :=
  match disk.makeParents path with
  | (some fault, disk) => (.error (cannotOpen path fault), disk)
  | (none, disk) =>
      match disk.openAppend path with
      | .error fault => (.error (cannotOpen path fault), disk)
      | .ok (device, disk) =>
          let writer : LogWriter := ⟨device, some path, fsync, 0, false⟩
          if endsInsideLine (disk.contentOf device) then
            match disk.append device false [Log.lineFeed] with
            | (some fault, disk) => (.error (cannotOpen path fault), disk)
            | (none, disk) => (.ok writer, disk)
          else (.ok writer, disk)

/-- The bytes of one record: its line with a line feed, after another line feed if part of a line
may be left over. -/
def line (torn : Bool) (op : Operation) : Bytes :=
  (if torn then [Log.lineFeed] else []) ++ Utf8.encode (Record.encode op) ++ [Log.lineFeed]

/-- Appends one record. It counts only if the device took all of it without a fault. -/
def append (w : LogWriter) (disk : Disk) (op : Operation) :
    Except Fault Unit × LogWriter × Disk :=
  match disk.append w.device w.fsync (line w.torn op) with
  | (some fault, disk) =>
      (.error (.durability ("WAL append failed: " ++ fault.message)), { w with torn := true }, disk)
  | (none, disk) => (.ok (), { w with torn := false, records := w.records + 1 }, disk)

/-- The state of a writer, for diagnostics. -/
def summary (w : LogWriter) : String :=
  let path := match w.path with
    | some path => "Some(" ++ Text.quoted path ++ ")"
    | none => "None"
  let flag (b : Bool) : String := if b then "true" else "false"
  "WalWriter \x7b path: " ++ path ++ ", fsync: " ++ flag w.fsync ++ ", records: " ++
    w.records.repr ++ ", torn: " ++ flag w.torn ++ " \x7d"

end LogWriter

namespace Log

/-- The fault of a log whose reader fails. -/
def cannotRead (detail : String) : Fault := .recovery ("WAL read failed: " ++ detail)

/-- Rebuilds a cache from the log at `path`. A log that is not there leaves the cache as it is. -/
def replayFile (disk : Disk) (path : String) (cache : Cache) (now : Moment) :
    Except Fault Report × Cache :=
  match disk.read path with
  | .ok log =>
      let (report, cache) := replay log cache now
      (.ok report, cache)
  | .error (.reading fault) => (.error (cannotRead fault.message), cache)
  | .error (.opening fault) =>
      if fault = .notFound then (.ok {}, cache)
      else (.error (.recovery ("cannot open WAL " ++ Text.quoted path ++ ": " ++ fault.message)),
        cache)

end Log

end ReplicatedCache
