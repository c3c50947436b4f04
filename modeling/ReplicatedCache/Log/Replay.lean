/-
Rebuilding a cache from the bytes of a log. Each line that is a record is applied to the cache;
every other line that is not empty is skipped and reported.

* `Log.lines`: the lines of some bytes, without their line feeds;
* `Log.parseLine`: the operation of a line of bytes;
* `Log.replayLines`, `Log.replay`: the cache and the report after some lines, or all bytes;
* `Log.replayCut`: the same when reading breaks off after the last byte.
-/
import ReplicatedCache.Cache.Basic
import ReplicatedCache.Fault
import ReplicatedCache.Log.Record
import ReplicatedCache.Text.Utf8

namespace ReplicatedCache.Log

/-- The byte that ends a line. -/
def lineFeed : UInt8 := 10

/-- The complete lines of `bs` and the bytes after the last line feed, where `acc` holds the
current line so far, last byte first. -/
def splitFrom (acc : Bytes) : Bytes → List Bytes × Bytes
  | [] => ([], acc.reverse)
  | b :: bs =>
      if b = lineFeed then
        let (lines, rest) := splitFrom [] bs
        (acc.reverse :: lines, rest)
      else splitFrom (b :: acc) bs

/-- The lines that a line feed ends, and the bytes after the last line feed. -/
def split (bs : Bytes) : List Bytes × Bytes := splitFrom [] bs

/-- All lines, the last one also if no line feed ends it. -/
def lines (bs : Bytes) : List Bytes :=
  let (complete, rest) := split bs
  if rest = [] then complete else complete ++ [rest]

/-- What a replay did. -/
structure Report where
  puts : Nat := 0
  deletes : Nat := 0
  skipped : Nat := 0
  /-- The skipped lines, by number, each with the reason why it is no record. -/
  warnings : Array (Nat × Record.Reason) := #[]
  deriving DecidableEq, Repr

namespace Report

/-- The number of records applied. -/
def applied (r : Report) : Nat := r.puts + r.deletes

/-- Counts an applied operation. -/
def count (r : Report) : Operation → Report
  | .put _ _ => { r with puts := r.puts + 1 }
  | .delete _ => { r with deletes := r.deletes + 1 }

/-- Counts a skipped line. -/
def skip (r : Report) (line : Nat) (reason : Record.Reason) : Report :=
  { r with skipped := r.skipped + 1, warnings := r.warnings.push (line, reason) }

/-- The texts of the warnings. -/
def warningTexts (r : Report) : List String :=
  r.warnings.toList.map fun (line, reason) => (Fault.malformedRecord line reason.message).message

end Report

/-- The operation of one line, if it is a record. -/
def parseLine (line : Bytes) : Except Record.Reason Operation :=
  match Utf8.decode line with
  | some text => Record.parse text
  | none => .error .invalidUtf8

/-- The effect of line number `number` on a cache and a report. -/
def replayLine (now : Moment) (number : Nat) (line : Bytes) (state : Report × Cache) :
    Report × Cache :=
  if line = [] then state
  else match parseLine line with
    | .ok op => (state.1.count op, state.2.apply op now)
    | .error reason => (state.1.skip number reason, state.2)

/-- The effect of some lines, the first of which has the given number. -/
def replayLines (now : Moment) : (number : Nat) → List Bytes → Report × Cache → Report × Cache
  | _, [], state => state
  | number, line :: rest, state =>
      replayLines now (number + 1) rest (replayLine now number line state)

/-- Applies all lines of a log to a cache. -/
def replay (log : Bytes) (cache : Cache) (now : Moment) : Report × Cache :=
  replayLines now 1 (lines log) ({}, cache)

/-- Applies the lines of a log whose reader fails after the last byte: a line without a line feed
is then never complete, and the lines before it keep their effect. -/
def replayCut (log : Bytes) (cache : Cache) (now : Moment) : Report × Cache :=
  replayLines now 1 (split log).1 ({}, cache)

end ReplicatedCache.Log
