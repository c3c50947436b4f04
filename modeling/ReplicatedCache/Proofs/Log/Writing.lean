/-
Writing records: what a device accepts, and what the writer makes of it.

* `writeAll_accepted`: a device accepts the bytes from their start on, and all of them if no write
  fails;
* `Device.Keeping`: devices from which the accepted bytes can be read back;
* `Device.append_keeping`: they keep what they hold and what they accept;
* `LogWriter.append_done`, `LogWriter.append_failed`: a record counts if the device has no fault;
* `textLines_append_accepted`, `textLines_accepted`: the accepted part of a line stands apart from
  what is in the log already, and is a part of one record.
-/
import Mathlib.Tactic.Lemma
import ReplicatedCache.Proofs.Log.Lines
import ReplicatedCache.Proofs.Log.Record

namespace ReplicatedCache

/-- A device accepts the bytes from their start on. -/
lemma writeAll_accepted (script : List WriteAnswer) (bs : Bytes) :
    (writeAll script bs).accepted <+: bs ∧
      ((writeAll script bs).fault = none → (writeAll script bs).accepted = bs) := by
  induction script generalizing bs with
  | nil => exact ⟨List.prefix_rfl, fun _ => rfl⟩
  | cons answer script ih =>
      cases answer with
      | whole => exact ⟨List.prefix_rfl, fun _ => rfl⟩
      | part most =>
          rw [writeAll]
          split
          · exact ⟨List.nil_prefix, fun h => by cases h⟩
          · split
            · exact ⟨List.prefix_rfl, fun _ => rfl⟩
            · obtain ⟨⟨rest, hrest⟩, hall⟩ := ih (bs.drop most)
              refine ⟨⟨rest, ?_⟩, fun h => ?_⟩
              · rw [List.append_assoc, hrest, List.take_append_drop]
              · show bs.take most ++ (writeAll script (bs.drop most)).accepted = bs
                rw [hall h, List.take_append_drop]
      | fails fault =>
          rw [writeAll]
          split
          · exact ih bs
          · exact ⟨List.nil_prefix, fun h => by cases h⟩

namespace Device

/-- A device from which the accepted bytes can be read back. -/
def Keeping : Device → Prop
  | file _ => True
  | scripted _ _ _ _ _ => True
  | null => False
  | full => False

/-- A keeping device keeps what it holds and what it accepts, which is all of the bytes unless
there is a fault. -/
lemma append_keeping {device : Device} (h : device.Keeping) (sync : Bool) (bs : Bytes) :
    (device.append sync bs).2.Keeping ∧
      ∃ accepted, accepted <+: bs ∧
        (device.append sync bs).2.content = device.content ++ accepted ∧
        ((device.append sync bs).1 = none → accepted = bs) := by
  cases device with
  | file content => exact ⟨trivial, bs, List.prefix_rfl, rfl, fun _ => rfl⟩
  | scripted content writes flushes writeCalls flushCalls =>
      obtain ⟨hstart, hall⟩ := writeAll_accepted writes bs
      cases hfault : (writeAll writes bs).fault with
      | some fault =>
          simp only [append, hfault]
          exact ⟨trivial, _, hstart, rfl, fun h => by cases h⟩
      | none =>
          cases flushes with
          | nil =>
              simp only [append, hfault]
              exact ⟨trivial, _, hstart, rfl, fun _ => hall hfault⟩
          | cons answer rest =>
              simp only [append, hfault]
              exact ⟨trivial, _, hstart, rfl, fun _ => hall hfault⟩
  | null => exact h.elim
  | full => exact h.elim

/-- Only a file becomes a file, which then holds all of the bytes. -/
lemma append_eq_file {device : Device} {sync : Bool} {bs content : Bytes}
    (h : (device.append sync bs).2 = file content) :
    ∃ content', device = file content' ∧ content = content' ++ bs := by
  cases device with
  | file content' => exact ⟨content', rfl, (Device.file.inj h).symm⟩
  | scripted content' writes flushes writeCalls flushCalls =>
      simp only [append] at h
      split at h
      · cases h
      · cases h
      · cases h
  | null => cases h
  | full => cases h

end Device

namespace LogWriter

variable {w : LogWriter} {disk disk' : Disk} {op : Operation} {fault : DeviceFault}

lemma line_eq (torn : Bool) (op : Operation) :
    line torn op =
      (if torn then [Log.lineFeed] else []) ++ (Record.bytes op ++ [Log.lineFeed]) := by
  rw [line, ← List.append_assoc]
  rfl

/-- A record that the device takes without a fault counts. -/
lemma append_done (h : disk.append w.device w.fsync (line w.torn op) = (none, disk')) :
    w.append disk op = (.ok (), { w with torn := false, records := w.records + 1 }, disk') := by
  rw [append, h]

/-- After a fault, part of a line may be left over. -/
lemma append_failed (h : disk.append w.device w.fsync (line w.torn op) = (some fault, disk')) :
    ∃ fault, w.append disk op = (.error fault, { w with torn := true }, disk') := by
  rw [append, h]
  exact ⟨_, rfl⟩

end LogWriter

namespace Log

/-! ### Lines that a device accepts in part -/

variable {log accepted : Bytes} {torn : Bool} {op : Operation}

/-- **Apart**: the accepted part of a line does not meet what is in the log already. -/
lemma textLines_append_accepted (hlog : torn = false → EndsLine log)
    (haccepted : accepted <+: LogWriter.line torn op) :
    textLines (log ++ accepted) = textLines log ++ textLines accepted := by
  cases torn with
  | false => exact textLines_append (hlog rfl)
  | true =>
      rw [LogWriter.line_eq, if_pos rfl, List.singleton_append, List.prefix_cons_iff] at haccepted
      -- the line feed in front ends what an earlier failure has left
      rcases haccepted with rfl | ⟨rest, rfl, -⟩
      · rw [List.append_nil, textLines_nil, List.append_nil]
      · rw [List.append_cons, textLines_append (endsLine_concat log), textLines_append_lineFeed,
          textLines_cons_lineFeed]

/-- **One record**: what is accepted of a line is, apart from line feeds, a part of the record from
its start. -/
lemma textLines_accepted (haccepted : accepted <+: LogWriter.line torn op) :
    ∃ bs, bs <+: Record.bytes op ∧ textLines accepted = textLines bs := by
  have hcut {cs : Bytes} (hcs : cs <+: Record.bytes op ++ [lineFeed]) :
      ∃ bs, bs <+: Record.bytes op ∧ textLines cs = textLines bs := by
    rcases List.prefix_concat_iff.mp hcs with rfl | hstart
    · exact ⟨Record.bytes op, List.prefix_rfl, textLines_append_lineFeed _⟩
    · exact ⟨cs, hstart, rfl⟩
  rw [LogWriter.line_eq] at haccepted
  cases torn with
  | false => exact hcut haccepted
  | true =>
      rw [if_pos rfl, List.singleton_append, List.prefix_cons_iff] at haccepted
      rcases haccepted with rfl | ⟨rest, rfl, hrest⟩
      · exact ⟨[], List.nil_prefix, rfl⟩
      · rw [textLines_cons_lineFeed]
        exact hcut hrest

/-- A whole line is one record. -/
lemma textLines_line (torn : Bool) (hop : lineFeed ∉ Record.bytes op) :
    textLines (LogWriter.line torn op) = [Record.bytes op] := by
  have hbytes : textLines (Record.bytes op ++ [lineFeed]) = [Record.bytes op] := by
    rw [textLines_append_lineFeed, textLines_of_not_mem hop, if_neg (Record.bytes_ne_nil op)]
  rw [LogWriter.line_eq]
  cases torn with
  | false => exact hbytes
  | true => rwa [if_pos rfl, List.singleton_append, textLines_cons_lineFeed]

/-- A whole line ends a line. -/
lemma endsLine_line (torn : Bool) (op : Operation) :
    EndsLine (log ++ LogWriter.line torn op) := by
  rw [LogWriter.line_eq, ← List.append_assoc, ← List.append_assoc]
  exact endsLine_concat _

end Log

end ReplicatedCache
