/-
Which lines of text are records.

* `Record.Spells`: **the grammar**: a line spells an operation if it is the line written for the
  operation, with a carriage return behind it or not, and the key of the operation is one field;
* `parsePut_eq_ok_iff`, `parseDelete_eq_ok_iff`, `parseList_eq_ok_iff`: what the parser accepts,
  part by part;
* `Record.read`: the operation of a numbered line, or the fault that names the line;
* `Record.read_eq_ok_iff`: **exactly the lines that spell an operation are accepted**;
* `Record.encode_inj`: two operations are never written alike;
* `Record.replayLine_encode`: the reader of numbered lines is the one a replay uses;
* `Record.read_iff_spells`: the reader of lines against the writer, in both directions.
-/
import Mathlib.Data.Set.Function
import ReplicatedCache.Proofs.Log.Record

namespace ReplicatedCache

namespace Record

variable {cs fields line : List Char} {op op' : Operation}

/-- **The grammar of records**: a line spells an operation if it is what is written for it, or the
same with one carriage return behind it. The key has to be a field of its own. -/
structure Spells (line : String) (op : Operation) : Prop where
  /-- Of several carriage returns at its end, the line has one more than the operation. -/
  line_eq : line = encode op ++ "\r" ∨ line = encode op ∧ line.toList.getLast? ≠ some '\r'
  key_ne : op.key ≠ ""
  comma : ',' ∉ op.key.toList

/-! ### Fields -/

/-- The fields of a put are cut at their first comma, so that only the key is without one. -/
lemma parsePut_eq_ok_iff :
    parsePut fields = .ok op ↔ ∃ key value, op = .put key value ∧
      fields = key.toList ++ ',' :: value.toList ∧ key ≠ "" ∧ ',' ∉ key.toList := by
  constructor
  · intro h
    cases hsplit : splitComma fields with
    | none =>
        rw [parsePut, hsplit] at h
        cases h
    | some parts =>
        obtain ⟨key, value⟩ := parts
        obtain ⟨hcomma, hfields⟩ := splitComma_eq_some hsplit
        simp only [parsePut, hsplit] at h
        split at h
        next => cases h
        next hne =>
            refine ⟨String.ofList key, String.ofList value, (Except.ok.inj h).symm, ?_, ?_, ?_⟩
            · rw [String.toList_ofList, String.toList_ofList, hfields]
            · exact fun hempty => hne (String.ofList_eq_empty_iff.mp hempty)
            · rwa [String.toList_ofList]
  · rintro ⟨key, value, rfl, rfl, hne, hcomma⟩
    have hkey : key.toList ≠ [] := fun hempty => hne (String.toList_eq_nil_iff.mp hempty)
    simp only [parsePut, splitComma_append hcomma, if_neg hkey, String.ofList_toList]

/-- The field of a delete is its key. -/
lemma parseDelete_eq_ok_iff :
    parseDelete fields = .ok op ↔ ∃ key, op = .delete key ∧
      fields = key.toList ∧ key ≠ "" ∧ ',' ∉ key.toList := by
  constructor
  · intro h
    rw [parseDelete] at h
    split at h
    next => cases h
    next hne =>
        split at h
        next => cases h
        next hcomma =>
            refine ⟨String.ofList fields, (Except.ok.inj h).symm, ?_, ?_, ?_⟩
            · rw [String.toList_ofList]
            · exact fun hempty => hne (String.ofList_eq_empty_iff.mp hempty)
            · rwa [String.toList_ofList]
  · rintro ⟨key, rfl, rfl, hne, hcomma⟩
    have hkey : key.toList ≠ [] := fun hempty => hne (String.toList_eq_nil_iff.mp hempty)
    simp only [parseDelete, if_neg hkey, if_neg hcomma, String.ofList_toList]

/-! ### Lines -/

/-- At most one carriage return is dropped. -/
lemma dropReturn_eq_iff :
    dropReturn line = cs ↔ line = cs ++ ['\r'] ∨ line = cs ∧ line.getLast? ≠ some '\r' := by
  rw [dropReturn]
  by_cases hlast : line.getLast? = some '\r'
  · rw [if_pos hlast]
    obtain ⟨start, rfl⟩ := List.getLast?_eq_some_iff.mp hlast
    simp
  · rw [if_neg hlast]
    refine ⟨fun h => .inr ⟨h, hlast⟩, ?_⟩
    rintro (rfl | ⟨h, -⟩)
    · exact absurd List.getLast?_concat hlast
    · exact h

/-- **A line is accepted** exactly as what is written for the operation, apart from the carriage
return that is dropped. -/
lemma parseList_eq_ok_iff :
    parseList line = .ok op ↔
      dropReturn line = encodeList op ∧ op.key ≠ "" ∧ ',' ∉ op.key.toList := by
  have htags : deleteTag ≠ putTag := by decide
  constructor
  · intro h
    cases hsplit : splitComma (dropReturn line) with
    | none =>
        rw [parseList, hsplit] at h
        cases h
    | some parts =>
        obtain ⟨tag, fields⟩ := parts
        obtain ⟨-, hline⟩ := splitComma_eq_some hsplit
        simp only [parseList, hsplit] at h
        split at h
        next htag =>
            obtain ⟨key, value, rfl, rfl, hkey⟩ := parsePut_eq_ok_iff.mp h
            exact ⟨by rw [hline, htag, encodeList], hkey⟩
        next =>
            split at h
            next htag =>
                obtain ⟨key, rfl, rfl, hkey⟩ := parseDelete_eq_ok_iff.mp h
                exact ⟨by rw [hline, htag, encodeList], hkey⟩
            next => cases h
  · rintro ⟨hline, hkey⟩
    rw [parseList, hline]
    cases op with
    | put key value =>
        rw [encodeList, splitComma_append (by decide)]
        simp only [if_true]
        exact parsePut_eq_ok_iff.mpr ⟨key, value, rfl, rfl, hkey⟩
    | delete key =>
        rw [encodeList, splitComma_append (by decide)]
        simp only [if_neg htags, if_true]
        exact parseDelete_eq_ok_iff.mpr ⟨key, rfl, rfl, hkey⟩

/-- **Exactly the lines that spell an operation are accepted**, and as that operation. -/
lemma parse_eq_ok_iff {line : String} : parse line = .ok op ↔ Spells line op := by
  have hreturn : line = encode op ++ "\r" ↔ line.toList = encodeList op ++ ['\r'] := by
    rw [String.ext_iff, String.toList_append, toList_encode]
    rfl
  have hplain : line = encode op ↔ line.toList = encodeList op := by
    rw [String.ext_iff, toList_encode]
  rw [parse, parseList_eq_ok_iff, dropReturn_eq_iff, ← hreturn, ← hplain]
  constructor
  · rintro ⟨hline, hne, hcomma⟩
    exact ⟨hline, hne, hcomma⟩
  · rintro ⟨hline, hne, hcomma⟩
    exact ⟨hline, hne, hcomma⟩

/-- A line spells one operation at most. -/
lemma Spells.unique {line : String} (h : Spells line op) (h' : Spells line op') : op = op' :=
  Except.ok.inj ((parse_eq_ok_iff.mpr h).symm.trans (parse_eq_ok_iff.mpr h'))

/-- **Two operations are never written alike**, whatever their values end in. -/
lemma encode_inj (hne : op.key ≠ "") (hcomma : ',' ∉ op.key.toList) (hne' : op'.key ≠ "")
    (hcomma' : ',' ∉ op'.key.toList) (h : encode op = encode op') : op = op' := by
  -- one more carriage return takes the place of those that the two may end in
  have hspells : Spells (encode op ++ "\r") op := ⟨.inl rfl, hne, hcomma⟩
  have hspells' : Spells (encode op ++ "\r") op' := ⟨.inl (by rw [h]), hne', hcomma'⟩
  exact hspells.unique hspells'

/-! ### Numbered lines -/

/-- Reads line number `number` of a log: its operation, or the fault that names the line. -/
def read (number : Nat) (line : String) : Except Fault Operation :=
  (parse line).mapError fun reason => .malformedRecord number reason.message

lemma read_of_spells {line : String} (h : Spells line op) (number : Nat) :
    read number line = .ok op := by
  rw [read, parse_eq_ok_iff.mpr h]
  rfl

/-- A line that spells no operation is no record, for some reason. -/
lemma parse_of_not_spells {line : String} (h : ¬∃ op, Spells line op) :
    ∃ reason, parse line = .error reason := by
  cases hparse : parse line with
  | ok op => exact absurd ⟨op, parse_eq_ok_iff.mp hparse⟩ h
  | error reason => exact ⟨reason, rfl⟩

lemma read_of_error {line : String} {reason : Reason} (h : parse line = .error reason)
    (number : Nat) : read number line = .error (.malformedRecord number reason.message) := by
  rw [read, h]
  rfl

lemma read_eq_ok_iff {line : String} {number : Nat} :
    read number line = .ok op ↔ Spells line op := by
  refine ⟨fun h => ?_, fun h => read_of_spells h number⟩
  by_contra hnot
  cases hparse : parse line with
  | ok op' =>
      have hspells := parse_eq_ok_iff.mp hparse
      obtain rfl : op = op' := Except.ok.inj (h.symm.trans (read_of_spells hspells number))
      exact hnot hspells
  | error reason =>
      rw [read_of_error hparse] at h
      cases h

/-- The reader of numbered lines is the one a replay uses: a line that is not empty is applied to
the cache as the operation it is read as, or else leaves the cache alone and is reported with the
text of its fault. -/
lemma replayLine_encode {line : String} (hline : line ≠ "") (now : Moment) (number : Nat)
    (report : Log.Report) (cache : Cache) :
    match read number line with
    | .ok op =>
        Log.replayLine now number (Utf8.encode line) (report, cache) =
          (report.count op, cache.apply op now)
    | .error fault => ∃ report',
        Log.replayLine now number (Utf8.encode line) (report, cache) = (report', cache) ∧
          report'.applied = report.applied ∧ report'.skipped = report.skipped + 1 ∧
          report'.warningTexts = report.warningTexts ++ [fault.message] := by
  have hbytes : Utf8.encode line ≠ [] := by
    intro h
    have hdecode := Utf8.decode_encode line
    rw [h] at hdecode
    exact hline (Option.some.inj (hdecode.symm.trans (Utf8.decode_encode "")))
  rw [Log.replayLine, if_neg hbytes, Log.parseLine, Utf8.decode_encode]
  cases hparse : parse line with
  | ok op => simp only [read, hparse, Except.mapError]
  | error reason =>
      simp only [read, hparse, Except.mapError]
      exact ⟨_, rfl, rfl, rfl, by simp [Log.Report.warningTexts, Log.Report.skip]⟩

/-- **The reader of lines accepts the image of the writer**: a line is read as an operation exactly
if it spells that operation, and every other line is a malformed record of its own number. So the
line of every operation whose key is one field is read back, unless it ends in a carriage return,
and two such operations are never written alike, also if their lines do end in one. -/
theorem read_iff_spells (number : Nat) (line : String) :
    (∀ op, read number line = .ok op ↔ Spells line op) ∧
      ((¬∃ op, Spells line op) → ∃ reason : Reason,
        read number line = .error (.malformedRecord number reason.message)) ∧
      (∀ op : Operation, op.key ≠ "" → ',' ∉ op.key.toList →
        (encode op).toList.getLast? ≠ some '\r' → read number (encode op) = .ok op) ∧
      Set.InjOn encode {op | op.key ≠ "" ∧ ',' ∉ op.key.toList} := by
  refine ⟨fun op => read_eq_ok_iff, fun hnot => ?_, fun op hne hcomma hreturn => ?_, ?_⟩
  · obtain ⟨reason, hparse⟩ := parse_of_not_spells hnot
    exact ⟨reason, read_of_error hparse number⟩
  · exact read_of_spells ⟨.inr ⟨rfl, hreturn⟩, hne, hcomma⟩ number
  · rintro op ⟨hne, hcomma⟩ op' ⟨hne', hcomma'⟩ h
    exact encode_inj hne hcomma hne' hcomma' h

/-- A put with a comma in its value and a carriage return behind it, read as line 7, and a delete
with two fields, which is no record. -/
theorem read_line_seven :
    read 7 "PUT,k,a,b\r" = .ok (.put "k" "a,b") ∧
      (∃ reason : Reason, read 7 "DEL,a,b" = .error (.malformedRecord 7 reason.message)) ∧
      read 7 (encode (.put "PUT" ",DEL,")) = .ok (.put "PUT" ",DEL,") ∧
      encode (.put "a" "b,\r") ≠ encode (.put "a" "b,") := by
  have hnot : ¬∃ op, Spells "DEL,a,b" op := by
    rintro ⟨op, hspells⟩
    have hread := ((read_iff_spells 7 "DEL,a,b").1 op).mpr hspells
    rw [show read 7 "DEL,a,b" = .error (.malformedRecord 7 "DEL record with extra fields") by
      decide] at hread
    cases hread
  refine ⟨?_, (read_iff_spells 7 "DEL,a,b").2.1 hnot, ?_, fun h => ?_⟩
  · exact ((read_iff_spells 7 _).1 _).mpr ⟨.inl (by decide), by decide, by decide⟩
  · exact (read_iff_spells 7 "").2.2.1 _ (by decide) (by decide) (by decide)
  · have hinj := (read_iff_spells 7 "").2.2.2
    have hop := hinj ⟨by decide, by decide⟩ ⟨by decide, by decide⟩ h
    exact absurd hop (by decide)

end Record

end ReplicatedCache
