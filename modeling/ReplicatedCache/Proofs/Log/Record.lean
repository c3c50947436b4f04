/-
Records, read back from their bytes, whole and cut short.

* `checkKey_eq_none`, `checkValue_eq_none`: what an accepted key and value may hold;
* `OneLine`: operations whose records can be read back; accepted operations are of this kind;
* `parse_encode`: **round trip**: reading the line of an operation gives the operation;
* `Shortened`: what an operation becomes when its record is cut where another record ends;
* `parseLine_cut_iff`: **cuts**: a part of a record from its start is a record only where a
  shortened operation ends.
-/
import ReplicatedCache.Log.Append
import ReplicatedCache.Operation.Limits
import ReplicatedCache.Proofs.Text.Utf8

namespace ReplicatedCache

/-! ### Accepted keys and values -/

lemma any_isLineBreak {cs : List Char} : cs.any isLineBreak = false ↔ '\n' ∉ cs ∧ '\r' ∉ cs := by
  simp only [List.any_eq_false, isLineBreak, Bool.or_eq_true, decide_eq_true_eq, not_or]
  exact ⟨fun h => ⟨fun hc => (h _ hc).1 rfl, fun hc => (h _ hc).2 rfl⟩,
    fun h c hc => ⟨fun heq => h.1 (heq ▸ hc), fun heq => h.2 (heq ▸ hc)⟩⟩

/-- What an accepted key is. -/
lemma checkKey_eq_none {key : String} :
    checkKey key = none ↔
      key ≠ "" ∧ key.utf8ByteSize ≤ maxKeyLength ∧
        ',' ∉ key.toList ∧ '\n' ∉ key.toList ∧ '\r' ∉ key.toList := by
  have hany : (key.toList.any fun c => c = ',' || isLineBreak c) = false ↔
      ',' ∉ key.toList ∧ '\n' ∉ key.toList ∧ '\r' ∉ key.toList := by
    rw [← any_isLineBreak]
    simp only [List.any_eq_false, Bool.or_eq_true, decide_eq_true_eq, not_or]
    exact ⟨fun h => ⟨fun hc => (h _ hc).1 rfl, fun c hc => (h c hc).2⟩,
      fun h c hc => ⟨fun heq => h.1 (heq ▸ hc), h.2 c hc⟩⟩
  rw [← hany, checkKey]
  by_cases hempty : key = ""
  · simp [hempty]
  · by_cases hlong : maxKeyLength < key.utf8ByteSize
    · simp [hempty, hlong, Nat.not_le.mpr hlong]
    · simp [hempty, hlong, Nat.not_lt.mp hlong]

/-- The start of an accepted key is accepted, unless it is empty. -/
lemma checkKey_of_starts {key key' : String} (h : checkKey key = none) (hne : key' ≠ "")
    (hstart : key'.toList <+: key.toList) : checkKey key' = none := by
  rw [checkKey_eq_none] at h ⊢
  obtain ⟨-, hlength, hcomma, hfeed, hreturn⟩ := h
  have hbytes := (Utf8.encode_starts hstart).length_le
  rw [Utf8.length_encode, Utf8.length_encode] at hbytes
  exact ⟨hne, Nat.le_trans hbytes hlength, fun hc => hcomma (hstart.subset hc),
    fun hc => hfeed (hstart.subset hc), fun hc => hreturn (hstart.subset hc)⟩

/-- What an accepted value is. -/
lemma checkValue_eq_none {value : String} :
    checkValue value = none ↔
      value.utf8ByteSize ≤ maxValueSize ∧ '\n' ∉ value.toList ∧ '\r' ∉ value.toList := by
  rw [← any_isLineBreak, checkValue]
  by_cases hlong : maxValueSize < value.utf8ByteSize
  · simp [hlong, Nat.not_le.mpr hlong]
  · simp [hlong, Nat.not_lt.mp hlong]

namespace Record

/-! ### Commas -/

/-- Text is cut at its first comma. -/
lemma splitComma_append {cs : List Char} (h : ',' ∉ cs) (rest : List Char) :
    splitComma (cs ++ ',' :: rest) = some (cs, rest) := by
  induction cs with
  | nil => simp [splitComma]
  | cons c cs ih =>
      rw [List.mem_cons, not_or] at h
      rw [List.cons_append, splitComma, if_neg (Ne.symm h.1), ih h.2, Option.map_some]

lemma splitComma_eq_some {cs before after : List Char} (h : splitComma cs = some (before, after)) :
    ',' ∉ before ∧ cs = before ++ ',' :: after := by
  induction cs generalizing before with
  | nil => exact absurd h (by simp [splitComma])
  | cons c cs ih =>
      rw [splitComma] at h
      split at h
      next hc =>
          obtain ⟨rfl, rfl⟩ := Prod.mk.inj (Option.some.inj h)
          exact ⟨List.not_mem_nil, by rw [hc, List.nil_append]⟩
      next hc =>
          obtain ⟨⟨before', after'⟩, hsplit, heq⟩ := Option.map_eq_some_iff.mp h
          obtain ⟨rfl, rfl⟩ := Prod.mk.inj heq
          obtain ⟨hnot, rfl⟩ := ih hsplit
          exact ⟨by simp [hnot, Ne.symm hc], rfl⟩

/-- Two texts with a comma behind parts without one start alike only if these parts agree. -/
lemma append_comma_starts {cs ds xs ys : List Char} (hc : ',' ∉ cs) (hd : ',' ∉ ds)
    (h : cs ++ ',' :: xs <+: ds ++ ',' :: ys) : cs = ds ∧ xs <+: ys := by
  obtain ⟨rest, h⟩ := h
  have hsplit := splitComma_append hd ys
  rw [← h, List.append_assoc, List.cons_append, splitComma_append hc] at hsplit
  obtain ⟨rfl, rfl⟩ := Prod.mk.inj (Option.some.inj hsplit)
  exact ⟨rfl, List.prefix_append xs rest⟩

lemma dropReturn_of_not_mem {cs : List Char} (h : '\r' ∉ cs) : dropReturn cs = cs := by
  rw [dropReturn, if_neg]
  exact fun hlast => h (List.mem_of_getLast? hlast)

/-! ### Whole records -/

/-- An operation whose record stands on one line and can be read back from it. -/
structure OneLine (op : Operation) : Prop where
  key_ne : op.key.toList ≠ []
  comma : ',' ∉ op.key.toList
  lineFeed : '\n' ∉ encodeList op
  carriageReturn : '\r' ∉ encodeList op

/-- Accepted operations stand on one line. -/
lemma oneLine_of_check {op : Operation} (h : op.check = none) : OneLine op := by
  cases op with
  | put key value =>
      rw [Operation.check, Option.or_eq_none_iff, checkKey_eq_none, checkValue_eq_none] at h
      obtain ⟨⟨hne, -, hcomma, hfeed, hreturn⟩, -, hfeed', hreturn'⟩ := h
      refine ⟨by simpa [Operation.key] using hne, hcomma, ?_, ?_⟩
      · simp [encodeList, putTag, hfeed, hfeed']
      · simp [encodeList, putTag, hreturn, hreturn']
  | delete key =>
      rw [Operation.check, checkKey_eq_none] at h
      obtain ⟨hne, -, hcomma, hfeed, hreturn⟩ := h
      refine ⟨by simpa [Operation.key] using hne, hcomma, ?_, ?_⟩
      · simp [encodeList, deleteTag, hfeed]
      · simp [encodeList, deleteTag, hreturn]

/-- **Round trip**: the line of an operation reads as that operation. -/
lemma parseList_encodeList {op : Operation} (h : OneLine op) :
    parseList (encodeList op) = .ok op := by
  rw [parseList, dropReturn_of_not_mem h.carriageReturn]
  cases op with
  | put key value =>
      have hcomma : ',' ∉ key.toList := h.comma
      have hne : key.toList ≠ [] := h.key_ne
      rw [encodeList, splitComma_append (by decide)]
      simp only [if_true, parsePut]
      rw [splitComma_append hcomma]
      simp only [if_neg hne, String.ofList_toList]
  | delete key =>
      have hcomma : ',' ∉ key.toList := h.comma
      have hne : key.toList ≠ [] := h.key_ne
      have htag : deleteTag ≠ putTag := by decide
      rw [encodeList, splitComma_append (by decide)]
      simp only [if_neg htag, if_true, parseDelete]
      rw [if_neg hne, if_neg hcomma, String.ofList_toList]

/-! ### Records cut short -/

/-- What an operation becomes if its record is cut where another record ends: a put loses the end
of its value, a delete the end of its key. -/
inductive Shortened : Operation → Operation → Prop
  | put (key : String) {value value' : String} (h : value'.toList <+: value.toList) :
      Shortened (.put key value) (.put key value')
  | delete {key key' : String} (hne : key'.toList ≠ []) (h : key'.toList <+: key.toList) :
      Shortened (.delete key) (.delete key')

lemma shortened_refl {op : Operation} (h : OneLine op) : Shortened op op := by
  cases op with
  | put key value => exact .put key List.prefix_rfl
  | delete key => exact .delete h.key_ne List.prefix_rfl

/-- The record of a shortened operation starts the record. -/
lemma Shortened.starts {op op' : Operation} (h : Shortened op op') :
    encodeList op' <+: encodeList op := by
  cases h with
  | put key h =>
      obtain ⟨rest, hrest⟩ := h
      exact ⟨rest, by rw [encodeList, encodeList, ← hrest]; simp⟩
  | delete _ h =>
      obtain ⟨rest, hrest⟩ := h
      exact ⟨rest, by rw [encodeList, encodeList, ← hrest]; simp⟩

lemma Shortened.oneLine {op op' : Operation} (h : Shortened op op') (hop : OneLine op) :
    OneLine op' := by
  have hfeed : '\n' ∉ encodeList op' := fun hc => hop.lineFeed (h.starts.subset hc)
  have hreturn : '\r' ∉ encodeList op' := fun hc => hop.carriageReturn (h.starts.subset hc)
  cases h with
  | put key h => exact ⟨hop.key_ne, hop.comma, hfeed, hreturn⟩
  | delete hne h => exact ⟨hne, fun hc => hop.comma (h.subset hc), hfeed, hreturn⟩

/-- The start of a record reads as a record only as a shortened operation. -/
lemma shortened_of_parseList {op op' : Operation} {cs : List Char} (hop : OneLine op)
    (hcs : cs <+: encodeList op) (h : parseList cs = .ok op') :
    Shortened op op' ∧ cs = encodeList op' := by
  rw [parseList, dropReturn_of_not_mem fun hc => hop.carriageReturn (hcs.subset hc)] at h
  cases hsplit : splitComma cs with
  | none => simp [hsplit] at h
  | some parts =>
      obtain ⟨tag, fields⟩ := parts
      obtain ⟨htag, rfl⟩ := splitComma_eq_some hsplit
      simp only [hsplit] at h
      cases op with
      | put key value =>
          obtain ⟨rfl, hfields⟩ := append_comma_starts htag (by decide) hcs
          rw [if_pos rfl, parsePut] at h
          cases hsplit' : splitComma fields with
          | none => simp [hsplit'] at h
          | some parts =>
              obtain ⟨key', value'⟩ := parts
              obtain ⟨hkey', rfl⟩ := splitComma_eq_some hsplit'
              obtain ⟨rfl, hvalue⟩ := append_comma_starts hkey' hop.comma hfields
              simp only [hsplit', String.ofList_toList] at h
              rw [if_neg hop.key_ne] at h
              obtain rfl := Except.ok.inj h
              exact ⟨.put key (by rwa [String.toList_ofList]), by
                rw [encodeList, String.toList_ofList]⟩
      | delete key =>
          obtain ⟨rfl, hfields⟩ := append_comma_starts htag (by decide) hcs
          rw [if_neg (by decide), if_pos rfl, parseDelete] at h
          split at h
          next => cases h
          next hne =>
              split at h
              next => cases h
              next =>
                  obtain rfl := Except.ok.inj h
                  exact ⟨.delete (by rwa [String.toList_ofList]) (by rwa [String.toList_ofList]), by
                    rw [encodeList, String.toList_ofList]⟩

/-! ### The bytes of a record -/

/-- The bytes of the line of an operation, without the line feed that ends it. -/
def bytes (op : Operation) : Bytes := Utf8.encode (encode op)

lemma bytes_eq_flatMap (op : Operation) :
    bytes op = (encodeList op).flatMap String.utf8EncodeChar :=
  Utf8.encode_ofList _

lemma toList_encode (op : Operation) : (encode op).toList = encodeList op := String.toList_ofList

/-- A record has a name at its start. -/
lemma bytes_ne_nil (op : Operation) : bytes op ≠ [] := by
  rw [bytes_eq_flatMap]
  cases op with
  | put key value => simp [encodeList, putTag]
  | delete key => simp [encodeList, deleteTag]

/-- The bytes of a text without line feeds hold none. -/
lemma lineFeed_not_mem_bytes_of_encode {op : Operation} (h : '\n' ∉ (encode op).toList) :
    Log.lineFeed ∉ bytes op :=
  fun hfeed => h (Utf8.lineFeed_mem_encode hfeed)

lemma lineFeed_not_mem_bytes {op : Operation} (h : OneLine op) : Log.lineFeed ∉ bytes op :=
  lineFeed_not_mem_bytes_of_encode (toList_encode op ▸ h.lineFeed)

/-- **Round trip**: the bytes of a record read as its operation. -/
lemma parseLine_bytes {op : Operation} (h : OneLine op) : Log.parseLine (bytes op) = .ok op := by
  rw [Log.parseLine, bytes, Utf8.decode_encode]
  simp only [parse, toList_encode, parseList_encodeList h]

lemma Shortened.bytes_starts {op op' : Operation} (h : Shortened op op') :
    bytes op' <+: bytes op := by
  refine Utf8.encode_starts ?_
  rw [toList_encode, toList_encode]
  exact h.starts

/-- **Cuts**: a part of a record from its start is a record only where a shortened operation ends,
and it is then the record of that operation. -/
lemma parseLine_cut_iff {op op' : Operation} {bs : Bytes} (hop : OneLine op)
    (hbs : bs <+: bytes op) :
    Log.parseLine bs = .ok op' ↔ Shortened op op' ∧ bs = bytes op' := by
  constructor
  · intro h
    cases hdecode : Utf8.decode bs with
    | none => simp [Log.parseLine, hdecode] at h
    | some text =>
        obtain rfl := Utf8.encode_eq_of_decode hdecode
        have htext : text.toList <+: encodeList op := by
          rw [← toList_encode]
          exact Utf8.starts_of_encode hbs
        simp only [Log.parseLine, hdecode, parse] at h
        obtain ⟨hshort, heq⟩ := shortened_of_parseList hop htext h
        exact ⟨hshort, by rw [bytes, encode, ← heq, String.ofList_toList]⟩
  · rintro ⟨hshort, rfl⟩
    exact parseLine_bytes (hshort.oneLine hop)

end Record

end ReplicatedCache
