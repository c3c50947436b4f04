/-
A replicate request keeps its meaning however it is written.

* `Json.skipStringFrom_of_read`: **what can be read can be skipped**, string by string;
* `ReplicateRequest.Draft.Fits`, `ReplicateRequest.Draft.fill`: members that a draft can still take,
  and the draft with all of them;
* `ReplicateRequest.readAll_object`: **the object form**, with its members in any order and with
  others among them;
* `ReplicateRequest.readAll_array`: **the array form**, with the value or without it;
* `ReplicateRequest.check_eq`: the rules that a request is held to, member by member;
* `ReplicateRequest.survives_encoding`: **round trip**: the operation of a request that is read from
  any text, written again and read again, is the same operation and is held to the same rules.
-/
import ReplicatedCache.Proofs.Api.Bodies

namespace ReplicatedCache

namespace Json

variable {acc bs rest : Bytes} {b : UInt8} {state : StringState} {s : String}

/-! ### Strings that are skipped -/

/-- Where the one who skips a string stands when its reader stands in a state: pairs and the values
of digits do not matter. -/
def StringState.loose : StringState → StringState
  | plain => plain
  | escaped => escaped
  | numeric needed _ _ => numeric needed 0 none
  | paired _ => plain
  | pairedEscape _ => escaped

/-- Behind a numeric escape, any byte may come next for the one who skips. -/
lemma loose_of_numericEscape {unit : Nat} {lead : Option Nat} {added : Bytes}
    (h : numericEscape unit lead = .ok (added, state)) : state.loose = .plain := by
  cases lead with
  | none =>
      simp only [numericEscape] at h
      split at h
      · cases h
      · split at h
        · obtain ⟨-, rfl⟩ := Prod.mk.inj (Except.ok.inj h)
          rfl
        · obtain ⟨-, rfl⟩ := Prod.mk.inj (Except.ok.inj h)
          rfl
  | some first =>
      simp only [numericEscape] at h
      split at h
      · obtain ⟨-, rfl⟩ := Prod.mk.inj (Except.ok.inj h)
        rfl
      · cases h

/-- **One byte** of a string ends it, or takes its reader and the one who skips it on together. -/
lemma skipStringFrom_cons (h : readStringFrom acc state (b :: bs) = .ok (s, rest)) :
    skipStringFrom state.loose (b :: bs) = .ok rest ∨
      ∃ acc' state', readStringFrom acc' state' bs = .ok (s, rest) ∧
        skipStringFrom state.loose (b :: bs) = skipStringFrom state'.loose bs := by
  cases state with
  | plain =>
      rw [readStringFrom] at h
      rw [StringState.loose, skipStringFrom]
      split at h
      next hquote =>
          split at h
          next =>
              obtain ⟨-, rfl⟩ := Prod.mk.inj (Except.ok.inj h)
              exact .inl (if_pos hquote)
          next => cases h
      next hquote =>
          split at h
          next hbackslash =>
              refine .inr ⟨acc, .escaped, h, ?_⟩
              rw [if_neg hquote, if_pos hbackslash]
              rfl
          next hbackslash =>
              split at h
              next => cases h
              next hcontrol =>
                  refine .inr ⟨b :: acc, .plain, h, ?_⟩
                  rw [if_neg hquote, if_neg hbackslash, if_neg hcontrol]
                  rfl
  | escaped =>
      rw [readStringFrom] at h
      rw [StringState.loose, skipStringFrom]
      split at h
      next hunicode => exact .inr ⟨acc, .numeric 4 0 none, h, if_pos hunicode⟩
      next hunicode =>
          split at h
          next d hshort => exact .inr ⟨d :: acc, .plain, h, by rw [if_neg hunicode]; rfl⟩
          next => cases h
  | numeric needed value lead =>
      rw [readStringFrom] at h
      rw [StringState.loose, skipStringFrom]
      split at h
      next => cases h
      next d hdigit =>
          split at h
          next hneeded =>
              split at h
              next added state' hunit =>
                  refine .inr ⟨added.reverse ++ acc, state', h, ?_⟩
                  rw [loose_of_numericEscape hunit]
                  exact if_pos hneeded
              next => cases h
          next hneeded =>
              exact .inr ⟨acc, .numeric (needed - 1) (16 * value + d) lead, h, if_neg hneeded⟩
  | paired lead =>
      rw [readStringFrom] at h
      split at h
      next hbackslash =>
          refine .inr ⟨acc, .pairedEscape lead, h, ?_⟩
          rw [StringState.loose, skipStringFrom, if_pos hbackslash, hbackslash]
          rfl
      next => cases h
  | pairedEscape lead =>
      rw [readStringFrom] at h
      split at h
      next hunicode => exact .inr ⟨acc, .numeric 4 0 (some lead), h, if_pos hunicode⟩
      next => cases h

/-- **What can be read can be skipped**, and is followed by the same bytes. -/
lemma skipStringFrom_of_read (h : readStringFrom acc state bs = .ok (s, rest)) :
    skipStringFrom state.loose bs = .ok rest := by
  induction bs generalizing acc state with
  | nil =>
      rw [readStringFrom] at h
      cases h
  | cons b bs ih =>
      rcases skipStringFrom_cons h with hend | ⟨acc', state', hgoesOn, hsame⟩
      · exact hend
      · rw [hsame]
        exact ih hgoesOn

/-- A string in quotes is skipped as a value. -/
lemma skipValue_quoted (size : Nat) (s : String) (rest : Bytes) :
    skipValue size (quoted s ++ rest) = .ok rest := by
  have hblank (bs : Bytes) : skipBlank (quoteByte :: bs) = quoteByte :: bs := rfl
  have hopening : Frame.ofOpening? quoteByte = none := rfl
  have hscalar : skipScalar quoteByte (inside s ++ [quoteByte] ++ rest) = .ok rest := by
    rw [List.append_assoc]
    exact skipStringFrom_of_read (readString_inside s rest)
  rw [skipValue, quoted, List.cons_append, skipFrom]
  simp only [hblank, hopening, hscalar]
  rfl

/-- **A member** whose name is not known is skipped. -/
lemma RecordShape.readMembers_unknown {σ α : Type} {shape : RecordShape σ α} {draft : σ}
    {name : String} {size : Nat} {first : Bool} {text : Bytes}
    (hnext : nextMember first bs = .ok (true, inside name ++ quoteByte :: colon :: text))
    (hfield : shape.fields.find? (fun field => field.name = name) = none)
    (hskip : skipValue size text = .ok rest) :
    shape.readMembers (size + 1) first draft bs = shape.readMembers size false draft rest := by
  have hcolon : skipColon (colon :: text) = .ok text := rfl
  have hname := readString_inside name (colon :: text)
  simp only [readMembers, hnext, hname, hfield, hcolon, hskip, bind, Except.bind, if_true]

/-- **A member** that is not read yet is read by the reader of its field and kept. -/
lemma RecordShape.readMembers_free {σ α β : Type} (shape : RecordShape σ α) {draft : σ}
    {name : String} {reader : Reader β} {get : σ → Option β} {set : σ → β → σ} {a : β} {size : Nat}
    {first : Bool} {text : Bytes}
    (hnext : nextMember first bs = .ok (true, inside name ++ quoteByte :: colon :: text))
    (hfield : shape.fields.find? (fun field => field.name = name) =
      some (Field.of name reader get set))
    (hfree : get draft = none) (hread : reader text = .ok (a, rest)) :
    shape.readMembers (size + 1) first draft bs =
      shape.readMembers size false (set draft a) rest := by
  have hunset : (get draft).isSome = false := by
    rw [hfree]
    rfl
  exact readMembers_known hnext hfield hunset (Field.read_of name get set draft hread)

/-! ### Arrays -/

/-- The bytes of items behind the first one, each behind a comma. -/
def furtherItems (items : List Json) : Bytes := items.flatMap fun item => comma :: item.bytes

lemma encodeChars_itemsText (item : Json) (items : List Json) :
    (itemsText (item :: items)).flatMap String.utf8EncodeChar =
      item.bytes ++ furtherItems items := by
  induction items generalizing item with
  | nil =>
      rw [itemsText, furtherItems, List.flatMap_nil, List.append_nil]
      rfl
  | cons next items ih =>
      have hcons : itemsText (item :: next :: items) =
          textList item ++ ',' :: itemsText (next :: items) := by
        rw [itemsText]
        intro h
        cases h
      rw [hcons, List.flatMap_append, List.flatMap_cons, ih]
      rfl

/-- The bytes of an array with at least one item. -/
lemma bytes_arr (item : Json) (items : List Json) :
    (arr (item :: items)).bytes =
      openBracket :: (item.bytes ++ (furtherItems items ++ [closeBracket])) := by
  rw [bytes, textList, List.cons_append, List.flatMap_cons, List.flatMap_append,
    encodeChars_itemsText, List.append_assoc]
  rfl

namespace RecordShape

variable {σ α : Type} {shape : RecordShape σ α} {draft draft₁ : σ} {field : Field σ}
  {fields : List (Field σ)} {first : Bool} {tail : Bytes}

/-- The first element of an array that is a string. -/
lemma nextElement_first (s : String) (tail : Bytes) :
    nextElement true ((str s).bytes ++ tail) = .ok (true, (str s).bytes ++ tail) := by
  rw [bytes_str]
  rfl

/-- A further element that is a string. -/
lemma nextElement_further (s : String) (items : List Json) (tail : Bytes) :
    nextElement false (furtherItems (str s :: items) ++ tail) =
      .ok (true, (str s).bytes ++ (furtherItems items ++ tail)) := by
  rw [furtherItems, List.flatMap_cons, bytes_str, List.append_assoc]
  rfl

/-- **An element** is read into the field that is next. -/
lemma readElements_cons (hnext : nextElement first bs = .ok (true, tail))
    (hread : field.read draft tail = .ok (draft₁, rest)) :
    readElements first (field :: fields) draft bs = readElements false fields draft₁ rest := by
  simp only [readElements, hnext, hread, bind, Except.bind, if_true]

/-- **The bracket** ends the elements, whether there are fields left or not. -/
lemma readElements_end (fields : List (Field σ)) (draft : σ) (rest : Bytes) :
    readElements first fields draft (closeBracket :: rest) = .ok (draft, closeBracket :: rest) := by
  cases fields with
  | nil => rfl
  | cons field fields => rfl

/-- Behind the bracket of an array, its elements are read. -/
lemma read_bracket (inner : Bytes) : shape.read (openBracket :: inner) =
    (readElements true shape.fields shape.blank inner).bind fun r =>
      (shape.complete r.1).bind fun a => (closeArray r.2).bind fun rest => .ok (a, rest) := rfl

end RecordShape

end Json

namespace ReplicateRequest

open Json (Field readName_str inside quoted quoteByte colon comma closeBrace openBracket
  closeBracket bytes_arr furtherItems readText_str)
open Json.RecordShape (bytes_obj_append length_lt_inner nextElement_first nextElement_further
  nextMember nextMember_first nextMember_further read_brace read_bracket readElements
  readElements_cons readElements_end readMembers_end readMembers_free readMembers_unknown)

variable {draft : Draft} {name s : String} {members : List (String × String)}

/-! ### The object form -/

/-- The names of the members. -/
def names (members : List (String × String)) : List String := members.map Prod.fst

/-- Members that a draft can still take: no name comes twice, or is of a member that the draft has,
and the kind is known. -/
structure Draft.Fits (draft : Draft) (members : List (String × String)) : Prop where
  distinct : (names members).Nodup
  kind : "op_type" ∈ names members → draft.kind = none
  key : "key" ∈ names members → draft.key = none
  value : "value" ∈ names members → draft.value = none
  known : ∀ name, ("op_type", name) ∈ members → ∃ k, Operation.Kind.ofName? name = some k

/-- A draft with the members that it takes. -/
def Draft.fill (draft : Draft) (members : List (String × String)) : Draft where
  kind := draft.kind.or ((members.lookup "op_type").bind Operation.Kind.ofName?)
  key := draft.key.or (members.lookup "key")
  value := draft.value.or (members.lookup "value")

/-- A draft fills up member by member. -/
lemma Draft.Fits.fill_cons (h : draft.Fits ((name, s) :: members)) :
    draft.fill ((name, s) :: members) = (draft.fill [(name, s)]).fill members := by
  have hlookup (n : String) : ((name, s) :: members).lookup n =
      ([(name, s)].lookup n).or (members.lookup n) := by
    rw [← List.singleton_append, List.lookup_append]
  have hkind : (([(name, s)].lookup "op_type").or (members.lookup "op_type")).bind
      Operation.Kind.ofName? = (([(name, s)].lookup "op_type").bind Operation.Kind.ofName?).or
        ((members.lookup "op_type").bind Operation.Kind.ofName?) := by
    by_cases hname : name = "op_type"
    · subst hname
      obtain ⟨k, hk⟩ := h.known s List.mem_cons_self
      simp [hk]
    · simp [Ne.symm hname]
  simp only [Draft.fill, hlookup, hkind, Option.or_assoc]

/-- What is left of some members fits the draft that has taken the first one. -/
lemma Draft.Fits.rest (h : draft.Fits ((name, s) :: members)) :
    (draft.fill [(name, s)]).Fits members := by
  obtain ⟨hnew, hdistinct⟩ := List.nodup_cons.mp h.distinct
  have hother {n : String} (hn : n ∈ names members) : [(name, s)].lookup n = none := by
    have hne : n ≠ name := by
      rintro rfl
      exact hnew hn
    simp [hne]
  refine ⟨hdistinct, fun hn => ?_, fun hn => ?_, fun hn => ?_,
    fun first hfirst => h.known first (List.mem_cons_of_mem _ hfirst)⟩
  · rw [fill, h.kind (List.mem_cons_of_mem _ hn), hother hn]
    rfl
  · rw [fill, h.key (List.mem_cons_of_mem _ hn), hother hn]
    rfl
  · rw [fill, h.value (List.mem_cons_of_mem _ hn), hother hn]
    rfl

/-- **A member** that fits is read into its place in the draft, or skipped if there is none. -/
lemma Draft.Fits.readMembers (h : draft.Fits ((name, s) :: members)) {size : Nat} {first : Bool}
    {bs rest : Bytes}
    (hnext : nextMember first bs =
      .ok (true, inside name ++ quoteByte :: colon :: (quoted s ++ rest))) :
    shape.readMembers (size + 1) first draft bs =
      shape.readMembers size false (draft.fill [(name, s)]) rest := by
  have htext : Json.readText (quoted s ++ rest) = .ok (s, rest) := Json.readText_quoted s rest
  by_cases hkind : name = "op_type"
  · subst hkind
    obtain ⟨k, hk⟩ := h.known s List.mem_cons_self
    have hfree : draft.kind = none := h.kind List.mem_cons_self
    have hname := readName_str hk rest
    rw [Json.bytes_str] at hname
    have hfill : draft.fill [("op_type", s)] = { draft with kind := some k } := by
      simp [Draft.fill, hfree, hk]
    rw [hfill]
    exact readMembers_free shape hnext rfl hfree hname
  by_cases hkey : name = "key"
  · subst hkey
    have hfree : draft.key = none := h.key List.mem_cons_self
    have hfill : draft.fill [("key", s)] = { draft with key := some s } := by
      simp [Draft.fill, hfree]
    rw [hfill]
    exact readMembers_free shape hnext rfl hfree htext
  by_cases hvalue : name = "value"
  · subst hvalue
    have hfree : draft.value = none := h.value List.mem_cons_self
    have hfill : draft.fill [("value", s)] = { draft with value := some s } := by
      simp [Draft.fill, hfree]
    rw [hfill]
    exact readMembers_free shape hnext rfl hfree htext
  · have hfill : draft.fill [(name, s)] = draft := by
      simp [Draft.fill, Ne.symm hkind, Ne.symm hkey, Ne.symm hvalue]
    have hunknown : shape.fields.find? (fun field => field.name = name) = none := by
      simp [shape, Field.of, Ne.symm hkind, Ne.symm hkey, Ne.symm hvalue]
    rw [hfill]
    exact readMembers_unknown hnext hunknown (Json.skipValue_quoted size s rest)

/-- The members of an object of strings. -/
def strings (members : List (String × String)) : List (String × Json) :=
  members.map fun member => (member.1, .str member.2)

lemma length_strings (members : List (String × String)) :
    (strings members).length = members.length :=
  List.length_map _

/-- The members behind the first one, member by member. -/
lemma Draft.Fits.readFurther (h : draft.Fits members) {size : Nat} (hsize : members.length < size)
    (rest : Bytes) :
    shape.readMembers size false draft (Json.further (strings members) ++ closeBrace :: rest) =
      .ok (draft.fill members, rest) := by
  induction members generalizing draft size with
  | nil =>
      obtain ⟨size, rfl⟩ := Nat.exists_eq_succ_of_ne_zero (Nat.ne_zero_of_lt hsize)
      have hsame : draft.fill [] = draft := by simp [Draft.fill]
      rw [hsame]
      exact readMembers_end
  | cons member members ih =>
      obtain ⟨size, rfl⟩ := Nat.exists_eq_succ_of_ne_zero (Nat.ne_zero_of_lt hsize)
      have hnext := nextMember_further member.1 (.str member.2) (strings members)
        (closeBrace :: rest)
      rw [Json.bytes_str] at hnext
      refine (h.readMembers hnext).trans ?_
      rw [ih h.rest (Nat.lt_of_succ_lt_succ hsize), h.fill_cons]

/-- An object of strings that fit is read as the request that they make. -/
lemma Draft.Fits.read {member : String × String} {r : ReplicateRequest}
    (h : shape.blank.Fits (member :: members))
    (hcomplete : shape.complete (shape.blank.fill (member :: members)) = .ok r) (rest : Bytes) :
    shape.read ((Json.obj (strings (member :: members))).bytes ++ rest) = .ok (r, rest) := by
  have hbytes := bytes_obj_append (member.1, .str member.2) (strings members) rest
  have hnext := nextMember_first member.1 (.str member.2)
    (Json.further (strings members) ++ closeBrace :: rest)
  have hsize := length_lt_inner (member.1, .str member.2) (strings members) rest
  rw [length_strings] at hsize
  rw [Json.bytes_str] at hnext
  refine (congrArg shape.read hbytes).trans ?_
  rw [read_brace, h.readMembers hnext, h.rest.readFurther hsize, ← h.fill_cons]
  simp only [Except.bind, hcomplete]

/-- Where no name comes twice, a member is what is found under its name. -/
lemma lookup_of_mem (hdistinct : (names members).Nodup) (h : (name, s) ∈ members) :
    members.lookup name = some s := by
  induction members with
  | nil => cases h
  | cons member members ih =>
      obtain ⟨hnew, hdistinct⟩ := List.nodup_cons.mp hdistinct
      rcases List.mem_cons.mp h with rfl | h
      · exact List.lookup_cons_self
      · have hne : (name == member.1) = false := by
          rw [beq_eq_false_iff_ne]
          rintro rfl
          exact hnew (List.mem_map.mpr ⟨_, h, rfl⟩)
        rw [List.lookup_cons, hne]
        exact ih hdistinct h

/-- **The object form**: an object of strings is read as a request, whatever the order of its
members and whatever others are among them, if no name comes twice, the kind is given by one of its
names and the key is given. A value that is not given is empty. -/
lemma readAll_object {kind : Operation.Kind} {kindName key : String}
    (hdistinct : (names members).Nodup) (hkind : ("op_type", kindName) ∈ members)
    (hname : Operation.Kind.ofName? kindName = some kind) (hkey : ("key", key) ∈ members) :
    shape.readAll (Utf8.encode (Json.obj (strings members)).text) =
      .ok ⟨kind, key, (members.lookup "value").getD ""⟩ := by
  have hlookup := lookup_of_mem hdistinct hkind
  have hfits : shape.blank.Fits members := by
    refine ⟨hdistinct, fun _ => rfl, fun _ => rfl, fun _ => rfl, fun name hn => ⟨kind, ?_⟩⟩
    have hsame := lookup_of_mem hdistinct hn
    rw [hlookup, Option.some.injEq] at hsame
    rw [← hsame, hname]
  have hfilled : shape.blank.fill members = ⟨some kind, some key, members.lookup "value"⟩ := by
    simp only [Draft.fill, hlookup, lookup_of_mem hdistinct hkey, Option.bind_some, hname]
    rfl
  cases members with
  | nil => cases hkey
  | cons member members =>
      have hread := hfits.read (r := ⟨kind, key, ((member :: members).lookup "value").getD ""⟩)
        (by rw [hfilled]; rfl) []
      rw [List.append_nil] at hread
      rw [Json.encode_text, Json.RecordShape.readAll, Json.readWhole, hread]
      rfl

/-! ### The array form -/

/-- **The array form**: the name of the kind, the key and, perhaps, the value are read as a
request. -/
lemma readAll_array {kind : Operation.Kind} {kindName : String}
    (hname : Operation.Kind.ofName? kindName = some kind) (key : String) (value : Option String) :
    shape.readAll (Utf8.encode
        (Json.arr (.str kindName :: .str key :: value.toList.map Json.str)).text) =
      .ok ⟨kind, key, value.getD ""⟩ := by
  have helements : readElements true shape.fields shape.blank ((Json.str kindName).bytes ++
      (furtherItems (.str key :: value.toList.map Json.str) ++ [closeBracket])) =
      .ok (⟨some kind, some key, value⟩, [closeBracket]) := by
    refine (readElements_cons (nextElement_first kindName _)
      (Field.read_of _ _ _ _ (readName_str hname _))).trans ?_
    refine (readElements_cons (nextElement_further key _ _)
      (Field.read_of _ _ _ _ (readText_str key _))).trans ?_
    cases value with
    | none => exact readElements_end ..
    | some value =>
        refine (readElements_cons (nextElement_further value [] _)
          (Field.read_of _ _ _ _ (readText_str value _))).trans ?_
        exact readElements_end ..
  have hread : shape.read (Json.arr (.str kindName :: .str key ::
      value.toList.map Json.str)).bytes = .ok (⟨kind, key, value.getD ""⟩, []) := by
    rw [bytes_arr, read_bracket, helements]
    rfl
  rw [Json.encode_text, Json.RecordShape.readAll, Json.readWhole, hread]
  rfl

/-! ### Round trip -/

/-- **The rules** that a request is held to: those for its key, and for its value only if it is to
be stored. -/
lemma check_eq (r : ReplicateRequest) :
    r.check = (checkKey r.key).or
      (match r.kind with
        | .put => checkValue r.value
        | .delete => none) := by
  obtain ⟨kind, key, value⟩ := r
  cases kind with
  | put => rfl
  | delete => exact (Option.or_none).symm

/-- **Round trip**: a replicate request is all that is read from its JSON form. -/
lemma readAll_json (r : ReplicateRequest) :
    shape.readAll (Utf8.encode r.json.text) = .ok r := by
  have hmembers : r.json = Json.obj (strings
    [("op_type", r.kind.name), ("key", r.key), ("value", r.value)]) := rfl
  have hdistinct : ["op_type", "key", "value"].Nodup := by decide
  rw [hmembers]
  exact readAll_object hdistinct (by simp) r.kind.ofName?_name (by simp)

/-- **Operations survive their encoding**.

* The text of the request for an operation is read as a request for that operation, whatever the
  characters of its key and value.
* A request may give its kind by any of the names of the kind, and may leave out its value. It may
  be an object with its members in any order and with other members among them, or an array.
* Let a request be read from any text, whether the whole text is asked for or only its front, and
  let the operation that it asks for be written as a request again. Its text is read as a request
  for the same operation, with the same kind and key, which is held to the same rules; the value is
  the same in a put, and empty in a delete, whose value has no meaning and is held to no rule. -/
theorem survives_encoding :
    (∀ op, ∃ r, shape.readAll (Utf8.encode (ofOperation op).json.text) = .ok r ∧
      r.toOperation = op) ∧
    (∀ kind kindName key, Operation.Kind.ofName? kindName = some kind →
      (∀ members, (names members).Nodup → ("op_type", kindName) ∈ members →
        ("key", key) ∈ members →
        shape.readAll (Utf8.encode (Json.obj (strings members)).text) =
          .ok ⟨kind, key, (members.lookup "value").getD ""⟩) ∧
      ∀ value : Option String,
        shape.readAll (Utf8.encode
            (Json.arr (.str kindName :: .str key :: value.toList.map Json.str)).text) =
          .ok ⟨kind, key, value.getD ""⟩) ∧
    ∀ text r, shape.readAll text = .ok r ∨ shape.readLeading text = .ok r →
      ∃ r', shape.readAll (Utf8.encode (ofOperation r.toOperation).json.text) = .ok r' ∧
        shape.readLeading (Utf8.encode (ofOperation r.toOperation).json.text) = .ok r' ∧
        r'.toOperation = r.toOperation ∧ r'.check = r.check ∧
        r.check = (checkKey r.key).or (match r.kind with
          | .put => checkValue r.value
          | .delete => none) ∧
        r' = (match r.kind with
          | .put => r
          | .delete => ⟨.delete, r.key, ""⟩) := by
  refine ⟨?_, ?_, ?_⟩
  · exact fun op => ⟨ofOperation op, readAll_json _, toOperation_ofOperation op⟩
  · intro kind kindName key hname
    exact ⟨fun members hdistinct hkind hkey => readAll_object hdistinct hkind hname hkey,
      readAll_array hname key⟩
  · intro text r _
    have hsame : (ofOperation r.toOperation).toOperation = r.toOperation :=
      toOperation_ofOperation r.toOperation
    refine ⟨ofOperation r.toOperation, readAll_json _, readLeading_json _, hsame,
      congrArg Operation.check hsame, r.check_eq, ?_⟩
    obtain ⟨kind, key, value⟩ := r
    cases kind with
    | put => rfl
    | delete => rfl

/-- A delete by its second name, with a value and a member that is not asked for; and a put in the
array form. -/
theorem survives_encoding_other_forms :
    let delete := Utf8.encode (Json.obj (strings
      [("sender", "first"), ("value", "v"), ("key", "k"), ("op_type", "DEL")])).text
    let put := Utf8.encode (Json.arr [.str "PUT", .str "k", .str "a,\n\"b\""]).text
    shape.readAll delete = .ok ⟨.delete, "k", "v"⟩ ∧
      shape.readAll (Utf8.encode (ofOperation (.delete "k")).json.text) = .ok ⟨.delete, "k", ""⟩ ∧
      shape.readAll put = .ok ⟨.put, "k", "a,\n\"b\""⟩ ∧
      shape.readAll (Utf8.encode (ofOperation (.put "k" "a,\n\"b\"")).json.text) =
        .ok ⟨.put, "k", "a,\n\"b\""⟩ := by
  intro delete put
  obtain ⟨-, hforms, hagain⟩ := survives_encoding
  have hdelete : shape.readAll delete = .ok ⟨.delete, "k", "v"⟩ :=
    (hforms .delete "DEL" "k" rfl).1 _ (by decide) (by decide) (by decide)
  have hput : shape.readAll put = .ok ⟨.put, "k", "a,\n\"b\""⟩ :=
    (hforms .put "PUT" "k" rfl).2 (some "a,\n\"b\"")
  obtain ⟨_, hdelete', -, -, -, -, rfl⟩ := hagain delete _ (.inl hdelete)
  obtain ⟨_, hput', -, -, -, -, rfl⟩ := hagain put _ (.inl hput)
  exact ⟨hdelete, hdelete', hput, hput'⟩

end ReplicateRequest

end ReplicatedCache
