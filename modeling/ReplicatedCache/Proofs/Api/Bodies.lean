/-
The bodies of requests and replies are read as what was written into them.

* `Field.read_of`: a member is read by the reader of its field;
* `StoreRequest.readLeading_obj`, `StoreRequest.length_obj`: the body of a store request;
* `StoreRequest.le_of_readLeading`: how long a body is at least from which one is read;
* `ReplicateRequest.readLeading_json`: **round trip** of a replicate request;
* `ReplicateReply.readAll_json`: **round trip** of the reply to it;
* `ReplicateRequest.length_json`: how long a replicate request is;
* `ReplicaClient.readLeading_body`, `ReplicaClient.length_body_put`,
  `ReplicaClient.length_body_delete`: the same for the body that is sent for an operation.
-/
import ReplicatedCache.Api.Reply
import ReplicatedCache.Proofs.Json.Lengths
import ReplicatedCache.Replication.Client

namespace ReplicatedCache

open Json (quoted inside)
open Json.RecordShape (Costs Fills costs_of_text read_le)

namespace Json

variable {σ α : Type} {reader : Reader α} {bs rest : Bytes} {a : α}

/-- A member is read by the reader of its field and kept. -/
lemma Field.read_of (name : String) (get : σ → Option α) (set : σ → α → σ) (draft : σ)
    (h : reader bs = .ok (a, rest)) :
    (Field.of name reader get set).read draft bs = .ok (set draft a, rest) := by
  show (reader bs).map _ = _
  rw [h]
  rfl

/-- The bytes of a string are read as the string. -/
lemma readText_str (s : String) (rest : Bytes) :
    readText ((str s).bytes ++ rest) = .ok (s, rest) := by
  rw [bytes_str]
  exact readText_quoted s rest

/-- A known name is read as what it names. -/
lemma readName_str {ofName? : String → Option α} {name : String} (h : ofName? name = some a)
    (rest : Bytes) : readName ofName? ((str name).bytes ++ rest) = .ok (a, rest) := by
  have hstring : readString (inside name ++ ([quoteByte] ++ rest)) = .ok (name, rest) :=
    readString_inside name rest
  have hblank (inner : Bytes) : skipBlank (quoteByte :: inner) = quoteByte :: inner := rfl
  rw [bytes_str, quoted, List.cons_append, List.append_assoc]
  simp only [readName, hblank, if_true, hstring, h, bind, Except.bind]

/-- The bytes of a truth value are read as that value. -/
lemma readFlag_bool (b : Bool) (rest : Bytes) :
    readFlag ((bool b).bytes ++ rest) = .ok (b, rest) := by
  cases b with
  | false => rfl
  | true => rfl

end Json

open Json (Field readName_str readText_str)

/-- The members of a store request. -/
def StoreRequest.members (r : StoreRequest) : List (String × Json) :=
  [("key", .str r.key), ("value", .str r.value)]

/-- A store request is read from an object with its two members. -/
lemma StoreRequest.readLeading_obj (r : StoreRequest) :
    shape.readLeading (Utf8.encode (Json.obj r.members).text) = .ok r := by
  have hfills : Fills shape shape.blank r.members ⟨some r.key, some r.value⟩ :=
    .cons rfl rfl (fun rest => Field.read_of _ _ _ _ (readText_str r.key rest))
      (.cons rfl rfl (fun rest => Field.read_of _ _ _ _ (readText_str r.value rest)) (.nil _))
  have hread := Json.RecordShape.read_obj hfills (a := r) rfl []
  rw [List.append_nil] at hread
  rw [Json.encode_text, Json.RecordShape.readLeading, members, hread]
  rfl

/-- **The length** of an object with the two members. -/
lemma StoreRequest.length_obj (r : StoreRequest) :
    (Utf8.encode (Json.obj r.members).text).length =
      (inside r.key).length + (inside r.value).length + 21 := by
  have hnames : (inside "key").length = 3 ∧ (inside "value").length = 5 := by decide
  rw [Json.encode_text, members, Json.bytes_obj]
  simp only [Json.memberBytes, Json.further, Json.bytes_str, quoted, List.flatMap_cons,
    List.flatMap_nil, List.length_append, List.length_cons, List.length_nil]
  omega

/-- What the strings of a store request take that have been read so far. -/
def StoreRequest.Draft.cost (draft : StoreRequest.Draft) : Nat :=
  (draft.key.elim 0 fun s => (inside s).length + 2) +
    draft.value.elim 0 fun s => (inside s).length + 2

/-- **The length of a body** from which a store request is read: its strings take as many bytes at
least as are written for them here. -/
lemma StoreRequest.le_of_readLeading {r : StoreRequest} {bs : Bytes}
    (h : shape.readLeading bs = .ok r) :
    (inside r.key).length + (inside r.value).length + 6 ≤ bs.length := by
  have hcost : ∀ field ∈ shape.fields, Costs Draft.cost field := by
    refine List.forall_mem_cons.mpr ⟨?_, List.forall_mem_singleton.mpr ?_⟩
    · refine costs_of_text fun draft s => ?_
      simp only [Draft.cost, Option.elim_some]
      omega
    · refine costs_of_text fun draft s => ?_
      simp only [Draft.cost, Option.elim_some]
      omega
  cases hread : shape.read bs with
  | error defect =>
      rw [Json.RecordShape.readLeading, hread] at h
      cases h
  | ok result =>
      rw [Json.RecordShape.readLeading, hread] at h
      obtain rfl : result.1 = r := Except.ok.inj h
      obtain ⟨⟨key, value⟩, hfinish, hle⟩ := read_le hcost hread
      cases key with
      | none => cases hfinish
      | some key =>
          cases value with
          | none => cases hfinish
          | some value =>
              rw [← Option.some.inj hfinish]
              simp only [Draft.cost, shape, Option.elim_some, Option.elim_none] at hle ⊢
              omega

/-- **Round trip**: a replicate request is read from its JSON form. -/
lemma ReplicateRequest.readLeading_json (r : ReplicateRequest) :
    shape.readLeading (Utf8.encode r.json.text) = .ok r := by
  have hkind := Operation.Kind.ofName?_name r.kind
  have hfills : Fills shape shape.blank
      [("op_type", .str r.kind.name), ("key", .str r.key), ("value", .str r.value)]
      ⟨some r.kind, some r.key, some r.value⟩ :=
    .cons rfl rfl (fun rest => Field.read_of _ _ _ _ (readName_str hkind rest))
      (.cons rfl rfl (fun rest => Field.read_of _ _ _ _ (readText_str r.key rest))
        (.cons rfl rfl (fun rest => Field.read_of _ _ _ _ (readText_str r.value rest)) (.nil _)))
  have hread := Json.RecordShape.read_obj hfills (a := r) rfl []
  rw [List.append_nil] at hread
  rw [json, Json.encode_text, Json.RecordShape.readLeading, hread]
  rfl

/-- **Round trip**: the reply of a replica is read from its JSON form. -/
lemma ReplicateReply.readAll_json (r : ReplicateReply) :
    shape.readAll (Utf8.encode r.json.text) = .ok r := by
  have hfills : Fills shape shape.blank [("success", .bool r.success)] ⟨some r.success⟩ :=
    .cons rfl rfl (fun rest => Field.read_of _ _ _ _ (Json.readFlag_bool r.success rest)) (.nil _)
  have hread := Json.RecordShape.read_obj hfills (a := r) rfl []
  rw [List.append_nil] at hread
  rw [json, Json.encode_text, Json.RecordShape.readAll, Json.readWhole, hread]
  rfl

/-- **The length** of a replicate request in its JSON form. -/
lemma ReplicateRequest.length_json (r : ReplicateRequest) :
    (Utf8.encode r.json.text).length =
      (inside r.kind.name).length + (inside r.key).length + (inside r.value).length + 34 := by
  have hnames : (inside "op_type").length = 7 ∧ (inside "key").length = 3 ∧
      (inside "value").length = 5 := by decide
  rw [Json.encode_text, json, Json.bytes_obj]
  simp only [Json.memberBytes, Json.further, Json.bytes_str, quoted, List.flatMap_cons,
    List.flatMap_nil, List.length_append, List.length_cons, List.length_nil]
  omega

namespace ReplicaClient

/-- A body that is sent for an operation is read as the request for the operation. -/
lemma readLeading_body (op : Operation) :
    ReplicateRequest.shape.readLeading (body op) = .ok (.ofOperation op) :=
  (ReplicateRequest.ofOperation op).readLeading_json

lemma length_body_put (key value : String) :
    (body (.put key value)).length = (inside key).length + (inside value).length + 37 := by
  have hname : (inside Operation.Kind.put.name).length = 3 := by decide
  have hlength := (ReplicateRequest.ofOperation (.put key value)).length_json
  simp only [ReplicateRequest.ofOperation, hname] at hlength
  rw [body, ReplicateRequest.ofOperation, hlength]
  omega

lemma length_body_delete (key : String) :
    (body (.delete key)).length = (inside key).length + 40 := by
  have hname : (inside Operation.Kind.delete.name).length = 6 := by decide
  have hempty : (inside "").length = 0 := by decide
  have hlength := (ReplicateRequest.ofOperation (.delete key)).length_json
  simp only [ReplicateRequest.ofOperation, hname, hempty] at hlength
  rw [body, ReplicateRequest.ofOperation, hlength]
  omega

end ReplicaClient

end ReplicatedCache
