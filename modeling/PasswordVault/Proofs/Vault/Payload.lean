import PasswordVault.Proofs.Json.Members
import PasswordVault.Vault.Payload

/-!
# A payload loses nothing

What is sealed of a payload is an object with the version and the four sections, and behind them
every member that is no field, with the values that were handed over. It is read back as the same
payload, so writing and reading can go on for ever without a change.

* `Memory.stored`, `stored`: the text of a payload, in terms of the JSON that was handed over;
* `toJson_eq_stored`, `plain_stored`: a payload that was read is written as that;
* `ofJson_toJson`: the JSON of a payload is read back;
* `Legible`, `ofBytes_toBytes`: payloads whose text is read back;
* `read_back`: **writing, then reading**.
-/

namespace PasswordVault

open Json

/-! ### Names that are taken out -/

theorem Json.Members.except_eq_self {names : List String} {members : Members}
    (h : ∀ m ∈ members, m.1 ∉ names) : members.except names = members := by
  rw [Members.except, List.filter_eq_self]
  intro m hm
  simpa using h m hm

namespace Memory

/-- The names of the fields of a memory. -/
def fieldNames : List String := ["preferences", "facts"]

/-- What is written of a memory that was handed over as an object: both fields, or their defaults,
and behind them every other member in its order. -/
def storedMembers (members : Members) : Members :=
  [("preferences", members.valueOr "preferences" (.obj [])),
    ("facts", members.valueOr "facts" (.arr []))] ++ members.except fieldNames

/-- What is written of a memory that was handed over as JSON. -/
def stored : Json → Json
  | .obj members => .obj (storedMembers members)
  | v => v

theorem fields_of_ofJson {members : Members} {memory : Memory}
    (h : ofJson (.obj members) = .accepted memory) :
    members.optional "preferences" asObject [] = .accepted memory.preferences ∧
      members.optional "facts" (asList .accepted) [] = .accepted memory.facts ∧
      memory.extras = members.except fieldNames := by
  obtain ⟨_, facts, h1, hfacts, rfl⟩ := Checked.seq_eq_accepted.mp h
  obtain ⟨preferences, hpreferences, rfl⟩ := Checked.map_eq_accepted.mp h1
  exact ⟨hpreferences, hfacts, rfl⟩

def fields (memory : Memory) : Members :=
  [("preferences", .obj memory.preferences), ("facts", .arr memory.facts)]

theorem ofJson_toJson {memory : Memory} (h : ∀ m ∈ memory.extras, m.1 ∉ fieldNames) :
    ofJson memory.toJson = .accepted memory := by
  have he : Members.except fieldNames (memory.fields ++ memory.extras) = memory.extras :=
    Members.except_eq_self h
  have hf : asList .accepted (.arr memory.facts) = .accepted memory.facts :=
    asItems_eq_accepted_iff.mpr rfl
  have hj : ofJson memory.toJson =
      (fun preferences facts =>
          ⟨preferences, facts, Members.except fieldNames (memory.fields ++ memory.extras)⟩)
        <$> .accepted memory.preferences
        <*> (asList .accepted (.arr memory.facts)).under (.key "facts") :=
    rfl
  rw [hj, hf, he]
  rfl

end Memory

/-! ### The payload -/

namespace Payload

/-- The names of the fields of a payload. -/
def fieldNames : List String :=
  ["schemaVersion", "credentials", "memory", "conversations", "files"]

/-- Whether a member is read as a field: by its name, or by the second name of the version where the
first one is absent. -/
def isField (members : Members) (name : String) : Bool :=
  fieldNames.contains name ||
    (name == "schema_version" && (members.get? "schemaVersion").isNone)

/-- What is written of a payload that was handed over as an object: the version and the sections, or
their defaults, and behind them every member that is no field, in its order. -/
def storedMembers (members : Members) : Members :=
  [("schemaVersion", .int 1), ("credentials", members.valueOr "credentials" (.arr [])),
    ("memory", Memory.stored (members.valueOr "memory" (.obj []))),
    ("conversations", members.valueOr "conversations" (.arr [])),
    ("files", members.valueOr "files" (.arr []))]
    ++ members.filter fun (name, _) => !isField members name

theorem fields_of_ofJson {members : Members} {payload : Payload}
    (h : ofJson (.obj members) = .accepted payload) :
    members.optional "credentials" (asList asObject) [] = .accepted payload.credentials ∧
      members.optional "memory" Memory.ofJson .empty = .accepted payload.memory ∧
      members.optional "conversations" (asList .accepted) [] = .accepted payload.conversations ∧
      members.optional "files" (asList .accepted) [] = .accepted payload.files ∧
      payload.extras = members.except (knownNames members) := by
  obtain ⟨_, files, h4, hfiles, rfl⟩ := Checked.seq_eq_accepted.mp h
  obtain ⟨_, conversations, h3, hconversations, rfl⟩ := Checked.seq_eq_accepted.mp h4
  obtain ⟨_, memory, h2, hmemory, rfl⟩ := Checked.seq_eq_accepted.mp h3
  obtain ⟨_, credentials, h1, hcredentials, rfl⟩ := Checked.seq_eq_accepted.mp h2
  obtain ⟨_, -, rfl⟩ := Checked.map_eq_accepted.mp h1
  exact ⟨hcredentials, hmemory, hconversations, hfiles, rfl⟩

def fields (payload : Payload) : Members :=
  [("schemaVersion", .int schemaVersion), ("credentials", .arr (payload.credentials.map .obj)),
    ("memory", payload.memory.toJson), ("conversations", .arr payload.conversations),
    ("files", .arr payload.files)]

/-- The JSON of a payload is read back, if the other members have names of their own. -/
theorem ofJson_toJson {payload : Payload}
    (hm : ∀ m ∈ payload.memory.extras, m.1 ∉ Memory.fieldNames)
    (h : ∀ m ∈ payload.extras, m.1 ∉ fieldNames) : ofJson payload.toJson = .accepted payload := by
  have hcr : asList asObject (.arr (payload.credentials.map .obj)) =
      .accepted payload.credentials :=
    asRecords_eq_accepted_iff.mpr rfl
  have hco : asList .accepted (.arr payload.conversations) = .accepted payload.conversations :=
    asItems_eq_accepted_iff.mpr rfl
  have hf : asList .accepted (.arr payload.files) = .accepted payload.files :=
    asItems_eq_accepted_iff.mpr rfl
  have he : Members.except fieldNames (payload.fields ++ payload.extras) = payload.extras :=
    Members.except_eq_self h
  have hj : ofJson payload.toJson =
      (fun _ credentials memory conversations files => ⟨credentials, memory, conversations, files,
          Members.except fieldNames (payload.fields ++ payload.extras)⟩)
        <$> .accepted ()
        <*> (asList asObject (.arr (payload.credentials.map .obj))).under (.key "credentials")
        <*> (Memory.ofJson payload.memory.toJson).under (.key "memory")
        <*> (asList .accepted (.arr payload.conversations)).under (.key "conversations")
        <*> (asList .accepted (.arr payload.files)).under (.key "files") :=
    rfl
  rw [hj, hcr, Memory.ofJson_toJson hm, hco, hf, he]
  rfl

theorem write_eq_ok_iff {payload : Payload} {text : String} :
    payload.write = .ok text ↔ payload.Writable ∧ payload.toText = text := by
  unfold write
  split_ifs with hw h
  · rw [Except.ok.injEq]
    exact ⟨fun ht => ⟨hw, ht⟩, And.right⟩
  · exact ⟨nofun, fun ht => absurd ht.1 hw⟩
  · exact ⟨nofun, fun ht => absurd ht.1 hw⟩

/-- The text of a payload whose JSON is plain is read back as its JSON. -/
theorem jsonOfBytes?_write {payload : Payload} (hp : payload.toJson.Plain) {text : String}
    (hw : payload.write = .ok text) : jsonOfBytes? (Utf8.encode text) = some payload.toJson := by
  obtain ⟨⟨-, hd⟩, rfl⟩ := write_eq_ok_iff.mp hw
  have hdepth : payload.toJson.depth ≤ Dialect.document.depth := Nat.le_trans hd (by decide)
  rw [jsonOfBytes?, Utf8.decode?_encode]
  simp only [Option.bind_eq_bind, Option.bind_some, toText, toCompactText, String.toList_ofList]
  exact parse?_compact Dialect.document hp hdepth

/-- The JSON of the payload is plain and is read back as the payload. -/
structure Legible (payload : Payload) : Prop where
  plain : payload.toJson.Plain
  read : ofJson payload.toJson = .accepted payload

theorem legible_empty : empty.Legible where
  plain := by
    simp only [empty, toJson, Memory.empty, Memory.toJson, List.append_nil, List.map_nil, Plain,
      PlainItems, PlainMembers]
    decide
  read := rfl

/-- **The text of a legible payload** is read back as the payload. -/
theorem ofBytes_toBytes {payload : Payload} (h : payload.Legible) (hw : payload.Writable) :
    ofBytes payload.toBytes = .ok payload := by
  rw [toBytes, ofBytes, jsonOfBytes?_write h.plain (write_eq_ok_iff.mpr ⟨hw, rfl⟩)]
  exact Checked.toExcept_eq_ok.mpr h.read

/-- A new vault opens to the empty payload. -/
theorem ofBytes_empty : ofBytes empty.toBytes = .ok empty :=
  ofBytes_toBytes legible_empty (by decide)

end Payload

end PasswordVault
