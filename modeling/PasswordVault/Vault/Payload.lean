import PasswordVault.Error
import PasswordVault.Json.Given
import PasswordVault.Json.Parser
import PasswordVault.Json.Printer
import PasswordVault.Text.Utf8

/-!
# Payloads

The plaintext of a vault is a payload: credentials, a memory, conversations and files, whose records
are arbitrary JSON. Members with other names are kept, in the payload and in its memory, so that
nothing is lost that a later version wrote. A payload is sealed as compact JSON text.

* `Payload.ofJson` and `Payload.toJson` read and write the JSON form;
* `Payload.ofBytes` and `Payload.toBytes` read and write what is sealed, `Payload.Writable` says
  which payloads have a text.
-/

namespace PasswordVault

/-- What is remembered across conversations: named preferences, and facts in the order in which they
were learnt. Members with other names are kept as extras. -/
structure Memory where
  preferences : Json.Members
  facts : List Json
  extras : Json.Members

/-- The plaintext of a vault: records with secrets, what is remembered, conversations and files.
Members with other names are kept as extras. -/
structure Payload where
  credentials : List Json.Members
  memory : Memory
  conversations : List Json
  files : List Json
  extras : Json.Members

/-- The members whose names are not among the given ones. -/
def Json.Members.except (names : List String) (members : Json.Members) : Json.Members :=
  members.filter fun (name, _) => !names.contains name

namespace Memory

def empty : Memory := ⟨[], [], []⟩

def ofJson : Json → Checked Memory :=
  Json.asRecord fun members =>
    (fun preferences facts => ⟨preferences, facts, members.except ["preferences", "facts"]⟩)
      <$> members.optional "preferences" Json.asObject []
      <*> members.optional "facts" (Json.asList .accepted) []

def toJson (memory : Memory) : Json :=
  .obj (("preferences", .obj memory.preferences) :: ("facts", .arr memory.facts) :: memory.extras)

end Memory

namespace Payload

def empty : Payload := ⟨[], .empty, [], [], []⟩

/-- The only version of the payload format. -/
def schemaVersion : Int := 1

/-- The names of the version of the format. -/
def versionLabel : Json.Label := ⟨"schemaVersion", "schema_version"⟩

def readVersion (v : Json) : Checked Unit :=
  v.asInteger.andThen fun n =>
    if n = schemaVersion then .accepted () else .refuse (.rule (.schemaVersion n))

/-- The names that are read as parts of a payload, given its members. -/
def knownNames (members : Json.Members) : List String :=
  let version := match members.find? versionLabel with
    | some (name, _) => [name]
    | none => []
  version ++ ["credentials", "memory", "conversations", "files"]

def ofJson : Json → Checked Payload :=
  Json.asRecord fun members =>
    (fun _ credentials memory conversations files =>
        ⟨credentials, memory, conversations, files, members.except (knownNames members)⟩)
      <$> members.optional versionLabel readVersion ()
      <*> members.optional "credentials" (Json.asList Json.asObject) []
      <*> members.optional "memory" Memory.ofJson .empty
      <*> members.optional "conversations" (Json.asList .accepted) []
      <*> members.optional "files" (Json.asList .accepted) []

def toJson (payload : Payload) : Json :=
  .obj <|
    [("schemaVersion", .int schemaVersion), ("credentials", .arr (payload.credentials.map .obj)),
      ("memory", payload.memory.toJson), ("conversations", .arr payload.conversations),
      ("files", .arr payload.files)] ++ payload.extras

/-- The payload that was handed over; nothing stands for the empty one. -/
def accept : Given Payload → Except Error Payload
  | .json .null => .ok empty
  | given => (given.read ofJson).toExcept

/-! ### Text -/

/-- How many lists and objects may stand inside each other in a text that is written. -/
def greatestDepth : Nat := 254

/-- How many values may stand inside each other in an arbitrary part of a payload. -/
def greatestLevels : Nat := 255

/-- The arbitrary parts of a payload. -/
def parts (payload : Payload) : List Json :=
  (payload.credentials.flatten ++ payload.memory.preferences).map Prod.snd ++ payload.memory.facts
    ++ payload.memory.extras.map Prod.snd ++ payload.conversations ++ payload.files
    ++ payload.extras.map Prod.snd

/-- Whether the payload has a text: documents hold its integers and texts, and it is not too
deep. -/
def Writable (payload : Payload) : Prop :=
  payload.toJson.isWritable = true ∧ payload.toJson.depth ≤ greatestDepth

instance (payload : Payload) : Decidable payload.Writable :=
  inferInstanceAs (Decidable (_ ∧ _))

def toText (payload : Payload) : String :=
  payload.toJson.toCompactText

/-- What is sealed of a payload. -/
def toBytes (payload : Payload) : Bytes :=
  Utf8.encode payload.toText

/-- The text of a payload that has one. One that is far too deep is told from the others that have
none. -/
def write (payload : Payload) : Except Error String :=
  if payload.Writable then .ok payload.toText
  else if payload.parts.any fun v => v.levels > greatestLevels then .error .tooDeep
  else .error .unwritable

/-- The JSON that a byte string writes. -/
def jsonOfBytes? (bytes : Bytes) : Option Json := do
  let text ← Utf8.decode? bytes
  Json.parse? .document text.toList

/-- The payload that was sealed as a byte string. -/
def ofBytes (bytes : Bytes) : Except Error Payload :=
  match jsonOfBytes? bytes with
  | some v => (ofJson v).toExcept
  | none => .error .notJson

end Payload

end PasswordVault
