-- The text that createAuditHash of security/audit-chain.ts hashes: `JSON.stringify` of the
-- previous hash, the event type, the metadata and the time. `JSON.stringify` writes an
-- object's keys in their enumeration order, so two metadata objects equal as JSON values
-- but built in another key order give two texts, and so does a metadata object read back
-- from the jsonb column, which keeps its keys in an order of its own.
import Mathlib.Data.List.Sort

namespace ton_agent_bot.audit

/-! ## JSON values and `JSON.stringify` -/

/-- A JSON value as `JSON.stringify` walks it. An object lists its own properties in their
enumeration order (for the string keys of the metadata, the order they were created in).
Numbers are integers, which `JSON.stringify` writes in decimal. -/
inductive JsonValue
  | null
  | bool (b : Bool)
  | num (n : Int)
  | str (s : String)
  | arr (items : List JsonValue)
  | obj (members : List (String × JsonValue))
  deriving Repr

/-- The escape `QuoteJSONString` writes for one code point. -/
def escapeJsonChar (c : Char) : String :=
  if c = '"' then "\\\""
  else if c = '\\' then "\\\\"
  else if c = '\x08' then "\\b"
  else if c = '\x0c' then "\\f"
  else if c = '\n' then "\\n"
  else if c = '\r' then "\\r"
  else if c = '\t' then "\\t"
  else if c.toNat < 0x20 then
    "\\u00" ++ (if c.toNat < 16 then "0" else "") ++ String.mk (Nat.toDigits 16 c.toNat)
  else c.toString

/-- `QuoteJSONString`: the string between double quotes, escaped. -/
def quoteJsonString (s : String) : String :=
  "\"" ++ (s.data.map escapeJsonChar).foldr (· ++ ·) "" ++ "\""

mutual
/-- `JSON.stringify` with no replacer and no indentation. -/
def JsonValue.stringify : JsonValue → String
  | .null => "null"
  | .bool b => if b then "true" else "false"
  | .num n => toString n
  | .str s => quoteJsonString s
  | .arr items => "[" ++ stringifyItems items ++ "]"
  | .obj members => "\x7b" ++ stringifyMembers members ++ "\x7d"

def stringifyItems : List JsonValue → String
  | [] => ""
  | [v] => v.stringify
  | v :: vs => v.stringify ++ "," ++ stringifyItems vs

def stringifyMembers : List (String × JsonValue) → String
  | [] => ""
  | [(k, v)] => quoteJsonString k ++ ":" ++ v.stringify
  | (k, v) :: ms => quoteJsonString k ++ ":" ++ v.stringify ++ "," ++ stringifyMembers ms
end

/-! ## createAuditHash -/

/-- The object literal `createAuditHash` gives `JSON.stringify`, in the order it is
written; a null previous hash is JSON `null`. -/
def auditHashInput (previousHash : Option String) (eventType : String) (metadata : JsonValue)
    (createdAtIso : String) : JsonValue :=
  .obj [("previousHash", previousHash.elim .null .str), ("eventType", .str eventType),
    ("metadata", metadata), ("createdAtIso", .str createdAtIso)]

/-- The text `createAuditHash` hashes. -/
def auditHashBody (previousHash : Option String) (eventType : String) (metadata : JsonValue)
    (createdAtIso : String) : String :=
  (auditHashInput previousHash eventType metadata createdAtIso).stringify

/-- `createAuditHash`; `hashEvent`, the hex SHA-256 of the text, is left a parameter. -/
def createAuditHash (hashEvent : String → String) (previousHash : Option String)
    (eventType : String) (metadata : JsonValue) (createdAtIso : String) : String :=
  hashEvent (auditHashBody previousHash eventType metadata createdAtIso)

/-- The metadata of the approval.requested event that `registerApprovalRequests` appends
(part_006, lines 97-102), in the order the literal lists its keys. -/
def requestedMetadata (approvalId toolName toolCallId callbackToken : String) : JsonValue :=
  .obj [("approvalId", .str approvalId), ("toolName", .str toolName),
    ("toolCallId", .str toolCallId), ("callbackToken", .str callbackToken)]

/-! ## Key orders

Two orders the code does not choose but meets: the canonical one that the hash is said to
use (keys sorted at every level), and the one in which a jsonb column gives an object's
keys back (shorter keys first, keys of one length by their bytes). -/

def keyLe : List Char → List Char → Bool
  | [], _ => true
  | _ :: _, [] => false
  | c :: cs, d :: ds => c.toNat < d.toNat || (c.toNat = d.toNat && keyLe cs ds)

def byKey (a b : String × JsonValue) : Bool := keyLe a.1.data b.1.data

/-- jsonb's order of object keys: shorter first in bytes, then by the bytes, whose order
UTF-8 makes the order of the code points. -/
def jsonbKeyOrder (a b : String × JsonValue) : Bool :=
  a.1.utf8ByteSize < b.1.utf8ByteSize ||
    (a.1.utf8ByteSize = b.1.utf8ByteSize && keyLe a.1.data b.1.data)

mutual
/-- Every object of the value with its members put in the order `le`. -/
def JsonValue.reorder (le : String × JsonValue → String × JsonValue → Bool) :
    JsonValue → JsonValue
  | .arr items => .arr (reorderItems le items)
  | .obj members => .obj ((reorderMembers le members).insertionSort fun a b => le a b)
  | v => v

def reorderItems (le : String × JsonValue → String × JsonValue → Bool) :
    List JsonValue → List JsonValue
  | [] => []
  | v :: vs => v.reorder le :: reorderItems le vs

def reorderMembers (le : String × JsonValue → String × JsonValue → Bool) :
    List (String × JsonValue) → List (String × JsonValue)
  | [] => []
  | (k, v) :: ms => (k, v.reorder le) :: reorderMembers le ms
end

/-- The canonical JSON of a value: keys sorted at every level. -/
def canonicalJson (v : JsonValue) : String := (v.reorder byKey).stringify

/-- Two values equal as JSON values: for objects with no repeated key, the same keys
mapped to equal values at every depth, in whatever order. -/
def JsonEqual (v w : JsonValue) : Prop := v.reorder byKey = w.reorder byKey

/-- What a jsonb column gives back for a value stored in it. -/
def jsonbReadBack (v : JsonValue) : JsonValue := v.reorder jsonbKeyOrder

/-! ## The first characters of a text

Two texts differ where their first characters do; `JSON.stringify` puts an object's first
key right after the opening brace and quote. -/

theorem stringify_obj_take {k : String} {c : Char} {ks : List Char} (hk : k.data = c :: ks)
    (hc : escapeJsonChar c = c.toString) (v : JsonValue) (ms : List (String × JsonValue)) :
    (JsonValue.obj ((k, v) :: ms)).stringify.data.take 3 = ['\x7b', '"', c] := by
  cases ms <;> simp [JsonValue.stringify, stringifyMembers, quoteJsonString, hk, hc, Char.toString]

theorem auditHashBody_eq_iff (previousHash : Option String) (eventType createdAtIso : String)
    (m m' : JsonValue) :
    auditHashBody previousHash eventType m createdAtIso =
        auditHashBody previousHash eventType m' createdAtIso ↔ m.stringify = m'.stringify := by
  simp [auditHashBody, auditHashInput, JsonValue.stringify, stringifyMembers, String.ext_iff]

theorem auditHashBody_take (previousHash : Option String) (eventType : String)
    (metadata : JsonValue) (createdAtIso : String) :
    (auditHashBody previousHash eventType metadata createdAtIso).data.take 3 =
      ['\x7b', '"', 'p'] :=
  stringify_obj_take rfl (by decide) _ _

theorem reorder_auditHashInput (previousHash : Option String) (eventType : String)
    (metadata : JsonValue) (createdAtIso : String) :
    (auditHashInput previousHash eventType metadata createdAtIso).reorder byKey =
      .obj [("createdAtIso", .str createdAtIso), ("eventType", .str eventType),
        ("metadata", metadata.reorder byKey), ("previousHash", previousHash.elim .null .str)] := by
  cases previousHash <;> rfl

theorem jsonbReadBack_requestedMetadata (approvalId toolName toolCallId callbackToken : String) :
    jsonbReadBack (requestedMetadata approvalId toolName toolCallId callbackToken) =
      .obj [("toolName", .str toolName), ("approvalId", .str approvalId),
        ("toolCallId", .str toolCallId), ("callbackToken", .str callbackToken)] := rfl

/-! ## The hashed text depends on the key order -/

/-- For every previous hash, event type and time, and every approval.requested metadata:
the metadata as the jsonb column gives it back is equal to it as a JSON value, yet the text
hashed for it is another than the text hashed at the insert; and no text createAuditHash
hashes is the canonical JSON of its input, which starts with the key `createdAtIso`. -/
theorem audit_hash_text_is_not_canonical (previousHash : Option String)
    (eventType createdAtIso approvalId toolName toolCallId callbackToken : String) :
    JsonEqual (requestedMetadata approvalId toolName toolCallId callbackToken)
        (jsonbReadBack (requestedMetadata approvalId toolName toolCallId callbackToken)) ∧
      auditHashBody previousHash eventType
          (requestedMetadata approvalId toolName toolCallId callbackToken) createdAtIso ≠
        auditHashBody previousHash eventType
          (jsonbReadBack (requestedMetadata approvalId toolName toolCallId callbackToken))
          createdAtIso ∧
      ∀ metadata, auditHashBody previousHash eventType metadata createdAtIso ≠
        canonicalJson (auditHashInput previousHash eventType metadata createdAtIso) := by
  refine ⟨?_, fun h => ?_, fun metadata h => ?_⟩
  · rw [JsonEqual, jsonbReadBack_requestedMetadata]
    rfl
  · have ht := congrArg (·.data.take 3) ((auditHashBody_eq_iff ..).mp h)
    simp only [jsonbReadBack_requestedMetadata] at ht
    rw [requestedMetadata, stringify_obj_take rfl (by decide),
      stringify_obj_take rfl (by decide)] at ht
    simp at ht
  · have ht := congrArg (·.data.take 3) h
    simp only [auditHashBody_take, canonicalJson, reorder_auditHashInput] at ht
    rw [stringify_obj_take rfl (by decide)] at ht
    simp at ht

end ton_agent_bot.audit
