import FlowBuilder.Credential.Base64
import FlowBuilder.Credential.PublicKey
import FlowBuilder.Failure
import FlowBuilder.Json.Reader
import FlowBuilder.Text.Encoding

/-!
# Signing secrets

The keys that a secret states. A plain text is one key. A secret that is itself JSON states its keys
in one of the usual forms: a set of keys, a single key, a table of keys, a list of them, or a
string; a number in it counts as the text in which it is written. Keys for public-key signatures are
refused where they are met.
-/

namespace FlowBuilder.Secret

/-- A key as it is stated. -/
inductive Key where
  /-- Text. -/
  | text (s : List Glyph)
  /-- An object. -/
  | object (members : List (List Glyph × Json))
  /-- Anything else. -/
  | other

/-- The key that a value states. -/
def keyOfJson : Json → Key
  | .string s => .text s
  | .object members => .object members
  | _ => .other

/-- The keys of a value that holds a set of keys. A text counts as one key for each character, and
an object as its own keys. -/
def keySet : Json → Except Fault (List Key)
  | .array items => .ok (items.map keyOfJson)
  | .object members => .ok (members.map fun (k, _) => .text k)
  | .string s => .ok (s.map fun g => .text [g])
  | _ => .error .keysNotList

/-- The keys that a secret states, whose values may nest so deep. -/
def keys (depth : Nat) (secret : List Char) : Except Fault (List Key) :=
  match Json.readBy Json.ofMembers Json.asWritten depth (secret.map .char) with
  | .error _ => .ok [.text (secret.map .char)]
  | .ok (.object members) =>
    match Json.lookup? "keys" members with
    | some set => keySet set
    | none =>
      if (Json.lookup? "kty" members).isSome || members.isEmpty then .ok [.object members]
      else .ok (members.map fun (_, v) => keyOfJson v)
  | .ok (.array items) => .ok (items.map keyOfJson)
  | .ok j => .ok [keyOfJson j]

/-- The characters of a key, which must be ordinary ones. -/
def ordinary (s : List Glyph) : Except Fault (List Char) :=
  match Glyph.chars? s with
  | some cs => .ok cs
  | none => .error .keyNotEncodable

/-- The bytes that the members of an object state as a key. -/
def memberBytes (members : List (List Glyph × Json)) : Except Fault (List UInt8) :=
  match (Json.lookup? "kty" members).bind Json.string? with
  | some "oct" =>
    match Json.lookup? "k" members with
    | some (.string s) => do
      let cs ← ordinary s
      match Base64.decode (Text.utf8Bytes cs) with
      | some bytes => return bytes
      | none => throw .keyNotDecodable
    | _ => .error .keyNotText
  | _ => .error .unusableKey

/-- The bytes of a key. -/
def Key.bytes : Key → Except Fault (List UInt8)
  | .text s => do
    let cs ← ordinary s
    if PublicKey.isStatedBy cs then throw .unusableKey else return Text.utf8Bytes cs
  | .object members => memberBytes members
  | .other => .error .unusableKey

/-- Whether one of the keys passes a check. Keys are tried in order, and one that cannot be used
ends the trial. -/
def anyKey (passes : List UInt8 → Bool) : List Key → Except Fault Bool
  | [] => .ok false
  | key :: r =>
    match key.bytes with
    | .error f => .error f
    | .ok bytes => if passes bytes then .ok true else anyKey passes r

end FlowBuilder.Secret
