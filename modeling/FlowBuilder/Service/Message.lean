import FlowBuilder.Json.Reader
import FlowBuilder.Record.Checked
import FlowBuilder.Text.Blank
import FlowBuilder.Text.Encoding

/-!
# Messages of the service

Requests to the service and its responses. The body of a request is taken for JSON only if its type
says so.
-/

namespace FlowBuilder

/-- A request to the service. -/
structure HttpRequest where
  /-- The method. -/
  method : String
  /-- The path. -/
  path : String
  /-- The headers, whose values are bytes. -/
  headers : List (String × List UInt8)
  /-- The body. -/
  body : List UInt8
  deriving DecidableEq, Repr

/-- The body of a response. -/
inductive HttpBody where
  /-- JSON. -/
  | json (value : Json)
  /-- Plain text. -/
  | text (s : String)
  /-- What is wrong with the request. -/
  | defects (ds : List Defect)

/-- A response. -/
structure HttpResponse where
  /-- The status. -/
  status : Nat
  /-- The body. -/
  body : HttpBody

namespace HttpRequest

/-- The value of a header, whose name is in lowercase. It has one character for each byte. -/
def header? (r : HttpRequest) (name : String) : Option String :=
  (r.headers.find? fun (n, _) => n.toList.map Char.toLower == name.toList).map fun (_, value) =>
    String.ofList (Text.ofBytes value)

/-- Whether a type of content is a form of JSON. -/
def isJsonType (contentType : String) : Bool :=
  let essence := (contentType.toList.takeWhile (· ≠ ';')).map Char.toLower
  let essence := Text.trim essence
  if essence.count '/' ≠ 1 then false
  else
    let kind := essence.takeWhile (· ≠ '/')
    let form := (essence.dropWhile (· ≠ '/')).drop 1
    kind == "application".toList &&
      (form == "json".toList || ['n', 'o', 's', 'j', '+'].isPrefixOf form.reverse)

/-- Whether the body is to be read as JSON. -/
def hasJsonBody (r : HttpRequest) : Bool :=
  (r.header? "content-type").any isJsonType

end HttpRequest

/-- What the body of a request holds. -/
inductive Payload where
  /-- Nothing. -/
  | empty
  /-- JSON. -/
  | json (value : Json)
  /-- Something else. -/
  | other

/-- A failure to read a body. -/
inductive BodyError where
  /-- It stops being JSON at a character. -/
  | notJson (position : Nat)
  /-- It is not in its encoding, or goes beyond a limit of reading. -/
  | unreadable
  deriving DecidableEq, Repr

/-- What the body of a request holds. The values in it may nest so deep. -/
def HttpRequest.payload (depth : Nat) (r : HttpRequest) : Except BodyError Payload :=
  if r.body.isEmpty then .ok .empty
  else if r.hasJsonBody then
    match Text.ofEncoded? r.body with
    | none => .error .unreadable
    | some text =>
      match Json.readGlyphs depth text with
      | .ok v => .ok (.json v)
      | .error (.malformed left) => .error (.notJson (text.length - left))
      | .error _ => .error .unreadable
  else .ok .other

end FlowBuilder
