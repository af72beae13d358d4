import FlowBuilder.Text.Blank

/-!
# Sections of a written email

The model marks the subject and the body of an email by `SUBJECT:` and `BODY:`, in letters of either
case. Each section is searched on its own over the whole reply: it starts at the first marker after
which there is something to read. Where a marker is missing, a default stands in, and the content
says so.
-/

namespace FlowBuilder

/-- An email as the model wrote it. -/
structure EmailContent where
  /-- The subject. -/
  subject : String
  /-- The body. -/
  body : String
  /-- Whether the subject is a default. -/
  subjectFallback : Bool := false
  /-- Whether the body is the whole reply. -/
  bodyFallback : Bool := false
  deriving DecidableEq, Repr

/-- A letter without its case. The long s (U+017F) counts as an `s`. -/
def foldLetter (c : Char) : Char :=
  if c = '\u017F' then 's' else c.toLower

/-- What follows a marker at the front of a text, if it stands there in any case. -/
def afterMarker? : (marker text : List Char) → Option (List Char)
  | [], text => some text
  | _ :: _, [] => none
  | m :: ms, c :: cs => if foldLetter c = foldLetter m then afterMarker? ms cs else none

/-- What a section holds, by the first marker in a text for which `content?` finds something. -/
def firstSection? (marker : List Char) (content? : List Char → Option (List Char)) :
    List Char → Option (List Char)
  | [] => none
  | c :: r =>
    match (afterMarker? marker (c :: r)).bind content? with
    | some content => some content
    | none => firstSection? marker content? r

/-- A text after the gap at its front. The gap leaves at least one character to the text; an empty
text has none to leave. -/
def afterGap? (isGap : Char → Bool) (cs : List Char) : Option (List Char) :=
  match cs.dropWhile isGap, cs.getLast? with
  | [], last => last.map ([·])
  | content, _ => some content

/-- Whether a character is a gap within a line. -/
def isLineGap (c : Char) : Bool :=
  c = ' ' || c = '\t'

/-- The content of a subject section: the rest of the line, which is not empty. -/
def subjectContent? (cs : List Char) : Option (List Char) :=
  afterGap? isLineGap (cs.takeWhile (· ≠ '\n'))

/-- The content of a body section: the rest of the reply, which is not empty. -/
def bodyContent? (cs : List Char) : Option (List Char) :=
  afterGap? Text.isBlank cs

/-- The subject section of a reply, without the blanks around it; empty if there is none. -/
def subjectSection (reply : List Char) : List Char :=
  Text.trim ((firstSection? "SUBJECT:".toList subjectContent? reply).getD [])

/-- The body section of a reply, without the blanks around it. -/
def bodySection? (reply : List Char) : Option (List Char) :=
  (firstSection? "BODY:".toList bodyContent? reply).map Text.trim

/-- The email that a reply holds. An absent reply is an empty one. -/
def EmailContent.ofReply (reply : Option String) (fallbackSubject : String) : EmailContent :=
  let text := (reply.getD "").toList
  let subject := subjectSection text
  let body? := bodySection? text
  { subject := if subject = [] then fallbackSubject else String.ofList subject
    body := String.ofList (body?.getD (Text.trim text))
    subjectFallback := subject.isEmpty
    bodyFallback := body?.isNone }

end FlowBuilder
