import FlowBuilder.Plan.Normal

/-!
# Plans in replies

A model wraps its plan in prose and code fences. The plan is the first part of the reply that reads
as a JSON object: every opening brace is tried in turn, so that braces in the prose do no harm. The
text of that object is then read a second time, with less room for nesting.
-/

namespace FlowBuilder

/-- An object in a text: its part of the text, and its value. -/
structure LocatedObject where
  /-- The text of the object. -/
  span : List Glyph
  /-- What the text states. -/
  value : Json

/-- The first JSON object in a text, if there is one. A brace at which no object can be read is
passed over; only a text that nests too deep stops the search. -/
def firstObject? (depth : Nat) : List Glyph → Except Fault (Option LocatedObject)
  | [] => .ok none
  | g :: r =>
    if g = .char '\x7b' then
      match Json.value Json.asNumber depth (g :: r) with
      | .ok (v, ⟨rest, _⟩) => .ok (some ⟨(g :: r).take ((g :: r).length - rest.length), v⟩)
      | .error .nestingTooDeep => .error .nestingTooDeep
      | .error _ => firstObject? depth r
    else firstObject? depth r

/-- The first JSON object in a reply. An absent reply is an empty one. -/
def locateObject (depth : Nat) (reply : Option String) :
    Except (Failure PlanDefect) LocatedObject :=
  match firstObject? depth (Glyph.ofString (reply.getD "")) with
  | .error f => .error (.fault f)
  | .ok none => .error (.error .noObject)
  | .ok (some located) => .ok located

/-- What the text of an object states, read again on its own. -/
def LocatedObject.decode (depth : Nat) (located : LocatedObject) : Except Fault Json :=
  match Json.readGlyphs depth located.span with
  | .ok v => .ok v
  | .error .nestingTooDeep => .error .nestingTooDeep
  | .error .numberTooLong => .error .numberTooLong
  | .error (.malformed _) => .error .objectNotJson

/-- The plan in a model's reply. -/
def Plan.ofReply (limits : DepthLimits) (reply : Option String) :
    Except (Failure PlanDefect) Plan := do
  let located ← locateObject limits.search reply
  let raw ← orFault (located.decode limits.decode)
  Plan.ofJson limits raw

end FlowBuilder
