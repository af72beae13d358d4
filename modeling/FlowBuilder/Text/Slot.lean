/-!
# Slots

Filling the slots of a template: every occurrence of a slot's name in a text is replaced, from left
to right; what has been put in is not searched again.
-/

namespace FlowBuilder.Text

/-- A text with every occurrence of `slot` replaced. The first `skip` characters belong to an
occurrence that is replaced already. -/
def fillFrom (slot filling : List Char) : Nat → List Char → List Char
  | _, [] => []
  | skip + 1, _ :: r => fillFrom slot filling skip r
  | 0, c :: r =>
    if slot.isPrefixOf (c :: r) then filling ++ fillFrom slot filling (slot.length - 1) r
    else c :: fillFrom slot filling 0 r

/-- A text with every occurrence of `slot` replaced by `filling`. -/
def fill (slot filling : String) (template : List Char) : List Char :=
  fillFrom slot.toList filling.toList 0 template

end FlowBuilder.Text
