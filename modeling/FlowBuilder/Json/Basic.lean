import FlowBuilder.Text.Glyph

/-!
# JSON values

The decoded form of a JSON text. Whole numbers and doubles are told apart, since their spelling
(`1` or `1.0`) decides how a value is shown and whether it is taken for a number of days. An object
keeps its members in the order in which their keys first appear, with the value stated last.
-/

namespace FlowBuilder

/-- A JSON value. -/
inductive Json where
  /-- `null`. -/
  | null
  /-- `true` or `false`. -/
  | bool (b : Bool)
  /-- A number written without fraction and exponent. -/
  | int (n : Int)
  /-- Any other number. -/
  | float (x : Float)
  /-- A string. -/
  | string (s : List Glyph)
  /-- An array. -/
  | array (items : List Json)
  /-- An object. -/
  | object (members : List (List Glyph × Json))
  deriving Inhabited

namespace Json

/-- The JSON string of ordinary text. -/
def text (s : String) : Json :=
  .string (Glyph.ofString s)

/-- A natural number as a JSON value. -/
def nat (n : Nat) : Json :=
  .int n

/-- An object with ordinary keys. -/
def obj (members : List (String × Json)) : Json :=
  .object (members.map fun (k, v) => (Glyph.ofString k, v))

/-- Members with one more: a key that is there already keeps its place and takes the new value. -/
def put (members : List (List Glyph × Json)) (key : List Glyph) (value : Json) :
    List (List Glyph × Json) :=
  if members.any (·.1 == key) then
    members.map fun (k, v) => (k, if k == key then value else v)
  else members ++ [(key, value)]

/-- The object that a list of members states. -/
def ofMembers (members : List (List Glyph × Json)) : Json :=
  .object (members.foldl (fun ms (k, v) => put ms k v) [])

/-- The value of a key among members. -/
def lookup? (key : String) (members : List (List Glyph × Json)) : Option Json :=
  members.lookup (Glyph.ofString key)

/-- The value of a key, if the value is an object that has it. -/
def field? (key : String) : Json → Option Json
  | .object members => lookup? key members
  | _ => none

/-- The value of a key, or `null` where there is none. -/
def fieldD (key : String) (j : Json) : Json :=
  (j.field? key).getD .null

/-- The text shown for a string value. -/
def string? : Json → Option String
  | .string s => some (Glyph.toString s)
  | _ => none

@[simp]
theorem string?_text (s : String) : (text s).string? = some s := by
  simp [text, string?]

@[simp]
theorem lookup?_nil (key : String) : lookup? key [] = none := rfl

/-- A key is looked up member by member. -/
@[simp]
theorem lookup?_cons_ofString (key k : String) (v : Json) (r : List (List Glyph × Json)) :
    lookup? key ((Glyph.ofString k, v) :: r) = if key = k then some v else lookup? key r := by
  rw [lookup?, List.lookup_cons]
  by_cases hkey : key = k
  · rw [hkey, beq_self_eq_true, if_pos rfl]
  · have hglyphs : Glyph.ofString key ≠ Glyph.ofString k :=
      fun h => hkey (Glyph.ofString_injective h)
    rw [beq_eq_false_iff_ne.2 hglyphs, if_neg hkey]
    rfl

end Json

end FlowBuilder
