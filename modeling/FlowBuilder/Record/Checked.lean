import FlowBuilder.Json.Basic

/-!
# Checked records

What comes of reading a record from JSON: the record, or everything that is wrong with it. A defect
says what is wrong and where: a path of keys and positions from the outermost value inwards. Reading
goes on after a defect, so that all of them are reported, in the order of the fields.
-/

namespace FlowBuilder

/-- What is wrong with a part of a record. -/
inductive DefectKind where
  /-- A field is missing. -/
  | missing
  /-- A record is not an object. -/
  | notObject
  /-- A part of a request body is not an object. -/
  | notBodyObject
  /-- A text is not a string. -/
  | notString
  /-- A text that states a value has a lone surrogate. -/
  | notUnicode
  /-- A text has too few characters. -/
  | stringTooShort
  /-- A list is not an array. -/
  | notList
  /-- A list has too few entries. -/
  | listTooShort
  /-- A text is none of the values of its type. -/
  | notMember
  /-- A whole number is no value that could state one. -/
  | notInt
  /-- The text of a whole number is none. -/
  | unreadableInt
  /-- A whole number is too large to be read. -/
  | intTooLarge
  /-- A whole number has a fraction. -/
  | fractionalInt
  /-- A whole number is infinite or no number. -/
  | notFinite
  /-- A number is less than the least one allowed. -/
  | belowMinimum
  /-- A number is not greater than its bound. -/
  | notAboveBound
  /-- A number is no value that could state one. -/
  | notFloat
  /-- The text of a number is none. -/
  | unreadableFloat
  /-- A truth value is no value that could state one. -/
  | notBool
  /-- The text or number of a truth value is none. -/
  | unreadableBool
  /-- The emails of a plan are not numbered in order. -/
  | misnumbered (message : String)
  /-- The body of a request is not JSON. -/
  | notJson
  deriving DecidableEq, Repr

/-- The code by which a defect is reported. -/
def DefectKind.code : DefectKind → String
  | .missing => "missing"
  | .notObject => "model_type"
  | .notBodyObject => "model_attributes_type"
  | .notString => "string_type"
  | .notUnicode => "string_unicode"
  | .stringTooShort => "string_too_short"
  | .notList => "list_type"
  | .listTooShort => "too_short"
  | .notMember => "enum"
  | .notInt => "int_type"
  | .unreadableInt => "int_parsing"
  | .intTooLarge => "int_parsing_size"
  | .fractionalInt => "int_from_float"
  | .notFinite => "finite_number"
  | .belowMinimum => "greater_than_equal"
  | .notAboveBound => "greater_than"
  | .notFloat => "float_type"
  | .unreadableFloat => "float_parsing"
  | .notBool => "bool_type"
  | .unreadableBool => "bool_parsing"
  | .misnumbered _ => "value_error"
  | .notJson => "json_invalid"

/-- The wording of a defect, for those that have one of their own. -/
def DefectKind.message? : DefectKind → Option String
  | .misnumbered message => some message
  | _ => none

/-- A step into a value. -/
inductive PathStep where
  /-- To the value of a key, or to a reading of the value by this name. -/
  | key (name : String)
  /-- To an entry of a list, or to a character of a text. -/
  | index (i : Nat)
  deriving DecidableEq, Repr

/-- A defect and its place. -/
structure Defect where
  /-- What is wrong. -/
  kind : DefectKind
  /-- Where, from the outermost value inwards. -/
  path : List PathStep
  deriving DecidableEq, Repr

/-- The part of a value to which a step leads; `null` where it leads nowhere. -/
def PathStep.follow : PathStep → Json → Json
  | .key name, j => j.fieldD name
  | .index i, .array items => items.getD i .null
  | .index _, _ => .null

/-- The part of a value in which a defect is found. A missing field is missed in its object. -/
def Defect.part (d : Defect) (j : Json) : Json :=
  let path := if d.kind = .missing then d.path.dropLast else d.path
  path.foldl (fun part step => step.follow part) j

/-- A record that was read, or its defects. -/
inductive Checked (α : Type) where
  /-- The record. -/
  | ok (value : α)
  /-- What is wrong with it. -/
  | bad (defects : List Defect)

namespace Checked

variable {α β : Type}

/-- A single defect at the value itself. -/
def fail (kind : DefectKind) : Checked α :=
  .bad [⟨kind, []⟩]

/-- The outcome with the record changed. -/
def map (f : α → β) : Checked α → Checked β
  | .ok a => .ok (f a)
  | .bad ds => .bad ds

/-- The outcome of two readings: all defects of both, those of the first one first. -/
def ap : Checked (α → β) → Checked α → Checked β
  | .ok f, .ok a => .ok (f a)
  | .ok _, .bad ds => .bad ds
  | .bad ds, .ok _ => .bad ds
  | .bad ds, .bad es => .bad (ds ++ es)

/-- The outcome of a check of the record that was read. -/
def andThen (a : Checked α) (f : α → Checked β) : Checked β :=
  match a with
  | .ok a => f a
  | .bad ds => .bad ds

/-- The outcome seen from one step further out. -/
def within (step : PathStep) : Checked α → Checked α
  | .ok a => .ok a
  | .bad ds => .bad (ds.map fun d => { d with path := step :: d.path })

/-- The record, if it was read. -/
def toOption : Checked α → Option α
  | .ok a => some a
  | .bad _ => none

instance : Functor Checked where
  map := map

instance : Applicative Checked where
  pure := .ok
  seq f a := ap f (a ())

@[simp]
theorem map_ok (f : α → β) (a : α) : f <$> (Checked.ok a) = .ok (f a) := rfl

@[simp]
theorem seq_ok (f : α → β) (a : α) : (Checked.ok f) <*> (Checked.ok a) = .ok (f a) := rfl

@[simp]
theorem within_ok (step : PathStep) (a : α) : within step (.ok a) = .ok a := rfl

end Checked

end FlowBuilder
