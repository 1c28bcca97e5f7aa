/-
# JSON values

A JSON value keeps what its text says: whole numbers have any size, a number
written with a fraction or an exponent stays a decimal, and the fields of an
object stay in their order.
-/

import DocExamples.Decimal.Shortest
import DocExamples.Disk.Fault
import DocExamples.Text.Quoted

namespace DocExamples

/-- A JSON value. -/
inductive Json where
  /-- The value `null`. -/
  | null
  /-- A truth value. -/
  | bool (b : Bool)
  /-- A whole number. -/
  | int (n : Int)
  /-- A number with a fraction or an exponent. -/
  | decimal (d : Decimal)
  /-- A text. -/
  | string (s : Text)
  /-- A list of values. -/
  | array (items : List Json)
  /-- Named values, in order. -/
  | object (fields : List (Text × Json))
deriving Repr

namespace Json

/-- A field of an object. -/
abbrev Field := Text × Json

/-- The value of the field with a name, if there is one. -/
def field? (name : Text) : Json → Option Json
  | .object fs => (fs.find? fun f => f.1 == name).map (·.2)
  | _ => none

/-- The value of the field with a name, or else a default. -/
def fieldOr (v : Json) (name : Text) (default : Json) : Json := (field? name v).getD default

/-- The value of the field with a name, or else `null`. -/
def field (v : Json) (name : Text) : Json := v.fieldOr name .null

/-- Whether a value counts as absent: null, false, zero, or empty. -/
def isEmpty : Json → Bool
  | .null => true
  | .bool b => !b
  | .int n => n == 0
  | .decimal d => d.isZero
  | .string s => s.isEmpty
  | .array items => items.isEmpty
  | .object fields => fields.isEmpty

mutual

/-- A value as messages show it: `None`, `True` and `False` for the constants,
and texts in quotes. -/
def shown : Json → Text
  | .null => "None".toList
  | .bool true => "True".toList
  | .bool false => "False".toList
  | .int n => Text.integer n
  | .decimal d => d.shown
  | .string s => Text.quoted s
  | .array items => '[' :: Text.joined ", ".toList (shownItems items) ++ [']']
  | .object fields => '\x7b' :: Text.joined ", ".toList (shownFields fields) ++ ['\x7d']

/-- The items of a list as messages show them. -/
def shownItems : List Json → List Text
  | [] => []
  | v :: vs => shown v :: shownItems vs

/-- The fields of an object as messages show them. -/
def shownFields : List (Text × Json) → List Text
  | [] => []
  | (k, v) :: fs => (Text.quoted k ++ ": ".toList ++ shown v) :: shownFields fs

end

/-- Why a value cannot be shown, where there is room for so many values within values: the
first of what it holds that is nested too deep or has too many digits. -/
def hidden? : (room : Nat) → Json → Option Failure
  | 0, _ => some (.tooDeep "getting the repr of an object".toList)
  | _ + 1, .int n =>
    if Text.digitLimit < (Text.decimal n.natAbs).length then some .tooManyDigits else none
  | room + 1, .array items => items.findSome? (hidden? room)
  | room + 1, .object fields =>
    fields.findSome? fun f => (hidden? room (.string f.1)).or (hidden? room f.2)
  | _ + 1, _ => none

/-- What a value is, as messages name it. -/
def kind : Json → Text
  | .null => "NoneType".toList
  | .bool _ => "bool".toList
  | .int _ => "int".toList
  | .decimal _ => "float".toList
  | .string _ => "str".toList
  | .array _ => "list".toList
  | .object _ => "dict".toList

/-- The texts of a list that holds texts only. -/
def texts? : Json → Option (List Text)
  | .array items => items.mapM fun
    | .string s => some s
    | _ => none
  | _ => none

end Json
end DocExamples
