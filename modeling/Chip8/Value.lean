import Chip8.Decimal.Layout
import Chip8.Moment
import Chip8.Text.Quoted

/-!
# Value — data of documents: scalars, lists and mappings

A mapping keeps its entries in the order in which their keys first came, and a later entry with an
equal key replaces the value.  Numbers and truth values that are numerically equal are equal keys.
-/

namespace Chip8

/-- A value of a document. -/
inductive Value
  | null
  | bool (b : Bool)
  | int (n : Int)
  | real (x : Float)
  | text (t : Text)
  | bytes (b : List UInt8)
  | moment (m : Moment)
  | list (items : List Value)
  | pair (first second : Value)
  /-- Values without order and repetition, in the order in which they are shown. -/
  | set (members : List Value)
  | mapping (entries : List (Value × Value))
  /-- A list or a mapping inside itself, which is not shown again. -/
  | cut (isMapping : Bool)
  deriving Inhabited

namespace Value

/-- The name of a value's kind. -/
def kind : Value → String
  | null => "NoneType"
  | bool _ => "bool"
  | int _ => "int"
  | real _ => "float"
  | text _ => "str"
  | bytes _ => "bytes"
  | moment m => m.kind
  | list _ => "list"
  | pair .. => "tuple"
  | set _ => "set"
  | mapping _ => "dict"
  | cut isMapping => if isMapping then "dict" else "list"

/-- The name of a value's kind without the module in front of it. -/
def bareKind (v : Value) : String := (v.kind.splitOn ".").getLast?.getD v.kind

/-- Whether there are values inside a value. -/
def isNested : Value → Bool
  | list _ | pair .. | set _ | mapping _ => true
  | _ => false

mutual

/-- A value as it is written inside a list or a mapping: texts in quotes. -/
def written : Value → String
  | null => "None"
  | bool b => if b then "True" else "False"
  | int n => toString n
  | real x => Decimal.text x
  | text t => Text.quoted t
  | bytes b => Text.quotedBytes b
  | moment m => m.written
  | list items => "[" ++ ", ".intercalate (writtenItems items) ++ "]"
  | pair a b => "(" ++ a.written ++ ", " ++ b.written ++ ")"
  | set [] => "set()"
  | set (v :: rest) => "\x7b" ++ ", ".intercalate (v.written :: writtenItems rest) ++ "\x7d"
  | mapping entries => "\x7b" ++ ", ".intercalate (writtenEntries entries) ++ "\x7d"
  | cut isMapping => if isMapping then "\x7b...\x7d" else "[...]"

/-- Each item as it is written. -/
def writtenItems : List Value → List String
  | [] => []
  | v :: rest => v.written :: writtenItems rest

/-- Each entry as it is written, a colon between key and value. -/
def writtenEntries : List (Value × Value) → List String
  | [] => []
  | (k, v) :: rest => (k.written ++ ": " ++ v.written) :: writtenEntries rest

end

/-- A value as it is shown by itself: a text without quotes. -/
def shown : Value → Text
  | text t => t
  | moment m => m.shown
  | v => v.written

mutual

/-- Whether a value holds an integer that is too long to be written. -/
def holdsLong : Value → Bool
  | int n => Decimal.isLong n
  | list items => anyLong items
  | pair a b => a.holdsLong || b.holdsLong
  | set members => anyLong members
  | mapping entries => anyEntryLong entries
  | _ => false

/-- Whether one of some values holds an integer that is too long. -/
def anyLong : List Value → Bool
  | [] => false
  | v :: rest => v.holdsLong || anyLong rest

/-- Whether one of some entries holds an integer that is too long. -/
def anyEntryLong : List (Value × Value) → Bool
  | [] => false
  | (k, v) :: rest => k.holdsLong || v.holdsLong || anyEntryLong rest

end

/-- Whether a value counts as absent where a default may take its place: nothing, false, zero, or
without content. -/
def isBlank : Value → Bool
  | null => true
  | bool b => !b
  | int n => n == 0
  | real x => x == 0
  | text t => t.isEmpty
  | bytes b => b.isEmpty
  | list items => items.isEmpty
  | set members => members.isEmpty
  | mapping entries => entries.isEmpty
  | _ => false

/-! ## Mappings -/

/-- A truth value or a number as an exact quotient of integers. -/
def ratio? : Value → Option (Int × Nat)
  | bool b => some (if b then 1 else 0, 1)
  | int n => some (n, 1)
  | real x =>
    match Binary.ofFloat x with
    | .finite negative mantissa exponent =>
      let (num, den) := Binary.ratio mantissa exponent
      some (if negative then -(num : Int) else num, den)
    | _ => none
  | _ => none

/-- Whether two keys name the same entry. -/
def sameKey : Value → Value → Bool
  | null, null => true
  | text a, text b => a == b
  | bytes a, bytes b => a == b
  | moment a, moment b => a.same b
  | real x, real y => x == y
  | a, b =>
    match a.ratio?, b.ratio? with
    | some (m, d), some (n, e) => m * e == n * d
    | _, _ => false

/-- The entries with one more: an equal key keeps its place and gets the new value. -/
def put (key value : Value) : List (Value × Value) → List (Value × Value)
  | [] => [(key, value)]
  | (k, v) :: rest =>
    if k.sameKey key then (k, value) :: rest else (k, v) :: put key value rest

/-- The value of a key, if there is an entry with it. -/
def get? (key : Value) (entries : List (Value × Value)) : Option Value :=
  (entries.find? fun (k, _) => k.sameKey key).map Prod.snd

end Value

end Chip8
