import Chip8.Document.Tag
import Chip8.Moment

/-!
# Document/Word — what kind of value an unquoted word is

A word is a truth value, a number, a date, nothing at all, or a text, by its form alone;
`Tag.ofWord` names the kind.  Halves of characters stand in no form, and a line feed at the end of a
word does not count.
-/

namespace Chip8.Document

namespace Word

/-- The words for truth values. -/
def truths : List String :=
  ["yes", "Yes", "YES", "no", "No", "NO", "true", "True", "TRUE", "false", "False", "FALSE",
    "on", "On", "ON", "off", "Off", "OFF"]

/-- The words for nothing. -/
def nulls : List String := ["", "~", "null", "Null", "NULL"]

/-- Whether a list begins with a character that satisfies `first` and goes on with characters that
satisfy `p`. -/
def consists (first p : Char → Bool) : List Char → Bool
  | [] => false
  | c :: rest => first c && rest.all p

/-- Whether a character is a digit or an underscore. -/
def digitOrJoint (c : Char) : Bool := c.isDigit || c == '_'

/-- Whether a text is one or two digits that count sixtieths. -/
def isSixtieth (s : List Char) : Bool :=
  match s with
  | [a] => a.isDigit
  | [a, b] => '0' ≤ a && a ≤ '5' && b.isDigit
  | _ => false

/-- Whether unsigned text is an integer: in base two, eight, ten, sixteen or sixty. -/
def isInt (s : List Char) : Bool :=
  match s with
  | '0' :: 'b' :: rest => !rest.isEmpty && rest.all fun c => c == '0' || c == '1' || c == '_'
  | '0' :: 'x' :: rest => !rest.isEmpty && rest.all fun c =>
      digitOrJoint c || ('a' ≤ c && c ≤ 'f') || ('A' ≤ c && c ≤ 'F')
  | '0' :: rest => rest.all fun c => c == '_' || ('0' ≤ c && c ≤ '7')
  | s =>
    match Text.pieces ':' s with
    | whole :: rest =>
      consists (fun c => '1' ≤ c && c ≤ '9') digitOrJoint whole && rest.all isSixtieth
    | [] => false

/-- Whether text is an exponent: nothing, or a mark, a sign and digits. -/
def isExponent (s : List Char) : Bool :=
  match s with
  | [] => true
  | mark :: sign :: digits =>
    (mark == 'e' || mark == 'E') && (sign == '+' || sign == '-') &&
      consists Char.isDigit Char.isDigit digits
  | _ => false

/-- Whether text behind a point is digits and an exponent. -/
def isFraction (s : List Char) : Bool := isExponent (s.dropWhile digitOrJoint)

/-- Whether unsigned text is a decimal with a point behind a digit. -/
def isDecimal (s : List Char) : Bool :=
  consists Char.isDigit digitOrJoint (s.takeWhile digitOrJoint) &&
    match s.dropWhile digitOrJoint with
    | '.' :: rest => isFraction rest
    | _ => false

/-- Whether unsigned text is a number in base sixty with a point. -/
def isSexagesimal (s : List Char) : Bool :=
  match s.span (· != '.') with
  | (whole, '.' :: part) =>
    part.all digitOrJoint &&
      match Text.pieces ':' whole with
      | first :: second :: rest =>
        consists Char.isDigit digitOrJoint first && (second :: rest).all isSixtieth
      | _ => false
  | _ => false

/-- Whether text that begins with a point is a decimal. -/
def isPointed (s : List Char) : Bool :=
  match s with
  | '.' :: rest => (rest.headD ' ').isDigit && isFraction rest
  | _ => false

/-- The words for an infinity. -/
def infinities : List String := [".inf", ".Inf", ".INF"]

/-- The words for what is no number. -/
def nans : List String := [".nan", ".NaN", ".NAN"]

/-- Text without a sign in front. -/
def unsigned (s : List Char) : List Char := (Decimal.takeSign s).2

/-- Whether text is a real number. -/
def isFloat (s : List Char) : Bool :=
  let body := unsigned s
  isDecimal body || isPointed s || isSexagesimal body ||
    infinities.contains (String.ofList body) || nans.contains (String.ofList s)

/-- The words that are reserved. -/
def reserved : List String := ["!", "&", "*"]

end Word

/-- The kind of a form. -/
def Tag.ofForm (s : List Char) : Tag :=
  let word := String.ofList s
  if Word.truths.contains word then .bool
  else if Word.nulls.contains word then .null
  else if word = "<<" then .merge
  else if word = "=" then .default
  else if Word.reserved.contains word then .other (common ++ "yaml")
  else if Word.isFloat s then .float
  else if Word.isInt (Word.unsigned s) then .int
  else if Moment.isWord s then .date
  else .str

/-- The kind of an unquoted word. -/
def Tag.ofWord (word : Text) : Tag :=
  let s := word.chars
  if s = ['\n'] then .str
  else Tag.ofForm (if s.getLast? = some '\n' then s.dropLast else s)

end Chip8.Document
