import Chip8.Config.Reader
import Chip8.Decimal.Reader
import Chip8.Text.Utf8

/-!
# Document/Failure — why a document has no value

A document that breaks the rules is malformed.  One that does not can still hold a word that has no
value under its kind, a `Misfit`, or lie in a file that is no text.  A `Flaw` is a failure with its
place.
-/

namespace Chip8.Document

/-- Why a word has no value under its kind. -/
inductive Misfit
  /-- A numeral that cannot be read. -/
  | numeral (cause : Decimal.Misread)
  /-- A number without a digit. -/
  | emptyNumber
  /-- A number in base sixty with a place beyond the doubles. -/
  | wideNumber
  /-- A word for neither truth value. -/
  | truth (word : Text)
  /-- A text that is no date. -/
  | noDate
  /-- A mapping where the text of a date has to stand. -/
  | datedMapping
  /-- A date that no calendar has. -/
  | date (problem : String)
  /-- An escape for a number that is no code point. -/
  | codePoint (number : Nat)
  /-- A mapping whose default is itself, so that it has no word. -/
  | endless
  deriving DecidableEq, Repr

namespace Misfit

/-- The wording of a misfit. -/
def message : Misfit → String
  | numeral m => m.message
  | emptyNumber => "string index out of range"
  | wideNumber => "int too large to convert to float"
  | truth w => Text.quoted w
  | noDate => "'NoneType' object has no attribute 'groupdict'"
  | datedMapping => "expected string or bytes-like object, got 'list'"
  | date problem => problem
  | codePoint n =>
    if n < 0x80000000 then "chr() arg not in range(0x110000)"
    else "Python int too large to convert to C int"
  | endless => "maximum recursion depth exceeded"

end Misfit

/-- Why a document has no value. -/
inductive Failure
  /-- It breaks the rules of documents. -/
  | malformed
  /-- A word has no value under its kind. -/
  | misfit (cause : Misfit)
  /-- It lies in bytes that are no text. -/
  | encoding (cause : Text.Utf8Error)
  deriving DecidableEq, Repr

/-- The family of the error that a misfit is. -/
def Misfit.family : Misfit → Config.ErrorFamily
  | numeral _ => .value
  | date _ => .value
  | codePoint n => if n < 0x80000000 then .value else .other
  | _ => .other

/-- The error that a failure is; the words for a malformed document are this reader's own. -/
def Failure.unloadable : Failure → Config.Unloadable
  | malformed => ⟨.document, "the document is malformed"⟩
  | misfit cause => ⟨cause.family, cause.message⟩
  | encoding cause => ⟨.value, cause.message⟩

/-- Why a text cannot be read on from a place in it. -/
structure Flaw where
  /-- The number of characters in front of the place. -/
  index : Nat
  cause : Failure
  deriving DecidableEq, Repr

end Chip8.Document
