import Chip8.Startup.Switch
import Chip8.Text.Digit

/-!
# Startup/Part — a command line taken apart

Every argument is a word or begins with a switch.  A long switch may be shortened as long as no
other begins alike, short ones may be joined behind one dash, and behind two dashes everything is a
word.
-/

namespace Chip8

/-- Why the command line is not followed. -/
inductive Stop
  /-- Help is asked for. -/
  | help
  /-- It cannot be understood. -/
  | misuse
  deriving DecidableEq, Repr

/-- A part of the command line. -/
inductive Part
  | word (t : Text)
  /-- Two dashes: all that follow are words. -/
  | separator
  /-- A switch, whether it was given by one dash, and the text attached to it. -/
  | switch (s : Switch) (short : Bool) (attached : Option Text)
  /-- A switch that there is not. -/
  | stranger

namespace Part

/-- Whether a character is a decimal digit of any script. -/
def isDigit (c : Char) : Bool := c.isDigit || (Text.digit? c).isSome

/-- Whether a text is a negative number: a dash, and digits with at most a point before the last.  A
line feed at the end does not count. -/
def isNegative (t : Text) : Bool :=
  let s := t.chars
  match if s.getLast? = some '\n' then s.dropLast else s with
  | '-' :: body =>
    match body.dropWhile isDigit with
    | [] => !body.isEmpty
    | '.' :: rest => !rest.isEmpty && rest.all isDigit
    | _ => false
  | _ => false

/-- The text up to the first equals sign, and what the sign attaches to it. -/
def splitEquals (t : Text) : Text × Option Text :=
  match t.span fun p => !p.is '=' with
  | (start, _ :: attached) => (start, some attached)
  | (start, []) => (start, none)

/-- Whether a text begins with two dashes. -/
def isLong (t : Text) : Bool := (Text.ofString "--").isPrefixOf t

/-- What a text that begins with a dash is if it is no exact spelling of a switch. -/
def loosely (t : Text) : Except Stop Part :=
  let other : Part := if isNegative t || t.any (·.is ' ') then .word t else .stranger
  if isLong t then
    let (start, attached) := splitEquals t
    match Switch.beginning start with
    | [] => .ok other
    | [found] => .ok (.switch found false attached)
    | _ => .error .misuse
  else
    match Switch.ofSpelling? (t.take 2) with
    | some found => .ok (.switch found true (some (t.drop 2)))
    | none => .ok other

/-- What a text of the command line is. -/
def ofText (t : Text) : Except Stop Part :=
  let (start, attached) := splitEquals t
  if (t.head?.map (·.is '-')).getD false = false ∨ t.length = 1 then .ok (.word t)
  else match Switch.ofSpelling? t with
    | some found => .ok (.switch found (!isLong t) none)
    | none =>
      match attached, Switch.ofSpelling? start with
      | some value, some found => .ok (.switch found (!isLong start) (some value))
      | _, _ => loosely t

/-- The parts of a command line. -/
def ofArguments : List Text → Except Stop (List Part)
  | [] => .ok []
  | t :: rest =>
    if t = Text.ofString "--" then .ok (.separator :: rest.map .word)
    else do
      let part ← ofText t
      return part :: (← ofArguments rest)

/-! ## Joined switches -/

/-- The switches that are joined behind a switch with a text attached to it, each with its value if
one is attached.  The text is the value of a switch that takes one; otherwise its first letter is
the next switch and the rest is attached to that.  Nothing may be attached to a long switch without
a value. -/
def joinedWith (s : Switch) (short : Bool) : Text → Except Stop (List (Switch × Option Text))
  | [] => if s.takesValue then .ok [(s, some [])] else .error .misuse
  | p :: rest =>
    if s.takesValue then .ok [(s, some (p :: rest))]
    else if !short then .error .misuse
    else match Switch.ofSpelling? [CodePoint.ofChar '-', p] with
      | none => .error .misuse
      | some next =>
        if rest.isEmpty then .ok [(s, none), (next, none)]
        else do return (s, none) :: (← joinedWith next true rest)

/-- The switches of a part that begins with a switch. -/
def joined (s : Switch) (short : Bool) : Option Text → Except Stop (List (Switch × Option Text))
  | none => .ok [(s, none)]
  | some attached => joinedWith s short attached

/-- Whether the last of some switches still needs a value. -/
def needsValue (switches : List (Switch × Option Text)) : Bool :=
  match switches.getLast? with
  | some (s, none) => s.takesValue
  | _ => false

end Part

end Chip8
