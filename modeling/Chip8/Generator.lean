/-!
# Generator — a source of integers and what was asked of it

A generator is its whole future and its past: the values it will give, by position, and the bounds
of every request so far.  As many values are used up as there were requests.
-/

namespace Chip8

/-- A source of random integers. -/
structure Generator where
  /-- The value behind each draw. -/
  values : Nat → Int
  /-- The bounds of the requests made so far, oldest first. -/
  requests : Array (Int × Int)

namespace Generator

/-- The generator that goes through a list again and again; an empty list gives zeros. -/
def cycling (values : Array Int) : Generator where
  values := fun n => (values[n % values.size]?).getD 0
  requests := #[]

/-- The number of draws made so far. -/
def drawn (g : Generator) : Nat := g.requests.size

/-- An integer from `low` to `high`, both included, and the generator after it. -/
def between (g : Generator) (low high : Int) : Int × Generator :=
  (low + g.values g.drawn % (high - low + 1),
    { g with requests := g.requests.push (low, high) })

end Generator

end Chip8
