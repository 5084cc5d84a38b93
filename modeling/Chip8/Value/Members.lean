import Chip8.Value

/-!
# Value/Members — the order in which the members of a set are shown

A set of numbers is shown in the order of a table in which every number has a place of its own:
`Value.scatter` brings the number into the range of the table, and where its place is taken it goes
on to another one.  Any other set is shown in the order in which its members came.
-/

namespace Chip8.Value

/-- The prime below which scattered numbers lie. -/
def scatterPrime : Nat := (1 <<< 61) - 1

/-- A number that equal truth values and numbers share, from an exact quotient whose denominator is
a power of two. -/
def scatterRatio (num : Int) (den : Nat) : Int :=
  let shift := 61 - Nat.log2 den % 61
  let n : Int := num.natAbs % scatterPrime * (1 <<< shift) % scatterPrime
  let n := if num < 0 then -n else n
  if n = -1 then -2 else n

/-- A number that equal truth values and numbers share; what is no number has none. -/
def scatter? : Value → Option Int
  | real x =>
    if x.isNaN then none
    else if x.isInf then some (if x < 0 then -314159 else 314159)
    else (real x).ratio?.map fun (m, d) => scatterRatio m d
  | v => v.ratio?.map fun (m, d) => scatterRatio m d

/-- The number of places of a table for some members. -/
def tableSize (members : Nat) : Nat :=
  if members ≤ 4 then 8 else 1 <<< (Nat.log2 (2 * members) + 1)

/-- The first free place from one place on: it or one of the nine behind it, or else one further on
that depends on the bits of the number that are left. -/
def freePlace (size : Nat) (taken : List Nat) : Nat → Nat → Nat → Nat
  | 0, place, _ => place
  | fuel + 1, place, bits =>
    let near := if place + 9 < size then List.range' place 10 else [place]
    match near.find? (!taken.contains ·) with
    | some free => free
    | none =>
      let bits := bits >>> 5
      freePlace size taken fuel ((place * 5 + 1 + bits) % size) bits

/-- Members with their places, each put behind those before it. -/
def placed (size : Nat) (members : List (Int × Value)) : List (Nat × Value) :=
  members.foldl (fun table (n, v) =>
    let bits := (n % (1 <<< 64 : Nat)).toNat
    (freePlace size (table.map Prod.fst) (size + 16) (bits % size) bits, v) :: table) []

/-- The members of a set in the order in which they are shown. -/
def shownOrder (members : List Value) : List Value :=
  match members.mapM fun v => v.scatter?.map fun n => (n, v) with
  | some numbers =>
    let table := placed (tableSize members.length) numbers
    (table.mergeSort fun a b => a.1 ≤ b.1).map Prod.snd
  | none => members

end Chip8.Value
