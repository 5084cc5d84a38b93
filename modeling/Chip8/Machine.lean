import Chip8.Machine.Clock
import Chip8.Machine.Execution
import Chip8.Instruction.Decoding

/-!
# Machine — fetching, executing and keeping time

`Machine.step` runs one instruction.  `Machine.advance` lets time pass: it is cut into slots of one
cycle each, a slot runs one instruction or, while a key is awaited, nothing, and what is left over
is carried to the next call.  The timers have a period of their own.
-/

namespace Chip8

/-- A machine: its program image, the length of a cycle, its state and the time not yet used. -/
structure Machine where
  image : Array UInt8
  /-- The microseconds of one cycle. -/
  cycle : Nat
  cycle_pos : 0 < cycle
  state : State
  /-- The number of instructions completed. -/
  count : Nat
  /-- The microseconds not yet used by cycles. -/
  sinceCycle : Nat
  /-- The microseconds not yet used by timer ticks. -/
  sinceTimer : Nat

/-- The record of one completed instruction. -/
structure Snapshot where
  counter : Int
  opcode : Int
  instruction : Instruction
  count : Int

namespace Snapshot

/-- The address, the word and the assembly of an instruction. -/
def text (s : Snapshot) : String :=
  s!"0x{Hex.text 4 s.counter}: 0x{Hex.text 4 s.opcode} => {s.instruction.text}"

end Snapshot

/-- What one step did. -/
structure Step where
  machine : Machine
  /-- The word that was fetched, if one was. -/
  fetched : Option Int
  result : Except Failure Snapshot

/-- What a stretch of time did. -/
structure Stretch where
  machine : Machine
  /-- The words that were fetched, in order. -/
  trace : Array Int
  /-- The failure that ended it early, if one did. -/
  failure : Option Failure

namespace Machine

/-- The microseconds of one timer tick, sixty to the second. -/
def timerPeriod : Nat := 16667

/-- A machine with a program image at a clock speed. -/
def create (image : Array UInt8) (speed : Number) (generator : Generator) :
    Except Refusal Machine := do
  let ⟨cycle, cycle_pos⟩ ← speed.period
  return {
    image, cycle, cycle_pos
    state := State.initial image generator
    count := 0
    sinceCycle := 0
    sinceTimer := 0 }

/-- The machine as its program image was just loaded; the generator goes on from where it is. -/
def reset (m : Machine) : Machine :=
  { m with
    state := State.initial m.image m.state.generator
    count := 0
    sinceCycle := 0
    sinceTimer := 0 }

/-- The address of the next instruction. -/
def counter (m : Machine) : Int := m.state.memory.counterAddress

/-! ## Instructions -/

/-- Executes an instruction as it is, without fetching or counting. -/
def execute (m : Machine) (i : Instruction) : Except Failure Unit × Machine :=
  let (result, state) := i.execute.run m.state
  (result, { m with state })

/-- Fetches, decodes and executes one instruction. -/
def step (m : Machine) : Step :=
  match m.state.memory.fetch with
  | .error e => { machine := m, fetched := none, result := .error e }
  | .ok none =>
    { machine := m, fetched := none, result := .error (.fault (.programExhausted m.counter)) }
  | .ok (some (opcode, memory)) =>
    let instruction := Instruction.decode opcode
    match execute { m with state := { m.state with memory } } instruction with
    | (.error e, machine) => { machine, fetched := some opcode, result := .error e }
    | (.ok (), machine) =>
      let machine := { machine with count := machine.count + 1 }
      { machine
        fetched := some opcode
        result := .ok { counter := m.counter, opcode, instruction, count := machine.count } }

/-! ## Time -/

/-- The machine with the time of some slots used up. -/
def charge (m : Machine) (slots : Nat) : Machine :=
  { m with sinceCycle := m.sinceCycle - slots * m.cycle }

/-- Uses up a number of slots; while a key is awaited, all that are left pass at once. -/
def runSlots : Nat → Machine → Array Int → Stretch
  | 0, m, trace => { machine := m, trace, failure := none }
  | n + 1, m, trace =>
    if m.state.awaiting.isSome then { machine := m.charge (n + 1), trace, failure := none }
    else
      let s := (m.charge 1).step
      let trace := s.fetched.elim trace trace.push
      match s.result with
      | .ok _ => runSlots n s.machine trace
      | .error e => { machine := s.machine, trace, failure := some e }

/-- A timer after some ticks: it stops at zero. -/
def countDown (timer : Int) (ticks : Nat) : Int :=
  if 0 < timer then max 0 (timer - ticks) else timer

/-- The machine after all timer ticks that are due. -/
def runTimers (m : Machine) : Machine :=
  let ticks := m.sinceTimer / timerPeriod
  let regs := m.state.registers
  { m with
    sinceTimer := m.sinceTimer % timerPeriod
    state := { m.state with
      registers := { regs with
        delay := countDown regs.delay ticks
        sound := countDown regs.sound ticks } } }

/-- Lets some microseconds pass.  A failing instruction ends the stretch before the timers tick,
and the time that is left stays in store. -/
def advance (m : Machine) (micros : Int) : Stretch :=
  if micros < 0 then
    { machine := m, trace := #[], failure := some (.refusal (.negativeElapsed micros)) }
  else
    let m := { m with
      sinceCycle := m.sinceCycle + micros.toNat
      sinceTimer := m.sinceTimer + micros.toNat }
    let run := runSlots (m.sinceCycle / m.cycle) m #[]
    match run.failure with
    | some _ => run
    | none => { run with machine := run.machine.runTimers }

/-- Lets an elapsed time pass. -/
def elapse (m : Machine) (elapsed : Elapsed) : Stretch :=
  match elapsed.micros with
  | .ok n => m.advance n
  | .error r => { machine := m, trace := #[], failure := some (.refusal r) }

/-! ## Keys -/

/-- The machine after a key went down or up; a key that goes down ends a wait for one. -/
def updateKey (m : Machine) (code : Int) (pressed : Bool) : Except Failure Machine := do
  let k ← State.key code
  let keys := m.state.keys.write k pressed
  match m.state.awaiting with
  | some r =>
    if pressed then
      let regs := m.state.registers
      let registers := { regs with data := regs.data.write r (UInt8.ofNat k) }
      return { m with state := { m.state with keys, registers, awaiting := none } }
    else return { m with state := { m.state with keys } }
  | none => return { m with state := { m.state with keys } }

/-- Whether a key press is awaited. -/
def isWaiting (m : Machine) : Bool := m.state.awaiting.isSome

end Machine

end Chip8
