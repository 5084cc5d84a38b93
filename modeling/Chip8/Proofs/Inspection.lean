import Mathlib
import Chip8.Machine.Readout
import Chip8.Proofs.Reset

/-!
# Proofs/Inspection — a host that looks is not noticed

A host may look at a machine in four ways (`Look`).  Three of them only read.  A scan goes through
the program with the counter of the machine itself: it sends it to the start, fetches, and puts it
back unchecked, also where a jump to it would be refused.  `Action.scan` is written that way, as an
action that might fail, which `Machine.scanInPlace` leaves out; from every state it gives what
`Machine.scan` gives and leaves the state as it was (`Action.on_scan`).  So each look leaves the
machine alone (`Machine.look_eq`), and looks may be put anywhere into a row of requests
(`Machine.looks_unnoticed`).
-/

namespace Chip8

/-! ## Looking with the counter of the machine -/

namespace Action

/-- The word at the counter, which goes on behind it, or nothing where no word is left. -/
def fetch : Action (Option Int) := do
  match ← ofResult (← get).memory.fetch with
  | none => return none
  | some (word, memory) => do
    modify fun s => { s with memory }
    return some word

/-- The words and instructions that some fetches in a row give, as far as there are words. -/
def fetchAll : Nat → Action (List (Int × Instruction))
  | 0 => pure []
  | n + 1 => do
    match ← fetch with
    | none => return []
    | some word => do
      let i ← ofRefusal (Instruction.decode? word)
      let rest ← fetchAll n
      return (word, i) :: rest

/-- The words of the program and their instructions, read with the counter, which is put back in the
end, whatever happened. -/
def scan : Action (List (Int × Instruction)) := do
  let saved := (← get).memory.counter
  Action.jump 0x200
  try
    fetchAll (← get).memory.words
  finally
    modify fun s => { s with memory := { s.memory with counter := saved } }

/-- The word at an address, read byte by byte. -/
def peek (address : Int) : Action Int := do
  let high ← readMemory address
  let low ← readMemory (address + 1)
  return 256 * high + low

/-- The lines of a number of words from an address on. -/
def lines : Nat → Int → Action (List Line)
  | 0, _ => pure []
  | n + 1, address => do
    let word ← peek address
    let i ← ofRefusal (Instruction.decode? word)
    let rest ← lines n (address + 2)
    return { address, word, text := i.text } :: rest

/-- The lines of a range of addresses, cut at the end of the memory. -/
def disassemble (start length : Int) : Action (List Line) :=
  lines ((min (start + length) 0x1000 - start) / 2).toNat start

/-- Whether the key of a code is held down. -/
def isPressed (code : Int) : Action Bool := do
  ofResult ((← get).isPressed code)

variable {α : Type}

/-- What is done in the end is done to the state that was left, and the result stays. -/
theorem on_finally (a : Action α) (f : State → State) (s : State) :
    (try a finally modify f : Action α).on s = ((a.on s).1, f (a.on s).2) := by
  simp only [on, ExceptT.run, tryFinally, tryFinally', Functor.map, ExceptT.map, ExceptT.mk, bind,
    StateT.bind, pure]
  rcases a s with ⟨_ | x, s'⟩ <;> rfl

theorem on_decode {w : Int} (h : 0 ≤ w ∧ w ≤ 0xFFFF) (s : State) :
    (ofRefusal (Instruction.decode? w)).on s = (.ok (Instruction.decode w), s) := by
  rw [Instruction.decode?, if_pos h, on_ofRefusal_ok]

theorem on_fetch {s : State} (hc : 0 ≤ s.memory.counter) : fetch.on s =
    if s.memory.counterAddress < 0xFFF then
      (.ok (some (s.memory.wordAt s.memory.counterAddress)),
        { s with memory := { s.memory with counter := s.memory.counter + 2 } })
    else (.ok none, s) := by
  simp only [fetch, on_bind, on_get, Memory.fetch_eq hc, on_ofResult]
  split_ifs <;> rfl

/-- **Fetches in a row give the words in a row**, and nothing but the counter is changed. -/
theorem on_fetchAll (n : Nat) : ∀ {s : State}, 0 ≤ s.memory.counter →
    ∃ c, (fetchAll n).on s =
      (.ok ((s.memory.fetchMany n).map fun w => (w, Instruction.decode w)),
        { s with memory := { s.memory with counter := c } }) := by
  induction n with
  | zero => exact fun {s} _ => ⟨s.memory.counter, rfl⟩
  | succ n ih =>
    intro s hc
    by_cases hlt : s.memory.counterAddress < 0xFFF
    · obtain ⟨c, hrest⟩ := ih (s := { s with
        memory := { s.memory with counter := s.memory.counter + 2 } }) (by simp only; omega)
      have hword := s.memory.wordAt_bounds s.memory.counterAddress
      refine ⟨c, ?_⟩
      simp only [fetchAll, on_bind, on_fetch hc, if_pos hlt, on_decode hword, hrest,
        Memory.fetchMany, Memory.fetch_eq hc, List.map_cons, on_pure]
    · refine ⟨s.memory.counter, ?_⟩
      simp only [fetchAll, on_bind, on_fetch hc, if_neg hlt, Memory.fetchMany, Memory.fetch_eq hc,
        List.map_nil, on_pure]

/-- **A scan with the counter of the machine gives what a scan gives**, and leaves every state as it
was. -/
theorem on_scan (m : Machine) : scan.on m.state = (.ok m.scan, m.state) := by
  have hjump : (Action.jump 0x200).on m.state =
      (.ok (), { m.state with memory := { m.state.memory with counter := 0 } }) := by
    rw [on_jump, if_pos (by decide)]
    rfl
  obtain ⟨c, hrow⟩ := on_fetchAll m.state.memory.words
    (s := { m.state with memory := { m.state.memory with counter := 0 } }) (le_refl 0)
  simp only [scan, on_bind, on_get, hjump, on_finally, hrow]
  rfl

theorem on_peek (s : State) (a : Int) :
    (peek a).on s = (s.memory.peek a, s) := by
  rcases hhigh : s.memory.read a with e | high
  · simp only [peek, readMemory, on_bind, on_get, hhigh, on_ofResult, Memory.peek]
    rfl
  rcases hlow : s.memory.read (a + 1) with e | low
  all_goals
    simp only [peek, readMemory, on_bind, on_get, hhigh, hlow, on_ofResult, on_pure, Memory.peek]
    rfl

theorem on_lines (s : State) (n : Nat) : ∀ a : Int,
    (lines n a).on s = (s.memory.lines n a, s) := by
  induction n with
  | zero => exact fun _ => rfl
  | succ n ih =>
    intro a
    rcases hp : s.memory.peek a with e | w
    · simp only [lines, on_bind, on_peek, hp, Memory.lines]
      rfl
    · have hw : s.memory.wordAt a = w := by
        rw [Memory.peek_eq] at hp
        split_ifs at hp
        exact Except.ok.inj hp
      simp only [lines, on_bind, on_peek, hp, Memory.lines,
        on_decode (hw ▸ s.memory.wordAt_bounds a), ih]
      rcases s.memory.lines n (a + 2) with e | rest <;> rfl

/-- **A disassembly leaves every state as it was**, also where it fails. -/
theorem on_disassemble (s : State) (start length : Int) :
    (disassemble start length).on s = (s.memory.disassemble start length, s) :=
  on_lines s _ start

theorem on_isPressed (s : State) (code : Int) :
    (isPressed code).on s = (s.isPressed code, s) := by
  simp only [isPressed, on_bind, on_get, on_ofResult]

end Action

/-! ## Looks -/

/-- A way in which a host looks at a machine. -/
inductive Look
  | scan
  | disassemble (start length : Int)
  | registers
  | isPressed (code : Int)

/-- What a host sees. -/
inductive Sight
  | program (row : List (Int × Instruction))
  | lines (rows : List Line)
  | registers (row : List (String × Int))
  | pressed (held : Bool)

namespace Machine

variable {α : Type}

/-- What an action lets a host see, and the machine that it leaves. -/
def observe (m : Machine) (a : Action α) (see : α → Sight) : Except Failure Sight × Machine :=
  ((a.on m.state).1.map see, { m with state := (a.on m.state).2 })

/-- What a host sees or how its look fails, and the machine behind it. -/
def look (m : Machine) : Look → Except Failure Sight × Machine
  | .scan => m.observe Action.scan .program
  | .disassemble start length => m.observe (Action.disassemble start length) .lines
  | .registers => (.ok (.registers m.registerMap), m)
  | .isPressed code => m.observe (Action.isPressed code) .pressed

/-- What there is to be seen of a machine. -/
def sight (m : Machine) : Look → Except Failure Sight
  | .scan => .ok (.program m.scan)
  | .disassemble start length => (m.state.memory.disassemble start length).map .lines
  | .registers => .ok (.registers m.registerMap)
  | .isPressed code => (m.state.isPressed code).map .pressed

/-- **A look shows what there is to be seen and leaves the machine as it was.** -/
theorem look_eq (m : Machine) (l : Look) : m.look l = (m.sight l, m) := by
  cases l with
  | scan =>
    rw [look, observe, Action.on_scan]
    rfl
  | disassemble start length => rw [look, observe, Action.on_disassemble, sight]
  | registers => rfl
  | isPressed code => rw [look, observe, Action.on_isPressed, sight]

/-- What a host asks of a machine: a deed or a look. -/
def request : Machine → Deed ⊕ Look → (Except Failure Answer ⊕ Except Failure Sight) × Machine :=
  askAmong respond look

/-- **A host that looks is not noticed.**  Whatever was done to a machine before, a scan with its
own counter never fails, and every look, also one that fails, leaves the whole machine as it was.
So any looks may be put anywhere into a row of deeds and looks: what each of these gives or how it
fails is the same, and so is the machine in the end. -/
theorem looks_unnoticed :
    (∀ m : Machine, (m.look .scan).1 = .ok (.program m.scan)) ∧
    (∀ (m : Machine) (l : Look), (m.look l).2 = m) ∧
    ∀ (m : Machine) (rs : List ((Deed ⊕ Look) ⊕ Look)),
      (dialogue (askAmong request look) m rs).1.filterMap Sum.getLeft? =
          (dialogue request m (rs.filterMap Sum.getLeft?)).1 ∧
        (dialogue (askAmong request look) m rs).2 =
          (dialogue request m (rs.filterMap Sum.getLeft?)).2 := by
  have hleave (m : Machine) (l : Look) : (m.look l).2 = m := by rw [look_eq]
  exact ⟨fun m => by rw [look_eq, sight], hleave, fun m rs => dialogue_askAmong hleave rs m⟩

end Machine

end Chip8
