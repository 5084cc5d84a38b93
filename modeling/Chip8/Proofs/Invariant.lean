import Mathlib
import Chip8.Proofs.Calls

/-!
# Proofs/Invariant — what no call can break

A state is `Valid` if its counter, its address register, its timers and its return addresses are
within their bounds and its interpreter region is the font.  An instruction keeps this also where it
fails, given that the counter is behind a word (`execute_valid`): a skip adds one word to it, and no
instruction adds more.  So every reachable machine is valid, and `Machine.Bounded` says what this
means for everything that a host can see.
-/

namespace Chip8

/-- The bounds that hold between any two calls. -/
structure State.Valid (s : State) : Prop where
  counter : 0 ≤ s.memory.counter ∧ s.memory.counter ≤ 0xE02
  interpreter : s.memory.interpreter = Device.ofContents 0x200 "512" true font
  program : s.memory.program.readOnly = false
  address : 0 ≤ s.registers.i ∧ s.registers.i ≤ 0xFFFF
  delay : 0 ≤ s.registers.delay ∧ s.registers.delay ≤ 0xFF
  sound : s.registers.sound = 0
  frames : ∀ a ∈ s.stack.frames, 0x202 ≤ a ∧ a ≤ 0x1000

namespace State.Valid

variable {s : State}

theorem guarded (h : s.Valid) : s.memory.Guarded := ⟨by rw [h.interpreter]; rfl, h.program⟩

/-! ## Changes that stay within the bounds -/

theorem put (h : s.Valid) (x : Int) (b : UInt8) : (s.put x b).Valid := { h with }

theorem loadRow (n : Nat) : ∀ {s : State}, s.Valid → ∀ r : Nat, (s.loadRow r n).Valid := by
  induction n with
  | zero => exact fun h _ => h
  | succ n ih =>
    intro s h r
    rw [State.loadRow]
    split
    · exact ih (h.put _ _) _
    · exact h

theorem storeRow (row : List UInt8) : ∀ {s : State}, s.Valid → ∀ a : Int,
    State.Valid { s with memory := s.memory.storeRow a row } := by
  induction row with
  | nil => exact fun h _ => h
  | cons b row ih =>
    intro s h a
    exact ih (s := { s with memory := s.memory.store a b }) { h with } (a + 1)

theorem writeRow (h : s.Valid) (v : Int) (row : List Int) :
    ((Action.writeRow s.registers.i (v :: row)).on s).2.Valid := by
  rw [Action.on_writeRow h.guarded h.address.1]
  split
  · exact h
  · exact h.storeRow _ _

theorem popped (h : s.Valid) {a : Int} {t : CallStack} (hf : s.stack.frames = t.frames ++ [a]) :
    State.Valid { s with stack := t } :=
  { h with frames := fun b hb => h.frames b (by simp [hf, hb]) }

theorem pushed (h : s.Valid) {a : Int} {t : CallStack} (hf : t.frames = s.stack.frames ++ [a])
    (ha : 0x202 ≤ a ∧ a ≤ 0x1000) : State.Valid { s with stack := t } := by
  refine { h with frames := fun b hb => ?_ }
  rw [hf, List.mem_append, List.mem_singleton] at hb
  rcases hb with hb | rfl
  · exact h.frames b hb
  · exact ha

theorem jump (h : s.Valid) (a : Int) : ((Action.jump a).on s).2.Valid := by
  rw [Action.on_jump]
  split
  · exact { h with counter := by simp only; omega }
  · exact h

theorem skipIf (h : s.Valid) (hc : s.memory.counter ≤ 0xE00) (c : Bool) :
    ((Action.skipIf c).on s).2.Valid := by
  have h0 := h.counter
  rw [Action.on_skipIf]
  split
  · exact { h with counter := by simp only [Memory.skip]; omega }
  · exact h

theorem drawSprite (h : s.Valid) {x y rows : Int} (hx : 0 ≤ x ∧ x < 16) (hy : 0 ≤ y ∧ y < 16)
    (hrows : 0 ≤ rows ∧ rows < 16) : ((Action.drawSprite x y rows).on s).2.Valid := by
  rw [Action.on_drawSprite hx hy hrows h.address.1]
  split_ifs
  · exact h
  · exact h
  · exact { h with }

end State.Valid

/-! ## Instructions -/

open Chip8.Action in
/-- **An instruction keeps the bounds, whether it fails or not**, if the counter is behind a word of
the program region. -/
theorem Instruction.execute_valid {i : Instruction} (hi : i.Fits) {s : State} (h : s.Valid)
    (hc : 2 ≤ s.memory.counter ∧ s.memory.counter ≤ 0xE00) : (i.execute.on s).2.Valid := by
  cases i <;> simp only [Fits, fields, Field.bound, List.mem_cons, List.not_mem_nil, or_false,
    forall_eq_or_imp, forall_eq] at hi
  case ret =>
    obtain ⟨-, hp⟩ | ⟨a, t, hf, hp⟩ := s.stack.pop_cases
    · simpa [execute, hp] using h
    · simpa only [execute, on_bind, on_get, hp, on_ofFault_ok, on_modify] using (h.popped hf).jump a
  case call a =>
    by_cases hd : s.stack.depth < 16
    · obtain ⟨t, hp, hf⟩ := CallStack.push_of_lt hd s.memory.counterAddress
      -- a call returns behind itself, so the counter's bounds are those of a frame
      have ht := h.pushed hf (by simp only [Memory.counterAddress]; omega)
      simpa only [execute, on_bind, on_get, hp, on_ofFault_ok, on_modify] using ht.jump a
    · have hfull : s.stack.depth = 16 := le_antisymm s.stack.depth_le (not_lt.mp hd)
      simpa [execute, CallStack.push_of_full hfull] using h
  case jump a => exact h.jump a
  case jumpFromOffset a =>
    simpa only [execute, on_bind, on_readRegister (x := 0) (by decide)] using h.jump _
  case skipIfEqualData | skipIfNotEqualData | skipIfEqualRegister | skipIfNotEqualRegister =>
    simp only [execute, on_bind, on_readRegister, hi, and_self]
    exact h.skipIf hc.2 _
  case skipIfPressed | skipIfNotPressed =>
    simp only [execute, on_bind, on_get, on_readRegister, State.isPressed_eq, hi, and_self]
    split_ifs
    · exact h.skipIf hc.2 _
    · exact h
  case draw x y rows => exact h.drawSprite hi.1 hi.2.1 hi.2.2
  case storeBcd x =>
    rw [on_storeBcd hi]
    exact h.writeRow _ _
  case storeRegisters x =>
    rw [on_storeRegisters hi h.guarded]
    exact h.writeRow _ _
  case readRegisters x =>
    rw [on_readRegisters hi h.address.1]
    exact h.loadRow _ _
  case setDelayTimer x =>
    have hb := (s.registers.byte x).toNat_lt
    simp only [execute, on_bind, on_readRegister hi, on_modifyRegisters]
    exact { h with delay := by simp only; omega }
  case setAddressRegister | addAddressRegister | loadFontSprite =>
    simp only [execute, on_bind, on_readRegister, on_modifyRegisters, hi, and_self]
    exact { h with address := by simp only; omega }
  -- all others change nothing that is bounded
  all_goals
    simp only [execute, settle, awaitKey, on_bind, on_get, on_readRegister, on_writeRegister,
      on_writeFlag, on_modify, on_pure, on_throw, Registers.index_eq, on_ofResult, hi, and_self]
    exact { h with }

/-! ## Calls -/

theorem State.valid_initial (image : Array UInt8) (generator : Generator) :
    (State.initial image generator).Valid where
  counter := (by decide : (0 : Int) ≤ 0 ∧ (0 : Int) ≤ 0xE02)
  interpreter := rfl
  program := rfl
  address := (by decide : (0 : Int) ≤ 0 ∧ (0 : Int) ≤ 0xFFFF)
  delay := (by decide : (0 : Int) ≤ 0 ∧ (0 : Int) ≤ 0xFF)
  sound := rfl
  frames := fun _ h => absurd h (List.not_mem_nil)

namespace Machine

variable {m : Machine}

/-- Behind a word that was fetched the counter leaves room for a skip. -/
theorem fetched_valid (h : m.state.Valid) (hlt : m.counter < 0xFFF) : m.state.fetched.Valid ∧
    2 ≤ m.state.fetched.memory.counter ∧ m.state.fetched.memory.counter ≤ 0xE00 := by
  have hc := h.counter
  simp only [counter, Memory.counterAddress] at hlt
  exact ⟨{ h with counter := by simp only [State.fetched]; omega },
    by simp only [State.fetched]; omega⟩

theorem step_valid (h : m.state.Valid) : m.step.machine.state.Valid := by
  by_cases hlt : m.counter < 0xFFF
  · obtain ⟨hf, hc⟩ := fetched_valid h hlt
    rw [step_state h.counter.1 hlt]
    exact Instruction.execute_valid m.next_fits hf hc
  · rwa [step_of_exhausted h.counter.1 (not_lt.mp hlt)]

theorem countDown_bounds {t : Int} (h : 0 ≤ t ∧ t ≤ 0xFF) (n : Nat) :
    0 ≤ countDown t n ∧ countDown t n ≤ 0xFF := by
  rw [countDown]
  split <;> omega

theorem runTimers_valid (h : m.state.Valid) : m.runTimers.state.Valid :=
  { h with
    delay := countDown_bounds h.delay _
    sound := by simp only [runTimers, h.sound, countDown, lt_self_iff_false, if_false] }

theorem updateKey_valid (h : m.state.Valid) {code : Int} {pressed : Bool} {m' : Machine}
    (hk : m.updateKey code pressed = .ok m') : m'.state.Valid := by
  obtain rfl := eq_keyed_of_updateKey hk
  exact { h with }

/-- **Every reachable machine is valid.** -/
theorem Reachable.valid (h : m.Reachable) : m.state.Valid := by
  refine h.induct (P := fun m => m.state.Valid) ?_ (fun _ => step_valid) (fun _ _ _ h => h)
    (fun _ => runTimers_valid) (fun _ _ _ _ hk h => updateKey_valid h hk)
    (fun _ _ => State.valid_initial _ _)
  intro image speed generator m hm
  obtain ⟨cycle, pos, -, rfl⟩ := create_ok hm
  exact State.valid_initial image generator

/-! ## What a host can see -/

/-- The bounds that nothing a host can see ever leaves. -/
structure Bounded (m : Machine) : Prop where
  registers : m.state.registers.toList.length = 16 ∧
    ∀ v ∈ m.state.registers.toList, 0 ≤ v ∧ v ≤ 0xFF
  address : 0 ≤ m.state.registers.i ∧ m.state.registers.i ≤ 0xFFFF
  delay : 0 ≤ m.state.registers.delay ∧ m.state.registers.delay ≤ 0xFF
  sound : m.state.registers.sound = 0
  counter : 0x200 ≤ m.counter ∧ m.counter ≤ 0x1002
  depth : m.state.stack.depth ≤ 16 ∧ m.state.stack.frames.length = m.state.stack.depth
  frames : ∀ a ∈ m.state.stack.frames, 0x202 ≤ a ∧ a ≤ 0x1000
  interpreter : m.state.memory.toList.take 0x200 =
    font.toList ++ List.replicate (0x200 - 80) 0
  program : (m.state.memory.toList.drop 0x200).length = 3584 ∧
    ∀ b ∈ m.state.memory.toList.drop 0x200, b.toNat ≤ 0xFF
  display : m.state.display.buffer.length = 2048 ∧
    ∀ cell ∈ m.state.display.buffer, cell = 0 ∨ cell = 1
  keys : m.state.keys.toList.length = 16
  awaiting : ∀ k ∈ m.state.awaiting, (k : Nat) ≤ 15
  times : 0 ≤ (m.sinceCycle : Int) ∧ 0 ≤ (m.sinceTimer : Int) ∧ 0 ≤ (m.count : Int)

/-- **No call on a machine leads out of the bounds**, whether it goes well or not. -/
theorem reachable_bounded (h : m.Reachable) : m.Bounded := by
  have hv := h.valid
  have hc := hv.counter
  have hlow : m.state.memory.interpreter.cells.toList
      = font.toList ++ List.replicate (0x200 - 80) 0 := by
    rw [hv.interpreter, Device.toList_ofContents]
    rfl
  exact {
    registers := ⟨by simp [Registers.toList], by
      simp only [Registers.toList, List.mem_map]
      rintro _ ⟨b, -, rfl⟩
      have := b.toNat_lt
      omega⟩
    address := hv.address
    delay := hv.delay
    sound := hv.sound
    counter := by simp only [counter, Memory.counterAddress]; omega
    depth := ⟨m.state.stack.depth_le, CallStack.length_frames _⟩
    frames := hv.frames
    interpreter := by rw [Memory.toList, List.take_left' (by simp), hlow]
    program := ⟨by simp [Memory.toList], fun b _ => Nat.le_of_lt_succ b.toNat_lt⟩
    display := ⟨by simp [Display.buffer], by
      simp only [Display.buffer, List.mem_map]
      rintro _ ⟨on, -, rfl⟩
      cases on <;> decide⟩
    keys := by simp
    awaiting := fun k _ => by omega
    times := by omega }

/-- A call of itself, a time below zero and a key that does not exist. -/
theorem reachable_bounded_refusals :
    let m := ((((fresh #[0x22, 0x00] 2000 (by decide) (.cycling #[])).after .step).after
      (.advance (-1))).after (.updateKey 99 true))
    m.Reachable ∧ m.Bounded :=
  have hm := .call _ (.call _ (.call _ (reachable_fresh _ (n := 500) (by decide) _)))
  ⟨hm, reachable_bounded hm⟩

end Machine

end Chip8
