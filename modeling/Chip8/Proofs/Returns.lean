import Mathlib
import Chip8.Proofs.Frame
import Chip8.Proofs.Stretches

/-!
# Proofs/Returns — every return goes back to its call

A `Trail` is a row of steps that go well, with keys, ticks and time between them; the steps inside
a stretch of time are one (`advance_follows`).  A step adds one return address, takes one off or
leaves the stack as it is (`step_frames`), so the oldest frames stay as they are on any trail that
does not go below them (`Trail.take_frames`).  A return to the depth of a call thus finds the
address that the call left there, and that is the one behind the call (`return_to_call`).
-/

namespace Chip8

namespace Machine

/-! ## Trails -/

/-- What can happen between two steps: a key goes down or up, time comes into store or is used up,
or the timers tick. -/
inductive Pause (m : Machine) : Machine → Prop
  | key {code : Int} {pressed : Bool} {m' : Machine} :
      m.updateKey code pressed = .ok m' → Pause m m'
  | time (c t : Nat) : Pause m (m.withTime c t)
  | ticks (n : Nat) : Pause m (m.ticked n)

/-- From one machine to another by steps that all go well, with pauses between them.  The list holds
the machines at which the steps are taken. -/
inductive Trail (m : Machine) : List Machine → Machine → Prop
  | refl : Trail m [] m
  | pause {m' m'' : Machine} {stops : List Machine} :
      Trail m stops m' → m'.Pause m'' → Trail m stops m''
  | step {m' : Machine} {stops : List Machine} :
      Trail m stops m' → m'.step.failure = none → Trail m (stops ++ [m']) m'.step.machine

theorem Trail.charge (m : Machine) (n : Nat) : Trail m [] (m.charge n) :=
  Trail.refl.pause (.time (m.sinceCycle - n * m.cycle) m.sinceTimer)

theorem Pause.valid {m m' : Machine} (p : m.Pause m') (h : m.state.Valid) : m'.state.Valid := by
  cases p with
  | key hk => exact updateKey_valid h hk
  | time => exact h
  | ticks n => exact h.ticked n

theorem Pause.frames_eq {m m' : Machine} (p : m.Pause m') : m'.frames = m.frames := by
  cases p with
  | key hk =>
    obtain rfl := eq_keyed_of_updateKey hk
    rfl
  | time => rfl
  | ticks => rfl

theorem Pause.depth_eq {m m' : Machine} (p : m.Pause m') : m'.depth = m.depth := by
  rw [← length_frames, p.frames_eq, length_frames]

namespace Trail

variable {m m' m'' : Machine} {stops stops' : List Machine}

theorem trans (h : Trail m stops m') (h' : Trail m' stops' m'') :
    Trail m (stops ++ stops') m'' := by
  induction h' with
  | refl => rwa [List.append_nil]
  | pause _ p ih => exact ih.pause p
  | step _ hok ih =>
    rw [← List.append_assoc]
    exact ih.step hok

theorem valid (h : Trail m stops m') (hm : m.state.Valid) : m'.state.Valid := by
  induction h with
  | refl => exact hm
  | pause _ p ih => exact p.valid ih
  | step _ _ ih => exact step_valid ih

/-- **The oldest frames stay** as long as there are that many. -/
theorem take_frames (h : Trail m stops m') (hm : m.state.Valid) {d : Nat} :
    (∀ x ∈ stops, d ≤ x.depth) → d ≤ m'.depth → m'.frames.take d = m.frames.take d := by
  induction h with
  | refl => exact fun _ _ => rfl
  | pause _ p ih =>
    intro hstops hd
    rw [p.frames_eq]
    exact ih hstops (p.depth_eq ▸ hd)
  | @step m' stops ht hok ih =>
    intro hstops hd
    have hd' : d ≤ m'.depth := hstops m' (by simp)
    rw [← ih (fun x hx => hstops x (List.mem_append_left _ hx)) hd']
    rw [← length_frames] at hd hd'
    rcases step_frames (ht.valid hm) hok with ⟨-, hf⟩ | ⟨-, hf⟩ | ⟨-, -, hf⟩
    · rw [hf, List.take_append_of_le_length hd']
    · rw [hf, List.take_append_of_le_length hd]
    · rw [hf]

end Trail

/-! ## Stretches of time are trails -/

/-- The word at the counter. -/
def word (m : Machine) : Int := m.state.memory.wordAt m.counter

/-- A stretch of time takes the steps of a trail, and runs the words at its machines; if it fails,
it takes one more step, and that is the one that fails. -/
inductive Follows (m : Machine) (s : Stretch) : Prop
  | whole {stops : List Machine} : s.failure = none → Trail m stops s.machine →
      s.trace.toList = stops.map word → Follows m s
  | cut {stops : List Machine} {m' : Machine} {e : Failure} : s.failure = some e →
      Trail m stops m' → m'.step.failure = some e → s.machine = m'.step.machine →
      s.trace.toList = stops.map word ++ m'.step.fetched.toList → Follows m s

/-- A stretch of time that follows a trail may follow a slot that goes well. -/
theorem Follows.stepSlot {m : Machine} (h : m.state.Valid) (hok : m.stepSlot.failure = none)
    {f : Machine → Stretch} (hf : m.stepSlot.machine.Follows (f m.stepSlot.machine)) :
    m.Follows (m.stepSlot.andThen f) := by
  have hslot : Trail m [m.charge 1] m.stepSlot.machine := (Trail.charge m 1).step hok
  have htrace : m.stepSlot.trace.toList = [m.charge 1].map word := by
    rw [stepSlot_trace h hok]
    rfl
  rw [Stretch.andThen_of_none hok]
  cases hf with
  | @whole stops hfail ht hw =>
    exact .whole hfail (hslot.trans ht)
      (by rw [Array.toList_append, htrace, hw, ← List.map_append])
  | @cut stops m' e hfail ht hstep hend hw =>
    exact .cut hfail (hslot.trans ht) hstep hend
      (by rw [Array.toList_append, htrace, hw, List.map_append, List.append_assoc])

theorem spend_follows (n : Nat) : ∀ {m : Machine}, m.state.Valid → m.Follows (spend n m) := by
  induction n with
  | zero => exact fun _ => .whole rfl .refl rfl
  | succ n ih =>
    intro m h
    by_cases hw : m.isWaiting = true
    · rw [spend_of_waiting hw]
      exact .whole rfl (Trail.charge m (n + 1)) rfl
    · rw [spend_succ hw]
      rcases hf : m.stepSlot.failure with _ | e
      · exact .stepSlot h hf (ih (step_valid (m := m.charge 1) h))
      · rw [Stretch.andThen_of_some hf]
        exact .cut hf (Trail.charge m 1) hf rfl (by simp [stepSlot])

/-- **A stretch of time takes the steps of a trail** up to its end or up to a failing step. -/
theorem advance_follows {m : Machine} (h : m.state.Valid) (n : Nat) : m.Follows (m.advance n) := by
  have hcredit : Trail m [] (m.credit n) :=
    Trail.refl.pause (.time (m.sinceCycle + n) (m.sinceTimer + n))
  have hslots : (m.credit n).Follows (m.credit n).slotRun := spend_follows _ h
  cases hslots with
  | @whole stops hfail ht hw =>
    rw [advance_of_none (Int.natCast_nonneg n) hfail]
    refine .whole hfail ?_ hw
    simp only [Int.toNat_natCast]
    exact ((hcredit.trans ht).pause (.ticks _)).pause (.time _ _)
  | @cut stops m' e hfail ht hstep hend hw =>
    rw [advance_of_failure (Int.natCast_nonneg n) hfail]
    exact .cut hfail (hcredit.trans ht) hstep hend hw

/-! ## A call and its return -/

/-- **A return goes back to its call.**  From a call that goes well, and over any trail that stays
deeper than the call, a return to the depth of the call leads behind the call, with the frames that
were there before it.  On any trail, the oldest frames stay as long as there are that many.  And
whatever a stretch of time does, it does along a trail. -/
theorem return_to_call {m : Machine} (h : m.Reachable) :
    (∀ {a : Int} {stops : List Machine} {m' : Machine},
      m.next = .call a → m.step.failure = none →
      Trail m.step.machine stops m' → (∀ x ∈ stops, m.depth + 1 ≤ x.depth) →
      m'.next = .ret → m'.step.failure = none → m'.step.machine.depth = m.depth →
      m'.step.machine.counter = m.counter + 2 ∧ m'.step.machine.frames = m.frames) ∧
    (∀ {d : Nat} {stops : List Machine} {m' : Machine},
      Trail m stops m' → (∀ x ∈ stops, d ≤ x.depth) → d ≤ m'.depth →
      m'.frames.take d = m.frames.take d) ∧
    ∀ n : Nat, m.Follows (m.advance n) := by
  refine ⟨fun {a stops m'} hcall hok ht hstops hret hok' hdepth => ?_,
    fun ht hstops hd => ht.take_frames h.valid hstops hd, advance_follows h.valid⟩
  have hbegin : m.step.machine.frames = m.frames ++ [m.counter + 2] := by
    rcases step_frames h.valid hok with ⟨-, hf⟩ | ⟨hnext, -⟩ | ⟨hnext, -, -⟩
    · exact hf
    · rw [hcall] at hnext
      cases hnext
    · exact absurd hcall (hnext a)
  have hend : m'.frames = m'.step.machine.frames ++ [m'.step.machine.counter] := by
    have hv := ht.valid (step_valid h.valid)
    rcases step_frames hv hok' with ⟨hnext, -⟩ | ⟨-, hf⟩ | ⟨-, hnext, -⟩
    · rw [hret] at hnext
      cases hnext
    · exact hf
    · exact absurd hret hnext
  -- the newest frame before the return is the one that the call added
  have hd : m'.depth = m.depth + 1 := by
    rw [← length_frames, hend, List.length_append, length_frames, hdepth, List.length_singleton]
  have hframes : m'.frames = m.step.machine.frames := by
    have hkept := ht.take_frames (step_valid h.valid) hstops hd.ge
    rwa [List.take_of_length_le (by rw [length_frames, hd]),
      List.take_of_length_le (by simp [hbegin, length_frames])] at hkept
  rw [hend, hbegin] at hframes
  obtain ⟨hstack, hcounter⟩ := List.append_inj' hframes rfl
  exact ⟨by simpa using hcounter, hstack⟩

/-- A call of a subroutine that does nothing for one step, while a key goes down. -/
theorem return_to_call_key :
    let m := fresh #[0x22, 0x04, 0x00, 0x00, 0x00, 0x00, 0x00, 0xEE] 2000 (by decide) (.cycling #[])
    let inside := m.step.machine.keyed 3 true
    (m.Reachable ∧ m.next = .call 0x204 ∧ m.step.failure = none ∧
      Trail m.step.machine [inside] inside.step.machine ∧
      (∀ x ∈ [inside], m.depth + 1 ≤ x.depth) ∧
      inside.step.machine.next = .ret ∧ inside.step.machine.step.failure = none ∧
      inside.step.machine.step.machine.depth = m.depth) ∧
    inside.step.machine.step.machine.counter = m.counter + 2 ∧
      inside.step.machine.step.machine.frames = m.frames := by
  intro m inside
  have hm : m.Reachable := reachable_fresh _ (n := 500) (by decide) _
  have hnext : m.next = .call 0x204 := by rw [next_fresh]; rfl
  obtain ⟨hok, hstep⟩ := step_of_next hm.valid (by decide) hnext rfl
  have hpause : m.step.machine.Pause inside := .key (m.step.machine.updateKey_nibble 3 true)
  have hv : inside.state.Valid := hpause.valid (step_valid hm.valid)
  -- inside the call
  have hmem : inside.state.memory = { m.state.memory with counter := 4 } := by
    refine (m.step.machine.keyed_memory 3 true).trans ?_
    rw [hstep]
    rfl
  have hframes : inside.frames = [0x202] := by
    rw [hpause.frames_eq, frames, hstep]
    rfl
  have hnext₁ : inside.next = .noOp 0 := by
    rw [next_of_load (n := 4) (by decide) hmem]
    rfl
  obtain ⟨hok₁, hstep₁⟩ := step_of_next hv (by rw [counter, hmem]; decide) hnext₁ rfl
  -- at the return
  have hframes₁ : inside.step.machine.frames = [0x202] := by
    rw [frames, hstep₁, State.effect, State.fetched_stack]
    exact hframes
  have hmem₁ : inside.step.machine.state.memory = { m.state.memory with counter := 6 } := by
    rw [hstep₁, State.effect, State.fetched_memory, hmem]
    rfl
  have hnext₂ : inside.step.machine.next = .ret := by
    rw [next_of_load (n := 6) (by decide) hmem₁]
    rfl
  obtain ⟨hok₂, -⟩ := step_of_next (step_valid hv) (by rw [counter, hmem₁]; decide) hnext₂
    (State.obstacle_ret (l := []) hframes₁)
  have hdepth : inside.step.machine.step.machine.depth = m.depth := by
    rcases step_frames (step_valid hv) hok₂ with ⟨hcall, -⟩ | ⟨-, hf⟩ | ⟨-, hret, -⟩
    · simp [hnext₂] at hcall
    · have hlen := congrArg List.length hf
      rw [hframes₁, List.length_append, length_frames] at hlen
      exact (Nat.succ.inj hlen).symm
    · exact absurd hnext₂ hret
  have hdeep : ∀ x ∈ [inside], m.depth + 1 ≤ x.depth := by
    intro x hx
    rw [List.mem_singleton.mp hx, ← length_frames inside, hframes]
    exact le_refl 1
  have ht := (Trail.refl.pause hpause).step hok₁
  exact ⟨⟨hm, hnext, hok, ht, hdeep, hnext₂, hok₂, hdepth⟩,
    (return_to_call hm).1 hnext hok ht hdeep hnext₂ hok₂ hdepth⟩

end Machine

end Chip8
