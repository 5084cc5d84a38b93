import Mathlib
import Chip8.Proofs.Dialogue
import Chip8.Proofs.Memory

/-!
# Proofs/Flat — a memory is 4096 bytes in a row and a counter

`FlatMemory` is the memory as a program knows it: one row of bytes, each call a test of the address
and then at most one change.  Behind a `Memory` there are two devices, and the counter is an
offset into the second.  `Memory.flat` is the view of it as one row, and call by call
(`flat_read` to `flat_skip`) nothing else can be seen, so that any dialogue is one with the row
(`flat_dialogue`).
-/

namespace Chip8

/-! ## Calls on a memory -/

/-- What anything that serves as a memory can be asked to do. -/
structure MemoryCalls (σ : Type) where
  read : σ → Int → Except Failure UInt8
  write : σ → Int → Int → Except Failure σ
  slice : σ → Int → Int → Except Failure (List UInt8)
  peek : σ → Int → Except Failure Int
  fetch : σ → Except Failure (Option (Int × σ))
  jump : σ → Int → Except Failure σ
  skip : σ → σ
  /-- The counter, to be given back to `restore`. -/
  save : σ → Int
  restore : σ → Int → σ

/-- One call on a memory. -/
inductive MemoryRequest
  | read (address : Int)
  | write (address value : Int)
  | slice (start stop : Int)
  | peek (address : Int)
  | fetch
  | jump (address : Int)
  | skip
  | save
  /-- Back to the counter that was saved after `n` others; where none was, there is nothing to go
  back to. -/
  | restore (n : Nat)

/-- What a call on a memory gives. -/
inductive MemoryReply
  | done
  | byte (b : UInt8)
  | bytes (row : List UInt8)
  | word (w : Int)
  /-- A fetch that found no word. -/
  | noWord
  | saved (offset : Int)

/-- A memory and the counters that were saved from it, oldest first. -/
structure MemorySession (σ : Type) where
  memory : σ
  saved : List Int

namespace MemorySession

variable {σ τ : Type}

/-- The reply to a call that changes the memory, unless it fails. -/
def become (s : MemorySession σ) : Except Failure σ → Except Failure MemoryReply × MemorySession σ
  | .ok memory => (.ok .done, { s with memory })
  | .error e => (.error e, s)

/-- The reply to a fetch. -/
def fetched (s : MemorySession σ) :
    Except Failure (Option (Int × σ)) → Except Failure MemoryReply × MemorySession σ
  | .ok (some (w, memory)) => (.ok (.word w), { s with memory })
  | .ok none => (.ok .noWord, s)
  | .error e => (.error e, s)

/-- The reply to a request, and the memory and the counters saved after it. -/
def ask (calls : MemoryCalls σ) (s : MemorySession σ) :
    MemoryRequest → Except Failure MemoryReply × MemorySession σ
  | .read a => ((calls.read s.memory a).map .byte, s)
  | .write a v => s.become (calls.write s.memory a v)
  | .slice a b => ((calls.slice s.memory a b).map .bytes, s)
  | .peek a => ((calls.peek s.memory a).map .word, s)
  | .fetch => s.fetched (calls.fetch s.memory)
  | .jump a => s.become (calls.jump s.memory a)
  | .skip => s.become (.ok (calls.skip s.memory))
  | .save =>
    (.ok (.saved (calls.save s.memory)), { s with saved := s.saved ++ [calls.save s.memory] })
  | .restore n => s.become (.ok (s.saved[n]?.elim s.memory (calls.restore s.memory)))

/-- The session with its memory seen as something else. -/
def map (see : σ → τ) (s : MemorySession σ) : MemorySession τ where
  memory := see s.memory
  saved := s.saved

theorem become_map (see : σ → τ) (s : MemorySession σ) (r : Except Failure σ) :
    (s.map see).become (r.map see) = ((s.become r).1, (s.become r).2.map see) := by
  cases r <;> rfl

theorem fetched_map (see : σ → τ) (s : MemorySession σ) (r : Except Failure (Option (Int × σ))) :
    (s.map see).fetched (r.map fun o => o.map fun p => (p.1, see p.2))
      = ((s.fetched r).1, (s.fetched r).2.map see) := by
  rcases r with _ | (_ | _) <;> rfl

end MemorySession

/-- The calls on a memory of two devices. -/
def Memory.calls : MemoryCalls Memory where
  read := Memory.read
  write := Memory.write
  slice := Memory.slice
  peek := Memory.peek
  fetch := Memory.fetch
  jump := Memory.jump
  skip := Memory.skip
  save m := m.counter
  restore m offset := { m with counter := offset }

/-! ## One row of bytes -/

/-- A row of 4096 bytes and the address of the next word. -/
@[ext]
structure FlatMemory where
  bytes : Vector UInt8 0x1000
  counter : Nat

namespace FlatMemory

/-- The font, zeros up to 0x1FF, and an image with zeros behind it, cut at the end; the counter is
at the start of the image. -/
def load (image : Array UInt8) : FlatMemory where
  bytes := Vector.ofFn fun k =>
    if (k : Nat) < 0x200 then font[(k : Nat)]?.getD 0 else image[(k : Nat) - 0x200]?.getD 0
  counter := 0x200

def read (f : FlatMemory) (a : Int) : Except Failure UInt8 :=
  if h : 0 ≤ a ∧ a < 0x1000 then .ok f.bytes[a.toNat] else .error (.fault (.invalidAddress a))

def write (f : FlatMemory) (a v : Int) : Except Failure FlatMemory :=
  if h : 0x200 ≤ a ∧ a < 0x1000 then
    .ok { f with bytes := f.bytes.set a.toNat (UInt8.ofInt v) }
  else if 0 ≤ a ∧ a < 0x200 then .error (.fault (.readOnly a (v % 0x100)))
  else .error (.fault (.invalidAddress a))

def slice (f : FlatMemory) (a b : Int) : Except Failure (List UInt8) :=
  if 0 ≤ a ∧ a ≤ b ∧ b ≤ 0x1000 then
    if a < 0x200 ∧ 0x200 < b then .error (.fault (.straddlingRange a b))
    else .ok (f.bytes.extract a.toNat b.toNat).toList
  else .error (.fault (.invalidRange a b))

def peek (f : FlatMemory) (a : Int) : Except Failure Int :=
  if h : 0 ≤ a ∧ a + 1 < 0x1000 then
    .ok (256 * f.bytes[a.toNat].toNat + f.bytes[a.toNat + 1].toNat)
  else .error (.fault (.invalidAddress (if a = 0xFFF then 0x1000 else a)))

def fetch (f : FlatMemory) : Option (Int × FlatMemory) :=
  if h : f.counter + 2 ≤ 0x1000 then
    some (256 * f.bytes[f.counter].toNat + f.bytes[f.counter + 1].toNat,
      { f with counter := f.counter + 2 })
  else none

def jump (f : FlatMemory) (a : Int) : Except Failure FlatMemory :=
  if 0x200 ≤ a ∧ a < 0x1000 then .ok { f with counter := a.toNat }
  else .error (.fault (.outsideProgram a))

def skip (f : FlatMemory) : FlatMemory := { f with counter := f.counter + 2 }

/-- The calls on a row of bytes; a counter is saved as its distance from the start of the image. -/
def calls : MemoryCalls FlatMemory where
  read := read
  write := write
  slice := slice
  peek := peek
  fetch f := .ok f.fetch
  jump := jump
  skip := skip
  save f := f.counter - 0x200
  restore f offset := { f with counter := (offset + 0x200).toNat }

end FlatMemory

/-! ## The view of a memory as one row -/

namespace Memory

/-- The memory as one row of bytes. -/
def flat (m : Memory) : FlatMemory where
  bytes := ⟨m.toList.toArray, by simp [toList]⟩
  counter := m.counterAddress.toNat

theorem flat_getElem (m : Memory) {n : Nat} (h : n < 0x1000) : m.flat.bytes[n] = m.byte n := by
  have hlen : n < m.toList.length := by simpa [toList] using h
  simp [flat, byte, hlen]

theorem flat_toNat (m : Memory) {a : Int} (h : 0 ≤ a ∧ a < 0x1000) :
    m.flat.bytes[a.toNat] = m.byte a := by
  rw [flat_getElem, Int.toNat_of_nonneg h.1]

theorem flat_load (image : Array UInt8) : (load image).flat = .load image := by
  refine FlatMemory.ext (Vector.ext fun n hn => ?_) rfl
  rw [flat_getElem _ hn, FlatMemory.load, Vector.getElem_ofFn]
  by_cases hlow : n < 0x200
  · rw [if_pos hlow, byte_of_lt _ (by omega)]
    simp [load, Device.ofContents, hlow]
  · have hoffset : ((n : Int) - 0x200).toNat = n - 0x200 := by omega
    rw [if_neg hlow, byte_load image (by omega), hoffset]

/-- A byte stored in the program region is a byte set in the row. -/
theorem flat_store (m : Memory) {a : Int} (h : 0x200 ≤ a ∧ a < 0x1000) (b : UInt8) :
    (m.store a b).flat = { m.flat with bytes := m.flat.bytes.set a.toNat b } := by
  refine FlatMemory.ext (Vector.ext fun n hn => ?_) rfl
  have hiff : (n : Int) = a ↔ a.toNat = n := by omega
  rw [flat_getElem _ hn, m.byte_store h b, Vector.getElem_set, flat_getElem]
  simp only [hiff]

/-! ## Call by call -/

theorem flat_read (m : Memory) (a : Int) : m.flat.read a = m.read a := by
  rw [m.read_eq, FlatMemory.read]
  split
  · rw [flat_toNat _ ‹_›]
  · rfl

theorem flat_write {m : Memory} (hm : m.Guarded) (a v : Int) :
    m.flat.write a v = (m.write a v).map flat := by
  rw [write_eq hm, FlatMemory.write]
  by_cases hin : 0x200 ≤ a ∧ a < 0x1000
  · rw [dif_pos hin, if_pos (by omega), if_neg (by omega), ← m.flat_store hin]
    rfl
  · rw [dif_neg hin]
    by_cases hlow : 0 ≤ a ∧ a < 0x200
    · rw [if_pos hlow, if_pos (by omega), if_pos hlow.2, UInt8.toNat_ofInt]
      rfl
    · rw [if_neg hlow, if_neg (by omega)]
      rfl

theorem flat_slice (m : Memory) (a b : Int) : m.flat.slice a b = m.slice a b := by
  rw [m.slice_eq, FlatMemory.slice]
  by_cases h : 0 ≤ a ∧ a ≤ b ∧ b ≤ 0x1000
  · have hrow : m.flat.bytes.toList = m.toList := rfl
    have hn : b.toNat - a.toNat = (b - a).toNat := by omega
    rw [if_pos h, if_pos h, Vector.toList_extract, hrow, hn]
  · rw [if_neg h, if_neg h]

theorem flat_peek (m : Memory) (a : Int) : m.flat.peek a = m.peek a := by
  rw [m.peek_eq, FlatMemory.peek]
  split
  · have hnext : (a + 1).toNat = a.toNat + 1 := by omega
    have hlow : m.flat.bytes[a.toNat + 1] = m.byte (a + 1) := by
      rw [flat_getElem]
      congr 1
      omega
    rw [m.flat_toNat (by omega), hlow]
    rfl
  · rfl

theorem flat_fetch {m : Memory} (hc : 0 ≤ m.counter) :
    .ok m.flat.fetch = m.fetch.map fun o => o.map fun p => (p.1, p.2.flat) := by
  have hcounter : m.flat.counter = m.counterAddress.toNat := rfl
  have h0 : 0 ≤ m.counterAddress := by simp only [counterAddress]; omega
  rw [fetch_eq hc, FlatMemory.fetch]
  by_cases h : m.counterAddress < 0xFFF
  · have hword := m.flat_peek m.counterAddress
    rw [m.peek_eq, if_pos (by omega), FlatMemory.peek, dif_pos (by omega)] at hword
    have hbehind : ({ m with counter := m.counter + 2 } : Memory).flat
        = { m.flat with counter := m.flat.counter + 2 } := by
      refine FlatMemory.ext rfl ?_
      simp only [flat, counterAddress] at h0 ⊢
      omega
    rw [dif_pos (by omega), if_pos h, ← Except.ok.inj hword]
    simp only [Except.map, Option.map, hbehind]
    rfl
  · rw [dif_neg (by omega), if_neg h]
    rfl

theorem flat_jump (m : Memory) (a : Int) : m.flat.jump a = (m.jump a).map flat := by
  rw [jump, FlatMemory.jump]
  split
  · refine congrArg Except.ok (FlatMemory.ext rfl ?_)
    simp only [flat, counterAddress, Int.sub_add_cancel]
  · rfl

theorem flat_skip {m : Memory} (hc : 0 ≤ m.counter) : m.flat.skip = m.skip.flat := by
  refine FlatMemory.ext rfl ?_
  simp only [FlatMemory.skip, flat, skip, counterAddress]
  omega

theorem flat_save {m : Memory} (hc : 0 ≤ m.counter) :
    (m.flat.counter : Int) - 0x200 = m.counter := by
  simp only [flat, counterAddress]
  omega

/-! ## Dialogues -/

/-- The regions are guarded, and neither the counter nor one that was saved lies before the program
region. -/
def Sound (s : MemorySession Memory) : Prop :=
  s.memory.Guarded ∧ 0 ≤ s.memory.counter ∧ ∀ c ∈ s.saved, 0 ≤ c

theorem Sound.ask {s : MemorySession Memory} (h : Sound s) (r : MemoryRequest) :
    Sound (s.ask calls r).2 := by
  obtain ⟨hg, hc, hs⟩ := h
  cases r with
  | read | slice | peek => exact ⟨hg, hc, hs⟩
  | write a v =>
    simp only [MemorySession.ask, calls, write_eq hg]
    split_ifs <;> exact ⟨hg, hc, hs⟩
  | fetch =>
    simp only [MemorySession.ask, calls, fetch_eq hc]
    split_ifs
    · exact ⟨hg, by simp only [MemorySession.fetched]; omega, hs⟩
    · exact ⟨hg, hc, hs⟩
  | jump a =>
    simp only [MemorySession.ask, calls, jump]
    split_ifs
    · exact ⟨hg, by simp only [MemorySession.become]; omega, hs⟩
    · exact ⟨hg, hc, hs⟩
  | skip =>
    refine ⟨hg, ?_, hs⟩
    simp only [MemorySession.ask, MemorySession.become, calls, skip]
    omega
  | save =>
    refine ⟨hg, hc, fun c hmem => ?_⟩
    rcases List.mem_append.mp hmem with hold | hnew
    · exact hs c hold
    · rw [List.mem_singleton.mp hnew]
      exact hc
  | restore n =>
    rcases hn : s.saved[n]? with _ | c
    · simp only [MemorySession.ask, hn]
      exact ⟨hg, hc, hs⟩
    · simp only [MemorySession.ask, hn]
      exact ⟨hg, hs c (List.mem_of_getElem? hn), hs⟩

/-- **Request by request the row of bytes replies as the memory does.** -/
theorem Sound.ask_flat {s : MemorySession Memory} (h : Sound s) (r : MemoryRequest) :
    (s.map flat).ask FlatMemory.calls r = ((s.ask calls r).1, (s.ask calls r).2.map flat) := by
  obtain ⟨hg, hc, hs⟩ := h
  cases r with
  | read | slice | peek =>
    simp only [MemorySession.ask, MemorySession.map, calls, FlatMemory.calls, flat_read, flat_slice,
      flat_peek]
  | write a v =>
    rw [MemorySession.ask, MemorySession.ask, calls, ← s.become_map flat, ← flat_write hg]
    rfl
  | fetch =>
    rw [MemorySession.ask, MemorySession.ask, calls, ← s.fetched_map flat, ← flat_fetch hc]
    rfl
  | jump a =>
    rw [MemorySession.ask, MemorySession.ask, calls, ← s.become_map flat, ← flat_jump]
    rfl
  | skip =>
    rw [MemorySession.ask, MemorySession.ask, calls, ← s.become_map flat, Except.map,
      ← flat_skip hc]
    rfl
  | save =>
    have hsave : FlatMemory.calls.save s.memory.flat = s.memory.counter := flat_save hc
    simp only [MemorySession.ask, MemorySession.map, hsave]
    rfl
  | restore n =>
    rcases hn : s.saved[n]? with _ | c
    · simp only [MemorySession.ask, MemorySession.map, hn]
      rfl
    · simp only [MemorySession.ask, MemorySession.map, hn]
      rfl

theorem flat_view : View (MemorySession.ask calls) (MemorySession.ask FlatMemory.calls) Sound
    (MemorySession.map flat) where
  keeps _ r h := h.ask r
  same _ r h := h.ask_flat r

/-- **A memory is one row of bytes with a counter**: from any image, every row of calls has the
replies of the row of bytes, and leaves the bytes and the counters that it leaves. -/
theorem flat_dialogue (image : Array UInt8) (requests : List MemoryRequest) :
    let d := dialogue (MemorySession.ask calls) ⟨load image, []⟩ requests
    let d' := dialogue (MemorySession.ask FlatMemory.calls) ⟨.load image, []⟩ requests
    d.1 = d'.1 ∧ d.2.memory.toList = d'.2.memory.bytes.toList ∧
      d.2.memory.counterAddress = d'.2.memory.counter ∧ d.2.saved = d'.2.saved := by
  intro d d'
  have hstart : Sound ⟨load image, []⟩ := ⟨⟨rfl, rfl⟩, le_refl 0, by simp⟩
  have hend : Sound d.2 := dialogue_induct (fun _ r h => h.ask r) requests hstart
  have hsame : d' = (d.1, d.2.map flat) := by
    have hmap : MemorySession.map flat ⟨load image, []⟩ = ⟨.load image, []⟩ :=
      congrArg (MemorySession.mk · []) (flat_load image)
    rw [← flat_view.dialogue_eq requests hstart, hmap]
  have hcounter := flat_save hend.2.1
  rw [hsame]
  refine ⟨rfl, rfl, ?_, rfl⟩
  simp only [MemorySession.map, counterAddress]
  omega

end Memory

end Chip8
