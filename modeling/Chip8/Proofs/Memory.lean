import Mathlib
import Chip8.Memory

/-!
# Proofs/Memory — one row of bytes behind two devices

`Memory.byte` reads the row that `Memory.toList` shows.  Every access of a memory whose regions are
`Guarded` is a test of the address, and then it reads or replaces bytes of that row: `read_eq`,
`write_eq`, `slice_eq`, `peek_eq`, `fetch_eq`.
-/

namespace Chip8

/-! ## Bytes -/

theorem UInt8.toNat_ofInt (v : Int) : ((UInt8.ofInt v).toNat : Int) = v % 0x100 := by
  simp [UInt8.ofInt]
  omega

theorem UInt8.ofInt_emod (v : Int) : UInt8.ofInt (v % 0x100) = UInt8.ofInt v := by
  simp [UInt8.ofInt]

/-! ## Devices

Inside its bounds a device does what its row of cells does. -/

namespace Device

variable {size : Nat}

theorem read_of_mem (d : Device size) {o : Int} (h : 0 ≤ o ∧ o < size) :
    d.read o = .ok ((d.cells.toList[o.toNat]?).getD 0) := by
  have hlt : o.toNat < size := by omega
  simp [read, index, h, hlt, bind, Except.bind, pure, Except.pure]

theorem write_of_readOnly (d : Device size) {o : Int} (h : 0 ≤ o ∧ o < size)
    (hr : d.readOnly = true) (v : Int) : d.write o v = .error (.fault (.readOnly o v)) := by
  simp [write, index, h, hr, bind, Except.bind]

theorem write_of_mem (d : Device size) {o : Int} (h : 0 ≤ o ∧ o < size) (hr : d.readOnly = false)
    {v : Int} (hv : 0 ≤ v ∧ v ≤ 0xFF) :
    d.write o v = .ok { d with cells := d.cells.setIfInBounds o.toNat (UInt8.ofInt v) } := by
  have hlt : o.toNat < size := by omega
  have hset (b : UInt8) : d.cells.set o.toNat b hlt = d.cells.setIfInBounds o.toNat b := by
    simp [Vector.setIfInBounds, Array.setIfInBounds, hlt, Vector.set]
  simp [write, index, h, hr, hv, bind, Except.bind, pure, Except.pure, hset]

theorem slice_of_mem (d : Device size) {a b : Int} (h : 0 ≤ a ∧ a ≤ b ∧ b ≤ size) :
    d.slice a b = .ok ((d.cells.toList.drop a.toNat).take (b - a).toNat) := by
  have hn : b.toNat - a.toNat = (b - a).toNat := by omega
  simp [slice, h, Vector.toList_extract, hn]

theorem toList_ofContents (size : Nat) (shown : String) (readOnly : Bool)
    (contents : Array UInt8) : (ofContents size shown readOnly contents).cells.toList
      = contents.toList.take size ++ List.replicate (size - contents.size) 0 := by
  refine List.ext_getElem (by simp [ofContents]; omega) fun n h1 h2 => ?_
  have hn : n < size := by simpa [ofContents] using h1
  by_cases hc : n < contents.size <;> simp [ofContents, List.getElem_append, hn, hc]

end Device

namespace Memory

/-! ## The row of bytes -/

/-- The byte that the row of all bytes has at an address. -/
def byte (m : Memory) (a : Int) : UInt8 := (m.toList[a.toNat]?).getD 0

/-- The word of the bytes at an address and behind it. -/
def wordAt (m : Memory) (a : Int) : Int := word (m.byte a) (m.byte (a + 1))

/-- The interpreter region is only read, and the program region is not. -/
def Guarded (m : Memory) : Prop := m.interpreter.readOnly = true ∧ m.program.readOnly = false

/-- The memory with a byte of the program region replaced; behind its end there is nothing to
replace. -/
def store (m : Memory) (a : Int) (b : UInt8) : Memory :=
  { m with program := { m.program with
      cells := m.program.cells.setIfInBounds (a - 0x200).toNat b } }

theorem byte_of_lt (m : Memory) {a : Int} (h : a < 0x200) :
    m.byte a = (m.interpreter.cells.toList[a.toNat]?).getD 0 := by
  rw [byte, toList, List.getElem?_append_left (by simp; omega)]

theorem byte_of_le (m : Memory) {a : Int} (h : 0x200 ≤ a) :
    m.byte a = (m.program.cells.toList[(a - 0x200).toNat]?).getD 0 := by
  have hn : a.toNat - m.interpreter.cells.toList.length = (a - 0x200).toNat := by simp; omega
  rw [byte, toList, List.getElem?_append_right (by simp; omega), hn]

theorem wordAt_bounds (m : Memory) (a : Int) : 0 ≤ m.wordAt a ∧ m.wordAt a ≤ 0xFFFF := by
  have hh := (m.byte a).toNat_lt
  have hl := (m.byte (a + 1)).toNat_lt
  simp only [wordAt, word]
  omega

theorem wordAt_counter (m : Memory) (c a : Int) :
    ({ m with counter := c } : Memory).wordAt a = m.wordAt a := rfl

theorem byte_load (image : Array UInt8) {a : Int} (h : 0x200 ≤ a ∧ a < 0x1000) :
    (load image).byte a = (image[(a - 0x200).toNat]?).getD 0 := by
  have hlt : (a - 0x200).toNat < 0xE00 := by omega
  simp [byte_of_le _ h.1, load, Device.ofContents, hlt]

/-- Behind the end of the memory there are no bytes. -/
theorem byte_of_end (m : Memory) {a : Int} (h : 0x1000 ≤ a) : m.byte a = 0 := by
  rw [byte, List.getElem?_eq_none (by simp [toList]; omega), Option.getD_none]

/-- **A byte stored in the program region is found there**, and every other byte is as it was. -/
theorem byte_store (m : Memory) {a : Int} (h : 0x200 ≤ a ∧ a < 0x1000) (b : UInt8) (c : Int) :
    (m.store a b).byte c = if c = a then b else m.byte c := by
  by_cases hlow : c < 0x200
  · rw [byte_of_lt _ hlow, m.byte_of_lt hlow, if_neg (by omega)]
    rfl
  · have hlen : (a - 0x200).toNat < m.program.cells.toList.length := by simp; omega
    have hset : (m.store a b).program.cells.toList
        = m.program.cells.toList.set (a - 0x200).toNat b := by simp [store]
    rw [byte_of_le _ (not_lt.mp hlow), m.byte_of_le (not_lt.mp hlow), hset]
    by_cases heq : c = a
    · rw [heq, List.getElem?_set_self hlen, if_pos rfl]
      rfl
    · rw [List.getElem?_set_ne (by omega), if_neg heq]

/-! ## Accesses -/

/-- **A read gives the byte of the row** wherever there is one. -/
theorem read_eq (m : Memory) (a : Int) :
    m.read a = if 0 ≤ a ∧ a < 0x1000 then .ok (m.byte a)
      else .error (.fault (.invalidAddress a)) := by
  by_cases h : 0 ≤ a ∧ a < 0x1000
  · by_cases hp : a < 0x200
    · simp [read, locate, h, hp, bind, Except.bind, m.byte_of_lt hp,
        m.interpreter.read_of_mem (o := a) (by omega)]
    · simp [read, locate, h, hp, bind, Except.bind, m.byte_of_le (not_lt.mp hp),
        m.program.read_of_mem (o := a - 0x200) (by omega)]
  · simp [read, locate, h, bind, Except.bind]

/-- **A write replaces one byte of the program region** and is refused everywhere else. -/
theorem write_eq {m : Memory} (hm : m.Guarded) (a v : Int) :
    m.write a v =
      if 0 ≤ a ∧ a < 0x1000 then
        if a < 0x200 then .error (.fault (.readOnly a (UInt8.ofInt v).toNat))
        else .ok (m.store a (UInt8.ofInt v))
      else .error (.fault (.invalidAddress a)) := by
  by_cases h : 0 ≤ a ∧ a < 0x1000
  · by_cases hp : a < 0x200
    · simp [write, locate, h, hp, bind, Except.bind, UInt8.toNat_ofInt,
        m.interpreter.write_of_readOnly (o := a) (by omega) hm.1]
    · simp [write, locate, h, hp, bind, Except.bind, pure, Except.pure, store, UInt8.ofInt_emod,
        m.program.write_of_mem (o := a - 0x200) (by omega) hm.2 (v := v % 0x100) (by omega)]
  · simp [write, locate, h, bind, Except.bind]

/-- **A slice is a piece of the row** that lies in one region. -/
theorem slice_eq (m : Memory) (a b : Int) :
    m.slice a b =
      if 0 ≤ a ∧ a ≤ b ∧ b ≤ 0x1000 then
        if a < 0x200 ∧ 0x200 < b then .error (.fault (.straddlingRange a b))
        else .ok ((m.toList.drop a.toNat).take (b - a).toNat)
      else .error (.fault (.invalidRange a b)) := by
  by_cases h : 0 ≤ a ∧ a ≤ b ∧ b ≤ 0x1000
  · by_cases hb : b ≤ 0x200
    · have hrow : (m.toList.drop a.toNat).take (b - a).toNat
          = (m.interpreter.cells.toList.drop a.toNat).take (b - a).toNat := by
        rw [toList, List.drop_append_of_le_length (by simp; omega),
          List.take_append_of_le_length (by simp; omega)]
      simp [slice, h, hb, not_lt.mpr hb, hrow,
        m.interpreter.slice_of_mem (a := a) (b := b) (by omega)]
    · by_cases ha : 0x200 ≤ a
      · have hrow : (m.toList.drop a.toNat).take (b - a).toNat
            = (m.program.cells.toList.drop (a - 0x200).toNat).take (b - a).toNat := by
          have hn : a.toNat - m.interpreter.cells.toList.length = (a - 0x200).toNat := by
            simp; omega
          rw [toList, List.drop_append, List.drop_eq_nil_of_le (by simp; omega),
            List.nil_append, hn]
        simp [slice, h, hb, ha, not_lt.mpr ha, hrow,
          m.program.slice_of_mem (a := a - 0x200) (b := b - 0x200) (by omega)]
      · simp [slice, h, hb, ha, not_le.mp ha, not_le.mp hb]
  · simp [slice, h]

/-- **A word is peeked at wherever both its bytes are**; the address refused is the first of them
that does not exist. -/
theorem peek_eq (m : Memory) (a : Int) :
    m.peek a = if 0 ≤ a ∧ a + 1 < 0x1000 then .ok (m.wordAt a)
      else .error (.fault (.invalidAddress (if a = 0xFFF then 0x1000 else a))) := by
  rw [peek, m.read_eq a]
  by_cases h : 0 ≤ a ∧ a < 0x1000
  · rw [if_pos h]
    by_cases hend : a = 0xFFF
    · have hnext : ¬ (0 ≤ a + 1 ∧ a + 1 < 0x1000) := by omega
      have hboth : ¬ (0 ≤ a ∧ a + 1 < 0x1000) := by omega
      rw [m.read_eq (a + 1), if_neg hnext, if_neg hboth, if_pos hend, hend]
      rfl
    · have hboth : 0 ≤ a ∧ a + 1 < 0x1000 := by omega
      rw [m.read_eq (a + 1), if_pos (by omega), if_pos hboth]
      rfl
  · have hboth : ¬ (0 ≤ a ∧ a + 1 < 0x1000) := by omega
    have hend : a ≠ 0xFFF := by omega
    rw [if_neg h, if_neg hboth, if_neg hend]
    rfl

/-- **A fetch gives the word at the counter** and moves the counter behind it, as long as both
bytes lie in the memory. -/
theorem fetch_eq {m : Memory} (hc : 0 ≤ m.counter) :
    m.fetch = .ok (if m.counterAddress < 0xFFF then
      some (m.wordAt m.counterAddress, { m with counter := m.counter + 2 }) else none) := by
  by_cases h : m.counter + 2 > 0xE00
  · have hn : ¬ m.counterAddress < 0xFFF := by simp only [counterAddress]; omega
    simp [fetch, h, hn]
  · have hlt : m.counterAddress < 0xFFF := by simp only [counterAddress]; omega
    have hword : m.wordAt m.counterAddress
        = word ((m.program.cells.toList[m.counter.toNat]?).getD 0)
          ((m.program.cells.toList[(m.counter + 1).toNat]?).getD 0) := by
      have h1 : m.counter + 0x200 - 0x200 = m.counter := by omega
      have h2 : m.counter + 0x200 + 1 - 0x200 = m.counter + 1 := by omega
      rw [wordAt, counterAddress, byte_of_le m (by omega), byte_of_le m (by omega), h1, h2]
    simp only [fetch, h, hlt, hword, if_false, if_true, bind, Except.bind, pure, Except.pure,
      m.program.read_of_mem (o := m.counter) (by omega),
      m.program.read_of_mem (o := m.counter + 1) (by omega)]

end Memory

end Chip8
