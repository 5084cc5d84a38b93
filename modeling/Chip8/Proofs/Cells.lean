import Mathlib
import Chip8.Memory.Device
import Chip8.Proofs.Dialogue
import Chip8.Proofs.Execution

/-!
# Proofs/Cells — a device is an array of bytes

`Cells` is a device as a program knows it: as many integers as it has cells, each of them a byte.
`Device.array` is the view of a device as such an array.  A device that is written replies request
by request as the array does (`Device.ask_array`).  One that is only read gives the replies of the
array that it started as, and no request changes it (`Device.ask_readOnly`).  `array_dialogue` says
so of whole dialogues, with devices of every size.  An offset without a cell is a fault that shows
it, so that one with too many digits to be shown ends in a refusal (`Device.long_offset`).
-/

namespace Chip8

/-! ## Requests -/

/-- What a device is asked. -/
inductive DeviceRequest
  | read (offset : Int)
  | write (offset data : Int)
  | slice (start stop : Int)

/-- What a device replies. -/
inductive DeviceReply
  | done
  | byte (value : Int)
  | bytes (values : List Int)
  deriving DecidableEq

/-- The reply of a device and the device behind it; a call that fails leaves it as it was. -/
def Device.ask {n : Nat} (d : Device n) :
    DeviceRequest → Except Failure DeviceReply × Device n
  | .read o => ((d.read o).map fun b => .byte b.toNat, d)
  | .write o v =>
    match d.write o v with
    | .ok d' => (.ok .done, d')
    | .error e => (.error e, d)
  | .slice a b => ((d.slice a b).map fun row => .bytes (row.map fun b => (b.toNat : Int)), d)

/-! ## An array of bytes -/

/-- Integers in `n` cells, each of them a byte. -/
@[ext]
structure Cells (n : Nat) where
  value : Fin n → Int
  isByte : ∀ k, 0 ≤ value k ∧ value k ≤ 0xFF

namespace Cells

variable {n : Nat}

/-- An offset that passes the test is that of a cell. -/
theorem toNat_lt {o : Int} (h : 0 ≤ o ∧ o < n) : o.toNat < n := by omega

/-- Contents from the first cell on, and zeros behind them. -/
def padded (n : Nat) (contents : Array UInt8) : Cells n where
  value k := (contents[k.val]?.getD 0).toNat
  isByte k := by
    have := (contents[k.val]?.getD 0).toNat_lt
    omega

/-- The array with a byte set in one cell. -/
def set (c : Cells n) (k : Fin n) (v : Int) (h : 0 ≤ v ∧ v ≤ 0xFF) : Cells n where
  value := Function.update c.value k v
  isByte j := by
    rw [Function.update_apply]
    split_ifs
    · exact h
    · exact c.isByte j

theorem value_set (c : Cells n) (k : Fin n) {v : Int} (h : 0 ≤ v ∧ v ≤ 0xFF) (j : Fin n) :
    (c.set k v h).value j = if j = k then v else c.value j :=
  Function.update_apply ..

/-- How a request fails at a fault that shows some integers: with the fault, unless one of them has
more digits than can be shown. -/
def failure (cause : Fault) (offsets : List Int) : Failure :=
  if offsets.any Decimal.isLong then .refusal .longNumber else .fault cause

/-- The offsets of a request are tested first, then the data of a write, and then cells are read or
one of them is set.  Faults show the size in the given words. -/
def ask (shown : String) (c : Cells n) : DeviceRequest → Except Failure DeviceReply × Cells n
  | .read o =>
    if h : 0 ≤ o ∧ o < n then (.ok (.byte (c.value ⟨o.toNat, toNat_lt h⟩)), c)
    else (.error (failure (.deviceOffset o shown) [o]), c)
  | .write o v =>
    if ho : 0 ≤ o ∧ o < n then
      if hv : 0 ≤ v ∧ v ≤ 0xFF then (.ok .done, c.set ⟨o.toNat, toNat_lt ho⟩ v hv)
      else (.error (.refusal (.wideData v)), c)
    else (.error (failure (.deviceOffset o shown) [o]), c)
  | .slice a b =>
    if h : 0 ≤ a ∧ a ≤ b ∧ b ≤ n then
      (.ok (.bytes (List.ofFn fun k : Fin (b.toNat - a.toNat) =>
        c.value ⟨a.toNat + k, by omega⟩)), c)
    else (.error (failure (.deviceRange a b shown) [a, b]), c)

/-- The reply of an array that is only read. -/
def replyReadOnly (shown : String) (c : Cells n) : DeviceRequest → Except Failure DeviceReply
  | .write o v =>
    .error (if 0 ≤ o ∧ o < n then .fault (.readOnly o v) else failure (.deviceOffset o shown) [o])
  | r => (c.ask shown r).1

end Cells

/-! ## The view of a device as an array -/

namespace Device

variable {n : Nat} (d : Device n)

/-- The bytes of a device as integers. -/
def array : Cells n where
  value k := (d.cells.get k).toNat
  isByte k := by
    have := (d.cells.get k).toNat_lt
    omega

theorem array_value {k : Nat} (h : k < n) : d.array.value ⟨k, h⟩ = d.cells[k].toNat := rfl

theorem array_ofContents (shown : String) (readOnly : Bool) (contents : Array UInt8) :
    (ofContents n shown readOnly contents).array = .padded n contents := by
  refine Cells.ext (funext fun ⟨k, hk⟩ => ?_)
  simp [array_value, ofContents, Cells.padded]

/-- A byte set in a device is an integer set in the array. -/
theorem array_set (k : Fin n) {v : Int} (hv : 0 ≤ v ∧ v ≤ 0xFF) :
    ({ d with cells := d.cells.set k (UInt8.ofInt v) } : Device n).array = d.array.set k v hv := by
  refine Cells.ext (funext fun ⟨j, hj⟩ => ?_)
  have hbyte : ((UInt8.ofInt v).toNat : Int) = v := by
    rw [UInt8.toNat_ofInt]
    omega
  have hiff : (⟨j, hj⟩ : Fin n) = k ↔ (k : Nat) = j := by rw [Fin.ext_iff, eq_comm]
  rw [Cells.value_set, array_value, array_value]
  simp only [hiff, Vector.getElem_set]
  split_ifs
  · exact hbyte
  · rfl

/-! ## Request by request -/

theorem raised_deviceOffset (o : Int) (shown : String) :
    (Fault.deviceOffset o shown).raised = Cells.failure (.deviceOffset o shown) [o] := by
  cases h : Decimal.isLong o <;> simp [Fault.raised, Fault.hasLongNumber, Cells.failure, h]

theorem raised_deviceRange (a b : Int) (shown : String) :
    (Fault.deviceRange a b shown).raised = Cells.failure (.deviceRange a b shown) [a, b] := by
  cases ha : Decimal.isLong a <;> cases hb : Decimal.isLong b <;>
    simp [Fault.raised, Fault.hasLongNumber, Cells.failure, ha, hb]

theorem read_eq (o : Int) : d.read o =
    if h : 0 ≤ o ∧ o < n then .ok (d.cells.get ⟨o.toNat, Cells.toNat_lt h⟩)
    else .error (Cells.failure (.deviceOffset o d.shownSize) [o]) := by
  rw [read, index, raised_deviceOffset]
  split <;> rfl

theorem write_eq (hr : d.readOnly = false) (o v : Int) : d.write o v =
    if h : 0 ≤ o ∧ o < n then
      if 0 ≤ v ∧ v ≤ 0xFF then
        .ok { d with cells := d.cells.set o.toNat (UInt8.ofInt v) (Cells.toNat_lt h) }
      else .error (.refusal (.wideData v))
    else .error (Cells.failure (.deviceOffset o d.shownSize) [o]) := by
  rw [write, index, raised_deviceOffset]
  by_cases h : 0 ≤ o ∧ o < n
  · simp [h, hr, bind, Except.bind, pure, Except.pure]
  · simp [h, bind, Except.bind]

theorem write_eq_error (hr : d.readOnly = true) (o v : Int) : d.write o v =
    .error (if 0 ≤ o ∧ o < n then .fault (.readOnly o v)
      else Cells.failure (.deviceOffset o d.shownSize) [o]) := by
  by_cases h : 0 ≤ o ∧ o < n
  · rw [if_pos h, d.write_of_readOnly h hr]
  · simp [write, index, raised_deviceOffset, h, bind, Except.bind]

/-- A slice holds the cells of the array from its start on, in their order. -/
theorem map_extract (a b : Nat) (h : b ≤ n) :
    (d.cells.extract a b).toList.map (fun byte => (byte.toNat : Int)) =
      List.ofFn fun k : Fin (b - a) => d.array.value ⟨a + k, by omega⟩ := by
  refine List.ext_getElem (by simp; omega) fun k hk _ => ?_
  simp [array_value]

theorem ask_read (o : Int) :
    d.array.ask d.shownSize (.read o) = ((d.ask (.read o)).1, d.array) := by
  rw [ask, read_eq, Cells.ask]
  split <;> rfl

theorem ask_slice (a b : Int) :
    d.array.ask d.shownSize (.slice a b) = ((d.ask (.slice a b)).1, d.array) := by
  rw [ask, slice, Cells.ask, raised_deviceRange]
  split_ifs with h
  · rw [← d.map_extract a.toNat b.toNat (by omega)]
    rfl
  · rfl

/-- **Request by request the array replies as a device does that is written.** -/
theorem ask_array {d : Device n} (hr : d.readOnly = false) (r : DeviceRequest) :
    d.array.ask d.shownSize r = ((d.ask r).1, (d.ask r).2.array) := by
  cases r with
  | read o => exact d.ask_read o
  | slice a b => exact d.ask_slice a b
  | write o v =>
    rw [ask, write_eq d hr, Cells.ask]
    split_ifs with ho hv
    · rw [← d.array_set _ hv]
    · rfl
    · rfl

/-- **A device that is only read gives the replies of one array**, and no request changes it. -/
theorem ask_readOnly {d : Device n} (hr : d.readOnly = true) (r : DeviceRequest) :
    d.ask r = (d.array.replyReadOnly d.shownSize r, d) := by
  cases r with
  | read o => exact congrArg (·, d) (congrArg Prod.fst (d.ask_read o)).symm
  | slice a b => exact congrArg (·, d) (congrArg Prod.fst (d.ask_slice a b)).symm
  | write o v =>
    rw [ask, write_eq_error d hr]
    rfl

theorem ask_keeps {d : Device n} (hr : d.readOnly = false) (r : DeviceRequest) :
    (d.ask r).2.readOnly = false ∧ (d.ask r).2.shownSize = d.shownSize := by
  cases r with
  | read | slice => exact ⟨hr, rfl⟩
  | write o v =>
    rw [ask, write_eq d hr]
    split_ifs <;> exact ⟨hr, rfl⟩

/-- A call that fails changes nothing. -/
theorem ask_of_error {d : Device n} {r : DeviceRequest} {e : Failure}
    (h : (d.ask r).1 = .error e) : (d.ask r).2 = d := by
  cases r with
  | read | slice => rfl
  | write o v =>
    rw [ask] at h ⊢
    cases hw : d.write o v with
    | ok d' => simp [hw] at h
    | error => rfl

theorem array_view (shown : String) : View (ask (n := n)) (Cells.ask shown)
    (fun d => d.readOnly = false ∧ d.shownSize = shown) array where
  keeps _ r h := ⟨(ask_keeps h.1 r).1, (ask_keeps h.1 r).2.trans h.2⟩
  same _ r h := h.2 ▸ ask_array h.1 r

/-! ## Dialogues -/

/-- **A device of a positive size that its contents fit can be made** just if its bytes can be
counted and there is room for them. -/
theorem create?_eq_ok_iff (hn : 0 < n) {contents : Array UInt8} (hc : contents.size ≤ n)
    (hasRoom : Nat → Bool) (shown : String) (readOnly : Bool) (p : Σ n, Device n) :
    create? hasRoom n shown readOnly contents = .ok p ↔
      ((n : Int) ≤ greatestCount ∧ hasRoom n = true) ∧
        p = ⟨n, ofContents n shown readOnly contents⟩ := by
  have hpos : ¬ (n : Int) ≤ 0 := by omega
  have hfits : ¬ contents.size > (n : Int).toNat := by omega
  rw [create?, if_neg hpos, if_neg hfits]
  by_cases hcount : (n : Int) ≤ greatestCount
  · rw [if_neg (not_lt.mpr hcount)]
    cases hroom : hasRoom n <;> simp [hroom, hcount, eq_comm]
  · rw [if_pos (not_le.mp hcount)]
    simp [hcount]

/-- **A device is an array of bytes**, whatever its size, and it starts with its contents and zeros
behind them.  One that is written replies to every row of requests as the array does, and leaves the
cells that the array leaves; what fails changes nothing.  One that is only read gives each request
the reply of the array that it started as, a failure for every write, and no row of requests changes
it. -/
theorem array_dialogue (n : Nat) (contents : Array UInt8) (shown : String) :
    let written := ofContents n shown false contents
    let onlyRead := ofContents n shown true contents
    let start := Cells.padded n contents
    (∀ requests,
      let d := dialogue ask written requests
      let d' := dialogue (Cells.ask shown) start requests
      d.1 = d'.1 ∧ d.2.array = d'.2 ∧ ∀ r e, (d.2.ask r).1 = .error e → (d.2.ask r).2 = d.2) ∧
    ∀ requests, dialogue ask onlyRead requests =
      (requests.map (start.replyReadOnly shown), onlyRead) := by
  intro written onlyRead start
  refine ⟨fun requests => ?_, fun requests => ?_⟩
  · intro d d'
    have hsame : d' = (d.1, d.2.array) := by
      rw [← (array_view shown).dialogue_eq requests ⟨rfl, rfl⟩, array_ofContents]
    rw [hsame]
    exact ⟨rfl, rfl, fun r e => ask_of_error⟩
  · refine dialogue_eq_map (fun r => ?_) requests
    rw [ask_readOnly rfl, array_ofContents]
    rfl

/-- Requests at both ends of four cells and beyond them; an offset is tested before the data. -/
example : (dialogue ask (ofContents 4 "4" false #[0xF0, 7]) [.write 3 255, .write 0 256,
      .slice 1 4, .slice 4 4]).1 =
    [.ok .done, .error (.refusal (.wideData 256)), .ok (.bytes [7, 0, 255]), .ok (.bytes [])] := rfl

/-- An offset of more than 4300 digits, which four cells do not have, is not shown by a fault: every
call with it is refused.  And no device has more bytes than can be counted. -/
theorem long_offset :
    let d := ofContents 4 "4" false #[0xF0, 7]
    let o : Int := Decimal.firstLong
    ¬ (0 ≤ o ∧ o < 4) ∧
      d.read o = .error (.refusal .longNumber) ∧ d.write o 0 = .error (.refusal .longNumber) ∧
      d.slice 0 o = .error (.refusal .longNumber) ∧
      create? (fun _ => true) 0x8000000000000000 "9223372036854775808" false #[] =
        .error .countlessSize := by
  intro d
  generalize ho : (Decimal.firstLong : Int) = o
  have hlong : Decimal.isLong o = true := by simp [Decimal.isLong, ← ho]
  have hfar : ¬ (0 ≤ o ∧ o ≤ (4 : Nat)) := fun h => by
    rw [Decimal.isLong_eq_false (by omega)] at hlong
    cases hlong
  have hout : ¬ (0 ≤ o ∧ o < (4 : Nat)) := fun h => hfar ⟨h.1, h.2.le⟩
  refine ⟨hout, ?_, ?_, ?_, ?_⟩
  · rw [read_eq, dif_neg hout]
    simp [Cells.failure, hlong]
  · rw [write_eq d rfl, dif_neg hout]
    simp [Cells.failure, hlong]
  · rw [slice, if_neg fun h => hfar h.2, raised_deviceRange]
    simp [Cells.failure, hlong]
  · rw [create?, if_neg (by decide), if_neg (by simp), if_pos (by decide)]

end Device

end Chip8
