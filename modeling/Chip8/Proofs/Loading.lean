import Mathlib
import Chip8.Proofs.Inspection
import Chip8.Proofs.Speed
import Chip8.Proofs.Time

/-!
# Proofs/Loading — a machine is the same by whichever path its contents come

Contents may be cut to the program region before a machine is made of them, or the machine keeps
them whole and loads them cut.  The two machines differ in the image they keep
(`Machine.withImage`), which nothing reads but a reset.  Since both images load alike
(`Memory.load_extract`), a machine whose image is replaced by one that loads alike gives every
reply that it gave before (`Machine.image_view`).
-/

namespace Chip8

/-! ## Images that load alike -/

namespace Memory

/-- What is cut off behind the program region has no part in the memory. -/
theorem load_extract (d : Array UInt8) : load (d.extract 0 programSize) = load d := by
  have hcells : Device.ofContents 0xE00 "3584" false (d.extract 0 programSize) =
      Device.ofContents 0xE00 "3584" false d := by
    have hbyte (k : Fin 0xE00) : (d.extract 0 programSize)[k.val]?.getD 0 = d[k.val]?.getD 0 := by
      rw [Array.getElem?_extract, Nat.zero_add]
      split_ifs with hlt
      · rfl
      · rw [Array.getElem?_eq_none (by simp only [programSize] at hlt; omega)]
    simp only [Device.ofContents, hbyte]
  have hsize : min (d.extract 0 programSize).size programSize = min d.size programSize := by
    rw [Array.size_extract]
    omega
  rw [load, load, hcells, hsize]

/-- Contents that agree as far as they go into the program region load alike. -/
theorem load_congr {d d' : Array UInt8} (h : d'.extract 0 programSize = d.extract 0 programSize) :
    load d' = load d := by
  rw [← load_extract, h, load_extract]

end Memory

/-- Contents that agree as far as they go into the program region make one image. -/
theorem Loading.result_congr {d d' : Array UInt8} (hd : d ≠ #[])
    (h : d'.extract 0 programSize = d.extract 0 programSize) (source : Text) :
    (ofContents d' source).result = .ok (d.extract 0 programSize) := by
  have hne : d' ≠ #[] := by
    rintro rfl
    have hsize := congrArg Array.size h
    have hpos : 0 < d.size := Array.size_pos_iff.mpr hd
    simp only [Array.size_extract, programSize, Array.size_empty] at hsize
    omega
  rw [result_ofContents hne, h]

/-! ## Nothing but a reset reads the image -/

/-- The machine with another image for its resets. -/
def Machine.withImage (m : Machine) (image : Array UInt8) : Machine := { m with image }

/-- The stretch with another image in the machine that it leaves. -/
def Stretch.withImage (s : Stretch) (image : Array UInt8) : Stretch :=
  { s with machine := s.machine.withImage image }

namespace Machine

variable (m : Machine) (image : Array UInt8)

theorem step_withImage :
    (m.withImage image).step = { m.step with machine := m.step.machine.withImage image } := by
  rcases hf : m.state.memory.fetch with _ | (_ | ⟨w, memory⟩)
  · simp only [step, withImage, hf]
  · simp only [step, withImage, hf]
    rfl
  · rcases hr : ExceptT.run (Instruction.decode w).execute { m.state with memory }
      with ⟨_ | _, _⟩ <;> simp only [step, withImage, counter, execute, hf, hr]

theorem runSlots_withImage (n : Nat) : ∀ (m : Machine) (trace : Array Int),
    runSlots n (m.withImage image) trace = (runSlots n m trace).withImage image := by
  induction n with
  | zero => exact fun _ _ => rfl
  | succ n ih =>
    intro m trace
    have hstep : ((m.withImage image).charge 1).step =
        { (m.charge 1).step with machine := (m.charge 1).step.machine.withImage image } :=
      step_withImage (m.charge 1) image
    by_cases hw : m.state.awaiting.isSome
    · have hw' : (m.withImage image).state.awaiting.isSome := hw
      rw [runSlots, runSlots, if_pos hw, if_pos hw']
      rfl
    · have hw' : ¬(m.withImage image).state.awaiting.isSome := hw
      simp only [runSlots, if_neg hw, if_neg hw', hstep]
      rcases (m.charge 1).step.result with e | s
      · rfl
      · exact ih ..

theorem advance_withImage (micros : Int) :
    (m.withImage image).advance micros = (m.advance micros).withImage image := by
  by_cases h : 0 ≤ micros
  · have hrun : ((m.withImage image).credit micros.toNat).slotRun =
        (m.credit micros.toNat).slotRun.withImage image :=
      runSlots_withImage image _ (m.credit micros.toNat) #[]
    -- the failure of the slots decides whether the timers tick, and it is the same for both
    rcases hf : (m.credit micros.toNat).slotRun.failure with _ | e
    · rw [advance_of_none h hf, advance_of_none h (by rw [hrun]; exact hf), hrun]
      rfl
    · rw [advance_of_failure h hf, advance_of_failure h (by rw [hrun]; exact hf), hrun]
  · rw [advance, advance, if_pos (not_le.mp h), if_pos (not_le.mp h)]
    rfl

theorem elapse_withImage (time : Elapsed) :
    (m.withImage image).elapse time = (m.elapse time).withImage image := by
  rw [elapse, elapse]
  rcases time.micros with r | n
  · rfl
  · exact advance_withImage m image n

theorem answer_withImage (c : Call) : (m.withImage image).answer c = m.answer c := by
  cases c with
  | step => rw [answer, step_withImage, answer]
  | advance micros => rw [answer, advance_withImage, answer]; rfl
  | elapse time => rw [answer, elapse_withImage, answer]; rfl
  | updateKey code pressed =>
    rw [answer, answer, updateKey_eq, updateKey_eq]
    split_ifs <;> rfl
  | reset => rfl
  | scan => rw [answer, scanInPlace_eq, answer, scanInPlace_eq]; rfl
  | disassemble start length => rfl

variable {m image}

/-- **A reset sees an image loaded**, and no other call sees it. -/
theorem after_withImage (h : Memory.load m.image = Memory.load image) (c : Call) :
    (m.withImage image).after c = (m.after c).withImage image := by
  cases c with
  | step => rw [after, step_withImage, after]
  | advance micros => rw [after, advance_withImage, after]; rfl
  | elapse time => rw [after, elapse_withImage, after]; rfl
  | updateKey code pressed =>
    rw [after, after, updateKey_eq, updateKey_eq]
    split_ifs <;> rfl
  | reset => simp only [after, reset, State.initial, withImage, h]
  | scan => rw [after, scanInPlace_eq, after, scanInPlace_eq]
  | disassemble start length => rfl

theorem respond_withImage (h : Memory.load m.image = Memory.load image) (d : Deed) :
    (m.withImage image).respond d = ((m.respond d).1, (m.respond d).2.withImage image) := by
  cases d with
  | call c => rw [respond, answer_withImage, after_withImage h, respond]
  | setAddress | setDelay | setSound | writeMemory | writeRegister => rfl

theorem look_withImage (l : Look) :
    (m.withImage image).look l = ((m.look l).1, (m.look l).2.withImage image) := by
  rw [look_eq, look_eq]
  cases l <;> rfl

/-- **An image is seen as it is loaded.**  A machine with another image that loads alike is known by
the same replies. -/
theorem image_view (image : Array UInt8) :
    View request request (fun m => Memory.load m.image = Memory.load image)
      fun m => m.withImage image where
  keeps m r h := by
    cases r with
    | inl d => exact (congrArg Memory.load ((Descends.refl m).respond d).image).trans h
    | inr l => rwa [request, askAmong, look_eq]
  same m r h := by
    cases r with
    | inl d => rw [request, askAmong, respond_withImage h]; rfl
    | inr l => rw [request, askAmong, look_withImage]; rfl

/-! ## Paths to a machine -/

variable {d image : Array UInt8} {speed : Number} {generator : Generator} {m : Machine}

theorem create_withImage (h : Memory.load d = Memory.load image)
    (hm : create d speed generator = .ok m) :
    create image speed generator = .ok (m.withImage image) := by
  obtain ⟨cycle, pos, hspeed, rfl⟩ := create_ok hm
  rw [create, hspeed]
  simp only [bind, Except.bind, pure, Except.pure, withImage, fresh, State.initial, h]

/-- A machine made of other contents that load alike is known by the same replies. -/
theorem dialogue_withImage (h : Memory.load d = Memory.load image)
    (hm : create d speed generator = .ok m) (rs : List (Deed ⊕ Look)) :
    dialogue request (m.withImage image) rs =
      ((dialogue request m rs).1, (dialogue request m rs).2.withImage image) := by
  have himage : m.image = d := by
    obtain ⟨cycle, pos, -, rfl⟩ := create_ok hm
    rfl
  exact (image_view image).dialogue_eq rs (himage ▸ h)

/-- The memory of a machine that was just made holds its contents and zeros behind them. -/
theorem read_of_create (hm : create d speed generator = .ok m) {k : Nat} (hk : k < programSize) :
    m.state.memory.read (0x200 + k) = .ok (d[k]?.getD 0) := by
  obtain ⟨cycle, pos, -, rfl⟩ := create_ok hm
  rw [programSize] at hk
  have hplace : ((0x200 : Int) + k - 0x200).toNat = k := by omega
  have hbyte : (fresh d cycle pos generator).state.memory.byte (0x200 + k) =
      d[((0x200 : Int) + k - 0x200).toNat]?.getD 0 := Memory.byte_load d (by omega)
  rw [Memory.read_eq, if_pos (by omega), hbyte, hplace]

/-- **Loading does not depend on the path.**  Contents that are not empty make an image, and the
machine of this image and the machine of the contents themselves are refused the same speeds.  They
start in one state, which holds the contents as far as they go into the program region, with zeros
behind them, and whatever is asked of them, resets included, they reply alike and are left in one
state.  The same holds of other contents that agree with these as far as they go into the program
region. -/
theorem loading_paths_agree (hd : d ≠ #[]) (speed : Number) (generator : Generator) :
    ∃ image, (Loading.ofContents d Loading.unnamed).result = .ok image ∧
      (∀ clock, speed = .real clock →
        ofContents d clock generator = create image speed generator) ∧
      (∀ r, create image speed generator = .error r ↔ create d speed generator = .error r) ∧
      ∀ m, create d speed generator = .ok m → ∃ built,
        create image speed generator = .ok built ∧ built.state = m.state ∧
        m.state.memory.words = min d.size programSize / 2 ∧
        (∀ k < programSize, m.state.memory.read (0x200 + k) = .ok (d[k]?.getD 0)) ∧
        (∀ rs, dialogue request built rs =
          ((dialogue request m rs).1, (dialogue request m rs).2.withImage image)) ∧
        ∀ d' : Array UInt8, d'.extract 0 programSize = d.extract 0 programSize →
          (Loading.ofContents d' Loading.unnamed).result = .ok image ∧
          ∃ m', create d' speed generator = .ok m' ∧ ∀ rs, dialogue request m' rs =
            ((dialogue request m rs).1, (dialogue request m rs).2.withImage d') := by
  have hload : Memory.load d = Memory.load (d.extract 0 programSize) := (Memory.load_extract d).symm
  refine ⟨d.extract 0 programSize, Loading.result_ofContents hd, ?_, fun r => ?_, fun m hm => ?_⟩
  · rintro clock rfl
    exact ofContents_eq_create hd clock generator
  · rw [create, create]
    rcases speed.period with r' | p
    · exact Iff.rfl
    · constructor <;> intro h <;> cases h
  refine ⟨m.withImage (d.extract 0 programSize), create_withImage hload hm, rfl, ?_,
    fun k hk => read_of_create hm hk, dialogue_withImage hload hm,
    fun d' hd' => ⟨Loading.result_congr hd hd' _, ?_⟩⟩
  · obtain ⟨cycle, pos, -, rfl⟩ := create_ok hm
    rfl
  · have hload' : Memory.load d = Memory.load d' := (Memory.load_congr hd').symm
    exact ⟨m.withImage d', create_withImage hload' hm, dialogue_withImage hload' hm⟩

/-- An odd number of bytes, more than the program region takes, with another row of bytes that goes
on behind it. -/
theorem loading_paths_agree_long :
    let d := Array.replicate 3585 (0x12 : UInt8)
    let d' := Array.replicate 4000 (0x12 : UInt8)
    d ≠ #[] ∧ ∃ m m', create d (.whole 500) (.cycling #[]) = .ok m ∧
      create d' (.whole 500) (.cycling #[]) = .ok m' ∧
      m.state.memory.words = 1792 ∧ m.state.memory.read 0xFFF = .ok 0x12 ∧
      (dialogue request m' [.inl (.call .step), .inl (.call .reset), .inr .scan]).1 =
        (dialogue request m [.inl (.call .step), .inl (.call .reset), .inr .scan]).1 := by
  intro d d'
  have hd : d ≠ #[] := by
    intro h
    exact absurd (congrArg Array.size h) (by simp [d])
  have hm : create d (.whole 500) (.cycling #[]) = .ok (fresh d 2000 (by decide) (.cycling #[])) :=
    create_whole _ (n := 500) (by decide) _
  obtain ⟨image, -, -, -, hpaths⟩ := loading_paths_agree hd (.whole 500) (.cycling #[])
  obtain ⟨built, -, -, hwords, hread, -, hothers⟩ := hpaths _ hm
  have hcut : d'.extract 0 programSize = d.extract 0 programSize := by
    simp [d, d', programSize]
  obtain ⟨-, m', hm', hsame⟩ := hothers d' hcut
  refine ⟨hd, _, m', hm, hm', ?_, ?_, by rw [hsame]⟩
  · rw [hwords]
    simp [d, programSize]
  · have hlast := hread 3583 (by decide)
    simpa [d] using hlast

end Machine

end Chip8
