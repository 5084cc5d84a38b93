import Mathlib
import Chip8.Proofs.Assembly
import Chip8.Proofs.Encoding
import Chip8.Proofs.Listing
import Chip8.Proofs.Startup

/-!
# Proofs/Scan — the scan of a program shows its image

A machine that nothing has happened to holds its image, so that its scan goes through the words of
the image in order (`Machine.scan_of_create`).  The assembly of a scan forgets of a word only what
decoding forgets (`Machine.scan_forgets`).  The words beside it forget nothing: the lines that a
start with a scan prints spell the bytes of the image (`Startup.scan_prints_image`).
-/

namespace Chip8

/-! ## The words of an image -/

namespace Image

/-- The word at a place of an image. -/
def word (image : Array UInt8) (k : Nat) : Int :=
  Memory.word (image.getD (2 * k) 0) (image.getD (2 * k + 1) 0)

/-- The line of a scan for a place of an image. -/
def line (image : Array UInt8) (k : Nat) : String :=
  "0x" ++ Hex.text 4 (word image k) ++ " => " ++ (Instruction.decode (word image k)).text

/-- The four characters behind the mark of a line. -/
def hexColumn (line : String) : List Char := (line.toList.drop 2).take 4

theorem word_bounds (image : Array UInt8) (k : Nat) :
    0 ≤ word image k ∧ word image k ≤ 0xFFFF := by
  have hh := (image.getD (2 * k) 0).toNat_lt
  have hl := (image.getD (2 * k + 1) 0).toNat_lt
  simp only [word, Memory.word]
  omega

theorem text_word_spells (image : Array UInt8) (k : Nat) :
    Hex.Spells (Hex.text 4 (word image k)) 4 (word image k) :=
  Hex.text_spells (by decide) (word_bounds image k).1
    (Int.lt_of_le_of_lt (word_bounds image k).2 (by decide))

theorem hexColumn_line (image : Array UInt8) (k : Nat) :
    hexColumn (line image k) = (Hex.text 4 (word image k)).toList := by
  obtain ⟨ds, ht, hlen, -⟩ := text_word_spells image k
  have hlength : (Hex.text 4 (word image k)).toList.length = 4 := by simp [ht, hlen]
  simp [hexColumn, line, hlength]

/-- A word inside the program region is where it was in the image. -/
theorem wordAt_load (image : Array UInt8) {k : Nat} (h : 2 * k + 1 < programSize) :
    (Memory.load image).wordAt (0x200 + 2 * k) = word image k := by
  rw [programSize] at h
  have h0 : ((0x200 : Int) + 2 * k - 0x200).toNat = 2 * k := by omega
  have h1 : ((0x200 : Int) + 2 * k + 1 - 0x200).toNat = 2 * k + 1 := by omega
  rw [Memory.wordAt, Memory.byte_load image (by omega), Memory.byte_load image (by omega), h0, h1,
    word, Array.getD_eq_getD_getElem?, Array.getD_eq_getD_getElem?]

/-- What is cut off behind the program region has no part in the words before it. -/
theorem word_extract (image : Array UInt8) {k : Nat} (h : 2 * k + 1 < programSize) :
    word (image.extract 0 programSize) k = word image k := by
  have hbyte (i : Nat) (hi : i < programSize) :
      (image.extract 0 programSize).getD i 0 = image.getD i 0 := by
    rw [Array.getD_eq_getD_getElem?, Array.getD_eq_getD_getElem?, Array.getElem?_extract]
    split_ifs with hlt
    · rw [Nat.zero_add]
    · rw [Array.getElem?_eq_none (by omega)]
  rw [word, word, hbyte _ (by omega), hbyte _ h]

end Image

namespace Machine

variable {m : Machine} {image : Array UInt8} {speed : Number} {generator : Generator}

/-- **The scan of a fresh machine goes through its image.** -/
theorem scan_of_create (h : create image speed generator = .ok m) :
    m.scan = (List.range (min image.size programSize / 2)).map fun k =>
      (Image.word image k, Instruction.decode (Image.word image k)) := by
  have hm : m.Reachable := .create h
  obtain ⟨cycle, pos, -, rfl⟩ := create_ok h
  rw [scan_eq hm, hm.words]
  refine List.map_congr_left fun k hk => ?_
  have hlt := List.mem_range.mp hk
  have hword : (fresh image cycle pos generator).state.memory.wordAt (0x200 + 2 * k)
      = Image.word image k := Image.wordAt_load image (by omega)
  rw [hword]

/-! ## What the assembly of a scan forgets -/

theorem text_decode_eq_iff {v w : Int} (hv : 0 ≤ v ∧ v ≤ 0xFFFF) (hw : 0 ≤ w ∧ w ≤ 0xFFFF) :
    (Instruction.decode v).text = (Instruction.decode w).text ↔ Opcode.Alike v w := by
  rw [← Instruction.decode_eq_decode_iff hv hw]
  refine ⟨fun h => Option.some.inj ?_, congrArg Instruction.text⟩
  rw [← Instruction.ofText?_text, h, Instruction.ofText?_text]

/-- **The assembly of a scan forgets the ignored bits and nothing else.**  Two images of one size
that fit into the program region have the same assembly just if their words are alike, place by
place.  Every instruction with a pattern is that of some word, and the two variants without one keep
their word whole: a word of group 0 that neither clears the screen nor returns has no effect, and a
word that fits no pattern of its group is unknown. -/
theorem scan_forgets :
    (∀ {image image' : Array UInt8} {speed speed' : Number} {generator generator' : Generator}
      {m m' : Machine}, image.size = image'.size → image.size ≤ programSize →
      create image speed generator = .ok m → create image' speed' generator' = .ok m' →
      (m.scan.map (fun e => e.2.text) = m'.scan.map (fun e => e.2.text) ↔
        ∀ k < image.size / 2, Opcode.Alike (Image.word image k) (Image.word image' k))) ∧
    (∀ i : Instruction, i.Fits → i.HasPattern → ∃ w, Instruction.decode? w = .ok i) ∧
    (∀ v w, Instruction.decode? v = .ok (.noOp w) ↔
      v = w ∧ 0 ≤ w ∧ w < 0x1000 ∧ Opcode.data w ≠ 0xE0 ∧ Opcode.data w ≠ 0xEE) ∧
    ∀ v w, Instruction.decode? v = .ok (.unknown w) ↔ v = w ∧ Opcode.Patternless w := by
  refine ⟨fun hsize hle hm hm' => ?_, fun i hi hp => ?_, fun v w => ?_, fun v w => ?_⟩
  · rw [scan_of_create hm, scan_of_create hm', ← hsize, min_eq_left hle, List.map_map,
      List.map_map, List.map_inj_left]
    simp only [List.mem_range, Function.comp]
    exact forall₂_congr fun k _ =>
      text_decode_eq_iff (Image.word_bounds ..) (Image.word_bounds ..)
  · exact ⟨i.encode, Instruction.decode?_eq_ok_iff.mpr
      ⟨Instruction.encode_bounds hi, Instruction.decode_encode hi hp⟩⟩
  · rw [Instruction.decode?_eq_ok_iff, and_congr_right Instruction.decode_eq_noOp_iff]
    omega
  · rw [Instruction.decode?_eq_ok_iff, and_congr_right Instruction.decode_eq_unknown_iff,
      and_iff_right_iff_imp]
    rintro ⟨rfl, h⟩
    exact h.bounds

/-- Shifts of one register with different ignored bits, and screens cleared with different ones. -/
theorem scan_forgets_shift :
    let m := fresh #[0x81, 0x26, 0x00, 0xE0] 2000 (by decide) (.cycling #[])
    let m' := fresh #[0x81, 0xF6, 0x0A, 0xE0] 2000 (by decide) (.cycling #[])
    m.scan.map (fun e => e.2.text) = m'.scan.map (fun e => e.2.text) ∧
      ∃ w, Instruction.decode? w = .ok (.draw 1 2 15) := by
  intro m m'
  have hm : create #[0x81, 0x26, 0x00, 0xE0] (.whole 500) (.cycling #[]) = .ok m :=
    create_whole _ (by decide) _
  have hm' : create #[0x81, 0xF6, 0x0A, 0xE0] (.whole 500) (.cycling #[]) = .ok m' :=
    create_whole _ (by decide) _
  constructor
  · refine (scan_forgets.1 (by decide) (by decide) hm hm').mpr fun k hk => ?_
    match k, hk with
    | 0, _ => exact Opcode.alike_of_essence (by decide)
    | 1, _ => exact Opcode.alike_of_essence (by decide)
  · exact scan_forgets.2.1 _ (by simp [Instruction.Fits, Instruction.fields, Field.bound])
      (by simp [Instruction.HasPattern])

/-! ## The lines of a scan -/

theorem scanLines_of_create (h : create image speed generator = .ok m) :
    m.scanLines = (List.range (min image.size programSize / 2)).map (Image.line image) := by
  rw [scanLines, scan_of_create h, List.map_map]
  rfl

/-- Contents that are cut to the program region are scanned as far as they go into it. -/
theorem scanLines_of_contents {d : Array UInt8} (hd : d ≠ #[]) {x : Float}
    (h : ofContents d x generator = .ok m) :
    m.scanLines = (List.range (min d.size programSize / 2)).map (Image.line d) := by
  rw [ofContents_eq_create hd] at h
  have hsize : min (d.extract 0 programSize).size programSize / 2 = min d.size programSize / 2 := by
    rw [Array.size_extract]
    omega
  rw [scanLines_of_create h, hsize]
  refine List.map_congr_left fun k hk => ?_
  have hlt := List.mem_range.mp hk
  rw [Image.line, Image.word_extract d (by omega), Image.line]

end Machine

/-- A numeral of a word spells its bytes. -/
theorem Hex.Spells.toBytes {t : String} {high low : UInt8} (h : Spells t 4 (Memory.word high low))
    (rest : List Char) : Hex.toBytes (t.toList ++ rest) = high :: low :: Hex.toBytes rest := by
  obtain ⟨ds, ht, hlen, hlt, hn⟩ := h
  match ds, hlen with
  | [d₀, d₁, d₂, d₃], _ =>
    simp only [List.forall_mem_cons] at hlt
    simp only [Memory.word, Nat.ofDigits_cons, Nat.ofDigits_nil] at hn
    have hl := low.toNat_lt
    have hhigh : 16 * d₃ + d₂ = high.toNat := by omega
    have hlow : 16 * d₁ + d₀ = low.toNat := by omega
    simp [ht, Hex.toBytes, value?_digit, hlt, hhigh, hlow]

namespace Image

theorem toBytes_lines (image : Array UInt8) (ks : List Nat) :
    Hex.toBytes (ks.flatMap fun k => hexColumn (line image k)) =
      ks.flatMap fun k => [image.getD (2 * k) 0, image.getD (2 * k + 1) 0] := by
  induction ks with
  | nil => rfl
  | cons k ks ih =>
    rw [List.flatMap_cons, List.flatMap_cons, hexColumn_line, (text_word_spells image k).toBytes,
      ih]
    rfl

theorem flatMap_bytes (image : Array UInt8) {n : Nat} (h : 2 * n ≤ image.size) :
    ((List.range n).flatMap fun k => [image.getD (2 * k) 0, image.getD (2 * k + 1) 0]) =
      image.toList.take (2 * n) := by
  induction n with
  | zero => rfl
  | succ n ih =>
    rw [List.range_succ, List.flatMap_append, ih (by omega), Nat.mul_succ, List.take_add_one,
      List.take_add_one]
    have h0 : 2 * n < image.size := by omega
    have h1 : 2 * n + 1 < image.size := by omega
    simp [h0, h1]

end Image

/-! ## A start with a scan -/

namespace Startup

/-- A word and a switch ask for a scan of the program that the word names. -/
theorem parse_scan {program : Text} (h : Part.ofText program = .ok (.word program)) :
    Options.parse [program, "--scan"] = .ok (scanOf program none) := by
  have hne : program ≠ Text.ofString "--" := by
    rintro rfl
    cases h
  have hparts : Part.ofArguments [program, "--scan"]
      = .ok [.word program, .switch .scan false none] := by
    rw [Part.ofArguments, if_neg hne, h]
    rfl
  rw [Options.parse, hparts]
  rfl

theorem not_hindrance_of_default {r : Config.Reader} {files : Files} {program : Text}
    {d : Array UInt8} (hd : d ≠ #[]) (hfiles : files (Path.tidy program) = .ok d) (f : Failure) :
    ¬Hindrance r files (scanOf program none) f := by
  have resolved : resolve r files (scanOf program none) = .ok Config.default := rfl
  have speed : refusal? Config.default.clock = none := by decide
  have hread : files (Path.tidy (scanOf program none).program) = .ok d := hfiles
  simp [hindrance_iff (.cycling #[]), resolved, loadMachine_eq_error_iff, hread, hd, speed]

/-- **A scan prints the image.**  Where the argument beside the switch is taken as a word and names
a file that is not empty, whatever its contents, the run ends with 0 and no error, and it prints one
line for each word of the contents, as far as they fit into the program region: the four hexadecimal
digits of the word and its assembly.  The digits of all lines spell the contents. -/
theorem scan_prints_image {program : Text} (hword : Part.ofText program = .ok (.word program))
    (r : Config.Reader) {files : Files} {d : Array UInt8} (hd : d ≠ #[])
    (hfiles : files (Path.tidy program) = .ok d) (generator : Generator) :
    ∃ o lines, Options.parse [program, "--scan"] = .ok o ∧
      (run r files o generator).plan = .finish 0 lines ∧ (run r files o generator).errors = [] ∧
      lines.length = min d.size programSize / 2 ∧
      (∀ k < lines.length, ∃ high low hex, d[2 * k]? = some high ∧ d[2 * k + 1]? = some low ∧
        Hex.Spells hex 4 (256 * high.toNat + low.toNat) ∧
        lines[k]? = some ("0x" ++ hex ++ " => " ++
          (Instruction.decode (256 * high.toNat + low.toNat)).text)) ∧
      Hex.toBytes (lines.flatMap Image.hexColumn) = d.toList.take (2 * lines.length) := by
  obtain ⟨c, contents, m, -, hcontents, hm, hplan, herrors⟩ :=
    run_of_unhindered generator (o := scanOf program none) rfl (not_hindrance_of_default hd hfiles)
  obtain rfl : d = contents := Except.ok.inj (hfiles.symm.trans hcontents)
  rw [Machine.scanLines_of_contents hd hm] at hplan
  refine ⟨_, _, parse_scan hword, hplan, herrors, by simp, fun k hk => ?_, ?_⟩
  · have hlt : k < min d.size programSize / 2 := by simpa using hk
    have h0 : 2 * k < d.size := by omega
    have h1 : 2 * k + 1 < d.size := by omega
    have hspells := Image.text_word_spells d k
    have hword : Image.word d k = 256 * d[2 * k].toNat + d[2 * k + 1].toNat := by
      simp [Image.word, Memory.word, h0, h1]
    refine ⟨d[2 * k], d[2 * k + 1], Hex.text 4 (Image.word d k), by simp [h0], by simp [h1], ?_,
      ?_⟩
    · rw [← hword]
      exact hspells
    · rw [← hword, List.getElem?_map, List.getElem?_range hlt]
      rfl
  · rw [List.flatMap_map, Image.toBytes_lines, Image.flatMap_bytes d (by omega), List.length_map,
      List.length_range]

/-- A program of three bytes, of which the last is no word. -/
theorem scan_prints_image_odd :
    Part.ofText "odd.ch8" = .ok (.word "odd.ch8") ∧
      ∃ o lines, Options.parse ["odd.ch8", "--scan"] = .ok o ∧
        (run (.constant .null) (fun _ => .ok #[0x12, 0x34, 0x56]) o (.cycling #[])).plan
          = .finish 0 lines ∧
        lines.length = 1 ∧ Hex.toBytes (lines.flatMap Image.hexColumn) = [0x12, 0x34] := by
  have hword : Part.ofText "odd.ch8" = .ok (.word "odd.ch8") := rfl
  obtain ⟨o, lines, ho, hplan, -, hlength, -, hbytes⟩ := @scan_prints_image "odd.ch8" hword
    (.constant .null) (fun _ => .ok #[0x12, 0x34, 0x56]) #[0x12, 0x34, 0x56] (by decide) rfl
    (.cycling #[])
  have hone : lines.length = 1 := hlength.trans (by decide)
  refine ⟨hword, o, lines, ho, hplan, hone, ?_⟩
  rw [hbytes, hone]
  rfl

end Startup

end Chip8
