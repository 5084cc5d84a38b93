import Chip8.Journal
import Chip8.Machine

/-!
# Image — program images before they are loaded

An image is cut to the size of the program region, with a warning, and an empty one is refused.
-/

namespace Chip8

/-- What became of an image, and the notes about it. -/
structure Loading where
  notes : List Note
  result : Except Refusal (Array UInt8)

namespace Loading

/-- The image of some contents that come from a named source. -/
def ofContents (contents : Array UInt8) (source : Text) : Loading :=
  if contents.isEmpty then { notes := [], result := .error (.emptyImage source) }
  else
    let size := contents.size
    if size > programSize then
      let message : Text :=
        "ROM image " ++ source ++ s!" is {size} bytes; truncating to 3584 bytes (0x200-0xFFF)."
      { notes := [⟨.warning, .image, message⟩], result := .ok (contents.extract 0 programSize) }
    else if size % 2 = 1 then
      let message : Text := "ROM image " ++ source ++ s!" has an odd length ({size} bytes)."
      { notes := [⟨.debug, .image, message⟩], result := .ok contents }
    else { notes := [], result := .ok contents }

/-- The name of an image that comes from no file. -/
def unnamed : Text := "<bytes>"

end Loading

namespace Machine

/-- A machine with the image of some contents, at a clock speed. -/
def ofContents (contents : Array UInt8) (speed : Float) (generator : Generator) :
    Except Refusal Machine := do
  let image ← (Loading.ofContents contents Loading.unnamed).result
  create image (.real speed) generator

end Machine

end Chip8
