import Chip8.Main
import Chip8.Proofs.Assembly
import Chip8.Proofs.Chance
import Chip8.Proofs.Drawing
import Chip8.Proofs.Drive
import Chip8.Proofs.Flat
import Chip8.Proofs.Inspection
import Chip8.Proofs.Keys
import Chip8.Proofs.Remains
import Chip8.Proofs.Reset
import Chip8.Proofs.Scan
import Chip8.Proofs.Startup
import Chip8.Proofs.Timers
import Chip8.Proofs.Typing
import Chip8.Proofs.Waiting
import Chip8.Value.Selector
import Chip8.Proofs.Successor
import Chip8.Proofs.Arithmetic
import Chip8.Proofs.Transfer
import Chip8.Proofs.Sprites
import Chip8.Proofs.Stack
import Chip8.Proofs.Extent
import Chip8.Proofs.Labels
import Chip8.Proofs.Loading
import Chip8.Proofs.Cells
import Chip8.Proofs.Painting
