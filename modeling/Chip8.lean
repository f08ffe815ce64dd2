import Chip8.Picture.Sheet
import Chip8.Progress.Drawing
import Chip8.Progress.Opening
import Chip8.Proofs.Bounds
import Chip8.Proofs.History
import Chip8.Proofs.Obstacle
import Chip8.Session
import Chip8.Proofs.Frame
import Chip8.Proofs.Independence
import Chip8.Proofs.SessionRun
import Chip8.Proofs.Listed
import Chip8.Proofs.Mnemonic
import Chip8.Proofs.Interleaving
import Chip8.Proofs.Draws
import Chip8.Proofs.Reset
import Chip8.Proofs.Timers
import Chip8.Proofs.Reports
import Chip8.Proofs.Operand
import Chip8.Proofs.SpriteLoop
import Chip8.Proofs.ControlFlow
import Chip8.Proofs.FlagArithmetic
import Chip8.Proofs.RegisterTransfer
import Chip8.Proofs.Decoding
import Chip8.Proofs.SpriteParity
import Chip8.Proofs.ListingText
import Chip8.Proofs.DisplayPicture
import Chip8.Proofs.SheetLayout
import Chip8.Proofs.KeyWait
import Chip8.Proofs.Loading
import Chip8.Proofs.DecimalDigits
import Chip8.Proofs.MeterRounds
import Chip8.Proofs.WideCode
import Chip8.Proofs.BoundedStack
import Chip8.Proofs.LevelFilter
