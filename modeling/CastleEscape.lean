import CastleEscape.Castle.Direction
import CastleEscape.Castle.Item
import CastleEscape.Castle.Passages
import CastleEscape.Castle.Room
import CastleEscape.Castle.Setting
import CastleEscape.Command
import CastleEscape.Completion
import CastleEscape.DataFiles.Disk
import CastleEscape.DataFiles.Path
import CastleEscape.DataFiles.Root
import CastleEscape.Game.Act
import CastleEscape.Game.FloorPlan
import CastleEscape.Game.Gate
import CastleEscape.Game.Hazard
import CastleEscape.Game.Line
import CastleEscape.Game.Narration
import CastleEscape.Game.Search
import CastleEscape.Game.Turn
import CastleEscape.Game.Whereabouts
import CastleEscape.Game.World
import CastleEscape.Launch
import CastleEscape.Main
import CastleEscape.Program
import CastleEscape.Proofs.Acts
import CastleEscape.Proofs.Answers
import CastleEscape.Proofs.Board
import CastleEscape.Proofs.Burning
import CastleEscape.Proofs.Candle
import CastleEscape.Proofs.Candour
import CastleEscape.Proofs.Charges
import CastleEscape.Proofs.Colours
import CastleEscape.Proofs.Completing
import CastleEscape.Proofs.Cutting
import CastleEscape.Proofs.Decoding
import CastleEscape.Proofs.Deed
import CastleEscape.Proofs.Effects
import CastleEscape.Proofs.Encores
import CastleEscape.Proofs.Ending
import CastleEscape.Proofs.Faults
import CastleEscape.Proofs.FloorPlans
import CastleEscape.Proofs.Grammar
import CastleEscape.Proofs.Journey
import CastleEscape.Proofs.Layouts
import CastleEscape.Proofs.Letters
import CastleEscape.Proofs.Names
import CastleEscape.Proofs.News
import CastleEscape.Proofs.Night
import CastleEscape.Proofs.Operations
import CastleEscape.Proofs.Order
import CastleEscape.Proofs.Painting
import CastleEscape.Proofs.Parsing
import CastleEscape.Proofs.Places
import CastleEscape.Proofs.Printing
import CastleEscape.Proofs.Reading
import CastleEscape.Proofs.Replies
import CastleEscape.Proofs.Rescue
import CastleEscape.Proofs.Rewording
import CastleEscape.Proofs.Rounds
import CastleEscape.Proofs.Run
import CastleEscape.Proofs.Searching
import CastleEscape.Proofs.Settling
import CastleEscape.Proofs.ShippedWording
import CastleEscape.Proofs.Sources
import CastleEscape.Proofs.Spelling
import CastleEscape.Proofs.TypedNames
import CastleEscape.Proofs.Undoing
import CastleEscape.Proofs.Walks
import CastleEscape.Proofs.Widths
import CastleEscape.Proofs.Wishes
import CastleEscape.Proofs.Wrapping
import CastleEscape.Session
import CastleEscape.Session.Display
import CastleEscape.Session.Scene
import CastleEscape.Text.Alphanumeric
import CastleEscape.Text.Alphanumeric.Table
import CastleEscape.Text.Blank
import CastleEscape.Text.Columns
import CastleEscape.Text.Columns.Table
import CastleEscape.Text.Escape
import CastleEscape.Text.LineBreak
import CastleEscape.Text.LineBreak.Class
import CastleEscape.Text.LineBreak.Table
import CastleEscape.Text.Lines
import CastleEscape.Text.LowerCase
import CastleEscape.Text.LowerCase.Table
import CastleEscape.Text.Ranges
import CastleEscape.Text.Replace
import CastleEscape.Text.Utf8
import CastleEscape.Text.Wrap
import CastleEscape.Tone
import CastleEscape.Wording
import CastleEscape.Wording.Datum
import CastleEscape.Wording.Fault
import CastleEscape.Wording.Lexicon
import CastleEscape.Wording.Load
import CastleEscape.Wording.Message
import CastleEscape.Wording.Script
import CastleEscape.Wording.Shipped
import CastleEscape.Wording.Toml.Document
import CastleEscape.Wording.Toml.Scalar
import CastleEscape.Wording.Toml.Text
import CastleEscape.Wording.Toml.Tree
import CastleEscape.Wording.Toml.Value
