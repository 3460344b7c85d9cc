import TextAdventure.Main
import TextAdventure.Proofs.Catalogue
import TextAdventure.Proofs.Console.Replayed
import TextAdventure.Proofs.Growth
import TextAdventure.Proofs.Lookup
import TextAdventure.Proofs.Patterns
import TextAdventure.Proofs.Percentages
import TextAdventure.Proofs.Play.Delivered
import TextAdventure.Proofs.Play.Entered
import TextAdventure.Proofs.Play.Paused
import TextAdventure.Proofs.Play.Replay
import TextAdventure.Proofs.Play.Resumed
import TextAdventure.Proofs.Play.Retold
import TextAdventure.Proofs.Play.Sessions
import TextAdventure.Proofs.Script.Compared
import TextAdventure.Proofs.Script.Grouped
import TextAdventure.Proofs.Script.Pointed
import TextAdventure.Proofs.Script.Recognized
import TextAdventure.Proofs.Script.Rendering
import TextAdventure.Proofs.Script.Reordered
import TextAdventure.Proofs.Script.Safe
import TextAdventure.Proofs.Script.Spelled
import TextAdventure.Proofs.Script.Undefined
import TextAdventure.Proofs.Script.Writing
import TextAdventure.Proofs.Swaps
import TextAdventure.Proofs.Syntax.Impossible
import TextAdventure.Proofs.Template.Scan
import TextAdventure.Proofs.Text.Typing
