import Walkthrough.Main
import Walkthrough.Proofs.Route.Image
import Walkthrough.Proofs.Run.Account
import Walkthrough.Proofs.Run.Bare
import Walkthrough.Proofs.Run.HandIn
import Walkthrough.Proofs.Run.Layout
import Walkthrough.Proofs.Run.Ledger
import Walkthrough.Proofs.Run.Report
import Walkthrough.Proofs.Travel.Footprint
import Walkthrough.Proofs.Travel.Integrity
import Walkthrough.Proofs.Travel.Portal
import Walkthrough.Proofs.Travel.Provenance
import Walkthrough.Proofs.Travel.Region
import Walkthrough.Proofs.Travel.Reliance
import Walkthrough.Proofs.Route.RoundTrip
import Walkthrough.Proofs.Number.Rounding
import Walkthrough.Proofs.Travel.Direction
import Walkthrough.Proofs.Run.Selection
import Walkthrough.Proofs.Run.Quests
import Walkthrough.Proofs.Route.Comment
import Walkthrough.Proofs.Json.Sound
import Walkthrough.Proofs.World.Format
import Walkthrough.Proofs.World.Issues
import Walkthrough.Proofs.World.Shown
import Walkthrough.Proofs.Files.Packaged
import Walkthrough.Proofs.Files.Shelf
import Walkthrough.Proofs.Route.Written
import Walkthrough.Proofs.Command.Outcome
import Walkthrough.Proofs.Command.Newline
import Walkthrough.Proofs.Run.Log
import Walkthrough.Proofs.Files.Announced
import Walkthrough.Proofs.Command.LogLevel
import Walkthrough.Proofs.Route.Scanner
