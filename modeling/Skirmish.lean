import Skirmish.Arena
import Skirmish.Correspondence
import Skirmish.Dice.Seeded
import Skirmish.Exchange
import Skirmish.Gathering
import Skirmish.Main
import Skirmish.Office
import Skirmish.Roster.Lemmas
import Skirmish.Session.Run
import Skirmish.Wire.Varint.Lemmas
import Skirmish.Proofs.Roster
import Skirmish.Proofs.Turns
import Skirmish.Proofs.Turns.Round
import Skirmish.Proofs.Session.News
import Skirmish.Proofs.Session.Relay
import Skirmish.Proofs.Session.Token
import Skirmish.Proofs.View
import Skirmish.Proofs.Correspondence.Post
import Skirmish.Proofs.Session.Members
import Skirmish.Proofs.Correspondence.Exclusion
import Skirmish.Proofs.Correspondence.Progress
import Skirmish.Proofs.Exchange.Hearing
import Skirmish.Proofs.Text.Utf8
import Skirmish.Proofs.Wire.Size
import Skirmish.Proofs.Wire.Field
import Skirmish.Proofs.Wire.Packet
import Skirmish.Proofs.Session.Handover
import Skirmish.Proofs.Session.Transcript
import Skirmish.Proofs.Session.Play
import Skirmish.Proofs.Session.Ending
import Skirmish.Proofs.Session.Overlong
import Skirmish.Proofs.Session.Targets
import Skirmish.Proofs.View.Sending
import Skirmish.Proofs.View.Hearing
import Skirmish.Proofs.Roster.Account
import Skirmish.Proofs.Session.Accounted
import Skirmish.Proofs.Session.Reported
import Skirmish.Proofs.View.Replica
import Skirmish.Proofs.View.Agreement
import Skirmish.Proofs.Gathering.Agreement
import Skirmish.Proofs.Session.Finality
import Skirmish.Proofs.Session.Phases
import Skirmish.Proofs.Session.Rounds
import Skirmish.Proofs.Session.Selection
import Skirmish.Proofs.Text.Utf8.Canonical
import Skirmish.Proofs.Wire.Grammar
import Skirmish.Proofs.Wire.Grammar.Field
import Skirmish.Proofs.Wire.Grammar.Packet
import Skirmish.Proofs.Session.Bystanders
import Skirmish.Proofs.Session.Start
import Skirmish.Proofs.Session.InPlace
import Skirmish.Proofs.Session.Refusals
import Skirmish.Proofs.Frame
import Skirmish.Proofs.Frame.Cut
import Skirmish.Proofs.Hub.Record
import Skirmish.Proofs.Listener
import Skirmish.Proofs.Hub.Outbox
import Skirmish.Proofs.Hub.Stay
import Skirmish.Proofs.Hub.Lossless
import Skirmish.Proofs.Hub.Closing
import Skirmish.Proofs.Combat
import Skirmish.Proofs.Session.Healths
import Skirmish.Proofs.Session.Attrition
import Skirmish.Proofs.Session.Traffic
import Skirmish.Proofs.Session.Attribution
import Skirmish.Proofs.Roster.Refinement
import Skirmish.Proofs.Session.Deeds
import Skirmish.Proofs.Session.FirstTurn
import Skirmish.Proofs.Session.Readiness
import Skirmish.Proofs.Work
import Skirmish.Proofs.View.InPlace
import Skirmish.Proofs.View.Moves
import Skirmish.Proofs.PlayerName
import Skirmish.Proofs.Text.Word
import Skirmish.Proofs.Wire.Delimited
import Skirmish.Proofs.View.Typing
import Skirmish.Proofs.Launch
import Skirmish.Proofs.Terminal
import Skirmish.Proofs.Turns.Next
import Skirmish.Proofs.View.OwnPlayer
