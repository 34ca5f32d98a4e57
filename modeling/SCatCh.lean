import SCatCh.Foundation.Date
import SCatCh.Foundation.Text
import SCatCh.Foundation.UUID
import SCatCh.Lib.List
import SCatCh.Lib.Observer
import SCatCh.Lib.PathTree
import SCatCh.Lib.Progress
import SCatCh.Lib.Sorting
import SCatCh.Lib.TransitionSystem
import SCatCh.Model
import SCatCh.State.Chain
import SCatCh.State.Home
import SCatCh.State.Sheet
import SCatCh.State.SheetLemmas
import SCatCh.State.Stacks
import SCatCh.State.Summary
import SCatCh.State.WaitingRoom
import SCatCh.Storage.Basic
import SCatCh.Storage.Home
import SCatCh.Storage.Keys
import SCatCh.Storage.Part
import SCatCh.Storage.Players
import SCatCh.Storage.RoundTrip
import SCatCh.Storage.Sheet
import SCatCh.Storage.Stored
import SCatCh.Storage.Summary
import SCatCh.Storage.WaitingRoom
import SCatCh.System.Activity
import SCatCh.System.Arithmetic
import SCatCh.System.Board
import SCatCh.System.Complete
import SCatCh.System.Core
import SCatCh.System.Delivery
import SCatCh.System.Devices
import SCatCh.System.Ending
import SCatCh.System.Entries
import SCatCh.System.Gallery
import SCatCh.System.Game
import SCatCh.System.HandIn
import SCatCh.System.HostedGame
import SCatCh.System.Hosting
import SCatCh.System.Isolation
import SCatCh.System.JoinOrder
import SCatCh.System.Leaving
import SCatCh.System.Lobby
import SCatCh.System.LobbyInvariant
import SCatCh.System.LobbyLemmas
import SCatCh.System.Monotone
import SCatCh.System.OrdinaryPlay
import SCatCh.System.Outcome
import SCatCh.System.Ownership
import SCatCh.System.Pace
import SCatCh.System.Play
import SCatCh.System.PlayLemmas
import SCatCh.System.Progress
import SCatCh.System.Prompt
import SCatCh.System.Reference
import SCatCh.System.Roster
import SCatCh.System.RoundEnd
import SCatCh.System.Seating
import SCatCh.System.Settings
import SCatCh.System.SheetClient
import SCatCh.System.SheetClientLemmas
import SCatCh.System.SheetMachine
import SCatCh.System.SheetMachineLemmas
import SCatCh.System.Sheets
import SCatCh.System.SummaryClient
import SCatCh.System.Waiting
import SCatCh.View.Home
