import KanaSettings.Store.Memory
import KanaSettings.Editor.Basic
import KanaSettings.CommandLine.Run
import KanaSettings.Main
import KanaSettings.Proofs.Editor.Step
import KanaSettings.Proofs.Editor.Session
import KanaSettings.Proofs.Document.Place
import KanaSettings.Proofs.Editor.Serial
import KanaSettings.Proofs.Editor.Interleaving
import KanaSettings.Proofs.FileTree.Follow
import KanaSettings.Proofs.FileTree.Growth
import KanaSettings.Proofs.FileTree.Replace
import KanaSettings.Proofs.Store.File
import KanaSettings.Proofs.Editor.Failure
import KanaSettings.Proofs.Document.Edited
import KanaSettings.Proofs.Document.Lens
import KanaSettings.Proofs.Editor.Shared
import KanaSettings.Proofs.Slice.Valid
import KanaSettings.Proofs.Editor.Lasting
import KanaSettings.Proofs.Json.Members
import KanaSettings.Proofs.Slice.Symbols
import KanaSettings.Proofs.Slice.Stable
import KanaSettings.Proofs.Editor.Settled
import KanaSettings.Proofs.Editor.Account
import KanaSettings.Proofs.Editor.Phases
import KanaSettings.Proofs.Editor.Snapshot
import KanaSettings.Proofs.Json.Spelling
import KanaSettings.Proofs.Json.Tokens
import KanaSettings.Proofs.Json.Shape
import KanaSettings.Proofs.Json.RoundTrip
import KanaSettings.Proofs.Json.Reading
import KanaSettings.Proofs.Wire.Message
import KanaSettings.Proofs.Document.Distinct
import KanaSettings.Proofs.Store.Remote
import KanaSettings.Proofs.Editor.Relayed
import KanaSettings.Proofs.Wire.Legible
import KanaSettings.Proofs.Wire.Stream
import KanaSettings.Proofs.Store.Saving
import KanaSettings.Proofs.FileTree.Again
import KanaSettings.Proofs.Document.Legible
import KanaSettings.Proofs.Editor.Reloaded
import KanaSettings.Proofs.Host.Conduct
import KanaSettings.Proofs.Json.NumberText
import KanaSettings.Proofs.Json.Written
import KanaSettings.Proofs.Json.Outline
import KanaSettings.Proofs.Json.Place
import KanaSettings.Proofs.Json.Kept
import KanaSettings.Proofs.Document.Outline
import KanaSettings.Proofs.Store.Relay
import KanaSettings.Proofs.Editor.Crash
import KanaSettings.Proofs.Editor.Race
import KanaSettings.Proofs.Editor.Numerals
import KanaSettings.Proofs.Host.Log
import KanaSettings.Proofs.Host.Returned
import KanaSettings.Proofs.Editor.Forgetting
import KanaSettings.Proofs.Store.Reliable
import KanaSettings.Proofs.Editor.Confined
import KanaSettings.Proofs.Editor.Independent
import KanaSettings.Proofs.Binary64.Rounding
import KanaSettings.Proofs.Binary64.Shortest
import KanaSettings.Proofs.Json.Readable
import KanaSettings.Proofs.Document.Readable
import KanaSettings.Proofs.CommandLine.Execute
import KanaSettings.Proofs.CommandLine.Local
import KanaSettings.Proofs.Slice.Report
import KanaSettings.Proofs.Slice.Dictionary
import KanaSettings.Proofs.Slice.Rules
import KanaSettings.Proofs.Slice.Reading
import KanaSettings.Proofs.Editor.Refusal
import KanaSettings.Proofs.Slice.Canonical
import KanaSettings.Proofs.Slice.Restored
import KanaSettings.Proofs.Store.Steady
import KanaSettings.Proofs.Slice.Tables
import KanaSettings.Proofs.Editor.Assigned
import KanaSettings.Proofs.Editor.Repeated
import KanaSettings.Proofs.CommandLine.Tables
import KanaSettings.Proofs.CommandLine.Listed
import KanaSettings.Proofs.Slice.Decoded
import KanaSettings.Proofs.Slice.Single
import KanaSettings.Proofs.CommandLine.Patched
