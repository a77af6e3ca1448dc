import NameSieve.Main
import NameSieve.Proofs.Analyzer
import NameSieve.Proofs.AxisSet
import NameSieve.Proofs.Chart.Layout
import NameSieve.Proofs.Chart.Load
import NameSieve.Proofs.Chart.Order
import NameSieve.Proofs.Chart.Scale
import NameSieve.Proofs.Classifier
import NameSieve.Proofs.Command.Arguments
import NameSieve.Proofs.Command.Filter
import NameSieve.Proofs.FileSystem.Directories
import NameSieve.Proofs.FileSystem.Files
import NameSieve.Proofs.Name.Dunder
import NameSieve.Proofs.Name.Hidden
import NameSieve.Proofs.Name.Joined
import NameSieve.Proofs.Number.Layout
import NameSieve.Proofs.Number.Rounding
import NameSieve.Proofs.Number.Value
import NameSieve.Proofs.Pipeline.Effects
import NameSieve.Proofs.Pipeline.Ragged
import NameSieve.Proofs.Pipeline.Rerun
import NameSieve.Proofs.Pipeline.Spellings
import NameSieve.Proofs.Pipeline.Steps
import NameSieve.Proofs.Pipeline.Storage
import NameSieve.Proofs.Request
import NameSieve.Proofs.Script.Leaves
import NameSieve.Proofs.Sieve.Account
import NameSieve.Proofs.Sieve.Again
import NameSieve.Proofs.Sieve.Stages
import NameSieve.Proofs.Sieve.Survivors
import NameSieve.Proofs.Support
import NameSieve.Proofs.Table.Position
import NameSieve.Proofs.Table.Readings
import NameSieve.Proofs.Table.Rectangular
import NameSieve.Proofs.Table.RoundTrip
import NameSieve.Proofs.Table.Spelled
import NameSieve.Proofs.Table.Spelling
import NameSieve.Proofs.Table.Torn
import NameSieve.Proofs.Table.Whole
import NameSieve.Proofs.Text.Split
import NameSieve.Proofs.Text.Utf8
import NameSieve.Proofs.Text.WellFormed
