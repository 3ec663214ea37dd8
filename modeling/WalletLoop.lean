import WalletLoop.Action
import WalletLoop.Binary64.Basic
import WalletLoop.Binary64.Shortest
import WalletLoop.Configuration.Basic
import WalletLoop.Configuration.Directory
import WalletLoop.Decimal.Numeral
import WalletLoop.Describe
import WalletLoop.Field
import WalletLoop.Files.Change
import WalletLoop.Files.Path
import WalletLoop.Files.Tree
import WalletLoop.Proofs.Instant.Reading
import WalletLoop.Instant.Text
import WalletLoop.Json.Reading
import WalletLoop.Json.Records
import WalletLoop.Json.Writing
import WalletLoop.Log.Notice
import WalletLoop.Log.Wording
import WalletLoop.Main
import WalletLoop.Preferences.File
import WalletLoop.Preferences.Settings
import WalletLoop.Preferences.Store
import WalletLoop.Preferences.Table
import WalletLoop.Proofs.Configuration.Loading
import WalletLoop.Proofs.Instant.Dates
import WalletLoop.Proofs.Json.Records
import WalletLoop.Proofs.Json.Snapshots
import WalletLoop.Proofs.Preferences.Failures
import WalletLoop.Proofs.Preferences.Keys
import WalletLoop.Proofs.Preferences.Restart
import WalletLoop.Proofs.Preferences.Startup
import WalletLoop.Proofs.Session.Batches
import WalletLoop.Proofs.Session.Budgets
import WalletLoop.Proofs.Session.Firings
import WalletLoop.Proofs.Session.Insertions
import WalletLoop.Proofs.Session.Passes
import WalletLoop.Proofs.Session.Positions
import WalletLoop.Proofs.Session.Redelivery
import WalletLoop.Proofs.Session.Services
import WalletLoop.Proofs.Session.Subscriptions
import WalletLoop.Proofs.Session.Trails
import WalletLoop.Proofs.Session.Updates
import WalletLoop.Proofs.Simulation.Outcome
