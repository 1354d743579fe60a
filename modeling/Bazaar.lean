import Bazaar.Abort
import Bazaar.Amount
import Bazaar.Buffered
import Bazaar.Codec
import Bazaar.Codec.Gesture
import Bazaar.Codec.Item
import Bazaar.Codec.Ledger
import Bazaar.Codec.Outcome
import Bazaar.Codec.Shop
import Bazaar.Codec.Trade
import Bazaar.Configuration
import Bazaar.Currency
import Bazaar.Data
import Bazaar.Data.Json
import Bazaar.Date
import Bazaar.Decimal
import Bazaar.Exchange
import Bazaar.Gesture
import Bazaar.Id
import Bazaar.InPlace
import Bazaar.Instant
import Bazaar.Inventory
import Bazaar.Item
import Bazaar.Launch
import Bazaar.Ledger
import Bazaar.Ledger.Balance
import Bazaar.Ledger.Entry
import Bazaar.Main
import Bazaar.Numeral
import Bazaar.Party
import Bazaar.Recipe
import Bazaar.Recipe.Matching
import Bazaar.Scenario
import Bazaar.Scenario.Replay
import Bazaar.Scene
import Bazaar.Session
import Bazaar.Session.Batch
import Bazaar.Session.Progress
import Bazaar.Settings
import Bazaar.Shop
import Bazaar.Shop.Display
import Bazaar.Shop.Ownership
import Bazaar.Shop.Staging
import Bazaar.Shopkeeper
import Bazaar.Slots
import Bazaar.Source
import Bazaar.Space
import Bazaar.Storage
import Bazaar.Table
import Bazaar.Tax
import Bazaar.Trade
import Bazaar.Trade.Phase
import Bazaar.Window
import Bazaar.Word
import Bazaar.Yaml
import Bazaar.Yaml.Document
import Bazaar.Yaml.Glyph
import Bazaar.Yaml.Node
import Bazaar.Yaml.Scalar
import Bazaar.Yaml.Token
import Bazaar.Proofs.Table
import Bazaar.Proofs.Currency.Worth
import Bazaar.Proofs.Recipe.Matching
import Bazaar.Proofs.Shop.Staging
import Bazaar.Proofs.Shop.Display
import Bazaar.Proofs.Shop.Price
import Bazaar.Proofs.Shop.Refusal
import Bazaar.Proofs.Inventory.Payout
import Bazaar.Proofs.Session.Attempt
import Bazaar.Proofs.Session.Journal
import Bazaar.Proofs.Session.Batch
import Bazaar.Proofs.Window.Consistency
import Bazaar.Proofs.Window.Retained
import Bazaar.Proofs.Exchange.Market
import Bazaar.Proofs.Exchange.Journal
import Bazaar.Proofs.Exchange.Agreement
import Bazaar.Proofs.Exchange.Refresh
import Bazaar.Proofs.Exchange.Watch
import Bazaar.Proofs.Currency.Change
import Bazaar.Proofs.Session.Terms
import Bazaar.Proofs.Session.Payment
import Bazaar.Proofs.Shop.Stock
import Bazaar.Proofs.Shop.Supply
import Bazaar.Proofs.Ledger.Booking
import Bazaar.Proofs.Scenario.Reconciliation
import Bazaar.Proofs.Slots.Picked
import Bazaar.Proofs.Shop.Books
import Bazaar.Proofs.Exchange.Visit
import Bazaar.Proofs.Slots.Settled
import Bazaar.Proofs.Shop.Settled
import Bazaar.Proofs.Session.Alike
import Bazaar.Proofs.Session.Parallel
import Bazaar.Proofs.Session.Relabelled
import Bazaar.Proofs.Exchange.Play
import Bazaar.Proofs.Exchange.Barred
import Bazaar.Proofs.Exchange.Echo
import Bazaar.Proofs.Ledger.Heard
import Bazaar.Proofs.Ledger.History
import Bazaar.Proofs.Ledger.Redelivery
import Bazaar.Proofs.Exchange.Crowd
import Bazaar.Proofs.Slots.Bounded
import Bazaar.Proofs.Shop.Bounded
import Bazaar.Proofs.Exchange.Capacity
import Bazaar.Proofs.Slots.Spared
import Bazaar.Proofs.Currency.Exact
import Bazaar.Proofs.Ledger.DoubleEntry
import Bazaar.Proofs.Codec.Format
import Bazaar.Proofs.Codec.Kept
import Bazaar.Proofs.Codec.Identifier
import Bazaar.Proofs.Codec.Lawful
import Bazaar.Proofs.Codec.Structure
import Bazaar.Proofs.Codec.Formats
import Bazaar.Proofs.Codec.Choice
import Bazaar.Proofs.Codec.Lossless
import Bazaar.Proofs.Slots.Placement
import Bazaar.Proofs.Currency.Cost
import Bazaar.Proofs.Currency.Refund
import Bazaar.Proofs.Slots.Piles
import Bazaar.Proofs.Currency.Unlimited
import Bazaar.Proofs.Slots.Walk
import Bazaar.Proofs.Slots.Operations
import Bazaar.Proofs.Slots.ClientOrder
import Bazaar.Proofs.Slots.Portions
import Bazaar.Proofs.Slots.Removal
import Bazaar.Proofs.Tax.Rounding
import Bazaar.Proofs.Tax.Steps
import Bazaar.Proofs.Currency.Settled
import Bazaar.Proofs.Inventory.Settled
import Bazaar.Proofs.Session.Settled
import Bazaar.Proofs.Exchange.Settled
import Bazaar.Proofs.Shop.Parts
import Bazaar.Proofs.Shop.Preparation
import Bazaar.Proofs.Session.Preparation
