import BudBreeding.Lifecycle.Progress
import BudBreeding.Lifecycle.Timing
import BudBreeding.Occupancy.Creation
import BudBreeding.Lifecycle.Finalization
import BudBreeding.Points.Updates
import BudBreeding.Points.Transactions
import BudBreeding.Events.Deposits
import BudBreeding.Backend.Usage
import BudBreeding.Lifecycle.Statuses
import BudBreeding.Lifecycle.Odds
import BudBreeding.Lifecycle.Retries
import BudBreeding.Lifecycle.Evaluation
import BudBreeding.Lifecycle.Rates
import BudBreeding.Lifecycle.Offspring
import BudBreeding.Lifecycle.Revealing
import BudBreeding.Lifecycle.Names
import BudBreeding.Points.Solvency
import BudBreeding.Events.AtMostOnce
import BudBreeding.Occupancy.Guarantees
import BudBreeding.Occupancy.Batches
import BudBreeding.Occupancy.Keys
import BudBreeding.Occupancy.Purchases
import BudBreeding.Access.Identity
import BudBreeding.Access.Messages
import BudBreeding.Access.GiftCards
import BudBreeding.Possession.Transfers
import BudBreeding.Possession.Items
import BudBreeding.Possession.FarmerPass
import BudBreeding.Possession.Advancing
import BudBreeding.Statistics.Pages
import BudBreeding.Statistics.Overlap
import BudBreeding.Statistics.Verdicts
import BudBreeding.Statistics.Spending
import BudBreeding.Statistics.Metrics
import BudBreeding.Tables.Bonuses
import BudBreeding.Lifecycle.Calibration
import BudBreeding.Tables.Traits
import BudBreeding.Access.Signing
import BudBreeding.Concurrency.Confinement
import BudBreeding.Concurrency.Signatures
import BudBreeding.Mediation.Audit
import BudBreeding.Mediation.Backing
import BudBreeding.Mediation.Accountability
import BudBreeding.Concurrency.Views
import BudBreeding.Concurrency.Serial
import BudBreeding.Statistics.Live
import BudBreeding.Backend.Shop
import BudBreeding.Mediation.Delivery
import BudBreeding.Statistics.Breeders
import BudBreeding.Statistics.Lookup
