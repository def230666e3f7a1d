import Fulfilment.LogFormat
import Fulfilment.Package.Shipment
import Fulfilment.Shipping.Registry
import Fulfilment.Proofs.Package.Overflow
import Fulfilment.Proofs.Package.Surroundings
import Fulfilment.Proofs.Stock.Overrides
import Fulfilment.Proofs.Allocation.Conservation
import Fulfilment.Proofs.Allocation.Failure
import Fulfilment.Proofs.Allocation.Overrides
import Fulfilment.Proofs.Allocation.OwnCount
import Fulfilment.Proofs.Allocation.Relevance
import Fulfilment.Proofs.Allocation.Value
import Fulfilment.Proofs.Shipping.Acceptance
import Fulfilment.Proofs.Shipping.Cents
import Fulfilment.Proofs.Shipping.Reload
import Fulfilment.Proofs.Shipping.TagRule
import Fulfilment.Proofs.Package.Repetition
import Fulfilment.Proofs.Shipping.History
import Fulfilment.Proofs.Package.Shipment
import Fulfilment.Proofs.Allocation.Spelling
import Fulfilment.Proofs.Order.Places
import Fulfilment.Proofs.Keyed
import Fulfilment.Proofs.Order.Merging
import Fulfilment.Proofs.Package.Supply
import Fulfilment.Proofs.Package.Changes
import Fulfilment.Proofs.Settings
