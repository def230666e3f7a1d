import Fulfilment.Allocation
import Fulfilment.Proofs.Outcome
import Fulfilment.Proofs.Package.Surroundings

/-! Allocating looks at the surroundings of packages only to price them.

What is changed around the contents of packages can be changed in the offers or in the outcome,
as far as prices do not depend on it. -/
namespace Fulfilment.Allocation

variable {order other : Order} {settings : Settings} {change : Package → Package}

theorem offers_changed (requests : other.requests = order.requests)
    (offered : ∀ location used, Package.offer other location used settings.defaultCurrency =
      change (Package.offer order location used settings.defaultCurrency))
    (locations : List StockLocation) (overrides : Option StockOverrides) :
    offers other locations overrides settings =
      (offers order locations overrides settings).map change := by
  have variants : other.variants = order.variants := by
    rw [Order.variants, requests, Order.variants]
  rw [offers, offers, variants, List.map_map]
  apply List.map_congr_left
  intro location _
  exact offered location _

/-- Prices of changed packages are changed prices. -/
theorem priceAll_changed {turn : List Rate → List Rate}
    (quoted : ∀ package, (change package).quote settings.checkout settings.applyTags =
      (package.quote settings.checkout settings.applyTags).map turn)
    (rated : ∀ package rates,
      (change package).setRates (turn rates) = change (package.setRates rates))
    (packages : List Package) :
    priceAll settings (packages.map change) = (priceAll settings packages).map (List.map change) := by
  induction packages with
  | nil => rfl
  | cons package rest ih =>
    rw [List.map_cons, priceAll, priceAll, quoted, ih]
    cases package.quote settings.checkout settings.applyTags with
    | error failure => rfl
    | ok rates =>
      cases priceAll settings rest with
      | error failure => rfl
      | ok others =>
        simp only [Except.map, ok_bind, rated]
        rfl

/-- What is allocated once locations have made their offers. -/
def ofOffers (requests : List Request) (settings : Settings) (packages : List Package) :
    Except CalculatorError Allocation := do
  let reconciled := Reconciliation.ofPackages requests packages
  let priced ← priceAll settings reconciled.packages
  return ⟨priced, reconciled.shortfalls⟩

/-- Changing the offers is changing the packages of the allocation. -/
theorem ofOffers_changed (surrounds : Package.Surrounds change)
    (priced : ∀ packages, priceAll settings (packages.map change) =
      (priceAll settings packages).map (List.map change))
    (requests : List Request) (packages : List Package) :
    ofOffers requests settings (packages.map change) =
      (ofOffers requests settings packages).map fun allocation =>
        { allocation with packages := allocation.packages.map change } := by
  rw [ofOffers, ofOffers, surrounds.ofPackages]
  dsimp only
  rw [priced]
  cases priceAll settings (Reconciliation.ofPackages requests packages).packages <;> rfl

end Fulfilment.Allocation
