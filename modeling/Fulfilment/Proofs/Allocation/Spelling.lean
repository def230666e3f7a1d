import Fulfilment.Proofs.Allocation.Division
import Fulfilment.Proofs.Allocation.Surroundings
import Fulfilment.Proofs.Package.Failure
import Fulfilment.Proofs.Shipping.Spelling

/-! Orders in which places and currency codes are spelled in another way.

Allocating the plain form of an order gives the plain form of its allocation. Spellings of one
order have one plain form, so that they are allocated alike. -/
namespace Fulfilment
open Allocation Reconciliation

namespace Order

/-- An order with other methods, another currency and another ship address. -/
def rewritten (order : Order) (methods : List ShippingMethod) (currency : Option Currency)
    (shipAddress : Option Address) : Order :=
  { order.withMethods methods with currency, shipAddress }

/-- The same order with other spellings in its methods, its currency and its ship address. -/
structure Respelled (order other : Order) : Prop where
  same : other = order.rewritten other.distributor.methods other.currency other.shipAddress
  methods : List.Forall₂ ShippingMethod.Respelled order.distributor.methods
    other.distributor.methods
  currency : Option.Rel Currency.Reread order.currency other.currency
  shipAddress : Option.Rel Address.Respelled order.shipAddress other.shipAddress

def plain (order : Order) : Order :=
  order.rewritten (order.distributor.methods.map ShippingMethod.plain) order.currency
    (order.shipAddress.map Address.plain)

theorem Respelled.plain_eq {order other : Order} (respelled : order.Respelled other) :
    other.plain = order.plain := by
  have methods : other.distributor.methods.map ShippingMethod.plain =
      order.distributor.methods.map ShippingMethod.plain := by
    apply map_eq_of_forall₂ _ respelled.methods
    exact fun _ _ => ShippingMethod.Respelled.plain_eq
  have shipAddress : other.shipAddress.map Address.plain = order.shipAddress.map Address.plain := by
    apply map_eq_of_rel _ respelled.shipAddress
    exact fun _ _ => Address.Respelled.plain_eq
  calc other.plain
    _ = order.rewritten (other.distributor.methods.map ShippingMethod.plain) other.currency
        (other.shipAddress.map Address.plain) := congrArg plain respelled.same
    _ = order.plain := by
      rw [methods, Currency.eq_of_rel_reread respelled.currency, shipAddress, plain]

end Order

def Rate.plain (rate : Rate) : Rate := { rate with method := rate.method.plain }

namespace Package

def plain (package : Package) : Package :=
  { package with order := package.order.plain, rates := package.rates.map Rate.plain }

theorem surrounds_plain : Surrounds plain := ⟨fun _ => rfl, fun _ _ => rfl⟩

variable (package : Package)

theorem candidates_plain (applyTags : Bool) :
    package.plain.candidates applyTags =
      (package.candidates applyTags).map ShippingMethod.plain := by
  rw [candidates_eq, candidates_eq]
  exact List.filter_map

theorem eligible_plain (methods : List ShippingMethod) :
    package.plain.eligible (methods.map ShippingMethod.plain) =
      (package.eligible methods).map (List.map ShippingMethod.plain) := by
  induction methods with
  | nil => rfl
  | cons method rest ih =>
    have available : method.plain.calculator.available package.plain.parcel =
        method.calculator.available package.parcel := rfl
    have served : method.plain.serves package.plain.order.shipAddress =
        method.serves package.order.shipAddress := method.serves_plain package.order.shipAddress
    have quotes : method.plain.calculator.quotesIn package.plain.currency =
        method.calculator.quotesIn package.currency := rfl
    rw [List.map_cons, eligible, eligible, available, served, quotes, ih]
    cases method.calculator.available package.parcel with
    | error refusal => rfl
    | ok answer =>
      cases package.eligible rest with
      | error refusal => rfl
      | ok others =>
        simp only [Except.map, ok_bind]
        split <;> rfl

theorem priced_plain (methods : List ShippingMethod) :
    package.plain.priced (methods.map ShippingMethod.plain) =
      (package.priced methods).map (List.map Rate.plain) := by
  induction methods with
  | nil => rfl
  | cons method rest ih =>
    have cost : package.plain.cost? method.plain = package.cost? method := rfl
    rw [List.map_cons, priced, priced, cost, ih]
    cases package.cost? method with
    | error failure => rfl
    | ok cost =>
      cases package.priced rest with
      | error failure => rfl
      | ok others =>
        cases cost <;> rfl

theorem byCost_plain (rates : List Rate) :
    byCost (rates.map Rate.plain) = (byCost rates).map Rate.plain := by
  rw [byCost, byCost, List.map_mergeSort]
  intro first _ second _
  rfl

theorem select_plain (checkout : Bool) (rates : List Rate) :
    select checkout (rates.map Rate.plain) = (select checkout rates).map Rate.plain := by
  have offered (rate : Rate) :
      rate.plain.method.offeredToCustomers = rate.method.offeredToCustomers := rfl
  induction rates with
  | nil => rfl
  | cons rate rest ih =>
    rw [select] at ih ⊢
    rw [List.map_cons, select, selectFirst, selectFirst, offered]
    split
    · rfl
    · rw [ih]
      rfl

theorem quote_plain (checkout applyTags : Bool) :
    package.plain.quote checkout applyTags =
      (package.quote checkout applyTags).map (List.map Rate.plain) := by
  rw [quote, quote, candidates_plain, eligible_plain]
  cases package.eligible (package.candidates applyTags) with
  | error failure => rfl
  | ok methods =>
    simp only [Except.map, ok_bind, priced_plain]
    cases package.priced methods with
    | error failure => rfl
    | ok rates =>
      simp only [ok_bind, byCost_plain, select_plain]
      rfl

end Package

namespace Allocation

def plain (allocation : Allocation) : Allocation :=
  { allocation with packages := allocation.packages.map Package.plain }

theorem priceAll_plain (settings : Settings) (packages : List Package) :
    priceAll settings (packages.map Package.plain) =
      (priceAll settings packages).map (List.map Package.plain) := by
  apply priceAll_changed
  · intro package
    exact package.quote_plain _ _
  · intro package rates
    rfl

variable (order : Order) (locations : List StockLocation) (overrides : Option StockOverrides)
  (settings : Settings)

theorem offers_plain : offers order.plain locations overrides settings =
    (offers order locations overrides settings).map Package.plain := by
  apply offers_changed
  · rfl
  · intro location used
    rw [Package.offer_eq, Package.offer_eq]
    rfl

theorem allocate_plain : allocate order.plain locations overrides settings =
    (allocate order locations overrides settings).map plain := by
  calc allocate order.plain locations overrides settings
    _ = ofOffers order.requests settings (offers order.plain locations overrides settings) := rfl
    _ = ofOffers order.requests settings
        ((offers order locations overrides settings).map Package.plain) := by rw [offers_plain]
    _ = (allocate order locations overrides settings).map plain :=
      ofOffers_changed Package.surrounds_plain (priceAll_plain settings) _ _

end Allocation

/-- Settings whose default currency is read from another spelling. -/
structure Settings.Respelled (settings other : Settings) : Prop where
  same : other = { settings with defaultCurrency := other.defaultCurrency }
  defaultCurrency : settings.defaultCurrency.Reread other.defaultCurrency

theorem Settings.Respelled.eq {settings other : Settings} (respelled : settings.Respelled other) :
    other = settings := by
  rw [respelled.same, respelled.defaultCurrency.eq]

/-- Orders and settings that differ in the letter case of countries and states, in cities and
postal codes, and in how currency codes are spelled have one allocation up to that spelling, or
fail with one error. A text is a code exactly where it is
three letters with nothing but blanks around them, and two codes are one currency exactly where
they agree up to those blanks and the case of letters. -/
theorem allocate_respelled :
    (∀ {order other : Order} {settings changed : Settings}, order.Respelled other →
      settings.Respelled changed → ∀ (locations : List StockLocation)
        (overrides : Option StockOverrides),
      (allocate other locations overrides changed).map Allocation.plain =
        (allocate order locations overrides settings).map Allocation.plain) ∧
    (∀ s : String, (∃ c, Currency.parse s = .ok c) ↔ ∃ letters, Currency.Spells s letters) ∧
    ∀ {s t : String} {c d : Currency}, Currency.parse s = .ok c → Currency.parse t = .ok d →
      (c = d ↔ Currency.Respelled s t) := by
  refine ⟨?_, fun _ => Currency.exists_parse_iff, Currency.eq_iff_respelled⟩
  intro order other settings changed respelled resettled locations overrides
  rw [← allocate_plain, ← allocate_plain, respelled.plain_eq, resettled.eq]

/-- Ten lamps, to be sent by a method that goes to one state only. -/
def lampsTo (address : Address) (country state : String) (currency : Currency)
    (calculator : Calculator) : Order :=
  tenLamps.rewritten [⟨1, "post", .both, true, [⟨"south", [.state country state]⟩], [lamp.category],
    [], calculator⟩] (some currency) (some address)

def twoDollars (code : String) : Json.Value :=
  .object [("amount", .integer 2), ("currency", .string code)]

theorem lampsTo_respelled : ∃ c d first second,
    Currency.parse "aud" = .ok c ∧ Currency.parse "\tAUD " = .ok d ∧
    Registry.builtIn.build "flat_rate" (twoDollars "Aud ") = .ok first ∧
    Registry.builtIn.build "flat_rate" (twoDollars "AUD") = .ok second ∧
    (allocate (lampsTo ⟨"au", some "vIc", some "Kew", none⟩ "AU" "VIC" c first) fourSheds
      (some threeEach) inGivenOrder).map Allocation.plain =
    (allocate (lampsTo ⟨"Au", some "VIC", none, some "3101"⟩ "aU" "Vic" d second) fourSheds
      (some threeEach) inGivenOrder).map Allocation.plain := by
  obtain ⟨c, read⟩ : ∃ c, Currency.parse "aud" = .ok c := ⟨_, rfl⟩
  obtain ⟨d, reread⟩ : ∃ d, Currency.parse "\tAUD " = .ok d := ⟨_, rfl⟩
  obtain ⟨first, built⟩ : ∃ calculator,
      Registry.builtIn.build "flat_rate" (twoDollars "Aud ") = .ok calculator := ⟨_, rfl⟩
  obtain ⟨second, rebuilt⟩ : ∃ calculator,
      Registry.builtIn.build "flat_rate" (twoDollars "AUD") = .ok calculator := ⟨_, rfl⟩
  have preferences : (twoDollars "Aud ").Respelled (twoDollars "AUD") :=
    .object (.cons ⟨rfl, .refl _⟩ (.cons ⟨rfl, .code rfl (by decide)⟩ .nil))
  refine ⟨c, d, first, second, read, reread, built, rebuilt, ?_⟩
  apply (allocate_respelled.1 ?_ ?_ fourSheds (some threeEach)).symm
  · refine ⟨rfl, .cons ⟨rfl, .cons ⟨rfl, .cons (.state rfl rfl) .nil⟩ .nil, ?_⟩ .nil, ?_, ?_⟩
    · exact .built preferences built rebuilt
    · exact .some ⟨by decide, read, reread⟩
    · exact .some ⟨rfl, .some rfl⟩
  · exact ⟨rfl, ⟨by decide, Currency.parse_code _, Currency.parse_code _⟩⟩

end Fulfilment
