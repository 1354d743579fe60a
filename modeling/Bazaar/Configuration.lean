import Bazaar.Codec.Shop
import Bazaar.Space
import Bazaar.Yaml

/-! # Configuration files

A configuration file has four sections, each of which may be missing, as may every key in them.
-/

namespace Bazaar

namespace Configuration

structure Trading where
  strictComparison : Bool := false
  preventOwnShop : Bool := true
  preventOwnerOnline : Bool := false
  /-- In milliseconds. -/
  echoWindow : UInt64 := 250
  deriving DecidableEq

structure Tax where
  rate : Amount := 0
  roundUp : Bool := false
  deriving DecidableEq

/-- The currency items, by item type and display name. -/
structure Money where
  item : String := "emerald"
  itemName : Option String := none
  /-- There is no high currency if this is empty. -/
  highItem : String := "emerald_block"
  highItemName : Option String := none
  highValue : Amount := 9
  highMinCost : Amount := 20
  deriving DecidableEq

structure Logging where
  level : String := "info"
  debug : Bool := false
  debugOptions : List String := []
  deriving DecidableEq

end Configuration

structure Configuration where
  trading : Configuration.Trading := {}
  tax : Configuration.Tax := {}
  money : Configuration.Money := {}
  logging : Configuration.Logging := {}
  deriving DecidableEq

namespace Configuration

/-- The high currency has a name and a worth. -/
def Money.highEnabled (m : Money) : Bool := m.highItem ≠ "" && decide (0 < m.highValue)

def currencyItem (item : String) (displayName : Option String) : Stack where
  kind := { item, data := { displayName } }
  amount := 1

def Money.currency (m : Money) : Currency where
  item := currencyItem m.item m.itemName
  high :=
    if m.highEnabled then some {
      item := currencyItem m.highItem m.highItemName
      value := m.highValue
      minCost := m.highMinCost }
    else none

/-- Debugging is on, with a given option. -/
def Logging.option (l : Logging) (name : String) : Bool := l.debug && l.debugOptions.contains name

def emptyTradesOption : String := "empty-trades"

def settings (c : Configuration) : Settings where
  comparison := if c.trading.strictComparison then .strict else .lenient
  preventOwnShop := c.trading.preventOwnShop
  preventOwnerOnline := c.trading.preventOwnerOnline
  tax := { percent := c.tax.rate, roundUp := c.tax.roundUp }
  currency := c.money.currency
  echoWindow := c.trading.echoWindow
  logEmptyTrades := c.logging.option emptyTradesOption

/-- The configuration with another level of logging, if one is given. -/
def withLevel (c : Configuration) (level : Option String) : Configuration :=
  match level with
  | none => c
  | some level => { c with logging := { c.logging with level } }

instance : Codec Trading where
  encode t := .record [("use_strict_item_comparison", encode t.strictComparison),
    ("prevent_trading_with_own_shop", encode t.preventOwnShop),
    ("prevent_trading_while_owner_online", encode t.preventOwnerOnline),
    ("synthetic_click_window_ms", encode t.echoWindow)]
  decode? := readRecord ["use_strict_item_comparison", "prevent_trading_with_own_shop",
      "prevent_trading_while_owner_online", "synthetic_click_window_ms"] fun fs => do
    let strictComparison ← fs.withDefault "use_strict_item_comparison" false
    let preventOwnShop ← fs.withDefault "prevent_trading_with_own_shop" true
    let preventOwnerOnline ← fs.withDefault "prevent_trading_while_owner_online" false
    let echoWindow ← fs.withDefault "synthetic_click_window_ms" 250
    return { strictComparison, preventOwnShop, preventOwnerOnline, echoWindow }

instance : Codec Tax where
  encode t := .record [("rate", encode t.rate), ("round_up", encode t.roundUp)]
  decode? := readRecord ["rate", "round_up"] fun fs => do
    let rate ← fs.withDefault "rate" 0
    let roundUp ← fs.withDefault "round_up" false
    return { rate, roundUp }

instance : Codec Money where
  encode m := .record [("item", encode m.item), ("item_name", encode m.itemName),
    ("high_item", encode m.highItem), ("high_item_name", encode m.highItemName),
    ("high_value", encode m.highValue), ("high_min_cost", encode m.highMinCost)]
  decode? := readRecord ["item", "item_name", "high_item", "high_item_name", "high_value",
      "high_min_cost"] fun fs => do
    let standard : Money := {}
    let item ← fs.withDefault "item" standard.item
    let itemName ← fs.optional "item_name"
    let highItem ← fs.withDefault "high_item" standard.highItem
    let highItemName ← fs.optional "high_item_name"
    let highValue ← fs.withDefault "high_value" standard.highValue
    let highMinCost ← fs.withDefault "high_min_cost" standard.highMinCost
    return { item, itemName, highItem, highItemName, highValue, highMinCost }

instance : Codec Logging where
  encode l := .record [("level", encode l.level), ("debug", encode l.debug),
    ("debug_options", encode l.debugOptions)]
  decode? := readRecord ["level", "debug", "debug_options"] fun fs => do
    let level ← fs.withDefault "level" "info"
    let debug ← fs.withDefault "debug" false
    let debugOptions ← fs.withDefault "debug_options" []
    return { level, debug, debugOptions }

instance : Codec Configuration where
  encode c := .record [("trading", encode c.trading), ("tax", encode c.tax),
    ("currency", encode c.money), ("logging", encode c.logging)]
  decode? := readRecord ["trading", "tax", "currency", "logging"] fun fs => do
    let trading ← fs.withDefault "trading" {}
    let tax ← fs.withDefault "tax" {}
    let money ← fs.withDefault "currency" {}
    let logging ← fs.withDefault "logging" {}
    return { trading, tax, money, logging }

/-- Read the text of a configuration file. A text without ink is an empty configuration. -/
def parse? (text : String) : Option Configuration :=
  if text.toList.all isSpace then some {} else (Yaml.parse? text).bind decode?

end Configuration

end Bazaar
