import Ramp.Decimal.FloatText
import Ramp.Metrics.Ledger

/-!
# `Metrics.Exposition` — metrics as text

Each metric has a line with its help, a line with its kind and lines with its values; the metrics
come in the order of their names. What depends on measured times is left out.

## Contents
- `helpText`, `amount`: the parts of lines.
- `Ledger.exposition`: all lines.
-/

namespace Ramp

namespace Exposition

/-- One character of a help. -/
def escape (c : Char) : String :=
  if c = '\\' then "\\\\" else if c = '\n' then "\\n" else String.singleton c

/-- A help on one line. -/
def helpText (s : String) : String :=
  String.join (s.toList.map escape)

/-- A value, as the double nearest to it. -/
def amount (n : UInt64) : String :=
  match Binary64.ofNat n.toNat with
  | some x => FloatStyle.amount.render false x
  | none => n.toNat.repr

/-- The value of what is registered. -/
def value (counters : Counters) (registration : Registration) : UInt64 :=
  match registration.metric with
  | some metric => counters.get metric
  | none => 0

/-- The lines for what is registered. -/
def lines (counters : Counters) (registration : Registration) : List String :=
  let name := registration.name
  let shown := amount (value counters registration)
  let heading := ["# HELP " ++ name ++ " " ++ helpText registration.help,
    "# TYPE " ++ name ++ " " ++ registration.kind.name]
  match registration.kind with
  | .counter => heading ++ [name ++ " " ++ shown]
  | .histogram =>
    heading ++ [name ++ "_bucket\x7ble=\"+Inf\"\x7d " ++ shown, name ++ "_count " ++ shown]

end Exposition

/-- The lines for all metrics. -/
def Ledger.exposition (ledger : Ledger) : List String :=
  ledger.registry.sorted.flatMap (Exposition.lines ledger.counters)

end Ramp
