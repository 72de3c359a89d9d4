import RuleCatalog.Number.Decimal

/-! # Periods of time

How a message writes a number of milliseconds: in seconds from one second on, else in
milliseconds, and nothing in nanoseconds. -/
namespace RuleCatalog

/-- The text of a number of milliseconds with its unit. -/
def periodText (ms : Nat) : String :=
  if ms = 0 then "0ns"
  else if ms < 1000 then s!"{ms}ms"
  else .ofList ((Decimal.mk ms (-3)).text ++ ['s'])

end RuleCatalog
