import RuleCatalog.Number.Period
import RuleCatalog.Rule.Error
import RuleCatalog.Store.Basic

/-! # Refused requests

Why a request fails, for whoever made it. -/
namespace RuleCatalog

inductive ServiceError where
  | notFound (what : String)
  | notAllowed (why : String)
  | invalid (e : ValidationError)
  | conflict (why : String)
  | store (e : StoreError)
  /-- Other writers interfered with every attempt. -/
  | exhausted (operation : String) (attempts : Nat) (last : StoreError)
  | timeout (limit : Nat)
  deriving DecidableEq, Repr

def ServiceError.message : ServiceError → String
  | .notFound w => s!"Not found: {w}"
  | .notAllowed w => s!"Not allowed: {w}"
  | .invalid e => e.message
  | .conflict w => s!"Conflict: {w}"
  | .store e => e.message
  | .exhausted o n e => s!"{o} gave up after {n} attempts: {e.message}"
  | .timeout l => s!"Operation timed out after {periodText l}"

end RuleCatalog
