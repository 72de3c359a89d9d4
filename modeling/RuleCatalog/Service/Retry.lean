import RuleCatalog.Script
import RuleCatalog.Service.Error

/-! # Retries

A request that reads and then writes starts again from its read when another writer got in
between, up to a number of attempts; anything else is answered at once. -/
namespace RuleCatalog

/-- A script that answers a request. -/
abbrev Request {Call : Type} (Reply : Call → Type) (ρ : Type) : Type :=
  ExceptT ServiceError (Script Reply) ρ

namespace Request
variable {Call : Type} {Reply : Call → Type} {ρ : Type}

/-- A call that is answered in any case. -/
def ask (c : Call) : Request Reply (Reply c) := ExceptT.lift (Script.ask c)

/-- A request that is answered without a call. -/
def ofReply (reply : Except ServiceError ρ) : Request Reply ρ := Script.done reply

/-- Fails with the error of a store. -/
def ofStore : Except StoreError ρ → Request Reply ρ
  | .ok a => pure a
  | .error e => throw (.store e)

def ofCheck : Except ValidationError ρ → Request Reply ρ
  | .ok a => pure a
  | .error e => throw (.invalid e)

/-- The conflict that a reply asks to be resolved by another attempt. -/
def retryable? : Except ServiceError ρ → Option StoreError
  | .error (.store e) => if e.isRetryable then some e else none
  | _ => none

/-- Tries a request up to `left` more times after the next one, with `made` attempts before. -/
def retryFrom (operation : String) (attempt : Request Reply ρ) : (left made : Nat) → Request Reply ρ
  | left, made => Script.bind attempt fun reply =>
    match retryable? reply with
    | none => .done reply
    | some e =>
      match left with
      | 0 => .done (.error (.exhausted operation (made + 1) e))
      | left + 1 => retryFrom operation attempt left (made + 1)

/-- Tries a request up to a number of times, and at least once. -/
def retry (attempts : Nat) (operation : String) (attempt : Request Reply ρ) : Request Reply ρ :=
  retryFrom operation attempt (attempts - 1) 0

end Request

end RuleCatalog
