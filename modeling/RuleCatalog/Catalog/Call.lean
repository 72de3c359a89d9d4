import RuleCatalog.Catalog.Basic
import RuleCatalog.Script
import RuleCatalog.Store.Call

/-! # Calls of the catalog's programs

All that a program of the catalog asks of its surroundings: calls to the four stores, time, and
the right to put a new catalog in the place of the current one, which one program has at a
time. -/
namespace RuleCatalog

inductive Call where
  | rules (c : StoreCall RuleResource)
  | secrets (c : StoreCall Secret)
  | overrides (c : StoreCall OverrideResource)
  | containers (c : StoreCall Container)
  /-- Waits for a while. -/
  | sleep (ms : Nat)
  /-- Lets all others go on that can. -/
  | rest
  /-- Waits for the right to sync, in the order of asking. -/
  | acquire
  | install (c : Catalog)
  | release

namespace Call

@[reducible] def Reply : Call → Type
  | rules c => c.Reply
  | secrets c => c.Reply
  | overrides c => c.Reply
  | containers c => c.Reply
  | _ => Unit

end Call

/-- A program of the catalog. -/
abbrev Program (ρ : Type) : Type := Script Call.Reply ρ

end RuleCatalog
