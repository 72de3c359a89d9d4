import RuleCatalog.Catalog.Build
import RuleCatalog.Catalog.Call
import RuleCatalog.Relabel.Payload

/-! # Syncs

A sync reads the relabel entries, the rules and the override resources, in this order, and puts
the catalog that it builds of them in the place of the current one. A sync that fails leaves the
current catalog in place. `ofStores` says what a sync leads to when nothing changes meanwhile. -/
namespace RuleCatalog

inductive SyncError where
  | load (what : String) (e : StoreError)
  /-- The relabel entries cannot be read. -/
  | payload (l : SecretLocation)
  deriving DecidableEq, Repr

def SyncError.message : SyncError → String
  | .load what e => s!"Failed to load {what}: {e.message}"
  | .payload l => s!"Invalid relabel configuration in {l.text}"

namespace Catalog

/-- The relabel entries in a secret, none where the secret or its value is not there. -/
def entriesIn (l : SecretLocation) (secret : Option Secret) :
    Except SyncError (List RelabelEntry) :=
  match secret.bind fun s => s.data.get? l.key with
  | none => .ok []
  | some payload =>
    match RelabelEntry.ofPayload? payload with
    | some es => .ok es
    | none => .error (.payload l)

/-- Reads all that a catalog is built of, and builds it. -/
def load (c : Config) : Program (Except SyncError (Catalog × SyncStats)) :=
  .call (.secrets (.get c.relabelSecret.secret)) fun secret =>
    match entriesIn c.relabelSecret secret with
    | .error e => .done (.error e)
    | .ok entries =>
      .call (.rules (.list none)) fun resources =>
        match resources with
        | .error e => .done (.error (.load "rule resources" e))
        | .ok resources =>
          .call (.overrides (.list none)) fun overrides =>
            match overrides with
            | .error e => .done (.error (.load "override resources" e))
            | .ok overrides =>
              .done (.ok (build
                ⟨c.isPlatform, entries, Surroundings.managersOf c.overrideSpace overrides⟩
                resources))

/-- Puts a new catalog in place, if there is one, and lets the next sync begin. -/
def finishSync : Except SyncError (Catalog × SyncStats) → Program (Except SyncError SyncStats)
  | .ok (catalog, stats) =>
    .call (.install catalog) fun _ => .call .release fun _ => .done (.ok stats)
  | .error e => .call .release fun _ => .done (.error e)

/-- Rebuilds the catalog while no other sync does. -/
def sync (c : Config) : Program (Except SyncError SyncStats) :=
  .call .acquire fun _ => (load c).bind finishSync

/-- The catalog of what three stores hold. -/
def ofStores (c : Config) (secrets : Store Secret) (rules : Store RuleResource)
    (overrides : Store OverrideResource) : Except SyncError (Catalog × SyncStats) :=
  (entriesIn c.relabelSecret (secrets.get? c.relabelSecret.secret)).map fun entries =>
    build ⟨c.isPlatform, entries, Surroundings.managersOf c.overrideSpace overrides.list⟩ rules.list

end Catalog

end RuleCatalog
