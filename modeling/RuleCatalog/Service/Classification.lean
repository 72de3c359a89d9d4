import RuleCatalog.Classification.Key
import RuleCatalog.Classification.Text
import RuleCatalog.Config.Basic
import RuleCatalog.Service.Store

/-! # Requests for classifications

The classifications of the rules of a namespace are the entries of one container, under the keys
of the rules. A text that is no classification, or an empty one, counts as no entry.
Main statement: `classification?_withEntry`, that an entry is read as it was put. -/
namespace RuleCatalog

namespace Container

/-- The entry under a key. -/
def classification? (c : Container) (key : String) : Option Classification :=
  ((c.data.get? key).bind Classification.ofText?).filter (!·.isEmpty)

/-- The container with an entry in place of the one under a key, or without one. -/
def withEntry (c : Container) (key : String) (entry : Option Classification) : Container :=
  match entry with
  | some e => { c with data := c.data.insert key e.text }
  | none => { c with data := c.data.erase key }

/-- All entries by the identities of their keys; other keys do not count. -/
def entries (c : Container) : SortedMap Identity Classification :=
  .ofList (c.data.keys.filterMap fun key =>
    match Identity.decodeKey key, c.classification? key with
    | .ok id, some e => some (id, e)
    | _, _ => none)

theorem classification?_withEntry (c : Container) {key : String} {entry : Option Classification}
    (h : ∀ e, entry = some e → e.isEmpty = false) :
    (c.withEntry key entry).classification? key = entry := by
  cases entry with
  | none => simp [classification?, withEntry, SortedMap.get?_erase]
  | some e => simp [classification?, withEntry, Classification.ofText?_text, h e rfl]

end Container

/-- A request to the store of containers. -/
abbrev ClassificationRequest (ρ : Type) : Type := StoreRequest Container ρ

namespace ClassificationRequest

/-- The name of the container for the rules of a namespace. -/
def containerName (space : String) : String := "alert-classification-" ++ space

/-- Where the container for the rules of a namespace is. -/
def key (c : Config) (space : String) : ObjectKey := ⟨c.classificationSpace, containerName space⟩

/-- Stores the entry of a rule, without making a container for no entry at all. -/
def write (c : Config) (space : String) (id : Identity) (existing : Option Container)
    (next : Option Classification) : ClassificationRequest Unit :=
  match existing, next with
  | some container, next => do
    let _ ← StoreRequest.update (container.withEntry id.encodeKey next)
    return ()
  | none, some entry => do
    let container : Container := ⟨.fresh (key c space), ∅⟩
    let _ ← StoreRequest.create (container.withEntry id.encodeKey (some entry))
    return ()
  | none, none => return ()

/-- Changes the entry of a rule, if the patch changes it. -/
def patchOnce (c : Config) (space : String) (id : Identity) (p : ClassificationPatch) :
    ClassificationRequest Unit := do
  let existing ← StoreRequest.get? (key c space)
  let current := existing.bind (·.classification? id.encodeKey)
  if p.apply current = current then return ()
  else write c space id existing (p.apply current)

/-- Patches the entry of a rule. A patch that leaves all fields is not even checked. -/
def patch (c : Config) (space : String) (id : Identity) (p : ClassificationPatch) :
    ClassificationRequest Unit :=
  if p.isNoop then return ()
  else do
    Request.ofCheck p.validate
    Request.retry c.writeAttempts "classify rule" (patchOnce c space id p)

/-- The entry of a rule. -/
def get (c : Config) (space : String) (id : Identity) :
    ClassificationRequest (Option Classification) := do
  let existing ← StoreRequest.get? (key c space)
  return existing.bind (·.classification? id.encodeKey)

/-- The entries of all rules of a namespace. -/
def list (c : Config) (space : String) :
    ClassificationRequest (SortedMap Identity Classification) := do
  let existing ← StoreRequest.get? (key c space)
  return (existing.map (·.entries)).getD ∅

end ClassificationRequest

end RuleCatalog
