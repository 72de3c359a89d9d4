import RuleCatalog.Service.Retry
import RuleCatalog.Store.Call

/-! # Requests to a store

The calls to a store as requests, which fail where the store refuses. -/
namespace RuleCatalog

/-- A request to a store of resources. -/
abbrev StoreRequest (α ρ : Type) : Type := Request (@StoreCall.Reply α) ρ

namespace StoreRequest
variable {α : Type}

/-- The resource at a place, if there is one. -/
def get? (key : ObjectKey) : StoreRequest α (Option α) :=
  .call (.get key) fun found => .done (.ok found)

/-- The resources of a namespace, or all of them. -/
def list (space : Option String) : StoreRequest α (List α) :=
  .call (.list space) Request.ofStore

/-- Stores a new resource, and answers it as it is stored. -/
def create (a : α) : StoreRequest α α := .call (.create a) Request.ofStore

/-- Replaces the version of a resource that was read, and answers it as it is stored. -/
def update (a : α) : StoreRequest α α := .call (.update a) Request.ofStore

def delete (key : ObjectKey) : StoreRequest α Unit :=
  .call (.delete key) Request.ofStore

end StoreRequest

end RuleCatalog
