import RuleCatalog.Store.Basic

/-! # Calls to a store

What programs ask of a store, as data. A call takes place at one moment, with all that it reads
and writes. -/
namespace RuleCatalog

inductive StoreCall (α : Type) where
  | get (key : ObjectKey)
  /-- The resources of a namespace, or all of them. -/
  | list (space : Option String)
  | create (a : α)
  | update (a : α)
  | delete (key : ObjectKey)
  deriving DecidableEq, Repr

namespace StoreCall
variable {α : Type}

/-- What a call is answered with. -/
def Reply : StoreCall α → Type
  | get _ => Option α
  | list _ => Except StoreError (List α)
  | create _ => Except StoreError α
  | update _ => Except StoreError α
  | delete _ => Except StoreError Unit

/-- Whether a call only reads. -/
def isRead : StoreCall α → Bool
  | get _ | list _ => true
  | _ => false

end StoreCall

/-- What happens when a call takes place. -/
def Store.perform {α : Type} [Resource α] (s : Store α) : (c : StoreCall α) → Answer α c.Reply
  | .get key => s.read key
  | .list space => s.readAll space
  | .create a => s.create a
  | .update a => s.update a
  | .delete key => s.delete key

theorem Store.objects_perform_of_isRead {α : Type} [Resource α] (s : Store α) (c : StoreCall α)
    (h : c.isRead = true) : (s.perform c).store.objects = s.objects := by
  cases c with
  | get key => rfl
  | list space => exact s.objects_readAll space
  | create a => simp [StoreCall.isRead] at h
  | update a => simp [StoreCall.isRead] at h
  | delete key => simp [StoreCall.isRead] at h

end RuleCatalog
