import RuleCatalog.Proofs.Service.Amending

/-! # Requests commit last

A request that has written something has succeeded: nothing that can fail comes after a write.
Main statements: `StoreRequest.CommitsLast.retry`, `IsAmending.commitsLast` for the requests that
amend, and `OverrideRequest.commitsLast_edit`. -/
namespace RuleCatalog

namespace StoreCall
variable {α : Type}

/-- Whether a call has changed what is stored, as its reply says. -/
def hasWritten : (c : StoreCall α) → c.Reply → Bool
  | get _, _ | list _, _ => false
  | create _, reply | update _, reply => reply.isOk
  | delete _, reply => reply.isOk

end StoreCall

namespace Script
variable {α ε ε' ρ ρ' : Type} {s : Script (@StoreCall.Reply α) (Except ε ρ)}

theorem succeeded_iff {Call : Type} {Reply : Call → Type} {s : Script Reply (Except ε ρ)} :
    s.succeeded = true ↔ ∃ a, s = .done (.ok a) := by
  rcases s with ⟨_ | a⟩ | _ <;> simp [succeeded]

/-- Whether a script succeeds at once when it has written, whatever a store answers. -/
def CommitsLast : Script (@StoreCall.Reply α) (Except ε ρ) → Prop
  | done _ => True
  | call c next => ∀ reply, (next reply).CommitsLast
    ∧ (c.hasWritten reply = true → (next reply).succeeded = true)

theorem CommitsLast.bind {f : Except ε ρ → Script (@StoreCall.Reply α) (Except ε' ρ')}
    (h : s.CommitsLast) (hf : ∀ r, (f r).CommitsLast)
    (hok : ∀ a, (f (.ok a)).succeeded = true) : (s.bind f).CommitsLast := by
  induction s with
  | done r => exact hf r
  | call c next ih =>
    intro reply
    obtain ⟨hnext, hwritten⟩ := h reply
    refine ⟨ih reply hnext, fun hc => ?_⟩
    obtain ⟨a, ha⟩ := succeeded_iff.1 (hwritten hc)
    show ((next reply).bind f).succeeded = true
    rw [ha]
    exact hok a

end Script

namespace StoreRequest
variable {α ρ ρ' : Type} {x : StoreRequest α ρ} {f : ρ → StoreRequest α ρ'}

/-- Whether a request succeeds at once when it has written, whatever a store answers. -/
def CommitsLast (x : StoreRequest α ρ) : Prop :=
  Script.CommitsLast (x : Script (@StoreCall.Reply α) (Except ServiceError ρ))

/-- A result may be made of what a request answers. -/
theorem CommitsLast.bind_pure (h : x.CommitsLast) (g : ρ → ρ') :
    CommitsLast (x >>= fun a => pure (g a)) :=
  Script.CommitsLast.bind h (fun r => by cases r <;> trivial) fun _ => rfl

theorem commitsLast_get?_bind {key : ObjectKey} {f : Option α → StoreRequest α ρ}
    (hf : ∀ found, (f found).CommitsLast) : CommitsLast (StoreRequest.get? key >>= f) :=
  fun found => ⟨hf found, nofun⟩

theorem commitsLast_ofCheck_bind {reply : Except ValidationError ρ}
    (hf : ∀ a, (f a).CommitsLast) : CommitsLast (Request.ofCheck reply >>= f) := by
  cases reply with
  | error e => trivial
  | ok a => exact hf a

theorem commitsLast_guard_bind {p : Prop} [Decidable p] {e : ServiceError} {a : ρ}
    (h : (f a).CommitsLast) :
    CommitsLast ((if p then throw e else pure a : StoreRequest α ρ) >>= f) := by
  split
  · trivial
  · exact h

/-- The reply of a store is the end of a request. -/
theorem commitsLast_ofStore (reply : Except StoreError ρ) :
    CommitsLast (α := α) (Request.ofStore reply)
      ∧ (reply.isOk = true
        → Script.succeeded (Request.ofStore reply : StoreRequest α ρ) = true) := by
  cases reply with
  | error e => exact ⟨trivial, nofun⟩
  | ok a => exact ⟨trivial, fun _ => rfl⟩

theorem commitsLast_create (a : α) : (create a).CommitsLast :=
  fun reply => commitsLast_ofStore reply

theorem commitsLast_update (a : α) : (update a).CommitsLast :=
  fun reply => commitsLast_ofStore reply

theorem commitsLast_delete (key : ObjectKey) : (delete key : StoreRequest α Unit).CommitsLast :=
  fun reply => commitsLast_ofStore reply

theorem CommitsLast.tryCatch {handle : ServiceError → StoreRequest α ρ} (h : x.CommitsLast)
    (hhandle : ∀ e, (handle e).CommitsLast) : CommitsLast (tryCatch x handle) :=
  Script.CommitsLast.bind h (fun r => by
    cases r with
    | error e => exact hhandle e
    | ok a => trivial) fun _ => rfl

/-- What has succeeded is not tried again. -/
theorem CommitsLast.retryFrom (h : x.CommitsLast) (operation : String) (left made : Nat) :
    CommitsLast (Request.retryFrom operation x left made) := by
  -- on the attempts that are left
  induction left generalizing made with
  | zero =>
    unfold Request.retryFrom
    refine Script.CommitsLast.bind h (fun reply => ?_) fun _ => rfl
    cases Request.retryable? reply <;> trivial
  | succ left ih =>
    unfold Request.retryFrom
    refine Script.CommitsLast.bind h (fun reply => ?_) fun _ => rfl
    cases Request.retryable? reply with
    | none => trivial
    | some e => exact ih (made + 1)

theorem CommitsLast.retry (h : x.CommitsLast) (attempts : Nat) (operation : String) :
    CommitsLast (Request.retry attempts operation x) :=
  h.retryFrom operation (attempts - 1) 0

end StoreRequest

/-! ## Requests that amend -/

open StoreRequest

theorem Amendment.commitsLast_script {α ρ : Type} (m : Amendment α ρ) :
    CommitsLast m.script := by
  cases m with
  | answer reply => cases reply <;> trivial
  | create a result => exact (commitsLast_create a).bind_pure _
  | update a result => exact (commitsLast_update a).bind_pure _

theorem IsAmending.commitsLast {α ρ : Type} [Resource α] {x : StoreRequest α ρ}
    (h : IsAmending x) : x.CommitsLast := by
  rcases h with ⟨reply, rfl⟩ | ⟨attempts, operation, key, f, -, rfl⟩
  · trivial
  · exact CommitsLast.retry (commitsLast_get?_bind fun found => (f found).commitsLast_script) _ _

theorem RuleCall.commitsLast_script (c : Config) (catalog : Catalog) (x : RuleCall) :
    (x.script c catalog).CommitsLast := (x.isAmending_script c catalog).commitsLast

/-! ## Requests for overrides -/

namespace OverrideRequest
variable (c : Config) (id : Identity)

theorem commitsLast_write (existing : Option OverrideResource) (edit : Override.Edit) :
    (write c id existing edit).CommitsLast := by
  cases edit with
  | unchanged => trivial
  | write es =>
    cases existing with
    | none => exact (StoreRequest.commitsLast_create _).bind_pure _
    | some r => exact (StoreRequest.commitsLast_update _).bind_pure _
  | delete =>
    cases existing with
    | none => trivial
    | some r =>
      refine ((StoreRequest.commitsLast_delete _).bind_pure _).tryCatch fun e => ?_
      split <;> trivial

theorem commitsLast_fetch_bind {ρ : Type} {f : Option OverrideResource → OverrideRequest ρ}
    (hf : ∀ found, (f found).CommitsLast) : StoreRequest.CommitsLast (fetch c id >>= f) := by
  refine fun found => ⟨?_, nofun⟩
  cases found with
  | none => exact hf none
  | some r => exact commitsLast_guard_bind (hf (some r))

theorem commitsLast_edit (operation : String)
    (f : List RelabelEntry → Except ValidationError Override.Edit) :
    (edit c id operation f).CommitsLast :=
  CommitsLast.retry (commitsLast_fetch_bind c id fun existing =>
    commitsLast_ofCheck_bind fun edit => commitsLast_write c id existing edit) _ _

theorem commitsLast_current : (current c id).CommitsLast :=
  commitsLast_get?_bind fun _ => trivial

end OverrideRequest

/-! ## Requests that read classifications -/

namespace ClassificationRequest
variable (c : Config) (space : String) (id : Identity)

theorem commitsLast_get : (get c space id).CommitsLast := commitsLast_get?_bind fun _ => trivial

theorem commitsLast_list : (list c space).CommitsLast := commitsLast_get?_bind fun _ => trivial

end ClassificationRequest

end RuleCatalog
