import RuleCatalog.Proofs.Service.Attempt
import RuleCatalog.Service.Rule

/-! # Where requests write

A script writes at given places only if every call does that it may make, whatever a store answers
that keeps resources under their own keys. Requests for rules of users write outside the namespaces
of the platform, and requests for overrides at the place of the override resource.
Main statement: `get?_run_of_writesOnly`. -/
namespace RuleCatalog

namespace StoreCall
variable {α : Type} [Resource α]

def target? : StoreCall α → Option ObjectKey
  | get _ | list _ => none
  | create a | update a => some (Resource.key a)
  | delete key => some key

/-- Whether a store that keeps resources under their own keys may answer so. -/
def Allows : (c : StoreCall α) → c.Reply → Prop
  | get key, found => ∀ a, found = some a → Resource.key a = key
  | list _, _ | create _, _ | update _, _ | delete _, _ => True

end StoreCall

namespace Store
variable {α : Type} [Resource α] {s : Store α} {key : ObjectKey}

theorem allows_perform (hs : s.IsKeyed) (c : StoreCall α) : c.Allows (s.perform c).reply := by
  cases c with
  | get key => exact fun a ha => hs key a ha
  | _ => trivial

theorem get?_perform_of_ne {c : StoreCall α} (h : ∀ k, c.target? = some k → k ≠ key) :
    (s.perform c).store.get? key = s.get? key := by
  cases c with
  | get k => rfl
  | list space => exact get?_eq_of_objects (s.objects_readAll space) key
  | create a =>
    have hkey : key ≠ Resource.key a := (h _ rfl).symm
    change (s.create a).store.get? key = _
    unfold create
    split
    · rfl
    · exact get?_write_of_ne _ a hkey
  | update a =>
    have hkey : key ≠ Resource.key a := (h _ rfl).symm
    change (s.update a).store.get? key = _
    unfold update
    split
    · rfl
    · split
      · rfl
      · split
        · exact get?_write_of_ne _ a hkey
        · rfl
  | delete k =>
    have hkey : key ≠ k := (h _ rfl).symm
    change (s.delete k).store.get? key = _
    unfold delete
    split
    · rfl
    · exact get?_discard_of_ne hkey

end Store

/-! ## Scripts -/

namespace Script
variable {α ρ ρ' : Type} [Resource α] {P Q : ObjectKey → Prop}
  {script : Script (@StoreCall.Reply α) ρ}

/-- Whether all places where a script may write pass a test. -/
def WritesOnly (P : ObjectKey → Prop) : Script (@StoreCall.Reply α) ρ → Prop
  | done _ => True
  | call c next => (∀ key, c.target? = some key → P key)
    ∧ ∀ reply, c.Allows reply → (next reply).WritesOnly P

/-- The script that is given up if it is not done after so many calls. -/
def cut {Call : Type} {Reply : Call → Type} :
    Nat → Script Reply ρ → Script Reply (Option ρ)
  | _, done r => done (some r)
  | 0, call _ _ => done none
  | n + 1, call c next => call c fun reply => (next reply).cut n

/-- The script as it is, or given up after so many calls. -/
def within {Call : Type} {Reply : Call → Type} (limit : Option Nat) (script : Script Reply ρ) :
    Script Reply (Option ρ) :=
  match limit with
  | none => script.bind fun r => done (some r)
  | some n => script.cut n

theorem WritesOnly.bind {f : ρ → Script (@StoreCall.Reply α) ρ'} (h : script.WritesOnly P)
    (hf : ∀ r, (f r).WritesOnly P) : (script.bind f).WritesOnly P := by
  induction script with
  | done r => exact hf r
  | call c next ih => exact ⟨h.1, fun reply hreply => ih reply (h.2 reply hreply)⟩

theorem WritesOnly.cut (h : script.WritesOnly P) (n : Nat) : (script.cut n).WritesOnly P := by
  induction script generalizing n with
  | done r => cases n <;> trivial
  | call c next ih =>
    cases n with
    | zero => trivial
    | succ n => exact ⟨h.1, fun reply hreply => ih reply (h.2 reply hreply) n⟩

theorem WritesOnly.within (h : script.WritesOnly P) (limit : Option Nat) :
    (script.within limit).WritesOnly P := by
  cases limit with
  | none => exact h.bind fun _ => trivial
  | some n => exact h.cut n

/-- A script that runs alone leaves all places alone where it does not write. -/
theorem get?_run_of_writesOnly (h : script.WritesOnly P) {s : Store α} (hs : s.IsKeyed)
    {key : ObjectKey} (hkey : ¬ P key) : (script.run Store.answer s).2.get? key = s.get? key := by
  -- every store on the way keeps resources under their own keys, so its answers are allowed
  induction script generalizing s with
  | done r => rfl
  | call c next ih =>
    have hnext := ih _ (h.2 _ (Store.allows_perform hs c)) (Store.isKeyed_act hs (.call c))
    have hcall : (s.perform c).store.get? key = s.get? key :=
      Store.get?_perform_of_ne fun k hk heq => hkey (heq ▸ h.1 k hk)
    exact hnext.trans hcall

/-- A script that is done after it has read something leaves everything alone. -/
theorem objects_run_within_of_done {s : Store α} {key : ObjectKey} {r : ρ}
    {next : (StoreCall.get key).Reply → Script (@StoreCall.Reply α) ρ}
    (h : next (s.get? key) = done r) (limit : Option Nat) :
    (((call (.get key) next).within limit).run Store.answer s).2.objects = s.objects := by
  cases limit with
  | none =>
    change (((next (s.get? key)).bind _).run Store.answer s.countRead).2.objects = s.objects
    rw [h]
    rfl
  | some n =>
    cases n with
    | zero => rfl
    | succ n =>
      change (((next (s.get? key)).cut n).run Store.answer s.countRead).2.objects = s.objects
      rw [h]
      cases n <;> rfl

end Script

namespace StoreRequest
variable {α ρ ρ' : Type} [Resource α] {P : ObjectKey → Prop} {x : StoreRequest α ρ}
  {f : ρ → StoreRequest α ρ'}
open Script

/-- Whether all places where a request may write pass a test. -/
def WritesOnly (P : ObjectKey → Prop) (x : StoreRequest α ρ) : Prop :=
  Script.WritesOnly P (x : Script (@StoreCall.Reply α) (Except ServiceError ρ))

theorem WritesOnly.bind (h : x.WritesOnly P) (hf : ∀ a, (f a).WritesOnly P) :
    WritesOnly P (x >>= f) :=
  Script.WritesOnly.bind h fun r => by
    cases r with
    | error e => trivial
    | ok a => exact hf a

theorem writesOnly_get?_bind {key : ObjectKey} {f : Option α → StoreRequest α ρ'}
    (hf : ∀ found, (∀ a, found = some a → Resource.key a = key) → (f found).WritesOnly P) :
    WritesOnly P (StoreRequest.get? key >>= f) :=
  ⟨nofun, fun found hfound => hf found hfound⟩

theorem writesOnly_ofStore (reply : Except StoreError ρ) :
    WritesOnly (α := α) P (Request.ofStore reply) := by
  cases reply <;> trivial

theorem writesOnly_ofCheck (reply : Except ValidationError ρ) :
    WritesOnly (α := α) P (Request.ofCheck reply) := by
  cases reply <;> trivial

theorem writesOnly_ofReply_bind {reply : Except ServiceError ρ}
    (hf : ∀ a, reply = .ok a → (f a).WritesOnly P) :
    WritesOnly P (Request.ofReply reply >>= f) := by
  cases reply with
  | error e => trivial
  | ok a => exact hf a rfl

theorem writesOnly_pure (r : ρ) : WritesOnly (α := α) P (pure r) := trivial

theorem writesOnly_guard_bind {p : Prop} [Decidable p] {e : ServiceError} {a : ρ}
    (h : (f a).WritesOnly P) :
    WritesOnly P ((if p then throw e else pure a : StoreRequest α ρ) >>= f) := by
  split
  · trivial
  · exact h

theorem writesOnly_create {a : α} (h : P (Resource.key a)) : (create a).WritesOnly P :=
  ⟨fun _ hkey => Option.some.inj hkey ▸ h, fun reply _ => writesOnly_ofStore reply⟩

theorem writesOnly_update {a : α} (h : P (Resource.key a)) : (update a).WritesOnly P :=
  ⟨fun _ hkey => Option.some.inj hkey ▸ h, fun reply _ => writesOnly_ofStore reply⟩

theorem writesOnly_delete {key : ObjectKey} (h : P key) :
    WritesOnly (α := α) P (delete key) :=
  ⟨fun _ hkey => Option.some.inj hkey ▸ h, fun reply _ => writesOnly_ofStore reply⟩

theorem WritesOnly.tryCatch {handle : ServiceError → StoreRequest α ρ} (h : x.WritesOnly P)
    (hhandle : ∀ e, (handle e).WritesOnly P) : WritesOnly P (tryCatch x handle) :=
  Script.WritesOnly.bind h fun r => by
    cases r with
    | error e => exact hhandle e
    | ok a => trivial

theorem WritesOnly.retryFrom (h : x.WritesOnly P) (operation : String) (left made : Nat) :
    WritesOnly P (Request.retryFrom operation x left made) := by
  -- on the attempts that are left
  induction left generalizing made with
  | zero =>
    unfold Request.retryFrom
    refine Script.WritesOnly.bind h fun reply => ?_
    cases Request.retryable? reply <;> trivial
  | succ left ih =>
    unfold Request.retryFrom
    refine Script.WritesOnly.bind h fun reply => ?_
    cases Request.retryable? reply with
    | none => trivial
    | some e => exact ih (made + 1)

theorem WritesOnly.retry (h : x.WritesOnly P) (attempts : Nat) (operation : String) :
    WritesOnly P (Request.retry attempts operation x) :=
  h.retryFrom operation (attempts - 1) 0

end StoreRequest

/-! ## Requests for rules of users -/

/-- Whether every rule of a catalog has the trust of the namespace that it comes from. -/
def Catalog.IsTruthful (c : Config) (catalog : Catalog) : Prop :=
  ∀ id e, catalog.lookup? id = some e → e.trust = .of c.isPlatform e.source.space

namespace RuleRequest
open StoreRequest
variable {c : Config} {catalog : Catalog} {key : ObjectKey} {id : Identity} {rule : Rule}

theorem writesOnly_createOnce {P : ObjectKey → Prop} (h : P key) (group : String) (rule : Rule) :
    (createOnce key group rule).WritesOnly P := by
  refine writesOnly_get?_bind fun found hfound => ?_
  cases found with
  | none => exact (writesOnly_create h).bind fun _ => writesOnly_pure ()
  | some r =>
    have hkey : Resource.key r = key := hfound r rfl
    dsimp only
    split
    · trivial
    · exact (writesOnly_update (a := r.add group rule) (hkey ▸ h)).bind fun _ => writesOnly_pure ()

theorem writesOnly_editSource {P : ObjectKey → Prop} (h : P key) (id : Identity)
    {f : RuleResource → Option RuleResource}
    (hf : ∀ r r', f r = some r' → Resource.key r' = Resource.key r) :
    (editSource key id f).WritesOnly P := by
  refine writesOnly_get?_bind fun found hfound => ?_
  cases found with
  | none => trivial
  | some r =>
    dsimp only
    cases hr : f r with
    | none => trivial
    | some edited =>
      have hkey : Resource.key edited = key := (hf r edited hr).trans (hfound r rfl)
      exact (writesOnly_update (a := edited) (hkey ▸ h)).bind fun _ => writesOnly_pure ()

theorem key_of_replace? {r r' : RuleResource} (h : r.replace? id rule = some r') :
    Resource.key r' = Resource.key r := by
  obtain ⟨gs, -, rfl⟩ := Option.map_eq_some_iff.1 h
  rfl

theorem key_of_remove? {r r' : RuleResource} (h : r.remove? id = some r') :
    Resource.key r' = Resource.key r := by
  obtain ⟨gs, -, rfl⟩ := Option.map_eq_some_iff.1 h
  rfl

/-- A rule that a user may edit comes from outside of the namespaces of the platform. -/
theorem isPlatform_of_userRule {e : CatalogRule} (htruthful : catalog.IsTruthful c)
    (h : userRule catalog id = .ok e) : c.isPlatform e.source.space = false := by
  obtain ⟨hget, huser⟩ := userRule_eq_ok_iff.1 h
  have htrust := htruthful id e (Option.or_eq_some_iff.2 (.inl hget))
  rw [huser] at htrust
  cases hplatform : c.isPlatform e.source.space with
  | false => rfl
  | true => simp [Trust.of, hplatform] at htrust

theorem writesOnly_create (c : Config) (catalog : Catalog) (key : ObjectKey) (group : String)
    (rule : Rule) :
    (create c catalog key group rule).WritesOnly (c.isPlatform ·.space = false) := by
  unfold create
  refine (writesOnly_ofCheck _).bind fun _ => ?_
  split
  · trivial
  · rename_i huser
    refine writesOnly_ofReply_bind fun _ _ => ?_
    have honce := writesOnly_createOnce (P := (c.isPlatform ·.space = false))
      (Bool.eq_false_iff.2 huser) group rule.withoutSystemLabels
    exact (honce.retry _ _).bind fun _ => writesOnly_pure _

theorem writesOnly_update (htruthful : catalog.IsTruthful c) (id : Identity) (rule : Rule) :
    (update c catalog id rule).WritesOnly (c.isPlatform ·.space = false) := by
  unfold update
  refine (writesOnly_ofCheck _).bind fun _ => ?_
  refine writesOnly_ofReply_bind fun current hcurrent => ?_
  dsimp only
  split
  · trivial
  · refine writesOnly_ofReply_bind fun _ _ => ?_
    have hedit := writesOnly_editSource (P := (c.isPlatform ·.space = false))
      (isPlatform_of_userRule htruthful hcurrent) id
      fun r r' (h : r.replace? id rule.withoutSystemLabels = some r') => key_of_replace? h
    exact (hedit.retry _ _).bind fun _ => writesOnly_pure _

theorem writesOnly_delete (htruthful : catalog.IsTruthful c) (id : Identity) :
    (delete c catalog id).WritesOnly (c.isPlatform ·.space = false) := by
  refine writesOnly_ofReply_bind fun current hcurrent => ?_
  have hedit := writesOnly_editSource (P := (c.isPlatform ·.space = false))
    (isPlatform_of_userRule htruthful hcurrent) id
    fun r r' (h : r.remove? id = some r') => key_of_remove? h
  exact hedit.retry _ _

end RuleRequest

/-! ## Requests for overrides -/

namespace OverrideRequest
open StoreRequest
variable {c : Config} {catalog : Catalog} {id : Identity}

theorem writesOnly_fetch_bind {P : ObjectKey → Prop} {ρ : Type}
    {f : Option OverrideResource → OverrideRequest ρ}
    (hf : ∀ found, (∀ a, found = some a → Resource.key a = key c id) → (f found).WritesOnly P) :
    StoreRequest.WritesOnly P (fetch c id >>= f) := by
  refine ⟨nofun, fun found hfound => ?_⟩
  cases found with
  | none => exact hf none nofun
  | some r =>
    exact writesOnly_guard_bind (hf (some r) hfound)

theorem writesOnly_write {existing : Option OverrideResource}
    (hexisting : ∀ a, existing = some a → Resource.key a = key c id) (edit : Override.Edit) :
    (write c id existing edit).WritesOnly (· = key c id) := by
  cases existing with
  | none =>
    cases edit with
    | write es =>
      have hcreate := StoreRequest.writesOnly_create (P := (· = key c id)) (a := fresh c id es)
        key_fresh
      exact hcreate.bind fun _ => writesOnly_pure _
    | unchanged | delete => trivial
  | some r =>
    have hkey : Resource.key r = key c id := hexisting r rfl
    cases edit with
    | unchanged => trivial
    | write es =>
      have hupdate := StoreRequest.writesOnly_update (P := (· = key c id))
        (a := { r with entries := es }) hkey
      exact hupdate.bind fun _ => writesOnly_pure _
    | delete =>
      have hdelete := StoreRequest.writesOnly_delete (α := OverrideResource) (P := (· = key c id))
        hkey
      refine (hdelete.bind fun _ => writesOnly_pure _).tryCatch fun e => ?_
      split <;> trivial

/-- An edit writes at the place of the override resource only. -/
theorem writesOnly_edit (c : Config) (id : Identity) (operation : String)
    (f : List RelabelEntry → Except ValidationError Override.Edit) :
    (edit c id operation f).WritesOnly (· = key c id) := by
  refine WritesOnly.retry (writesOnly_fetch_bind fun found hfound => ?_) _ _
  exact (writesOnly_ofCheck _).bind fun edit => writesOnly_write hfound edit

/-- An override resource that a deployment tool manages is read and left alone. -/
theorem objects_run_edit_of_isLocked {s : Store OverrideResource} (h : IsLocked c id s)
    (limit : Option Nat) (operation : String)
    (f : List RelabelEntry → Except ValidationError Override.Edit) :
    (((edit c id operation f).within limit).run Store.answer s).2.objects = s.objects := by
  obtain ⟨a, ha, hmanaged⟩ := h
  have hdone : ∃ e, (Phase.afterRead f (c.writeAttempts - 1) 0 (s.get? (key c id))).script
      c id operation f = .done (.error e) := by
    rw [ha, Phase.afterRead, if_pos hmanaged]
    exact ⟨_, rfl⟩
  obtain ⟨e, he⟩ := hdone
  rw [Phase.edit_eq_script, Phase.script_reading]
  exact Script.objects_run_within_of_done he limit

end OverrideRequest

end RuleCatalog
