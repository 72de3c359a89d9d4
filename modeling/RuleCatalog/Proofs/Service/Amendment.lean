import RuleCatalog.Proofs.Service.Attempt

/-! # Amendments

A request that reads one place of a store, makes something of what it finds and writes that back,
and that starts again when another writer was there before. Nothing but its last attempt has an
effect, and that attempt amends what is stored at the moment of its write.
Main statements: `Phase.call_effect`, what one call of such a request does, and `alone_amend`, what
the request does alone. -/
namespace RuleCatalog

/-- What a request makes of what it finds: an answer, or a resource to store and the result. -/
inductive Amendment (α ρ : Type) where
  | answer (reply : Except ServiceError ρ)
  | create (a : α) (result : ρ)
  | update (a : α) (result : ρ)

namespace Amendment
variable {α ρ : Type}

def script : Amendment α ρ → StoreRequest α ρ
  | answer reply => Request.ofReply reply
  | create a result => do
    let _ ← StoreRequest.create a
    return result
  | update a result => do
    let _ ← StoreRequest.update a
    return result

/-- What is answered when nothing is in the way. -/
def reply : Amendment α ρ → Except ServiceError ρ
  | answer reply => reply
  | create _ result | update _ result => .ok result

/-- The resource that is stored. -/
def resource? : Amendment α ρ → Option α
  | answer _ => none
  | create a _ | update a _ => some a

end Amendment

namespace StoreRequest
variable {α ρ : Type}

def amendOnce (key : ObjectKey) (f : Option α → Amendment α ρ) : StoreRequest α ρ := do
  (f (← StoreRequest.get? key)).script

/-- Amends what is at a place, in a number of attempts. -/
def amend (attempts : Nat) (operation : String) (key : ObjectKey)
    (f : Option α → Amendment α ρ) : StoreRequest α ρ :=
  Request.retry attempts operation (amendOnce key f)

end StoreRequest

/-- Whether nothing but what is at a place is amended: created where there is nothing, and updated
with the metadata that was found. -/
structure IsPlan {α ρ : Type} [Resource α] (key : ObjectKey) (f : Option α → Amendment α ρ) :
    Prop where
  create : ∀ {found a result}, f found = .create a result → found = none ∧ Resource.key a = key
  update : ∀ {found a result}, f found = .update a result →
    ∃ old, found = some old ∧ Resource.metadata a = Resource.metadata old

/-- Whether a request is answered at once, or amends what is at a place. -/
def IsAmending {α ρ : Type} [Resource α] (x : StoreRequest α ρ) : Prop :=
  (∃ reply, x = .done reply) ∨ ∃ attempts operation key f,
    IsPlan key f ∧ x = StoreRequest.amend attempts operation key f

/-! ## What is stored -/

namespace Store
variable {α ρ : Type} {s t : Store α}

/-- The resources of a store and the version of its last write. -/
def content (s : Store α) : SortedMap ObjectKey α × Nat := (s.objects, s.version)

theorem get?_eq_of_content (h : s.content = t.content) (key : ObjectKey) :
    s.get? key = t.get? key :=
  get?_eq_of_objects (congrArg Prod.fst h) key

variable [Resource α]

/-- The store with what an amendment stores. -/
def amended (s : Store α) (m : Amendment α ρ) : Store α :=
  match m.resource? with
  | none => s
  | some a => s.write a

theorem content_write (h : s.content = t.content) (a : α) :
    (s.write a).content = (t.write a).content := by
  have hobjects : s.objects = t.objects := congrArg Prod.fst h
  have hversion : s.version = t.version := congrArg Prod.snd h
  simp only [content, write, next, hobjects, hversion]

theorem content_amended (h : s.content = t.content) (m : Amendment α ρ) :
    (s.amended m).content = (t.amended m).content := by
  unfold amended
  cases m.resource? with
  | none => exact h
  | some a => exact content_write h a

end Store

/-! ## Phases -/

namespace Amendment

/-- Where an amending request may be: it reads, it writes what it has made of what it read, or it is
finished. -/
inductive Phase (α ρ : Type) where
  | reading (left made : Nat)
  | creating (a : α) (result : ρ) (left made : Nat)
  | updating (a : α) (result : ρ) (left made : Nat)
  | finished (reply : Except ServiceError ρ)

namespace Phase
variable {α ρ : Type} (operation : String) (key : ObjectKey) (f : Option α → Amendment α ρ)

/-- Where the reply of an attempt leads. -/
def settled (left made : Nat) (reply : Except ServiceError ρ) : Phase α ρ :=
  match Request.retryable? reply with
  | none => .finished reply
  | some e =>
    match left with
    | 0 => .finished (.error (.exhausted operation (made + 1) e))
    | left + 1 => .reading left (made + 1)

/-- Where the reply of a write leads, with the result when it succeeds. -/
def written (result : ρ) (left made : Nat) : Except StoreError α → Phase α ρ
  | .ok _ => .finished (.ok result)
  | .error e => settled operation left made (.error (.store e))

/-- Where what was found leads. -/
def afterRead (left made : Nat) : Amendment α ρ → Phase α ρ
  | .answer reply => settled operation left made reply
  | .create a result => .creating a result left made
  | .update a result => .updating a result left made

/-- How a request goes on with the reply of an attempt. -/
def resume (left made : Nat) (reply : Except ServiceError ρ) : StoreRequest α ρ :=
  match Request.retryable? reply with
  | none => .done reply
  | some e =>
    match left with
    | 0 => .done (.error (.exhausted operation (made + 1) e))
    | left + 1 => Request.retryFrom operation (StoreRequest.amendOnce key f) left (made + 1)

/-- What is left of a request in a phase. -/
def script : Phase α ρ → StoreRequest α ρ
  | reading left made => Request.retryFrom operation (StoreRequest.amendOnce key f) left made
  | creating a result left made =>
    Script.bind (Amendment.create a result).script (resume operation key f left made)
  | updating a result left made =>
    Script.bind (Amendment.update a result).script (resume operation key f left made)
  | finished reply => .done reply

theorem amend_eq_script (attempts : Nat) :
    StoreRequest.amend attempts operation key f
      = (reading (attempts - 1) 0).script operation key f := rfl

theorem resume_eq_script (left made : Nat) (reply : Except ServiceError ρ) :
    resume operation key f left made reply
      = (settled operation left made reply).script operation key f := by
  unfold resume settled
  cases Request.retryable? reply with
  | none => rfl
  | some e => cases left <;> rfl

theorem script_reading (left made : Nat) :
    (reading left made).script operation key f = .call (.get key) fun found =>
      (afterRead operation left made (f found)).script operation key f := by
  have hretry : (reading left made).script operation key f
      = Script.bind (StoreRequest.amendOnce key f) (resume operation key f left made) := by
    unfold script Request.retryFrom
    rfl
  rw [hretry]
  refine congrArg (Script.call (StoreCall.get key)) (funext fun found => ?_)
  change Script.bind (f found).script (resume operation key f left made) = _
  cases f found with
  | answer reply => exact resume_eq_script operation key f left made reply
  | create a result => rfl
  | update a result => rfl

theorem script_creating (a : α) (result : ρ) (left made : Nat) :
    (creating a result left made).script operation key f = .call (.create a) fun reply =>
      (written operation result left made reply).script operation key f := by
  refine congrArg (Script.call (StoreCall.create a)) (funext fun reply => ?_)
  cases reply with
  | ok a => rfl
  | error e => exact resume_eq_script operation key f left made _

theorem script_updating (a : α) (result : ρ) (left made : Nat) :
    (updating a result left made).script operation key f = .call (.update a) fun reply =>
      (written operation result left made reply).script operation key f := by
  refine congrArg (Script.call (StoreCall.update a)) (funext fun reply => ?_)
  cases reply with
  | ok a => rfl
  | error e => exact resume_eq_script operation key f left made _

/-- The result of a request that has succeeded. -/
def result? : Phase α ρ → Option ρ
  | finished (.ok r) => some r
  | _ => none

theorem eq_finished_of_result? {p : Phase α ρ} {r : ρ} (h : p.result? = some r) :
    p = finished (.ok r) := by
  unfold result? at h
  split at h
  · obtain rfl := Option.some.inj h
    rfl
  · cases h

theorem succeeded_script (p : Phase α ρ) :
    (p.script operation key f).succeeded = p.result?.isSome := by
  cases p with
  | reading left made =>
    rw [script_reading]
    rfl
  | creating a result left made =>
    rw [script_creating]
    rfl
  | updating a result left made =>
    rw [script_updating]
    rfl
  | finished reply => cases reply <;> rfl

theorem succeeded_amend (attempts : Nat) :
    (StoreRequest.amend attempts operation key f).succeeded = false := by
  rw [amend_eq_script, succeeded_script]
  rfl

theorem result?_settled_error (left made : Nat) (e : ServiceError) :
    (settled operation left made (.error e) : Phase α ρ).result? = none := by
  unfold settled
  cases Request.retryable? (.error e : Except ServiceError ρ) with
  | none => rfl
  | some e => cases left <;> rfl

variable [Resource α]

/-- Whether what a phase is about to write is made of what is stored, unless that has changed. -/
def Holds (s : Store α) : Phase α ρ → Prop
  | creating a result _ _ => f none = .create a result
  | updating a result _ _ =>
    ∃ found, f (some found) = .update a result ∧ s.Remembers key found
  | reading _ _ | finished _ => True

theorem holds_settled (s : Store α) (left made : Nat) (reply : Except ServiceError ρ) :
    (settled operation left made reply).Holds key f s := by
  unfold settled
  cases Request.retryable? reply with
  | none => trivial
  | some e => cases left <;> trivial

/-- What a call that leads to a phase does: it changes nothing, or it carries out the amendment of
what is stored. -/
structure Effect {σ : Type} (s : Store α) (answer : Answer α σ) (p : Phase α ρ) : Prop where
  holds : p.Holds key f answer.store
  kept : p.result? = none → answer.store.content = s.content ∧ answer.change = none
  applied : ∀ r, p.result? = some r → (f (s.get? key)).reply = .ok r
    ∧ answer.store.content = (s.amended (f (s.get? key))).content
    ∧ answer.change.isSome = (f (s.get? key)).resource?.isSome

variable {operation key f} {s s' : Store α} {σ : Type} {answer : Answer α σ} {p : Phase α ρ}

theorem Effect.of_kept (hholds : p.Holds key f answer.store) (hresult : p.result? = none)
    (hcontent : answer.store.content = s.content) (hchange : answer.change = none) :
    Effect key f s answer p where
  holds := hholds
  kept _ := ⟨hcontent, hchange⟩
  applied r hr := by rw [hresult] at hr; cases hr

/-- What is tried again, or given up for good, changes nothing. -/
theorem Effect.of_settled {left made : Nat} {e : ServiceError} {t : Store α} {b : σ}
    (hcontent : t.content = s.content) :
    Effect key f s ⟨t, b, none⟩ (settled operation left made (.error e)) :=
  .of_kept (holds_settled operation key f t left made _)
    (result?_settled_error operation left made e) hcontent rfl

/-- A write that is refused changes nothing. -/
theorem Effect.of_refused {left made : Nat} {e : StoreError} {t : Store α} {b : σ} {result : ρ}
    (hcontent : t.content = s.content) :
    Effect key f s ⟨t, b, none⟩
      (written operation result left made (.error e : Except StoreError α)) :=
  .of_settled hcontent

/-- A write that succeeds has written what is made of what was stored. -/
theorem Effect.of_write {a : α} {result : ρ} (hreply : (f (s.get? key)).reply = .ok result)
    (hresource : (f (s.get? key)).resource? = some a) {change : Change α}
    {b : σ} : Effect key f s ⟨s.countWrite.write a, b, some change⟩ (finished (.ok result)) where
  holds := trivial
  kept h := by cases h
  applied r hr := by
    obtain rfl := Option.some.inj hr
    refine ⟨hreply, ?_, by rw [hresource]; rfl⟩
    unfold Store.amended
    rw [hresource]
    rfl

theorem reading_effect (hk : s.IsKeyed) (hs : s.IsStamped) (hplan : IsPlan key f)
    (left made : Nat) :
    Effect key f s (s.read key) (afterRead operation left made (f (s.get? key))) := by
  cases hm : f (s.get? key) with
  | answer reply =>
    cases reply with
    | error e => exact .of_settled rfl
    | ok result =>
      exact {
        holds := trivial
        kept := fun h => by cases h
        applied := fun r hr => by
          obtain rfl := Option.some.inj hr
          rw [hm]
          exact ⟨rfl, rfl, rfl⟩ }
  | create a result =>
    obtain ⟨hnone, -⟩ := hplan.create hm
    rw [hnone] at hm
    exact .of_kept hm rfl rfl rfl
  | update a result =>
    obtain ⟨old, hold, -⟩ := hplan.update hm
    rw [hold] at hm
    have hremembers : s.countRead.Remembers key old :=
      Store.remembers_of_get? (s := s.countRead) hk hs hold
    exact .of_kept ⟨old, hm, hremembers⟩ rfl rfl rfl

theorem creating_effect (hplan : IsPlan key f) {a : α} {result : ρ} {left made : Nat}
    (h : (creating a result left made).Holds key f s) :
    Effect key f s (s.create a) (written operation result left made (s.create a).reply) := by
  have hm : f none = .create a result := h
  have hkey : Resource.key a = key := (hplan.create hm).2
  unfold Store.create
  by_cases hexists : s.objects.contains (Resource.key a) = true
  · rw [if_pos hexists]
    exact .of_refused rfl
  · rw [if_neg hexists]
    have hnone : s.get? key = none := by
      rw [← hkey]
      exact Option.not_isSome_iff_eq_none.1 hexists
    exact .of_write (by rw [hnone, hm]; rfl) (by rw [hnone, hm]; rfl)

theorem updating_effect (hplan : IsPlan key f) {a : α} {result : ρ} {left made : Nat}
    (h : (updating a result left made).Holds key f s) :
    Effect key f s (s.update a) (written operation result left made (s.update a).reply) := by
  obtain ⟨found, hm, hremembers⟩ := h
  obtain ⟨old, hold, hmetadata⟩ := hplan.update hm
  obtain rfl := Option.some.inj hold
  have hkey : Resource.key a = key := by
    rw [← hremembers.key_eq, Resource.key, hmetadata, Resource.key]
  have hversion : Resource.version? a = Resource.version? found := by
    rw [Resource.version?, hmetadata, Resource.version?]
  unfold Store.update
  cases hfailing : s.failingUpdates with
  | succ n => exact .of_refused rfl
  | zero =>
    rw [hkey]
    cases hget : s.get? key with
    | none => exact .of_refused rfl
    | some b =>
      dsimp only
      by_cases hv : Resource.version? b = Resource.version? a
      · rw [if_pos hv]
        obtain rfl := hremembers.eq_of_version_eq b hget (hv.trans hversion)
        exact .of_write (by rw [hget, hm]; rfl) (by rw [hget, hm]; rfl)
      · rw [if_neg hv]
        exact .of_refused rfl

/-- What the next call of a request does, whatever the phase. -/
theorem call_effect (hk : s.IsKeyed) (hs : s.IsStamped) (hplan : IsPlan key f)
    (hp : p.Holds key f s) {call : StoreCall α} {next : call.Reply → StoreRequest α ρ}
    (h : p.script operation key f = .call call next) :
    ∃ p', next (s.perform call).reply = p'.script operation key f
      ∧ Effect key f s (s.perform call) p' := by
  cases p with
  | reading left made =>
    rw [script_reading] at h
    cases h
    exact ⟨_, rfl, reading_effect hk hs hplan left made⟩
  | creating a result left made =>
    rw [script_creating] at h
    cases h
    exact ⟨_, rfl, creating_effect hplan hp⟩
  | updating a result left made =>
    rw [script_updating] at h
    cases h
    exact ⟨_, rfl, updating_effect hplan hp⟩
  | finished reply => cases h

theorem Holds.of_evolves (h : p.Holds key f s) (he : s.Evolves s') : p.Holds key f s' := by
  cases p with
  | reading left made => trivial
  | creating a result left made => exact h
  | updating a result left made =>
    obtain ⟨found, hm, hremembers⟩ := h
    exact ⟨found, hm, hremembers.of_evolves he⟩
  | finished reply => trivial

end Phase

end Amendment

/-! ## Requests alone -/

namespace StoreRequest
open Amendment
variable {α ρ : Type} [Resource α] {key : ObjectKey} {f : Option α → Amendment α ρ} {s : Store α}

/-- The answer to a request that runs alone at a store, and the store after it. -/
def alone (x : StoreRequest α ρ) (s : Store α) : Except ServiceError ρ × Store α :=
  Script.run Store.answer x s

theorem alone_call {call : StoreCall α} {next : call.Reply → StoreRequest α ρ} (s : Store α) :
    alone (.call call next) s = (next (s.perform call).reply).alone (s.perform call).store := rfl

theorem alone_bind_pure {ρ' : Type} (x : StoreRequest α ρ) (g : ρ → ρ') (s : Store α) :
    (x >>= fun a => pure (g a)).alone s = ((x.alone s).1.map g, (x.alone s).2) := by
  unfold alone
  refine (Script.run_bind Store.answer x _ s).trans ?_
  cases (Script.run Store.answer x s).1 <;> rfl

/-- A request with its result turned into another one succeeds where it does, and leaves the same. -/
theorem exists_of_alone_bind_pure {ρ' : Type} {x : StoreRequest α ρ} {g : ρ → ρ'} {r : ρ'}
    (h : ((x >>= fun a => pure (g a)).alone s).1 = .ok r) :
    ∃ a, (x.alone s).1 = .ok a ∧ ((x >>= fun a => pure (g a)).alone s).2 = (x.alone s).2 := by
  rw [alone_bind_pure] at h ⊢
  cases hx : (x.alone s).1 with
  | error e =>
    rw [hx] at h
    cases h
  | ok a => exact ⟨a, rfl, rfl⟩

theorem alone_creating (hplan : IsPlan key f) {a : α} {r : ρ}
    (hm : f (s.get? key) = .create a r) (operation : String) (left made : Nat) :
    ((Phase.creating a r left made).script operation key f).alone s
      = (.ok r, s.countWrite.write a) := by
  obtain ⟨hnone, hkey⟩ := hplan.create hm
  have hcreate : s.perform (.create a)
      = ⟨s.countWrite.write a, .ok (s.next a), some (.added (s.next a))⟩ := by
    have hfree : ¬s.objects.contains (Resource.key a) = true := by
      rw [hkey]
      exact Option.not_isSome_iff_eq_none.2 hnone
    change s.create a = _
    unfold Store.create
    rw [if_neg hfree]
    rfl
  rw [Phase.script_creating, alone_call, hcreate]
  rfl

theorem alone_updating (hs : s.IsCalm) (hplan : IsPlan key f) {a : α} {r : ρ}
    (hm : f (s.get? key) = .update a r) (operation : String) (left made : Nat) :
    ((Phase.updating a r left made).script operation key f).alone s
      = (.ok r, s.countWrite.write a) := by
  obtain ⟨old, hold, hmetadata⟩ := hplan.update hm
  have hupdate : s.perform (.update a)
      = ⟨s.countWrite.write a, .ok (s.next a), some (.updated old (s.next a))⟩ := by
    have hkey : Resource.key a = key := by
      rw [← hs.isKeyed key old hold, Resource.key, hmetadata, Resource.key]
    have hversion : Resource.version? old = Resource.version? a := by
      rw [Resource.version?, Resource.version?, hmetadata]
    change s.update a = _
    unfold Store.update
    rw [hs.failingUpdates, hkey, hold]
    dsimp only
    rw [if_pos hversion]
    rfl
  rw [Phase.script_updating, alone_call, hupdate]
  rfl

/-- A request that runs alone amends what is stored. -/
theorem alone_amend (hs : s.IsCalm) (hplan : IsPlan key f) {r : ρ}
    (hreply : (f (s.get? key)).reply = .ok r) (attempts : Nat) (operation : String) :
    ∃ s', (amend attempts operation key f).alone s = (.ok r, s')
      ∧ s'.content = (s.amended (f (s.get? key))).content := by
  have hread : (amend attempts operation key f).alone s
      = ((Phase.afterRead operation (attempts - 1) 0 (f (s.get? key))).script operation key f).alone
        s.countRead := by
    rw [Phase.amend_eq_script, Phase.script_reading]
    rfl
  rw [hread]
  cases hm : f (s.get? key) with
  | answer reply =>
    rw [hm] at hreply
    obtain rfl : reply = .ok r := hreply
    exact ⟨s.countRead, rfl, rfl⟩
  | create a result =>
    rw [hm] at hreply
    obtain rfl : result = r := Except.ok.inj hreply
    exact ⟨_, alone_creating (s := s.countRead) hplan hm operation _ _, rfl⟩
  | update a result =>
    rw [hm] at hreply
    obtain rfl : result = r := Except.ok.inj hreply
    exact ⟨_, alone_updating (s := s.countRead) (hs.perform (.get key)) hplan hm operation _ _, rfl⟩

end StoreRequest

end RuleCatalog
