import RuleCatalog.Proofs.Service.Amendment
import RuleCatalog.Service.Classification
import RuleCatalog.Service.Rule

/-! # Requests that amend

Patches of classifications, and requests that create, change and delete rules of users, are answered
at once or amend the resource at one place.
Main statements: `ClassificationRequest.isAmending_patch` and `RuleCall.isAmending_script`. -/
namespace RuleCatalog

/-! ## Patches of classifications -/

namespace ClassificationRequest
variable (c : Config) (space : String) (id : Identity) (p : ClassificationPatch)

/-- What a patch makes of the container of a namespace. -/
def amendment (existing : Option Container) : Amendment Container Unit :=
  let current := existing.bind (·.classification? id.encodeKey)
  if p.apply current = current then .answer (.ok ())
  else
    match existing, p.apply current with
    | some container, next => .update (container.withEntry id.encodeKey next) ()
    | none, some entry =>
      .create (Container.withEntry ⟨.fresh (key c space), ∅⟩ id.encodeKey (some entry)) ()
    | none, none => .answer (.ok ())

variable {c space id p}

theorem metadata_withEntry (container : Container) (k : String) (next : Option Classification) :
    (container.withEntry k next).metadata = container.metadata := by
  cases next <;> rfl

theorem amendment_of_eq (found : Option Container)
    (h : p.apply (found.bind (·.classification? id.encodeKey))
      = found.bind (·.classification? id.encodeKey)) :
    amendment c space id p found = .answer (.ok ()) := if_pos h

theorem amendment_some {container : Container}
    (h : p.apply (container.classification? id.encodeKey)
      ≠ container.classification? id.encodeKey) :
    amendment c space id p (some container) = .update (container.withEntry id.encodeKey
      (p.apply (container.classification? id.encodeKey))) () := if_neg h

theorem amendment_none {e : Classification} (h : p.apply none = some e) :
    amendment c space id p none
      = .create (Container.withEntry ⟨.fresh (key c space), ∅⟩ id.encodeKey (some e)) () := by
  unfold amendment
  dsimp only [Option.bind_none]
  rw [h]
  rfl

theorem reply_amendment (found : Option Container) :
    (amendment c space id p found).reply = .ok () := by
  unfold amendment
  dsimp only
  split
  · rfl
  · split <;> rfl

theorem isPlan_amendment : IsPlan (key c space) (amendment c space id p) where
  create {found a _} h := by
    unfold amendment at h
    dsimp only at h
    split at h
    · cases h
    · split at h
      · cases h
      · cases h
        exact ⟨rfl, rfl⟩
      · cases h
  update {found a _} h := by
    unfold amendment at h
    dsimp only at h
    split at h
    · cases h
    · split at h
      · cases h
        exact ⟨_, rfl, metadata_withEntry _ _ _⟩
      · cases h
      · cases h

theorem patchOnce_eq_amendOnce :
    patchOnce c space id p = StoreRequest.amendOnce (key c space) (amendment c space id p) := by
  refine congrArg (Script.call (StoreCall.get (key c space))) (funext fun found => ?_)
  change (if p.apply (found.bind (·.classification? id.encodeKey))
        = found.bind (·.classification? id.encodeKey) then return ()
      else write c space id found (p.apply (found.bind (·.classification? id.encodeKey)))
      : ClassificationRequest Unit) = (amendment c space id p found).script
  unfold amendment
  dsimp only
  split
  · rfl
  · cases found with
    | some container => rfl
    | none => cases p.apply _ <;> rfl

/-- A patch that is not refused amends the container of the namespace. -/
theorem patch_eq_amend (hnoop : p.isNoop = false) (hvalid : p.validate = .ok ()) :
    patch c space id p
      = StoreRequest.amend c.writeAttempts "classify rule" (key c space)
        (amendment c space id p) := by
  unfold patch StoreRequest.amend
  rw [hnoop, hvalid, ← patchOnce_eq_amendOnce]
  rfl

theorem patch_of_isNoop (h : p.isNoop = true) : patch c space id p = .done (.ok ()) := by
  unfold patch
  rw [h]
  rfl

theorem patch_of_invalid {e : ValidationError} (hnoop : p.isNoop = false)
    (h : p.validate = .error e) : patch c space id p = .done (.error (.invalid e)) := by
  unfold patch
  rw [hnoop, h]
  rfl

theorem isAmending_patch : IsAmending (patch c space id p) := by
  cases hnoop : p.isNoop with
  | true => exact .inl ⟨_, patch_of_isNoop hnoop⟩
  | false =>
    cases hvalid : p.validate with
    | error e => exact .inl ⟨_, patch_of_invalid hnoop hvalid⟩
    | ok u => exact .inr ⟨_, _, _, _, isPlan_amendment, patch_eq_amend hnoop hvalid⟩

end ClassificationRequest

/-! ## Rules of users -/

/-- A request that answers the same whatever it has done before may as well do so in every
attempt. -/
theorem Request.retryFrom_bind_pure {Call ρ ρ' : Type} {Reply : Call → Type} (operation : String)
    (x : Request Reply ρ) (r : ρ') (left made : Nat) :
    (retryFrom operation x left made >>= fun _ => pure r)
      = retryFrom operation (x >>= fun _ => pure r) left made := by
  have hbind : ∀ y : Request Reply ρ, (y >>= fun _ => pure r)
      = Script.bind y fun reply => .done (reply.map fun _ => r) := by
    intro y
    refine congrArg (Script.bind y) (funext fun reply => ?_)
    cases reply <;> rfl
  have hretryable : ∀ e, retryable? (.error e : Except ServiceError ρ)
      = retryable? (.error e : Except ServiceError ρ') := fun e => by cases e <;> rfl
  induction left generalizing made with
  | zero =>
    unfold retryFrom
    rw [hbind, hbind, Script.bind_assoc, Script.bind_assoc]
    refine congrArg (Script.bind x) (funext fun reply => ?_)
    cases reply with
    | ok result => rfl
    | error e =>
      dsimp only [Except.map, Script.bind]
      rw [hretryable]
      cases retryable? (.error e : Except ServiceError ρ') <;> rfl
  | succ left ih =>
    unfold retryFrom
    rw [hbind x, hbind, Script.bind_assoc, Script.bind_assoc]
    refine congrArg (Script.bind x) (funext fun reply => ?_)
    cases reply with
    | ok result => rfl
    | error e =>
      dsimp only [Except.map, Script.bind]
      rw [hretryable]
      cases retryable? (.error e : Except ServiceError ρ') with
      | none => rfl
      | some conflict =>
        have hrest := ih (made + 1)
        rw [hbind, hbind] at hrest
        exact hrest

section
variable {α ρ ρ' : Type} [Resource α] {f : ρ' → StoreRequest α ρ}

theorem IsAmending.reply_bind (reply : Except ServiceError ρ')
    (h : ∀ a, reply = .ok a → IsAmending (f a)) : IsAmending (Request.ofReply reply >>= f) := by
  cases reply with
  | error e => exact .inl ⟨.error e, rfl⟩
  | ok a => exact h a rfl

theorem IsAmending.check_bind (check : Except ValidationError ρ') (h : ∀ a, IsAmending (f a)) :
    IsAmending (Request.ofCheck check >>= f) := by
  cases check with
  | error e => exact .inl ⟨.error (.invalid e), rfl⟩
  | ok a => exact h a

end

namespace RuleResource

theorem metadata_replace? {r r' : RuleResource} {id : Identity} {rule : Rule}
    (h : r.replace? id rule = some r') : r'.metadata = r.metadata := by
  obtain ⟨groups, -, rfl⟩ := Option.map_eq_some_iff.1 h
  rfl

theorem metadata_remove? {r r' : RuleResource} {id : Identity} (h : r.remove? id = some r') :
    r'.metadata = r.metadata := by
  obtain ⟨groups, -, rfl⟩ := Option.map_eq_some_iff.1 h
  rfl

end RuleResource

namespace RuleRequest
variable {ρ : Type}

/-- What adding a rule makes of the resource at a place. -/
def addition (key : ObjectKey) (group : String) (rule : Rule) (result : ρ) :
    Option RuleResource → Amendment RuleResource ρ
  | some r =>
    let id := Identity.ofRule rule
    if r.contains id then
      .answer (.error (.conflict s!"rule {id.text} already exists in {key.text}"))
    else .update (r.add group rule) result
  | none => .create (RuleResource.add ⟨.fresh key, []⟩ group rule) result

/-- What an edit of the rules makes of the resource at a place. -/
def revision (source : ObjectKey) (id : Identity) (f : RuleResource → Option RuleResource)
    (result : ρ) : Option RuleResource → Amendment RuleResource ρ
  | none => .answer (.error (.notFound s!"PrometheusRule {source.text}"))
  | some r =>
    match f r with
    | none => .answer (.error (unknownRule id))
    | some edited => .update edited result

variable {key source : ObjectKey} {group : String} {rule : Rule} {id : Identity}
  {f : RuleResource → Option RuleResource} {result : ρ}

theorem isPlan_addition : IsPlan key (addition key group rule result) where
  create {found a _} h := by
    cases found with
    | none =>
      cases h
      exact ⟨rfl, rfl⟩
    | some r =>
      unfold addition at h
      dsimp only at h
      split at h <;> cases h
  update {found a _} h := by
    cases found with
    | none => cases h
    | some r =>
      unfold addition at h
      dsimp only at h
      split at h
      · cases h
      · cases h
        exact ⟨r, rfl, rfl⟩

theorem isPlan_revision (hf : ∀ r r', f r = some r' → r'.metadata = r.metadata) :
    IsPlan source (revision source id f result) where
  create {found a _} h := by
    cases found with
    | none => cases h
    | some r =>
      unfold revision at h
      dsimp only at h
      split at h <;> cases h
  update {found a _} h := by
    cases found with
    | none => cases h
    | some r =>
      unfold revision at h
      dsimp only at h
      split at h
      · cases h
      · rename_i hr
        cases h
        exact ⟨r, rfl, hf r _ hr⟩

theorem createOnce_bind_eq_amendOnce :
    (createOnce key group rule >>= fun _ => pure result)
      = StoreRequest.amendOnce key (addition key group rule result) := by
  unfold createOnce StoreRequest.amendOnce
  rw [bind_assoc]
  refine congrArg (StoreRequest.get? key >>= ·) (funext fun found => ?_)
  cases found with
  | none => exact bind_assoc _ _ _
  | some r =>
    unfold addition
    dsimp only
    by_cases hcontains : r.contains (Identity.ofRule rule) = true
    · rw [if_pos hcontains, if_pos hcontains]
      rfl
    · rw [if_neg hcontains, if_neg hcontains]
      exact bind_assoc _ _ _

theorem editSource_bind_eq_amendOnce :
    (editSource source id f >>= fun _ => pure result)
      = StoreRequest.amendOnce source (revision source id f result) := by
  unfold editSource StoreRequest.amendOnce
  rw [bind_assoc]
  refine congrArg (StoreRequest.get? source >>= ·) (funext fun found => ?_)
  cases found with
  | none => rfl
  | some r =>
    unfold revision
    dsimp only
    cases f r with
    | none => rfl
    | some edited => exact bind_assoc _ _ _

/-- Attempts that amend a place, with a result, amend it. -/
theorem retry_bind_eq_amend {attempt : RuleRequest Unit}
    {plan : Option RuleResource → Amendment RuleResource ρ}
    (h : (attempt >>= fun _ => pure result) = StoreRequest.amendOnce key plan) (attempts : Nat)
    (operation : String) : (Request.retry attempts operation attempt >>= fun _ => pure result)
      = StoreRequest.amend attempts operation key plan := by
  unfold Request.retry StoreRequest.amend
  rw [Request.retryFrom_bind_pure, h]
  rfl

theorem isAmending_retry_bind {attempt : RuleRequest Unit}
    {plan : Option RuleResource → Amendment RuleResource ρ} (hplan : IsPlan key plan)
    (h : (attempt >>= fun _ => pure result) = StoreRequest.amendOnce key plan)
    (attempts : Nat) (operation : String) :
    IsAmending (Request.retry attempts operation attempt >>= fun _ => pure result) :=
  .inr ⟨attempts, operation, key, plan, hplan, retry_bind_eq_amend h attempts operation⟩

end RuleRequest

/-- A request for the rules of users. -/
inductive RuleCall where
  | create (key : ObjectKey) (group : String) (rule : Rule)
  | update (id : Identity) (rule : Rule)
  | delete (id : Identity)

namespace RuleCall
open RuleRequest

/-- The request at a catalog, with the identity that it answers. -/
def script (c : Config) (catalog : Catalog) : RuleCall → RuleRequest (Option Identity)
  | create key group rule => do return some (← RuleRequest.create c catalog key group rule)
  | update id rule => do return some (← RuleRequest.update c catalog id rule)
  | delete id => do
    RuleRequest.delete c catalog id
    return none

variable (c : Config) (catalog : Catalog)

theorem isAmending_create (key : ObjectKey) (group : String) (rule : Rule) :
    IsAmending ((create key group rule).script c catalog) := by
  unfold script RuleRequest.create
  dsimp only
  rw [bind_assoc]
  refine .check_bind _ fun _ => ?_
  by_cases hplatform : c.isPlatform key.space = true
  · rw [if_pos hplatform]
    exact .inl ⟨_, rfl⟩
  · rw [if_neg hplatform, bind_assoc]
    refine .reply_bind _ fun _ _ => ?_
    rw [bind_assoc]
    exact isAmending_retry_bind isPlan_addition createOnce_bind_eq_amendOnce _ _

theorem isAmending_update (id : Identity) (rule : Rule) :
    IsAmending ((update id rule).script c catalog) := by
  unfold script RuleRequest.update
  dsimp only
  rw [bind_assoc]
  refine .check_bind _ fun _ => ?_
  rw [bind_assoc]
  refine .reply_bind _ fun current _ => ?_
  by_cases hsame : Identity.ofRule rule.withoutSystemLabels = id
  · rw [if_pos hsame]
    exact .inl ⟨_, rfl⟩
  · rw [if_neg hsame, bind_assoc]
    refine .reply_bind _ fun _ _ => ?_
    rw [bind_assoc]
    exact isAmending_retry_bind (isPlan_revision fun _ _ => RuleResource.metadata_replace?)
      editSource_bind_eq_amendOnce _ _

theorem isAmending_delete (id : Identity) : IsAmending ((delete id).script c catalog) := by
  unfold script RuleRequest.delete
  dsimp only
  rw [bind_assoc]
  refine .reply_bind _ fun current _ => ?_
  exact isAmending_retry_bind (isPlan_revision fun _ _ => RuleResource.metadata_remove?)
    editSource_bind_eq_amendOnce _ _

/-- A request is answered at once, or it amends the resource that defines its rule. -/
theorem isAmending_script (x : RuleCall) : IsAmending (x.script c catalog) := by
  cases x with
  | create key group rule => exact isAmending_create c catalog key group rule
  | update id rule => exact isAmending_update c catalog id rule
  | delete id => exact isAmending_delete c catalog id

end RuleCall

end RuleCatalog
