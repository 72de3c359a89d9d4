import RuleCatalog.Proofs.Service.Amending
import RuleCatalog.Proofs.Service.Boundary

/-! # What requests for rules come to

A request for the rules of users that runs alone changes one resource at most, and it changes that
once, whether it is seen through or given up on the way. What it writes is what it makes of the
resource as it is stored.
Main statements: `content_run_within_amend` and `content_alone_amend`, and for the three requests
`content_alone_create`, `content_alone_update` and `content_alone_delete`. -/
namespace RuleCatalog

/-! ## Scripts, seen through or given up -/

namespace Script
variable {Call ρ σ : Type} {Reply : Call → Type} {answer : σ → (c : Call) → Reply c × σ}
  {I : Script Reply ρ → σ → Prop} {script : Script Reply ρ} {s : σ}

/-- What every call keeps of a script and its surroundings holds at the end. -/
theorem run_induction
    (hcall : ∀ c next s, I (.call c next) s → I (next (answer s c).1) (answer s c).2)
    (h : I script s) : I (.done (script.run answer s).1) (script.run answer s).2 := by
  induction script generalizing s with
  | done r => exact h
  | call c next ih => exact ih _ (hcall c next s h)

/-- It holds of what is left, too, where a script is given up. -/
theorem run_within_induction
    (hcall : ∀ c next s, I (.call c next) s → I (next (answer s c).1) (answer s c).2)
    (h : I script s) (limit : Option Nat) :
    ∃ rest, I rest ((script.within limit).run answer s).2 := by
  cases limit with
  | none =>
    refine ⟨.done (script.run answer s).1, ?_⟩
    unfold within
    rw [run_bind]
    exact run_induction hcall h
  | some n =>
    change ∃ rest, I rest ((script.cut n).run answer s).2
    induction script generalizing s n with
    | done r =>
      refine ⟨.done r, ?_⟩
      cases n <;> exact h
    | call c next ih =>
      cases n with
      | zero => exact ⟨.call c next, h⟩
      | succ n => exact ih _ (hcall c next s h) n

end Script

/-! ## Stores as they come about -/

namespace Store
variable {α ρ : Type} [Resource α] {s : Store α}

/-- Whether a store is what some actions have made of an empty one. -/
def IsMade (s : Store α) : Prop := ∃ as, s = after as

theorem isMade_empty : IsMade (.empty : Store α) := ⟨[], rfl⟩

theorem IsMade.act (h : s.IsMade) (a : StoreAction α) : (s.act a).1.IsMade := by
  obtain ⟨as, rfl⟩ := h
  exact ⟨as ++ [a], by simp [after]⟩

theorem IsMade.isKeyed (h : s.IsMade) : s.IsKeyed := by
  obtain ⟨as, rfl⟩ := h
  exact isKeyed_after as

theorem IsMade.isStamped (h : s.IsMade) : s.IsStamped := by
  obtain ⟨as, rfl⟩ := h
  exact isStamped_after as

end Store

namespace World
variable {ρ : Type} {w : World}

theorem isMade_rules_perform (h : w.stores.rules.store.IsMade) (c : Call) :
    (w.perform c).2.stores.rules.store.IsMade := by
  cases c with
  | rules c =>
    have hstore : (w.perform (.rules c)).2.stores.rules.store
        = (w.stores.rules.store.perform c).store := w.store_absorb _
    rw [hstore]
    exact h.act (.call c)
  | secrets c | overrides c | containers c =>
    change (w.absorb _).2.stores.rules.store.IsMade
    rw [stores_absorb]
    exact h
  | _ => exact h

theorem isMade_rules_run (h : w.stores.rules.store.IsMade) (program : Program ρ) :
    (program.run perform w).2.stores.rules.store.IsMade :=
  Script.run_induction (I := fun _ (w : World) => w.stores.rules.store.IsMade)
    (fun c _ _ h => isMade_rules_perform h c) h

theorem isMade_rules_move (h : w.stores.rules.store.IsMade) (m : WorldMove) :
    (w.move m).stores.rules.store.IsMade := by
  cases m with
  | others d =>
    cases d with
    | rules a => exact h.act a
    | secrets a | overrides a | containers a => exact h
  | sync s =>
    unfold move
    dsimp only
    cases s.catalog w.config <;> exact h
  | request q limit => cases q <;> exact isMade_rules_run h _

theorem isMade_rules_after (c : Config) (ms : List WorldMove) :
    (after c ms).stores.rules.store.IsMade := by
  induction ms using List.reverseRecOn with
  | nil => exact Store.isMade_empty
  | append_singleton ms m ih =>
    rw [after_append_singleton]
    exact isMade_rules_move ih m

end World

/-! ## Amendments, seen through or given up -/

namespace Amendment.Phase
variable {α ρ : Type} [Resource α] {operation : String} {key : ObjectKey}
  {f : Option α → Amendment α ρ} {s t : Store α} {p : Phase α ρ}

omit [Resource α] in
theorem result?_of_script_eq_done {r : ρ} (h : p.script operation key f = .done (.ok r)) :
    p.result? = some r := by
  have hsucceeded := succeeded_script operation key f p
  rw [h] at hsucceeded
  obtain ⟨r', hr'⟩ := Option.isSome_iff_exists.1 hsucceeded.symm
  rw [eq_finished_of_result? hr'] at h
  cases h
  exact hr'

/-- What a request has done so far that found a store as it was: nothing, or all that it does. -/
structure Since (key : ObjectKey) (f : Option α → Amendment α ρ) (s t : Store α)
    (p : Phase α ρ) : Prop where
  isKeyed : t.IsKeyed
  isStamped : t.IsStamped
  holds : p.Holds key f t
  kept : p.result? = none → t.content = s.content
  applied : ∀ r, p.result? = some r → (f (s.get? key)).reply = .ok r
    ∧ t.content = (s.amended (f (s.get? key))).content

theorem Since.call (h : Since key f s t p) (hplan : IsPlan key f) {call : StoreCall α}
    {next : call.Reply → StoreRequest α ρ} (hscript : p.script operation key f = .call call next) :
    ∃ p', next (t.perform call).reply = p'.script operation key f
      ∧ Since key f s (t.perform call).store p' := by
  have hnone : p.result? = none := by
    cases hresult : p.result? with
    | none => rfl
    | some r =>
      rw [eq_finished_of_result? hresult] at hscript
      cases hscript
  have hcontent := h.kept hnone
  obtain ⟨p', hnext, heffect⟩ := call_effect h.isKeyed h.isStamped hplan h.holds hscript
  refine ⟨p', hnext, Store.isKeyed_act h.isKeyed (.call call),
    Store.isStamped_act h.isStamped (.call call), heffect.holds,
    fun hp => (heffect.kept hp).1.trans hcontent, fun r hr => ?_⟩
  obtain ⟨hreply, happlied, -⟩ := heffect.applied r hr
  rw [Store.get?_eq_of_content hcontent] at hreply happlied
  exact ⟨hreply, happlied.trans (Store.content_amended hcontent _)⟩

end Amendment.Phase

namespace StoreRequest
open Amendment
variable {α ρ : Type} [Resource α] {key : ObjectKey} {f : Option α → Amendment α ρ} {s : Store α}

/-- Whether something is left of an amending request that found a store as it was. -/
def IsRest (operation : String) (key : ObjectKey) (f : Option α → Amendment α ρ) (s : Store α)
    (rest : StoreRequest α ρ) (t : Store α) : Prop :=
  ∃ p : Phase α ρ, rest = p.script operation key f ∧ p.Since key f s t

theorem IsRest.call {operation : String} (hplan : IsPlan key f) (call : StoreCall α)
    (next : call.Reply → StoreRequest α ρ) (t : Store α)
    (h : IsRest operation key f s (.call call next) t) :
    IsRest operation key f s (next (t.answer call).1) (t.answer call).2 := by
  obtain ⟨p, hscript, hsince⟩ := h
  exact hsince.call hplan hscript.symm

theorem isRest_amend (hkeyed : s.IsKeyed) (hstamped : s.IsStamped) (attempts : Nat)
    (operation : String) : IsRest operation key f s (amend attempts operation key f) s :=
  ⟨.reading (attempts - 1) 0, rfl, hkeyed, hstamped, trivial, fun _ => rfl, nofun⟩

/-- A request that is given up has done nothing, or all. -/
theorem content_run_within_amend (hkeyed : s.IsKeyed) (hstamped : s.IsStamped)
    (hplan : IsPlan key f) (attempts : Nat) (operation : String) (limit : Option Nat) :
    ((Script.within limit (amend attempts operation key f)).run Store.answer s).2.content
        = s.content
      ∨ ((Script.within limit (amend attempts operation key f)).run Store.answer s).2.content
        = (s.amended (f (s.get? key))).content := by
  obtain ⟨rest, p, -, hsince⟩ := Script.run_within_induction
    (I := IsRest operation key f s) (IsRest.call hplan)
    (isRest_amend hkeyed hstamped attempts operation) limit
  cases hresult : p.result? with
  | none => exact .inl (hsince.kept hresult)
  | some r => exact .inr (hsince.applied r hresult).2

/-- A request that succeeds has amended what was stored. -/
theorem content_alone_amend (hkeyed : s.IsKeyed) (hstamped : s.IsStamped) (hplan : IsPlan key f)
    {attempts : Nat} {operation : String} {r : ρ}
    (h : ((amend attempts operation key f).alone s).1 = .ok r) :
    (f (s.get? key)).reply = .ok r
      ∧ ((amend attempts operation key f).alone s).2.content
        = (s.amended (f (s.get? key))).content := by
  obtain ⟨p, hscript, hsince⟩ := Script.run_induction
    (I := IsRest operation key f s) (IsRest.call hplan)
    (isRest_amend hkeyed hstamped attempts operation)
  have hdone : p.script operation key f = .done (.ok r) := hscript.symm.trans (congrArg _ h)
  exact hsince.applied r (Phase.result?_of_script_eq_done hdone)

end StoreRequest

/-! ## The three requests -/

namespace RuleRequest

theorem checkNew_eq_ok_iff {catalog : Catalog} {id : Identity} :
    checkNew catalog id = .ok () ↔ catalog.get? id = none := by
  unfold checkNew
  cases catalog.get? id <;> simp

/-- A rule is refused, or added to its resource with all checks passed. -/
theorem create_cases (c : Config) (catalog : Catalog) (key : ObjectKey) (group : String)
    (rule : Rule) : (∃ e, create c catalog key group rule = .done (.error e))
      ∨ rule.withoutSystemLabels.validate = .ok () ∧ c.isPlatform key.space = false
        ∧ catalog.get? (Identity.ofRule rule.withoutSystemLabels) = none
        ∧ create c catalog key group rule = StoreRequest.amend c.writeAttempts "create rule" key
          (addition key group rule.withoutSystemLabels
            (Identity.ofRule rule.withoutSystemLabels)) := by
  unfold create
  dsimp only
  cases hvalid : rule.withoutSystemLabels.validate with
  | error e => exact .inl ⟨_, rfl⟩
  | ok u =>
    by_cases hplatform : c.isPlatform key.space = true
    · rw [if_pos hplatform]
      exact .inl ⟨_, rfl⟩
    · rw [if_neg hplatform]
      cases hnew : checkNew catalog (Identity.ofRule rule.withoutSystemLabels) with
      | error e => exact .inl ⟨_, rfl⟩
      | ok u => exact .inr ⟨rfl, Bool.eq_false_iff.2 hplatform, checkNew_eq_ok_iff.1 hnew,
          retry_bind_eq_amend createOnce_bind_eq_amendOnce _ _⟩

/-- A rule is refused or the same already, or replaced in its resource by another one. -/
theorem update_cases (c : Config) (catalog : Catalog) (id : Identity) (rule : Rule) :
    (∃ e, update c catalog id rule = .done (.error e))
      ∨ (Identity.ofRule rule.withoutSystemLabels = id
        ∧ update c catalog id rule = .done (.ok (Identity.ofRule rule.withoutSystemLabels)))
      ∨ ∃ current, userRule catalog id = .ok current
        ∧ Identity.ofRule rule.withoutSystemLabels ≠ id
        ∧ update c catalog id rule
          = StoreRequest.amend c.writeAttempts "update rule" current.source
            (revision current.source id (·.replace? id rule.withoutSystemLabels)
              (Identity.ofRule rule.withoutSystemLabels)) := by
  unfold update
  dsimp only
  cases rule.withoutSystemLabels.validate with
  | error e => exact .inl ⟨_, rfl⟩
  | ok u =>
    cases hcurrent : userRule catalog id with
    | error e => exact .inl ⟨_, rfl⟩
    | ok current =>
      by_cases hsame : Identity.ofRule rule.withoutSystemLabels = id
      · refine .inr (.inl ⟨hsame, ?_⟩)
        simp only [if_pos hsame]
        rfl
      · simp only [if_neg hsame]
        cases checkNew catalog (Identity.ofRule rule.withoutSystemLabels) with
        | error e => exact .inl ⟨_, rfl⟩
        | ok u =>
          exact .inr (.inr ⟨current, rfl, hsame,
            retry_bind_eq_amend editSource_bind_eq_amendOnce _ _⟩)

/-- There is no rule to delete, or it is removed from its resource. -/
theorem delete_cases (c : Config) (catalog : Catalog) (id : Identity) :
    (∃ e, delete c catalog id = .done (.error e))
      ∨ ∃ current, userRule catalog id = .ok current
        ∧ delete c catalog id = StoreRequest.amend c.writeAttempts "delete rule" current.source
          (revision current.source id (·.remove? id) ()) := by
  unfold delete
  cases hcurrent : userRule catalog id with
  | error e => exact .inl ⟨e, rfl⟩
  | ok current =>
    refine .inr ⟨current, rfl, ?_⟩
    unfold StoreRequest.amend
    rw [← editSource_bind_eq_amendOnce, bind_pure_unit]
    rfl

/-! ## What the three requests write -/

section
variable {c : Config} {catalog : Catalog} {s : Store RuleResource} {key source : ObjectKey}
  {group : String} {rule : Rule} {id : Identity}

/-- What there is to add a rule to: the resource at a place, or a new one. -/
def base (s : Store RuleResource) (key : ObjectKey) : RuleResource :=
  (s.get? key).getD ⟨.fresh key, []⟩

/-- A rule that is created is added to its resource. -/
theorem content_alone_create (hkeyed : s.IsKeyed) (hstamped : s.IsStamped)
    (h : ((create c catalog key group rule).alone s).1 = .ok id) :
    Identity.ofRule rule.withoutSystemLabels = id
      ∧ ((create c catalog key group rule).alone s).2.content
        = (s.write ((base s key).add group rule.withoutSystemLabels)).content := by
  rcases create_cases c catalog key group rule with ⟨e, he⟩ | ⟨-, -, -, hamend⟩
  · rw [he] at h
    cases h
  rw [hamend] at h ⊢
  obtain ⟨hreply, hcontent⟩ := StoreRequest.content_alone_amend hkeyed hstamped isPlan_addition h
  rw [hcontent]
  unfold base
  cases hget : s.get? key with
  | none =>
    rw [hget] at hreply
    exact ⟨Except.ok.inj hreply, rfl⟩
  | some r =>
    rw [hget] at hreply
    unfold addition at hreply ⊢
    dsimp only at hreply ⊢
    split at hreply
    · cases hreply
    · rename_i hcontains
      rw [if_neg hcontains]
      exact ⟨Except.ok.inj hreply, rfl⟩

/-- An edit that succeeds has found a resource, and writes what it makes of it. -/
theorem content_alone_revision (hkeyed : s.IsKeyed) (hstamped : s.IsStamped)
    {f : RuleResource → Option RuleResource} (hf : ∀ r r', f r = some r' → r'.metadata = r.metadata)
    {ρ : Type} {result reply : ρ} {attempts : Nat} {operation : String}
    (h : ((StoreRequest.amend attempts operation source (revision source id f result)).alone s).1
      = .ok reply) :
    ∃ r edited, s.get? source = some r ∧ f r = some edited
      ∧ ((StoreRequest.amend attempts operation source
          (revision source id f result)).alone s).2.content = (s.write edited).content := by
  obtain ⟨hreply, hcontent⟩ :=
    StoreRequest.content_alone_amend hkeyed hstamped (isPlan_revision hf) h
  rw [hcontent]
  cases hget : s.get? source with
  | none =>
    rw [hget] at hreply
    cases hreply
  | some r =>
    rw [hget] at hreply
    unfold revision at hreply ⊢
    dsimp only at hreply ⊢
    cases hedited : f r with
    | none =>
      rw [hedited] at hreply
      cases hreply
    | some edited => exact ⟨r, edited, rfl, hedited, rfl⟩

/-- A rule that is updated stays the same, or it is replaced in the resource that defines it. -/
theorem content_alone_update (hkeyed : s.IsKeyed) (hstamped : s.IsStamped) {new : Identity}
    (h : ((update c catalog id rule).alone s).1 = .ok new) :
    (Identity.ofRule rule.withoutSystemLabels = id
        ∧ ((update c catalog id rule).alone s).2.content = s.content)
      ∨ ∃ current r edited, userRule catalog id = .ok current
        ∧ Identity.ofRule rule.withoutSystemLabels ≠ id ∧ s.get? current.source = some r
        ∧ r.replace? id rule.withoutSystemLabels = some edited
        ∧ ((update c catalog id rule).alone s).2.content = (s.write edited).content := by
  rcases update_cases c catalog id rule with ⟨e, he⟩ | ⟨hsame, hdone⟩ | ⟨current, huser, hne, hamend⟩
  · rw [he] at h
    cases h
  · rw [hdone]
    exact .inl ⟨hsame, rfl⟩
  · rw [hamend] at h ⊢
    obtain ⟨r, edited, hget, hedited, hcontent⟩ :=
      content_alone_revision hkeyed hstamped (fun _ _ => RuleResource.metadata_replace?) h
    exact .inr ⟨current, r, edited, huser, hne, hget, hedited, hcontent⟩

/-- A rule that is deleted is removed from the resource that defines it. -/
theorem content_alone_delete (hkeyed : s.IsKeyed) (hstamped : s.IsStamped)
    (h : ((delete c catalog id).alone s).1 = .ok ()) :
    ∃ current r edited, userRule catalog id = .ok current ∧ s.get? current.source = some r
      ∧ r.remove? id = some edited
      ∧ ((delete c catalog id).alone s).2.content = (s.write edited).content := by
  rcases delete_cases c catalog id with ⟨e, he⟩ | ⟨current, huser, hamend⟩
  · rw [he] at h
    cases h
  · rw [hamend] at h ⊢
    obtain ⟨r, edited, hget, hedited, hcontent⟩ :=
      content_alone_revision hkeyed hstamped (fun _ _ => RuleResource.metadata_remove?) h
    exact ⟨current, r, edited, huser, hget, hedited, hcontent⟩

end

end RuleRequest

end RuleCatalog
