import RuleCatalog.Proofs.Service.Attempt

/-! # Override requests alone

A request that runs from its start to its end, with no other one at the store, carries out its edit.
Main statement: `run_edit`. -/
namespace RuleCatalog.OverrideRequest
open Override

variable {c : Config} {id : Identity} {operation : String}
  {f : List RelabelEntry → Except ValidationError Edit} {s : Store OverrideResource}

theorem run_call {script : OverrideScript} {call : StoreCall OverrideResource}
    {next : call.Reply → OverrideScript} (h : script = .call call next)
    {answer : Answer OverrideResource call.Reply} (ha : s.perform call = answer) :
    script.run Store.answer s = (next answer.reply).run Store.answer answer.store := by
  subst h
  subst ha
  rfl

theorem run_creating (hget : s.get? (key c id) = none) (es : List RelabelEntry)
    (left made : Nat) :
    ((Phase.creating es left made).script c id operation f).run Store.answer s
      = (.ok .created, s.countWrite.write (fresh c id es)) := by
  have hcreate : s.create (fresh c id es) = ⟨s.countWrite.write (fresh c id es),
      .ok (s.next (fresh c id es)), some (.added (s.next (fresh c id es)))⟩ := by
    have hkey : Resource.key (fresh c id es) = key c id := key_fresh
    have hnone : ¬s.objects.contains (key c id) := Option.not_isSome_iff_eq_none.2 hget
    unfold Store.create
    rw [hkey, if_neg hnone]
  rw [run_call (Phase.script_creating c id operation f es left made) hcreate]
  rfl

theorem run_updating (hs : s.IsCalm) {a : OverrideResource} (hget : s.get? (key c id) = some a)
    (es : List RelabelEntry) (left made : Nat) :
    (((Phase.updating a es left made).script c id operation f).run Store.answer s).2
      = s.countWrite.write { a with entries := es } := by
  have hupdate : s.update { a with entries := es } = ⟨s.countWrite.write { a with entries := es },
      .ok (s.next { a with entries := es }),
      some (.updated a (s.next { a with entries := es }))⟩ := by
    have hkey : Resource.key { a with entries := es } = key c id := hs.isKeyed _ a hget
    have hversion : Resource.version? a = Resource.version? { a with entries := es } := rfl
    unfold Store.update
    rw [hs.failingUpdates, hkey, hget]
    exact if_pos hversion
  rw [run_call (Phase.script_updating c id operation f a es left made) hupdate]
  rfl

theorem run_deleting (hs : s.IsKeyed) {a : OverrideResource} (hget : s.get? (key c id) = some a)
    (left made : Nat) :
    (((Phase.deleting a left made).script c id operation f).run Store.answer s).2
      = s.countWrite.discard (key c id) := by
  have hkey : a.metadata.key = key c id := hs _ a hget
  have hdelete : s.delete a.metadata.key
      = ⟨s.countWrite.discard (key c id), .ok (), some (.deleted a)⟩ := by
    unfold Store.delete
    rw [hkey, hget]
  rw [run_call (Phase.script_deleting c id operation f a left made) hdelete]
  rfl

theorem run_reading (left made : Nat) :
    ((Phase.reading left made).script c id operation f).run Store.answer s
      = ((Phase.afterRead f left made (s.get? (key c id))).script c id operation f).run
        Store.answer s.countRead :=
  run_call (Phase.script_reading c id operation f left made)
    (rfl : s.perform (.get (key c id)) = ⟨s.countRead, s.get? (key c id), none⟩)

/-- An update that is refused is tried again. -/
theorem run_updating_refused {n : Nat} (hs : s.failingUpdates = n + 1) (a : OverrideResource)
    (es : List RelabelEntry) (left made : Nat) :
    ∃ e : StoreError, e.isRetryable = true
      ∧ ((Phase.updating a es left made).script c id operation f).run Store.answer s
        = ((Phase.settled operation left made (.error (.store e))).script c id operation f).run
          Store.answer { s.countWrite with failingUpdates := n } := by
  have hupdate : s.update { a with entries := es } = ⟨{ s.countWrite with failingUpdates := n },
      .error (.conflict (Resource.key { a with entries := es }).text), none⟩ := by
    unfold Store.update
    rw [hs]
  refine ⟨.conflict (Resource.key { a with entries := es }).text, rfl, ?_⟩
  rw [run_call (Phase.script_updating c id operation f a es left made) hupdate]
  rfl

theorem stored_of_run_updating {left made : Nat} {outcome : OverrideOutcome}
    {s' : Store OverrideResource} (hs : s.IsKeyed) {a : OverrideResource}
    (hget : s.get? (key c id) = some a) {es : List RelabelEntry}
    (hretry : ∀ (e : StoreError) (t : Store OverrideResource), e.isRetryable = true →
      t.objects = s.objects →
      ((Phase.settled operation left made (.error (.store e))).script c id operation f).run
        Store.answer t = (.ok outcome, s') →
      ∃ edit, f (stored c id s) = .ok edit ∧ stored c id s' = edit.entries (stored c id s))
    (hf : f (stored c id s) = .ok (.write es))
    (hrun : ((Phase.updating a es left made).script c id operation f).run Store.answer s
      = (.ok outcome, s')) :
    ∃ edit, f (stored c id s) = .ok edit ∧ stored c id s' = edit.entries (stored c id s) := by
  cases hfailing : s.failingUpdates with
  | zero =>
    have hafter := congrArg Prod.snd hrun
    rw [run_updating ⟨hs, hfailing⟩ hget es left made] at hafter
    have hkey : a.metadata.key = key c id := hs _ a hget
    refine ⟨_, hf, ?_⟩
    rw [← show s.countWrite.write { a with entries := es } = s' from hafter]
    exact stored_write hkey
  | succ n =>
    obtain ⟨e, he, hrefused⟩ :=
      @run_updating_refused c id operation f s n hfailing a es left made
    exact hretry e { s.countWrite with failingUpdates := n } he rfl (hrefused.symm.trans hrun)

theorem stored_of_run_afterRead {left made : Nat} {outcome : OverrideOutcome}
    {s' : Store OverrideResource} (hs : s.IsKeyed)
    (hretry : ∀ (e : StoreError) (t : Store OverrideResource), e.isRetryable = true →
      t.objects = s.objects →
      ((Phase.settled operation left made (.error (.store e))).script c id operation f).run
        Store.answer t = (.ok outcome, s') →
      ∃ edit, f (stored c id s) = .ok edit ∧ stored c id s' = edit.entries (stored c id s))
    (hrun : ((Phase.afterRead f left made (s.get? (key c id))).script c id operation f).run
      Store.answer s = (.ok outcome, s')) :
    ∃ edit, f (stored c id s) = .ok edit ∧ stored c id s' = edit.entries (stored c id s) := by
  have hend : ∀ {reply : Except ServiceError OverrideOutcome},
      ((Phase.finished reply).script c id operation f).run Store.answer s = (.ok outcome, s') →
      reply = .ok outcome ∧ s = s' := fun h => Prod.mk.inj h
  cases hget : s.get? (key c id) with
  | none =>
    have hnil : stored c id s = [] := stored_of_none hget
    rw [hget, Phase.afterRead] at hrun
    cases hf : f [] with
    | error e =>
      rw [hf] at hrun
      cases (hend hrun).1
    | ok edit =>
      refine ⟨edit, hnil ▸ hf, ?_⟩
      rw [hf] at hrun
      cases edit with
      | unchanged => rw [← (hend hrun).2]; rfl
      | delete => rw [← (hend hrun).2]; exact hnil
      | write es =>
        have hafter := congrArg Prod.snd hrun
        rw [Phase.edited, run_creating hget es left made] at hafter
        rw [← show s.countWrite.write (fresh c id es) = s' from hafter]
        exact stored_write key_fresh
  | some a =>
    have hentries : stored c id s = a.entries := stored_of_some hget
    rw [hget, Phase.afterRead] at hrun
    by_cases hmanaged : a.metadata.managedBy? = some .gitops
    · rw [if_pos hmanaged] at hrun
      cases (hend hrun).1
    · rw [if_neg hmanaged, ← hentries] at hrun
      cases hf : f (stored c id s) with
      | error e =>
        rw [hf] at hrun
        cases (hend hrun).1
      | ok edit =>
        rw [hf] at hrun
        cases edit with
        | unchanged => exact ⟨.unchanged, rfl, by rw [← (hend hrun).2]; rfl⟩
        | delete =>
          have hafter := congrArg Prod.snd hrun
          rw [Phase.edited, run_deleting hs hget left made] at hafter
          refine ⟨.delete, rfl, ?_⟩
          rw [← show s.countWrite.discard (key c id) = s' from hafter]
          exact stored_of_none get?_discard_self
        | write es =>
          rw [← hf]
          exact stored_of_run_updating hs hget hretry hf hrun

/-- A request that runs alone and succeeds has carried out its edit, in whichever attempt. -/
theorem stored_of_run_reading {left made : Nat} {outcome : OverrideOutcome}
    {s' : Store OverrideResource} (hs : s.IsKeyed)
    (hrun : ((Phase.reading left made).script c id operation f).run Store.answer s
      = (.ok outcome, s')) :
    ∃ edit, f (stored c id s) = .ok edit ∧ stored c id s' = edit.entries (stored c id s) := by
  have hretryable : ∀ {e : StoreError}, e.isRetryable = true →
      Request.retryable? (.error (.store e) : Except ServiceError OverrideOutcome) = some e :=
    fun he => if_pos he
  induction left generalizing made s with
  | zero =>
    rw [run_reading] at hrun
    refine stored_of_run_afterRead (s := s.countRead) hs (fun e t he _ hsettled => ?_) hrun
    rw [Phase.settled, hretryable he] at hsettled
    cases (Prod.mk.inj hsettled).1
  | succ left ih =>
    rw [run_reading] at hrun
    refine stored_of_run_afterRead (s := s.countRead) hs (fun e t he hobjects hsettled => ?_) hrun
    rw [Phase.settled, hretryable he] at hsettled
    have hstored : stored c id t = stored c id s.countRead := stored_of_objects hobjects
    obtain ⟨edit, hf, hafter⟩ := ih (Store.isKeyed_of_objects hobjects hs) hsettled
    rw [hstored] at hf hafter
    exact ⟨edit, hf, hafter⟩

/-- A request that runs alone carries out its edit. -/
theorem run_edit (hs : s.IsCalm) (hfree : ¬IsLocked c id s) {edit : Edit}
    (hf : f (stored c id s) = .ok edit) :
    let s' := (Script.run Store.answer (OverrideRequest.edit c id operation f) s).2
    stored c id s' = edit.entries (stored c id s) ∧ ¬IsLocked c id s' := by
  intro s'
  have hread : s' = (((Phase.afterRead f (c.writeAttempts - 1) 0 (s.get? (key c id))).script
      c id operation f).run Store.answer s.countRead).2 := by
    simp only [s', Phase.edit_eq_script, Phase.script_reading]
    rfl
  have hcalm : s.countRead.IsCalm := hs.perform (.get (key c id))
  have hkept : ¬IsLocked c id s.countRead := by
    rw [isLocked_of_objects (show s.countRead.objects = s.objects from rfl)]
    exact hfree
  rw [hread]
  cases hget : s.get? (key c id) with
  | none =>
    rw [stored_of_none hget] at hf ⊢
    rw [Phase.afterRead, hf]
    cases edit with
    | unchanged => exact ⟨stored_of_none hget, hkept⟩
    | delete => exact ⟨stored_of_none hget, hkept⟩
    | write es =>
      rw [Phase.edited, run_creating (s := s.countRead) hget]
      exact ⟨stored_write key_fresh, not_isLocked_write key_fresh managedBy?_fresh⟩
  | some a =>
    have hmanaged : a.metadata.managedBy? ≠ some .gitops := fun h => hfree ⟨a, hget, h⟩
    rw [stored_of_some hget] at hf ⊢
    rw [Phase.afterRead, if_neg hmanaged, hf]
    cases edit with
    | unchanged => exact ⟨stored_of_some hget, hkept⟩
    | delete =>
      rw [Phase.edited, run_deleting (s := s.countRead) hcalm.isKeyed hget]
      have hgone : (s.countRead.countWrite.discard (key c id)).get? (key c id) = none :=
        get?_discard_self
      exact ⟨stored_of_none hgone, not_isLocked_of_none hgone⟩
    | write es =>
      have hkey : a.metadata.key = key c id := hs.isKeyed _ a hget
      rw [Phase.edited, run_updating (s := s.countRead) hcalm hget]
      exact ⟨stored_write hkey, not_isLocked_write hkey hmanaged⟩

end RuleCatalog.OverrideRequest
