import RuleCatalog.Proofs.Override.Machine
import RuleCatalog.Proofs.Store
import RuleCatalog.Service.Override

/-! # Attempts at an override request

A request for overrides is always in one of a few phases: it is about to read, about to write what
it has made of what it read, or finished. Main statement: `Phase.call_effect`, what one call of a
request does to the stored entries. -/
namespace RuleCatalog

/-- Whether a script has come to a good end. -/
def Script.succeeded {Call ε ρ : Type} {Reply : Call → Type} :
    Script Reply (Except ε ρ) → Bool
  | .done (.ok _) => true
  | _ => false

namespace OverrideRequest
open Override

/-- What an override request is a script of. -/
abbrev OverrideScript : Type :=
  Script (@StoreCall.Reply OverrideResource) (Except ServiceError OverrideOutcome)

inductive Phase where
  | reading (left made : Nat)
  | creating (entries : List RelabelEntry) (left made : Nat)
  | updating (found : OverrideResource) (entries : List RelabelEntry) (left made : Nat)
  | deleting (found : OverrideResource) (left made : Nat)
  | finished (reply : Except ServiceError OverrideOutcome)

variable (c : Config) (id : Identity) (operation : String)
  (f : List RelabelEntry → Except ValidationError Edit)

/-- One attempt: reads the entries of a rule, edits them and writes them back. -/
def attempt : OverrideRequest OverrideOutcome := do
  let existing ← fetch c id
  let edit ← Request.ofCheck (f ((existing.map (·.entries)).getD []))
  write c id existing edit

namespace Phase

/-- Where the reply of an attempt leads. -/
def settled (left made : Nat) (reply : Except ServiceError OverrideOutcome) : Phase :=
  match Request.retryable? reply with
  | none => .finished reply
  | some e =>
    match left with
    | 0 => .finished (.error (.exhausted operation (made + 1) e))
    | left + 1 => .reading left (made + 1)

/-- Where the reply of a write leads, with the outcome when it succeeds. -/
def written {α : Type} (outcome : OverrideOutcome) (left made : Nat) :
    Except StoreError α → Phase
  | .ok _ => .finished (.ok outcome)
  | .error e => settled operation left made (.error (.store e))

/-- Where the reply of a deletion leads. What is gone already counts as deleted. -/
def removed (left made : Nat) : Except StoreError Unit → Phase
  | .error (.notFound _) => .finished (.ok .deleted)
  | reply => written operation .deleted left made reply

/-- Where an edit of what was found leads. -/
def edited (left made : Nat) :
    Option OverrideResource → Except ValidationError Edit → Phase
  | _, .error e => .finished (.error (.invalid e))
  | _, .ok .unchanged | none, .ok .delete => .finished (.ok .unchanged)
  | none, .ok (.write es) => .creating es left made
  | some found, .ok (.write es) => .updating found es left made
  | some found, .ok .delete => .deleting found left made

/-- Where the resource that was read leads. -/
def afterRead (left made : Nat) : Option OverrideResource → Phase
  | none => edited left made none (f [])
  | some found =>
    if found.metadata.managedBy? = some .gitops then
      .finished (.error (.notAllowed
        s!"override resource {found.metadata.key.text} is managed by GitOps"))
    else edited left made (some found) (f found.entries)

/-- How a request goes on with the reply of an attempt. -/
def resume (left made : Nat) (reply : Except ServiceError OverrideOutcome) : OverrideScript :=
  match Request.retryable? reply with
  | none => .done reply
  | some e =>
    match left with
    | 0 => .done (.error (.exhausted operation (made + 1) e))
    | left + 1 => Request.retryFrom operation (attempt c id f) left (made + 1)

/-- What is left of a request in a phase. -/
def script : Phase → OverrideScript
  | reading left made => Request.retryFrom operation (attempt c id f) left made
  | creating es left made =>
    Script.bind (write c id none (.write es)) (resume c id operation f left made)
  | updating found es left made =>
    Script.bind (write c id (some found) (.write es)) (resume c id operation f left made)
  | deleting found left made =>
    Script.bind (write c id (some found) .delete) (resume c id operation f left made)
  | finished reply => .done reply

theorem edit_eq_script :
    edit c id operation f = (reading (c.writeAttempts - 1) 0).script c id operation f := rfl

theorem resume_eq_script (left made : Nat) (reply : Except ServiceError OverrideOutcome) :
    resume c id operation f left made reply
      = (settled operation left made reply).script c id operation f := by
  unfold resume settled
  cases Request.retryable? reply with
  | none => rfl
  | some e => cases left <;> rfl

theorem script_edited (left made : Nat) (found : Option OverrideResource)
    (reply : Except ValidationError Edit) :
    Script.bind (Script.bind (Request.ofCheck reply) (ExceptT.bindCont (write c id found)))
        (resume c id operation f left made)
      = (edited left made found reply).script c id operation f := by
  cases reply with
  | error e => cases found <;> rfl
  | ok edit => cases edit <;> cases found <;> rfl

theorem script_reading (left made : Nat) : (reading left made).script c id operation f
    = .call (.get (key c id)) fun found =>
      (afterRead f left made found).script c id operation f := by
  have hretry : (reading left made).script c id operation f
      = Script.bind (attempt c id f) (resume c id operation f left made) := by
    unfold script Request.retryFrom
    rfl
  rw [hretry]
  refine congrArg (Script.call (StoreCall.get (key c id))) (funext fun found => ?_)
  cases found with
  | none => exact script_edited c id operation f left made none (f [])
  | some found =>
    change Script.bind (Script.bind
        (if found.metadata.managedBy? = some .gitops then
          throw (.notAllowed s!"override resource {found.metadata.key.text} is managed by GitOps")
        else pure (some found) : OverrideRequest (Option OverrideResource))
        (ExceptT.bindCont fun existing => do
          let edit ← Request.ofCheck (f ((existing.map (·.entries)).getD []))
          write c id existing edit)) (resume c id operation f left made) = _
    by_cases hmanaged : found.metadata.managedBy? = some .gitops
    · simp only [afterRead, if_pos hmanaged]
      rfl
    · simp only [afterRead, if_neg hmanaged]
      exact script_edited c id operation f left made (some found) (f found.entries)

theorem script_creating (es : List RelabelEntry) (left made : Nat) :
    (creating es left made).script c id operation f
      = .call (.create (fresh c id es)) fun reply =>
        (written operation .created left made reply).script c id operation f := by
  refine congrArg (Script.call (StoreCall.create (fresh c id es))) (funext fun reply => ?_)
  cases reply with
  | ok a => rfl
  | error e => exact resume_eq_script c id operation f left made _

theorem script_updating (found : OverrideResource) (es : List RelabelEntry) (left made : Nat) :
    (updating found es left made).script c id operation f
      = .call (.update { found with entries := es }) fun reply =>
        (written operation .updated left made reply).script c id operation f := by
  refine congrArg (Script.call (StoreCall.update { found with entries := es })) (funext fun reply => ?_)
  cases reply with
  | ok a => rfl
  | error e => exact resume_eq_script c id operation f left made _

theorem script_deleting (found : OverrideResource) (left made : Nat) :
    (deleting found left made).script c id operation f
      = .call (.delete found.metadata.key) fun reply =>
        (removed operation left made reply).script c id operation f := by
  refine congrArg (Script.call (StoreCall.delete found.metadata.key)) (funext fun reply => ?_)
  cases reply with
  | ok a => rfl
  | error e =>
    cases e with
    | notFound what => rfl
    | conflict what => exact resume_eq_script c id operation f left made _
    | alreadyExists what => exact resume_eq_script c id operation f left made _
    | backend reason => exact resume_eq_script c id operation f left made _

end Phase

/-! ## What is stored for a rule -/

/-- The entries that are stored for a rule. -/
def stored (s : Store OverrideResource) : List RelabelEntry :=
  ((s.get? (key c id)).map (·.entries)).getD []

/-- Whether the resource of a rule is not to be written. -/
def IsLocked (s : Store OverrideResource) : Prop :=
  ∃ a, s.get? (key c id) = some a ∧ a.metadata.managedBy? = some .gitops

/-- What a request makes of some entries. -/
def result (es : List RelabelEntry) : List RelabelEntry :=
  match f es with
  | .ok edit => edit.entries es
  | .error _ => es

/-- Whether a request is about to delete a resource with entries that it would not empty. -/
def Clobbers (s : Store OverrideResource) (script : OverrideScript) : Prop :=
  ∃ k next a, script = .call (.delete k) next ∧ s.get? k = some a ∧ result f a.entries ≠ []

variable {c id operation f} {s s' : Store OverrideResource}

theorem stored_of_some {a : OverrideResource} (h : s.get? (key c id) = some a) :
    stored c id s = a.entries := by
  simp [stored, h]

theorem stored_of_none (h : s.get? (key c id) = none) : stored c id s = [] := by
  simp [stored, h]

theorem stored_of_objects (h : s'.objects = s.objects) : stored c id s' = stored c id s := by
  unfold stored
  rw [Store.get?_eq_of_objects h]

theorem isLocked_of_objects (h : s'.objects = s.objects) :
    IsLocked c id s' ↔ IsLocked c id s := by
  unfold IsLocked
  rw [Store.get?_eq_of_objects h]

theorem not_isLocked_of_none (h : s.get? (key c id) = none) : ¬IsLocked c id s := by
  rintro ⟨a, ha, -⟩
  rw [h] at ha
  cases ha

theorem not_isLocked_of_some {a : OverrideResource} (h : s.get? (key c id) = some a)
    (ha : a.metadata.managedBy? ≠ some .gitops) : ¬IsLocked c id s := by
  rintro ⟨b, hb, hmanaged⟩
  rw [h] at hb
  cases hb
  exact ha hmanaged

theorem get?_write_self {a : OverrideResource} (h : a.metadata.key = key c id) :
    (s.write a).get? (key c id) = some (s.next a) := by
  have hkey : compare (key c id) (Resource.key a) = .eq := by
    rw [show Resource.key a = key c id from h]
    exact Std.ReflCmp.compare_self
  rw [Store.get?_write, if_pos hkey]

theorem stored_write {a : OverrideResource} (h : a.metadata.key = key c id) :
    stored c id (s.write a) = a.entries :=
  stored_of_some (a := s.next a) (get?_write_self h)

theorem not_isLocked_write {a : OverrideResource} (h : a.metadata.key = key c id)
    (ha : a.metadata.managedBy? ≠ some .gitops) : ¬IsLocked c id (s.write a) :=
  not_isLocked_of_some (get?_write_self h) ha

theorem key_fresh {es : List RelabelEntry} : (fresh c id es).metadata.key = key c id := by
  unfold fresh
  generalize key c id = k
  rfl

theorem managedBy?_fresh {es : List RelabelEntry} :
    (fresh c id es).metadata.managedBy? ≠ some .gitops := by
  have htracked : (fresh c id es).metadata.isTracked = false := by
    have hkeys : (fresh c id es).metadata.labels.keys ++ (fresh c id es).metadata.annotations.keys
        = [Metadata.managerLabel, ruleNote] := rfl
    unfold Metadata.isTracked
    rw [hkeys]
    decide
  have hmanager : (fresh c id es).metadata.labels.get? Metadata.managerLabel
      = some managerName := SortedMap.get?_insert_self ..
  have hname : String.ofList (managerName.toList.map Char.toLower)
      ∉ Metadata.deploymentTools := by decide
  have howners : (fresh c id es).metadata.owners = [] := rfl
  unfold Metadata.managedBy?
  rw [htracked, hmanager, howners, Option.map_some]
  simp [hname]

theorem get?_discard_self : (s.discard (key c id)).get? (key c id) = none := by
  rw [Store.get?_discard, if_pos Std.ReflCmp.compare_self]

theorem not_clobbers_of_call {script : OverrideScript} {call : StoreCall OverrideResource}
    {next : call.Reply → OverrideScript} (h : script = .call call next)
    (hcall : ∀ k, call ≠ .delete k) : ¬Clobbers f s script := by
  rintro ⟨k, next', a, hdelete, -⟩
  rw [h] at hdelete
  injection hdelete with hdelete
  exact hcall k hdelete

theorem clobbers_delete_iff {k : ObjectKey}
    {next : (StoreCall.delete k : StoreCall OverrideResource).Reply → OverrideScript} :
    Clobbers f s (.call (.delete k) next) ↔ ∃ a, s.get? k = some a ∧ result f a.entries ≠ [] := by
  constructor
  · rintro ⟨k', next', a, hdelete, ha⟩
    injection hdelete with hdelete
    injection hdelete with hk
    exact ⟨a, hk ▸ ha⟩
  · rintro ⟨a, ha⟩
    exact ⟨k, next, a, rfl, ha⟩

/-! ## What a call does -/

namespace Phase

def succeeded : Phase → Bool
  | finished (.ok _) => true
  | _ => false

variable (c id f) in
/-- Whether what a phase remembers fits with what is stored. -/
def Holds (s : Store OverrideResource) : Phase → Prop
  | creating es _ _ => f [] = .ok (.write es) ∧ ¬IsLocked c id s
  | updating found es _ _ =>
    f found.entries = .ok (.write es) ∧ s.Remembers (key c id) found
      ∧ found.metadata.managedBy? ≠ some .gitops ∧ ¬IsLocked c id s
  | deleting found _ _ =>
    f found.entries = .ok .delete ∧ found.metadata.key = key c id ∧ ¬IsLocked c id s
  | reading _ _ | finished _ => True

variable (c id f) in
/-- What a call that leads from one phase to another does to the stored entries. -/
structure Effect (s s' : Store OverrideResource) (script : OverrideScript) (p : Phase) : Prop where
  holds : p.Holds c id f s'
  kept : p.succeeded = false → s'.objects = s.objects ∧ ¬Clobbers f s script
  unlocked : p.succeeded = true → ¬IsLocked c id s ∧ ¬IsLocked c id s'
  applied : p.succeeded = true → (∃ edit, f (stored c id s) = .ok edit)
    ∧ (stored c id s' = result f (stored c id s) ↔ ¬Clobbers f s script)

theorem Effect.of_objects {p : Phase} {script : OverrideScript} (ho : s'.objects = s.objects)
    (hp : p.Holds c id f s') (hsucceeded : p.succeeded = false) (hclobbers : ¬Clobbers f s script) :
    Effect c id f s s' script p where
  holds := hp
  kept _ := ⟨ho, hclobbers⟩
  unlocked h := by rw [hsucceeded] at h; cases h
  applied h := by rw [hsucceeded] at h; cases h

theorem Effect.of_applied {reply : OverrideOutcome} {script : OverrideScript} {edit : Edit}
    (hs : ¬IsLocked c id s) (hs' : ¬IsLocked c id s') (hf : f (stored c id s) = .ok edit)
    (hstored : stored c id s' = edit.entries (stored c id s)) (hclobbers : ¬Clobbers f s script) :
    Effect c id f s s' script (finished (.ok reply)) where
  holds := trivial
  kept h := by cases h
  unlocked _ := ⟨hs, hs'⟩
  applied _ := by
    refine ⟨⟨edit, hf⟩, iff_of_true ?_ hclobbers⟩
    rw [hstored, result, hf]

variable (c id operation f) in
theorem settled_error (left made : Nat) (e : ServiceError) :
    (settled operation left made (.error e)).succeeded = false
      ∧ ∀ s, (settled operation left made (.error e)).Holds c id f s := by
  unfold settled
  cases Request.retryable? (.error e : Except ServiceError OverrideOutcome) with
  | none => exact ⟨rfl, fun _ => trivial⟩
  | some e => cases left <;> exact ⟨rfl, fun _ => trivial⟩

theorem edited_effect (hk : s.IsKeyed) (hs : s.IsStamped) (ho : s'.objects = s.objects)
    (he : s.Evolves s') {script : OverrideScript} (hclobbers : ¬Clobbers f s script)
    {found : Option OverrideResource} (hfound : s.get? (key c id) = found)
    (hmanaged : ∀ a, found = some a → a.metadata.managedBy? ≠ some .gitops) (left made : Nat) :
    Effect c id f s s' script (edited left made found (f (stored c id s))) := by
  have hfree : ¬IsLocked c id s := by
    rintro ⟨a, ha, hgitops⟩
    exact hmanaged a (hfound.symm.trans ha) hgitops
  have hfree' : ¬IsLocked c id s' := by
    rw [isLocked_of_objects ho]
    exact hfree
  have hstored : stored c id s' = stored c id s := stored_of_objects ho
  cases hf : f (stored c id s) with
  | error e => cases found <;> exact .of_objects ho trivial rfl hclobbers
  | ok edit =>
    cases found with
    | none =>
      have hnil := stored_of_none hfound
      cases edit with
      | unchanged => exact .of_applied hfree hfree' hf hstored hclobbers
      | delete => exact .of_applied hfree hfree' hf (hstored.trans hnil) hclobbers
      | write es =>
        rw [hnil] at hf
        exact .of_objects ho ⟨hf, hfree'⟩ rfl hclobbers
    | some a =>
      have hentries := stored_of_some hfound
      have hremembers := (Store.remembers_of_get? hk hs hfound).of_evolves he
      cases edit with
      | unchanged => exact .of_applied hfree hfree' hf hstored hclobbers
      | delete =>
        rw [hentries] at hf
        exact .of_objects ho ⟨hf, hremembers.key_eq, hfree'⟩ rfl hclobbers
      | write es =>
        rw [hentries] at hf
        exact .of_objects ho ⟨hf, hremembers, hmanaged a rfl, hfree'⟩ rfl hclobbers

theorem reading_effect (hk : s.IsKeyed) (hs : s.IsStamped) (left made : Nat) :
    Effect c id f s s.countRead ((reading left made).script c id operation f)
      (afterRead f left made (s.get? (key c id))) := by
  have hclobbers : ¬Clobbers f s ((reading left made).script c id operation f) :=
    not_clobbers_of_call (script_reading c id operation f left made) (by simp)
  have hevolves : s.Evolves s.countRead := s.evolves_act (.call (.get (key c id)))
  have hobjects : s.countRead.objects = s.objects := rfl
  have hedited := edited_effect (f := f) hk hs hobjects hevolves hclobbers
    (rfl : s.get? (key c id) = _)
  cases hfound : s.get? (key c id) with
  | none =>
    have heffect := hedited (by simp [hfound]) left made
    rw [stored_of_none hfound, hfound] at heffect
    exact heffect
  | some a =>
    by_cases hmanaged : a.metadata.managedBy? = some .gitops
    · rw [afterRead, if_pos hmanaged]
      exact .of_objects rfl trivial rfl hclobbers
    · have heffect := hedited (by simpa [hfound] using hmanaged) left made
      rw [stored_of_some hfound, hfound] at heffect
      rw [afterRead, if_neg hmanaged]
      exact heffect

theorem create_effect {a : OverrideResource} {script : OverrideScript} {left made : Nat}
    (hkey : a.metadata.key = key c id) (hmanaged : a.metadata.managedBy? ≠ some .gitops)
    (hf : f [] = .ok (.write a.entries)) (hfree : ¬IsLocked c id s)
    (hclobbers : ¬Clobbers f s script) :
    Effect c id f s (s.create a).store script
      (written operation .created left made (s.create a).reply) := by
  unfold Store.create
  split
  · obtain ⟨hsucceeded, hholds⟩ := settled_error c id operation f left made (.store (.alreadyExists _))
    exact .of_objects rfl (hholds _) hsucceeded hclobbers
  · rename_i hnone
    have hget : s.get? (key c id) = none := hkey ▸ Option.not_isSome_iff_eq_none.1 hnone
    rw [← stored_of_none hget] at hf
    exact .of_applied hfree (not_isLocked_write hkey hmanaged) hf (stored_write hkey) hclobbers

theorem creating_effect {es : List RelabelEntry} {left made : Nat}
    (h : (creating es left made).Holds c id f s) :
    Effect c id f s (s.create (fresh c id es)).store
      ((creating es left made).script c id operation f)
      (written operation .created left made (s.create (fresh c id es)).reply) := by
  obtain ⟨hf, hfree⟩ := h
  have hclobbers : ¬Clobbers f s ((creating es left made).script c id operation f) :=
    not_clobbers_of_call (script_creating c id operation f es left made) (by simp)
  exact create_effect key_fresh managedBy?_fresh hf hfree hclobbers

theorem updating_effect {found : OverrideResource} {es : List RelabelEntry} {left made : Nat}
    (h : (updating found es left made).Holds c id f s) :
    Effect c id f s (s.update { found with entries := es }).store
      ((updating found es left made).script c id operation f)
      (written operation .updated left made (s.update { found with entries := es }).reply) := by
  obtain ⟨hf, hremembers, hmanaged, hfree⟩ := h
  have hclobbers : ¬Clobbers f s ((updating found es left made).script c id operation f) :=
    not_clobbers_of_call (script_updating c id operation f found es left made) (by simp)
  have hrefused : ∀ s' e, s'.objects = s.objects →
      Effect c id f s s' ((updating found es left made).script c id operation f)
        (written operation .updated left made (.error e : Except StoreError OverrideResource)) := by
    intro s' e ho
    obtain ⟨hsucceeded, hholds⟩ := settled_error c id operation f left made (.store e)
    exact .of_objects ho (hholds _) hsucceeded hclobbers
  unfold Store.update
  split
  · exact hrefused _ _ rfl
  · split
    · exact hrefused _ _ rfl
    · rename_i old hold
      split
      · rename_i hversion
        have hget : s.get? (key c id) = some old := hremembers.key_eq ▸ hold
        obtain rfl : old = found := hremembers.eq_of_version_eq old hget hversion
        have hentries := stored_of_some hget
        refine .of_applied hfree (not_isLocked_write hremembers.key_eq hmanaged) (hentries ▸ hf) ?_
          hclobbers
        exact stored_write hremembers.key_eq
      · exact hrefused _ _ rfl

/-- A deletion does not ask for the version that was read: this is where something else than the
read entries may go away. -/
theorem deleting_effect (hedit : IsEdit f) {found : OverrideResource} {left made : Nat}
    (h : (deleting found left made).Holds c id f s) :
    Effect c id f s (s.delete found.metadata.key).store
      ((deleting found left made).script c id operation f)
      (removed operation left made (s.delete found.metadata.key).reply) := by
  obtain ⟨hf, hkey, hfree⟩ := h
  rw [script_deleting, hkey]
  unfold Store.delete
  split
  · rename_i hget
    have hclobbers : ¬Clobbers f s (.call (.delete (key c id)) fun reply =>
        (removed operation left made reply).script c id operation f) := by
      intro hclobbers
      obtain ⟨a, ha, -⟩ := clobbers_delete_iff.1 hclobbers
      rw [hget] at ha
      cases ha
    have hnil := stored_of_none hget
    exact .of_applied hfree hfree (hnil ▸ hedit.nil_of_delete hf) rfl hclobbers
  · rename_i a hget
    have hgone : (s.countWrite.discard (key c id)).get? (key c id) = none := get?_discard_self
    have hclobbers : Clobbers f s (.call (.delete (key c id)) fun reply =>
        (removed operation left made reply).script c id operation f)
          ↔ result f (stored c id s) ≠ [] := by
      refine clobbers_delete_iff.trans ?_
      rw [stored_of_some hget]
      constructor
      · rintro ⟨b, hb, hne⟩
        rwa [← Option.some.inj (hget.symm.trans hb)] at hne
      · exact fun hne => ⟨a, hget, hne⟩
    exact {
      holds := trivial
      kept := fun hsucceeded => by cases hsucceeded
      unlocked := fun _ => ⟨hfree, not_isLocked_of_none hgone⟩
      applied := fun _ => by
        refine ⟨hedit.exists_ok hf _, ?_⟩
        rw [hclobbers, not_not, stored_of_none hgone]
        exact eq_comm }

theorem succeeded_script (p : Phase) :
    (p.script c id operation f).succeeded = p.succeeded := by
  cases p with
  | reading left made =>
    rw [script_reading]
    rfl
  | creating es left made =>
    rw [script_creating]
    rfl
  | updating found es left made =>
    rw [script_updating]
    rfl
  | deleting found left made =>
    rw [script_deleting]
    rfl
  | finished reply => cases reply <;> rfl

theorem Holds.of_evolves {p : Phase} (h : p.Holds c id f s) (he : s.Evolves s')
    (hfree : ¬IsLocked c id s → ¬IsLocked c id s') : p.Holds c id f s' := by
  cases p with
  | reading left made => trivial
  | creating es left made =>
    obtain ⟨hf, hs⟩ := h
    exact ⟨hf, hfree hs⟩
  | updating found es left made =>
    obtain ⟨hf, hremembers, hmanaged, hs⟩ := h
    exact ⟨hf, hremembers.of_evolves he, hmanaged, hfree hs⟩
  | deleting found left made =>
    obtain ⟨hf, hkey, hs⟩ := h
    exact ⟨hf, hkey, hfree hs⟩
  | finished reply => trivial

theorem Effect.not_isLocked {p : Phase} {script : OverrideScript}
    (h : Effect c id f s s' script p) (hs : ¬IsLocked c id s) : ¬IsLocked c id s' := by
  cases hp : p.succeeded with
  | false =>
    rw [isLocked_of_objects (h.kept hp).1]
    exact hs
  | true => exact (h.unlocked hp).2

/-- What the next call of a request does, whatever the phase. -/
theorem call_effect (hk : s.IsKeyed) (hs : s.IsStamped) (hedit : IsEdit f) {p : Phase}
    (hp : p.Holds c id f s) {call : StoreCall OverrideResource}
    {next : call.Reply → OverrideScript} (h : p.script c id operation f = .call call next) :
    ∃ p', next (s.perform call).reply = p'.script c id operation f
      ∧ Effect c id f s (s.perform call).store (.call call next) p' := by
  rw [← h]
  cases p with
  | reading left made =>
    rw [script_reading] at h
    cases h
    exact ⟨_, rfl, reading_effect hk hs left made⟩
  | creating es left made =>
    rw [script_creating] at h
    cases h
    exact ⟨_, rfl, creating_effect hp⟩
  | updating found es left made =>
    rw [script_updating] at h
    cases h
    exact ⟨_, rfl, updating_effect hp⟩
  | deleting found left made =>
    rw [script_deleting] at h
    cases h
    exact ⟨_, rfl, deleting_effect hedit hp⟩
  | finished reply => cases h

end Phase

end OverrideRequest

end RuleCatalog
