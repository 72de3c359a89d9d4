import Mathlib.Data.List.Infix
import Mathlib.Logic.Function.Basic
import RuleCatalog.Proofs.Service.Alone

/-! # Override requests at the same time

Requests for the overrides of one rule take turns at one store, call by call. What is stored is what
the requests that have succeeded make of it one after another, as long as no deletion takes away
entries that its own request would not empty. Main statement: `isSerial_order_iff`. -/
namespace RuleCatalog
open Override OverrideRequest

/-! ## Requests -/

/-- A request for the overrides of a rule, with the catalog that it finds the rule in. -/
structure OverrideCall where
  catalog : Catalog
  request : Override.Request

namespace OverrideCall
variable (c : Config) (id : Identity) (x : OverrideCall)

def script : OverrideScript :=
  match x.request with
  | .update delta => OverrideRequest.update c x.catalog id delta
  | .drop => OverrideRequest.drop c x.catalog id
  | .restore => OverrideRequest.restore c x.catalog id

/-- The rule of a request as its catalog has it. -/
def subject : Subject :=
  match x.catalog.lookup? id with
  | some rule => ⟨id, alertName rule, rule.stated.labels⟩
  | none => ⟨id, id.ruleName, ∅⟩

def edit (es : List RelabelEntry) : Except ValidationError Edit := x.request.edit (x.subject id) es

variable {c id x}

theorem subject_eq {action : String} {rule : CatalogRule}
    (h : platformRule x.catalog id action = .ok rule) :
    x.subject id = ⟨id, alertName rule, rule.stated.labels⟩ := by
  rw [subject, (platformRule_eq_ok_iff.1 h).1]

theorem script_cases_of_bind {action : String} (operation : String)
    {f : CatalogRule → OverrideRequest OverrideOutcome}
    (hscript : x.script c id = Request.ofReply (platformRule x.catalog id action) >>= f)
    (hf : ∀ rule, platformRule x.catalog id action = .ok rule →
      f rule = OverrideRequest.edit c id operation (x.edit id)) :
    (∃ e, x.script c id = .done (.error e))
      ∨ ∃ operation, x.script c id = OverrideRequest.edit c id operation (x.edit id) := by
  rw [hscript]
  cases h : platformRule x.catalog id action with
  | error e => exact .inl ⟨e, rfl⟩
  | ok rule => exact .inr ⟨operation, hf rule h⟩

/-- A request is refused at once, or it reads, edits and writes. -/
theorem script_cases (c : Config) (id : Identity) (x : OverrideCall) :
    (∃ e, x.script c id = .done (.error e))
      ∨ ∃ operation, x.script c id = OverrideRequest.edit c id operation (x.edit id) := by
  obtain ⟨catalog, q⟩ := x
  cases q with
  | update delta =>
    refine script_cases_of_bind "update labels" rfl fun rule h => ?_
    unfold edit
    rw [subject_eq h]
    rfl
  | drop =>
    refine script_cases_of_bind "drop rule" rfl fun rule h => ?_
    unfold edit
    rw [subject_eq h]
    rfl
  | restore =>
    refine script_cases_of_bind "restore rule" rfl fun rule h => ?_
    unfold edit
    rw [subject_eq h]
    rfl

end OverrideCall

/-! ## Races -/

/-- Requests that take turns at a store. -/
structure Race (ι : Type) where
  store : Store OverrideResource
  /-- What is left of each request. -/
  scripts : ι → OverrideScript
  /-- The requests that have succeeded, as they did one after another. -/
  order : List ι

/-- What may happen next: a request makes its next call, or it is given up. -/
inductive Race.Move (ι : Type) where
  | call (i : ι)
  | giveUp (i : ι) (e : ServiceError)

namespace Race
variable {ι : Type}

def step [DecidableEq ι] (w : Race ι) : Move ι → Race ι
  | .call i =>
    match w.scripts i with
    | .done _ => w
    | .call call next =>
      let answer := w.store.perform call
      let rest := next answer.reply
      { store := answer.store
        scripts := Function.update w.scripts i rest
        order := if rest.succeeded then w.order ++ [i] else w.order }
  | .giveUp i e =>
    match w.scripts i with
    | .done _ => w
    | .call _ _ => { w with scripts := Function.update w.scripts i (.done (.error e)) }

def run [DecidableEq ι] (w : Race ι) (ms : List (Move ι)) : Race ι := ms.foldl step w

variable (c : Config) (id : Identity) (calls : ι → OverrideCall)

/-- All requests before their first calls. -/
def start (s : Store OverrideResource) : Race ι := ⟨s, fun i => (calls i).script c id, []⟩

/-- The store after some of the requests, each of them from its start to its end. -/
def inTurn (s : Store OverrideResource) (order : List ι) : Store OverrideResource :=
  order.foldl (fun s i => (((calls i).script c id).run Store.answer s).2) s

/-- Whether what is stored is what the requests that have succeeded make of it in some order. -/
structure IsSerial (s : Store OverrideResource) (w : Race ι) (order : List ι) : Prop where
  nodup : order.Nodup
  mem_iff : ∀ i, i ∈ order ↔ (w.scripts i).succeeded = true
  stored_eq : stored c id w.store = stored c id (inTurn c id calls s order)

/-- Whether a move deletes a resource with entries that its request would not empty. -/
def Clobbers (w : Race ι) : Move ι → Prop
  | .call i => OverrideRequest.Clobbers ((calls i).edit id) w.store (w.scripts i)
  | .giveUp _ _ => False

/-- Whether what is left of a request fits with what is stored. -/
def IsAttempt (x : OverrideCall) (s : Store OverrideResource) (script : OverrideScript) : Prop :=
  (∃ e, script = .done (.error e)) ∨ ∃ operation p,
    x.script c id = OverrideRequest.edit c id operation (x.edit id)
      ∧ script = Phase.script c id operation (x.edit id) p ∧ p.Holds c id (x.edit id) s

/-- What holds throughout a race. -/
structure Fits (s : Store OverrideResource) (w : Race ι) : Prop where
  isKeyed : w.store.IsKeyed
  isStamped : w.store.IsStamped
  attempts : ∀ i, IsAttempt c id (calls i) w.store (w.scripts i)
  nodup : w.order.Nodup
  mem_order_iff : ∀ i, i ∈ w.order ↔ (w.scripts i).succeeded = true
  unlocked : IsLocked c id (inTurn c id calls s w.order) → IsLocked c id w.store

variable {c id calls} {w : Race ι} {s s' t : Store OverrideResource} {i : ι}
  {call : StoreCall OverrideResource} {next : call.Reply → OverrideScript}

theorem IsAttempt.of_evolves {x : OverrideCall} {script : OverrideScript}
    (h : IsAttempt c id x s script) (he : s.Evolves s')
    (hfree : ¬IsLocked c id s → ¬IsLocked c id s') : IsAttempt c id x s' script := by
  rcases h with herror | ⟨operation, p, hx, hscript, hp⟩
  · exact .inl herror
  · exact .inr ⟨operation, p, hx, hscript, Phase.Holds.of_evolves hp he hfree⟩

/-! ## One step -/

theorem isCalm_inTurn (h : t.IsCalm) (order : List ι) : (inTurn c id calls t order).IsCalm :=
  h.foldl_run (fun i => (calls i).script c id) order

theorem inTurn_append_singleton (t : Store OverrideResource) (order : List ι) (i : ι) :
    inTurn c id calls t (order ++ [i])
      = (((calls i).script c id).run Store.answer (inTurn c id calls t order)).2 := by
  unfold inTurn
  rw [List.foldl_append]
  rfl

theorem Fits.exists_effect (h : Fits c id calls t w) (hscript : w.scripts i = .call call next) :
    ∃ operation p, (calls i).script c id
        = OverrideRequest.edit c id operation ((calls i).edit id)
      ∧ next (w.store.perform call).reply = Phase.script c id operation ((calls i).edit id) p
      ∧ Phase.Effect c id ((calls i).edit id) w.store (w.store.perform call).store
        (w.scripts i) p := by
  rcases h.attempts i with ⟨e, he⟩ | ⟨operation, p, hx, hp, hholds⟩
  · rw [he] at hscript
    cases hscript
  · have hcall := hp.symm.trans hscript
    have hedit : IsEdit ((calls i).edit id) := isEdit_edit _ _
    obtain ⟨p', hnext, heffect⟩ :=
      Phase.call_effect h.isKeyed h.isStamped hedit hholds hcall
    rw [← hscript] at heffect
    exact ⟨operation, p', hx, hnext, heffect⟩

/-- A request that succeeds does its work on the store of the requests in turn as well. -/
theorem Fits.inTurn_of_succeeded (ht : t.IsCalm) (h : Fits c id calls t w) {operation : String}
    {p : Phase} (hx : (calls i).script c id
      = OverrideRequest.edit c id operation ((calls i).edit id))
    (heffect : Phase.Effect c id ((calls i).edit id) w.store s' (w.scripts i) p)
    (hp : p.succeeded = true) :
    stored c id (inTurn c id calls t (w.order ++ [i]))
        = result ((calls i).edit id) (stored c id (inTurn c id calls t w.order))
      ∧ ¬IsLocked c id (inTurn c id calls t (w.order ++ [i])) := by
  have hfree : ¬IsLocked c id (inTurn c id calls t w.order) :=
    fun hlocked => (heffect.unlocked hp).1 (h.unlocked hlocked)
  have hedit : IsEdit ((calls i).edit id) := isEdit_edit _ _
  obtain ⟨⟨edit, hf⟩, -⟩ := heffect.applied hp
  obtain ⟨edit', hf'⟩ := hedit.exists_ok hf (stored c id (inTurn c id calls t w.order))
  rw [inTurn_append_singleton, hx, result, hf']
  exact run_edit (isCalm_inTurn ht w.order) hfree hf'

theorem fits_start (hk : s.IsKeyed) (hs : s.IsStamped) (ho : t.objects = s.objects) :
    Fits c id calls t (start c id calls s) where
  isKeyed := hk
  isStamped := hs
  attempts i := by
    rcases (calls i).script_cases c id with herror | ⟨operation, hx⟩
    · exact .inl herror
    · exact .inr ⟨operation, .reading (c.writeAttempts - 1) 0, hx, hx, trivial⟩
  nodup := List.nodup_nil
  mem_order_iff i := by
    have hscript : ((calls i).script c id).succeeded = false := by
      rcases (calls i).script_cases c id with ⟨e, he⟩ | ⟨operation, hx⟩
      · rw [he]
        rfl
      · rw [hx, Phase.edit_eq_script, Phase.succeeded_script]
        rfl
    exact iff_of_false List.not_mem_nil (Bool.eq_false_iff.1 hscript)
  unlocked := (isLocked_of_objects ho).1

variable [DecidableEq ι]

theorem step_call (h : w.scripts i = .call call next) : w.step (.call i) =
    { store := (w.store.perform call).store
      scripts := Function.update w.scripts i (next (w.store.perform call).reply)
      order := if (next (w.store.perform call).reply).succeeded then w.order ++ [i]
        else w.order } := by
  unfold step
  dsimp only
  rw [h]

theorem Fits.step_call (ht : t.IsCalm) (h : Fits c id calls t w)
    (hscript : w.scripts i = .call call next) : Fits c id calls t (w.step (.call i)) := by
  obtain ⟨operation, p, hx, hnext, heffect⟩ := h.exists_effect hscript
  have hevolves : w.store.Evolves (w.store.perform call).store := w.store.evolves_act (.call call)
  have hi : i ∉ w.order := by
    rw [h.mem_order_iff, hscript]
    simp [Script.succeeded]
  have hsucceeded : (next (w.store.perform call).reply).succeeded = p.succeeded := by
    rw [hnext, Phase.succeeded_script]
  rw [Race.step_call hscript, hsucceeded]
  exact {
    isKeyed := Store.isKeyed_act h.isKeyed (.call call)
    isStamped := Store.isStamped_act h.isStamped (.call call)
    attempts := fun j => by
      dsimp only
      by_cases hj : j = i
      · subst hj
        rw [Function.update_self, hnext]
        exact .inr ⟨operation, p, hx, rfl, heffect.holds⟩
      · rw [Function.update_of_ne hj]
        exact (h.attempts j).of_evolves hevolves heffect.not_isLocked
    nodup := by
      cases p.succeeded with
      | false => exact h.nodup
      | true =>
        have hne : ∀ j ∈ w.order, j ≠ i := fun j hj he => hi (he ▸ hj)
        simpa [List.nodup_append, h.nodup] using hne
    mem_order_iff := fun j => by
      dsimp only
      by_cases hj : j = i
      · subst hj
        rw [Function.update_self, hsucceeded]
        cases p.succeeded with
        | false => simpa using hi
        | true => simp
      · rw [Function.update_of_ne hj, ← h.mem_order_iff]
        cases p.succeeded with
        | false => rfl
        | true => simp [hj]
    unlocked := fun hlocked => by
      cases hp : p.succeeded with
      | false =>
        rw [hp] at hlocked
        rw [isLocked_of_objects (heffect.kept hp).1]
        exact h.unlocked hlocked
      | true =>
        rw [hp] at hlocked
        exact absurd hlocked (h.inTurn_of_succeeded ht hx heffect hp).2 }

theorem Fits.step_giveUp (h : Fits c id calls t w) (hscript : w.scripts i = .call call next)
    (e : ServiceError) : Fits c id calls t (w.step (.giveUp i e)) := by
  have hi : i ∉ w.order := by
    rw [h.mem_order_iff, hscript]
    simp [Script.succeeded]
  have hstep : w.step (.giveUp i e)
      = { w with scripts := Function.update w.scripts i (.done (.error e)) } := by
    unfold step
    dsimp only
    rw [hscript]
  rw [hstep]
  exact {
    isKeyed := h.isKeyed
    isStamped := h.isStamped
    attempts := fun j => by
      dsimp only
      by_cases hj : j = i
      · subst hj
        rw [Function.update_self]
        exact .inl ⟨e, rfl⟩
      · rw [Function.update_of_ne hj]
        exact h.attempts j
    nodup := h.nodup
    mem_order_iff := fun j => by
      dsimp only
      by_cases hj : j = i
      · subst hj
        rw [Function.update_self]
        exact iff_of_false hi (by simp [Script.succeeded])
      · rw [Function.update_of_ne hj]
        exact h.mem_order_iff j
    unlocked := h.unlocked }

theorem step_of_done {reply : Except ServiceError OverrideOutcome}
    (h : w.scripts i = .done reply) (e : ServiceError) :
    w.step (.call i) = w ∧ w.step (.giveUp i e) = w := by
  unfold step
  dsimp only
  rw [h]
  exact ⟨rfl, rfl⟩

theorem Fits.step (ht : t.IsCalm) (h : Fits c id calls t w) (m : Move ι) :
    Fits c id calls t (w.step m) := by
  cases m with
  | call i =>
    cases hscript : w.scripts i with
    | done reply =>
      rw [(step_of_done hscript (.timeout 0)).1]
      exact h
    | call call next => exact h.step_call ht hscript
  | giveUp i e =>
    cases hscript : w.scripts i with
    | done reply =>
      rw [(step_of_done hscript e).2]
      exact h
    | call call next => exact h.step_giveUp hscript e

/-- Whether what is stored is what the requests that have succeeded make of it in turn. -/
def Agrees (c : Config) (id : Identity) (calls : ι → OverrideCall) (s : Store OverrideResource)
    (w : Race ι) : Prop :=
  stored c id w.store = stored c id (inTurn c id calls s w.order)

theorem Agrees.step_call_iff (ht : t.IsCalm) (h : Fits c id calls t w) (ha : Agrees c id calls t w)
    (hscript : w.scripts i = .call call next) :
    Agrees c id calls t (w.step (.call i)) ↔ ¬w.Clobbers id calls (.call i) := by
  obtain ⟨operation, p, hx, hnext, heffect⟩ := h.exists_effect hscript
  have hsucceeded : (next (w.store.perform call).reply).succeeded = p.succeeded := by
    rw [hnext, Phase.succeeded_script]
  rw [Race.step_call hscript, hsucceeded]
  unfold Agrees at ha ⊢
  dsimp only
  cases hp : p.succeeded with
  | false =>
    obtain ⟨hobjects, hclobbers⟩ := heffect.kept hp
    refine iff_of_true ?_ hclobbers
    rw [stored_of_objects hobjects]
    exact ha
  | true =>
    have hturn := (h.inTurn_of_succeeded ht hx heffect hp).1
    rw [if_pos rfl, hturn, ← ha]
    exact (heffect.applied hp).2

theorem Agrees.step_iff (ht : t.IsCalm) (h : Fits c id calls t w) (ha : Agrees c id calls t w)
    (m : Move ι) : Agrees c id calls t (w.step m) ↔ ¬w.Clobbers id calls m := by
  cases m with
  | call i =>
    cases hscript : w.scripts i with
    | done reply =>
      rw [(step_of_done hscript (.timeout 0)).1]
      refine iff_of_true ha ?_
      rintro ⟨k, next, a, hcall, -⟩
      rw [hscript] at hcall
      cases hcall
    | call call next => exact ha.step_call_iff ht h hscript
  | giveUp i e =>
    refine iff_of_true ?_ not_false
    cases hscript : w.scripts i with
    | done reply =>
      rw [(step_of_done hscript e).2]
      exact ha
    | call call next =>
      unfold Race.step
      dsimp only
      rw [hscript]
      exact ha

/-! ## Whole races -/

theorem run_append_singleton (w : Race ι) (ms : List (Move ι)) (m : Move ι) :
    w.run (ms ++ [m]) = (w.run ms).step m := by
  unfold run
  rw [List.foldl_append]
  rfl

theorem Fits.run (ht : t.IsCalm) (h : Fits c id calls t w) (ms : List (Move ι)) :
    Fits c id calls t (w.run ms) := by
  induction ms generalizing w with
  | nil => exact h
  | cons m ms ih => exact ih (h.step ht m)

theorem forall_agrees_iff (ht : t.IsCalm) (h : Fits c id calls t w) (ha : Agrees c id calls t w)
    (ms : List (Move ι)) :
    (∀ ms', ms' <+: ms → Agrees c id calls t (w.run ms'))
      ↔ ∀ ms' m, ms' ++ [m] <+: ms → ¬(w.run ms').Clobbers id calls m := by
  have hstep : ∀ ms' m, Agrees c id calls t (w.run ms') →
      (Agrees c id calls t (w.run (ms' ++ [m])) ↔ ¬(w.run ms').Clobbers id calls m) := by
    intro ms' m ha'
    rw [run_append_singleton]
    exact ha'.step_iff ht (h.run ht ms') m
  constructor
  · intro hall ms' m hprefix
    have hbefore := hall ms' ((List.prefix_append ms' [m]).trans hprefix)
    exact (hstep ms' m hbefore).1 (hall _ hprefix)
  · intro hnone ms'
    induction ms' using List.reverseRecOn with
    | nil => exact fun _ => ha
    | append_singleton ms' m ih =>
      intro hprefix
      have hbefore := ih ((List.prefix_append ms' [m]).trans hprefix)
      exact (hstep ms' m hbefore).2 (hnone ms' m hprefix)

/-- Throughout a race, what is stored is what the requests that have succeeded so far make of it one
after another, in the order in which they did, exactly when no move deletes entries that its own
request would not empty. -/
theorem isSerial_order_iff (c : Config) (id : Identity) (calls : ι → OverrideCall)
    (as : List (StoreAction OverrideResource)) (ms : List (Move ι)) :
    let s := Store.after as
    let w := fun ms' => (start c id calls s).run ms'
    (∀ ms', ms' <+: ms → IsSerial c id calls { s with failingUpdates := 0 } (w ms') (w ms').order)
      ↔ ∀ ms' m, ms' ++ [m] <+: ms → ¬(w ms').Clobbers id calls m := by
  intro s w
  have hkeyed : s.IsKeyed := Store.isKeyed_after as
  let t : Store OverrideResource := { s with failingUpdates := 0 }
  have ht : t.IsCalm := ⟨hkeyed, rfl⟩
  have hfits : Fits c id calls t (start c id calls s) :=
    fits_start hkeyed (Store.isStamped_after as) rfl
  have hagrees : Agrees c id calls t (start c id calls s) := rfl
  rw [← forall_agrees_iff ht hfits hagrees ms]
  refine forall_congr' fun ms' => imp_congr_right fun _ => ?_
  have hrun := hfits.run ht ms'
  exact ⟨fun h => h.stored_eq, fun h => ⟨hrun.nodup, hrun.mem_order_iff, h⟩⟩

/-- Two requests for an alert that is overridden to be critical: the first one sets another label,
and the second one withdraws the override. -/
def withdrawal : Bool → OverrideCall
  | false => ⟨catalog, .update (.ofList [("team", "web")])⟩
  | true => ⟨catalog, .update (.ofList [("severity", "")])⟩
where
  stated : Rule := ⟨some "DiskFull", none, "disk_used > 90", none,
    .ofList [("severity", "warning")], ∅⟩
  rule : CatalogRule :=
    ⟨⟨"DiskFull;1a"⟩, stated, stated, ⟨"openshift-monitoring", "disk"⟩, .platformManaged, none, none⟩
  catalog : Catalog := { Catalog.empty with rules := .ofList [(⟨"DiskFull;1a"⟩, rule)] }

theorem exists_eq_pair {order : List Bool} (hn : order.Nodup) (hm : ∀ i, i ∈ order) :
    ∃ i j, i ≠ j ∧ order = [i, j] := by
  rcases order with _ | ⟨i, _ | ⟨j, _ | ⟨k, rest⟩⟩⟩
  · exact absurd (hm true) List.not_mem_nil
  · have hi := hm !i
    cases i <;> simp at hi
  · exact ⟨i, j, by simpa using hn, rfl⟩
  · cases i <;> cases j <;> cases k <;> simp at hn

/-- Both requests succeed, but the label that the first one has set is deleted by the second one,
which has read the entries before. No order of the two requests explains this. -/
theorem withdrawal_not_isSerial :
    let id : Identity := ⟨"DiskFull;1a"⟩
    let entries := State.entries ((withdrawal false).subject id)
      ⟨.ofList [("severity", "critical")], false⟩
    let s := Store.after [.upsert (fresh .default id entries)]
    let w := (start .default id withdrawal s).run
      [.call false, .call true, .call false, .call true]
    (∀ i, (w.scripts i).succeeded = true)
      ∧ ∀ order, ¬IsSerial .default id withdrawal { s with failingUpdates := 0 } w order := by
  intro id entries s w
  have hrace : (∀ i, (w.scripts i).succeeded = true) ∧ stored .default id w.store = []
      ∧ ∀ i j, i ≠ j → stored .default id
        (inTurn .default id withdrawal { s with failingUpdates := 0 } [i, j]) ≠ [] := by
    decide +kernel
  clear_value w s
  refine ⟨hrace.1, fun order h => ?_⟩
  obtain ⟨i, j, hij, rfl⟩ := exists_eq_pair h.nodup fun i => (h.mem_iff i).2 (hrace.1 i)
  exact hrace.2.2 i j hij (h.stored_eq.symm.trans hrace.2.1)

end Race

end RuleCatalog
