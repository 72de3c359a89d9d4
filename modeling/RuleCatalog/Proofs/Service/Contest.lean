import RuleCatalog.Proofs.Service.Amending
import RuleCatalog.Proofs.Service.Race

/-! # Amending requests at the same time

Requests that amend resources take turns at one store, call by call. What is stored is what those
that have succeeded make of it one after another, in the order of their writes.
Main statements: `IsSerial.run`, and `isSerial_patches_and_rules` for the requests of users. -/
namespace RuleCatalog

/-- Requests that take turns at a store. -/
structure Contest (α ρ ι : Type) where
  store : Store α
  /-- What is left of each request. -/
  scripts : ι → StoreRequest α ρ
  /-- The requests that a call has brought to a good end, one after another. -/
  order : List ι
  /-- The requests by whose calls the store was changed, one after another. -/
  writers : List ι

namespace Contest
variable {α ρ ι : Type} [Resource α]

def step [DecidableEq ι] (w : Contest α ρ ι) : Race.Move ι → Contest α ρ ι
  | .call i =>
    match w.scripts i with
    | .done _ => w
    | .call call next =>
      let answer := w.store.perform call
      let rest := next answer.reply
      { store := answer.store
        scripts := Function.update w.scripts i rest
        order := if rest.succeeded then w.order ++ [i] else w.order
        writers := if answer.change.isSome then w.writers ++ [i] else w.writers }
  | .giveUp i e =>
    match w.scripts i with
    | .done _ => w
    | .call _ _ => { w with scripts := Function.update w.scripts i (.done (.error e)) }

def run [DecidableEq ι] (w : Contest α ρ ι) (ms : List (Race.Move ι)) : Contest α ρ ι :=
  ms.foldl step w

variable (tasks : ι → StoreRequest α ρ)

/-- All requests before their first calls. -/
def start (s : Store α) : Contest α ρ ι := ⟨s, tasks, [], []⟩

/-- The store after some of the requests, each of them from its start to its end. -/
def inTurn (s : Store α) (order : List ι) : Store α :=
  order.foldl (fun s i => ((tasks i).alone s).2) s

/-- Whether the requests that have succeeded have had the effects and the replies that they have one
after another. A request that was answered at once has made no call. -/
structure IsSerial (s : Store α) (w : Contest α ρ ι) : Prop where
  nodup : w.order.Nodup
  mem_order_iff : ∀ i, i ∈ w.order
    ↔ (w.scripts i).succeeded = true ∧ (tasks i).succeeded = false
  writers_sublist : w.writers.Sublist w.order
  content_eq_order : w.store.content = (inTurn tasks s w.order).content
  content_eq_writers : w.store.content = (inTurn tasks s w.writers).content
  reply_eq : ∀ before i, before ++ [i] <+: w.order →
    ∃ r, w.scripts i = .done (.ok r) ∧ ((tasks i).alone (inTurn tasks s before)).1 = .ok r

/-- Whether what is left of a request fits with what is stored. -/
def IsAttempt (x : StoreRequest α ρ) (s : Store α) (script : StoreRequest α ρ) : Prop :=
  (∃ reply, x = .done reply ∧ script = .done reply) ∨ ∃ attempts operation key f p,
    IsPlan key f ∧ x = StoreRequest.amend attempts operation key f
      ∧ script = Amendment.Phase.script operation key f p ∧ p.Holds key f s

/-- What holds throughout a contest. -/
structure Fits (s : Store α) (w : Contest α ρ ι) : Prop where
  isKeyed : w.store.IsKeyed
  isStamped : w.store.IsStamped
  attempts : ∀ i, IsAttempt (tasks i) w.store (w.scripts i)
  isSerial : IsSerial tasks s w

variable {tasks} {w : Contest α ρ ι} {s s' t : Store α} {i : ι} {call : StoreCall α}
  {next : call.Reply → StoreRequest α ρ}

theorem IsAttempt.of_evolves {x script : StoreRequest α ρ} (h : IsAttempt x s script)
    (he : s.Evolves s') : IsAttempt x s' script := by
  rcases h with hdone | ⟨attempts, operation, key, f, p, hplan, hx, hscript, hp⟩
  · exact .inl hdone
  · exact .inr ⟨attempts, operation, key, f, p, hplan, hx, hscript, hp.of_evolves he⟩

/-- A request with a call to make amends a place. -/
theorem IsAttempt.exists_phase {x : StoreRequest α ρ} (h : IsAttempt x s (.call call next)) :
    ∃ attempts operation key f p, IsPlan key f ∧ x = StoreRequest.amend attempts operation key f
      ∧ Script.call call next = Amendment.Phase.script operation key f p ∧ p.Holds key f s := by
  rcases h with ⟨reply, -, hdone⟩ | hphase
  · cases hdone
  · exact hphase

theorem isAttempt_self {x : StoreRequest α ρ} (h : IsAmending x) (s : Store α) :
    IsAttempt x s x := by
  rcases h with ⟨reply, hx⟩ | ⟨attempts, operation, key, f, hplan, hx⟩
  · exact .inl ⟨reply, hx, hx⟩
  · exact .inr ⟨attempts, operation, key, f, .reading (attempts - 1) 0, hplan, hx, hx, trivial⟩

/-! ## Requests in turn -/

theorem isCalm_inTurn (h : t.IsCalm) (order : List ι) : (inTurn tasks t order).IsCalm :=
  h.foldl_run tasks order

theorem inTurn_append_singleton (t : Store α) (order : List ι) (i : ι) :
    inTurn tasks t (order ++ [i]) = ((tasks i).alone (inTurn tasks t order)).2 := by
  unfold inTurn
  rw [List.foldl_append]
  rfl

/-! ## One step -/

/-- What a call of a request does, as far as others can tell: nothing, or all that the request does
alone at a store of the same content. -/
inductive CallEffect {σ : Type} (x : StoreRequest α ρ) (s : Store α) (answer : Answer α σ)
    (rest : StoreRequest α ρ) : Prop where
  | nothing (unfinished : rest.succeeded = false) (content_eq : answer.store.content = s.content)
      (change_eq : answer.change = none)
  | whole (r : ρ) (rest_eq : rest = .done (.ok r))
      (kept : answer.change = none → answer.store.content = s.content)
      (alone_eq : ∀ u : Store α, u.IsCalm → s.content = u.content →
        (x.alone u).1 = .ok r ∧ answer.store.content = (x.alone u).2.content)

theorem CallEffect.of_phase {σ : Type} {x : StoreRequest α ρ} {answer : Answer α σ}
    {key : ObjectKey} {f : Option α → Amendment α ρ} {p : Amendment.Phase α ρ} {attempts : Nat}
    {operation : String} (hplan : IsPlan key f)
    (hx : x = StoreRequest.amend attempts operation key f)
    (heffect : Amendment.Phase.Effect key f s answer p) :
    CallEffect x s answer (p.script operation key f) := by
  cases hresult : p.result? with
  | none =>
    obtain ⟨hcontent, hchange⟩ := heffect.kept hresult
    refine .nothing ?_ hcontent hchange
    rw [Amendment.Phase.succeeded_script, hresult]
    rfl
  | some r =>
    obtain ⟨hreply, hcontent, hchange⟩ := heffect.applied r hresult
    refine .whole r ?_ (fun hnone => ?_) fun u hu hsame => ?_
    · rw [Amendment.Phase.eq_finished_of_result? hresult]
      rfl
    · have hresource : (f (s.get? key)).resource? = none := by
        rw [hnone] at hchange
        exact Option.isNone_iff_eq_none.1 (Option.isSome_eq_false_iff.1 hchange.symm)
      rw [hcontent, Store.amended, hresource]
    · have hget : u.get? key = s.get? key := Store.get?_eq_of_content hsame.symm key
      rw [← hget] at hreply
      obtain ⟨u', halone, hafter⟩ := StoreRequest.alone_amend hu hplan hreply attempts operation
      rw [hx, halone]
      refine ⟨rfl, ?_⟩
      rw [hcontent, hafter, hget]
      exact Store.content_amended hsame _

theorem Fits.exists_effect (h : Fits tasks t w) (hscript : w.scripts i = .call call next) :
    IsAttempt (tasks i) (w.store.perform call).store (next (w.store.perform call).reply)
      ∧ (tasks i).succeeded = false
      ∧ CallEffect (tasks i) w.store (w.store.perform call)
        (next (w.store.perform call).reply) := by
  have hattempt := h.attempts i
  rw [hscript] at hattempt
  obtain ⟨attempts, operation, key, f, p, hplan, hx, hp, hholds⟩ := hattempt.exists_phase
  obtain ⟨p', hnext, heffect⟩ :=
    Amendment.Phase.call_effect h.isKeyed h.isStamped hplan hholds hp.symm
  rw [hnext]
  refine ⟨.inr ⟨attempts, operation, key, f, p', hplan, hx, rfl, heffect.holds⟩, ?_,
    .of_phase hplan hx heffect⟩
  rw [hx, Amendment.Phase.succeeded_amend]

theorem IsSerial.not_mem_order (h : IsSerial tasks t w) (hscript : w.scripts i = .call call next) :
    i ∉ w.order := by
  rw [h.mem_order_iff, hscript]
  simp [Script.succeeded]

variable [DecidableEq ι]

theorem step_call (h : w.scripts i = .call call next) : w.step (.call i) =
    { store := (w.store.perform call).store
      scripts := Function.update w.scripts i (next (w.store.perform call).reply)
      order := if (next (w.store.perform call).reply).succeeded then w.order ++ [i] else w.order
      writers := if (w.store.perform call).change.isSome then w.writers ++ [i]
        else w.writers } := by
  unfold step
  dsimp only
  rw [h]

theorem step_giveUp (h : w.scripts i = .call call next) (e : ServiceError) :
    w.step (.giveUp i e)
      = { w with scripts := Function.update w.scripts i (.done (.error e)) } := by
  unfold step
  dsimp only
  rw [h]

theorem step_of_done {reply : Except ServiceError ρ} (h : w.scripts i = .done reply)
    (e : ServiceError) : w.step (.call i) = w ∧ w.step (.giveUp i e) = w := by
  unfold step
  dsimp only
  rw [h]
  exact ⟨rfl, rfl⟩

/-- What has not succeeded and has changed nothing is not noticed. -/
theorem IsSerial.of_unfinished (h : IsSerial tasks t w) (hi : i ∉ w.order)
    {rest : StoreRequest α ρ} (hrest : rest.succeeded = false)
    (hcontent : s'.content = w.store.content) :
    IsSerial tasks t ⟨s', Function.update w.scripts i rest, w.order, w.writers⟩ where
  nodup := h.nodup
  mem_order_iff j := by
    dsimp only
    by_cases hj : j = i
    · subst hj
      rw [Function.update_self, hrest]
      exact iff_of_false hi (by simp)
    · rw [Function.update_of_ne hj]
      exact h.mem_order_iff j
  writers_sublist := h.writers_sublist
  content_eq_order := hcontent.trans h.content_eq_order
  content_eq_writers := hcontent.trans h.content_eq_writers
  reply_eq before j hprefix := by
    have hj : j ∈ w.order := hprefix.subset (by simp)
    have hne : j ≠ i := fun he => hi (he ▸ hj)
    dsimp only
    rw [Function.update_of_ne hne]
    exact h.reply_eq before j hprefix

/-- What does all that a request does alone comes last in the order. -/
theorem IsSerial.of_finished (ht : t.IsCalm) (h : IsSerial tasks t w) (hi : i ∉ w.order)
    (htask : (tasks i).succeeded = false) {σ : Type} {answer : Answer α σ} {r : ρ}
    (hkept : answer.change = none → answer.store.content = w.store.content)
    (halone : ∀ u : Store α, u.IsCalm → w.store.content = u.content →
      ((tasks i).alone u).1 = .ok r ∧ answer.store.content = ((tasks i).alone u).2.content) :
    IsSerial tasks t ⟨answer.store, Function.update w.scripts i (.done (.ok r)), w.order ++ [i],
      if answer.change.isSome then w.writers ++ [i] else w.writers⟩ where
  nodup := by
    have hne : ∀ j ∈ w.order, j ≠ i := fun j hj he => hi (he ▸ hj)
    simpa [List.nodup_append, h.nodup] using hne
  mem_order_iff j := by
    dsimp only
    by_cases hj : j = i
    · subst hj
      rw [Function.update_self]
      exact iff_of_true (by simp) ⟨rfl, htask⟩
    · rw [Function.update_of_ne hj, ← h.mem_order_iff]
      simp [hj]
  writers_sublist := by
    dsimp only
    split
    · exact h.writers_sublist.append (List.Sublist.refl [i])
    · exact h.writers_sublist.trans (List.sublist_append_left _ _)
  content_eq_order := by
    rw [inTurn_append_singleton]
    exact (halone _ (isCalm_inTurn ht w.order) h.content_eq_order).2
  content_eq_writers := by
    dsimp only
    cases hchange : answer.change with
    | none => exact (hkept hchange).trans h.content_eq_writers
    | some change =>
      rw [Option.isSome_some, if_pos rfl, inTurn_append_singleton]
      exact (halone _ (isCalm_inTurn ht w.writers) h.content_eq_writers).2
  reply_eq before j hprefix := by
    dsimp only
    rcases List.prefix_concat_iff.1 hprefix with heq | hbefore
    · obtain ⟨rfl, hj⟩ := List.append_inj' heq rfl
      obtain rfl := List.singleton_inj.1 hj
      rw [Function.update_self]
      exact ⟨r, rfl, (halone _ (isCalm_inTurn ht w.order) h.content_eq_order).1⟩
    · have hj : j ∈ w.order := hbefore.subset (by simp)
      have hne : j ≠ i := fun he => hi (he ▸ hj)
      rw [Function.update_of_ne hne]
      exact h.reply_eq before j hbefore

theorem Fits.step_call (ht : t.IsCalm) (h : Fits tasks t w)
    (hscript : w.scripts i = .call call next) : Fits tasks t (w.step (.call i)) := by
  obtain ⟨hattempt, htask, heffect⟩ := h.exists_effect hscript
  have hevolves : w.store.Evolves (w.store.perform call).store := w.store.evolves_act (.call call)
  have hi := h.isSerial.not_mem_order hscript
  rw [Contest.step_call hscript]
  exact {
    isKeyed := Store.isKeyed_act h.isKeyed (.call call)
    isStamped := Store.isStamped_act h.isStamped (.call call)
    attempts := fun j => by
      dsimp only
      by_cases hj : j = i
      · subst hj
        rw [Function.update_self]
        exact hattempt
      · rw [Function.update_of_ne hj]
        exact (h.attempts j).of_evolves hevolves
    isSerial := by
      cases heffect with
      | nothing unfinished content_eq change_eq =>
        rw [unfinished, change_eq]
        exact h.isSerial.of_unfinished hi unfinished content_eq
      | whole r rest_eq kept alone_eq =>
        rw [rest_eq]
        exact h.isSerial.of_finished ht hi htask kept alone_eq }

theorem Fits.step_giveUp (h : Fits tasks t w) (hscript : w.scripts i = .call call next)
    (e : ServiceError) : Fits tasks t (w.step (.giveUp i e)) := by
  have hi := h.isSerial.not_mem_order hscript
  rw [Contest.step_giveUp hscript e]
  exact {
    isKeyed := h.isKeyed
    isStamped := h.isStamped
    attempts := fun j => by
      dsimp only
      by_cases hj : j = i
      · subst hj
        rw [Function.update_self]
        have hattempt := h.attempts j
        rw [hscript] at hattempt
        obtain ⟨attempts, operation, key, f, -, hplan, hx, -⟩ := hattempt.exists_phase
        exact .inr ⟨attempts, operation, key, f, .finished (.error e), hplan, hx, rfl, trivial⟩
      · rw [Function.update_of_ne hj]
        exact h.attempts j
    isSerial := h.isSerial.of_unfinished hi rfl rfl }

theorem Fits.step (ht : t.IsCalm) (h : Fits tasks t w) (m : Race.Move ι) :
    Fits tasks t (w.step m) := by
  cases m with
  | call i =>
    cases hscript : w.scripts i with
    | done reply =>
      rw [(step_of_done hscript (.timeout 0)).1]
      exact h
    | call call next => exact h.step_call ht hscript
  | giveUp i e =>
    cases hscript : w.scripts i with
    | done reply =>
      rw [(step_of_done hscript e).2]
      exact h
    | call call next => exact h.step_giveUp hscript e

/-! ## Whole contests -/

theorem Fits.run (ht : t.IsCalm) (h : Fits tasks t w) (ms : List (Race.Move ι)) :
    Fits tasks t (w.run ms) := by
  induction ms generalizing w with
  | nil => exact h
  | cons m ms ih => exact ih (h.step ht m)

omit [DecidableEq ι] in
theorem fits_start (hk : s.IsKeyed) (hs : s.IsStamped) (hc : s.content = t.content)
    (h : ∀ i, IsAmending (tasks i)) : Fits tasks t (start tasks s) where
  isKeyed := hk
  isStamped := hs
  attempts i := isAttempt_self (h i) s
  isSerial := {
    nodup := List.nodup_nil
    mem_order_iff := fun i => by simp [start]
    writers_sublist := List.Sublist.refl []
    content_eq_order := hc
    content_eq_writers := hc
    reply_eq := fun before i hprefix => by simp [start] at hprefix }

theorem isSerial_run_start (h : ∀ i, IsAmending (tasks i)) (as : List (StoreAction α))
    (ms : List (Race.Move ι)) :
    IsSerial tasks { Store.after as with failingUpdates := 0 }
      ((start tasks (Store.after as)).run ms) := by
  have hkeyed : (Store.after as : Store α).IsKeyed := Store.isKeyed_after as
  let t : Store α := { Store.after as with failingUpdates := 0 }
  have ht : t.IsCalm := ⟨hkeyed, rfl⟩
  have hfits : Fits tasks t (start tasks (Store.after as)) :=
    fits_start hkeyed (Store.isStamped_after as) rfl h
  exact (hfits.run ht ms).isSerial

/-- Patches of classifications, and requests for rules with catalogs of their own, take effect one
after another in the order of their writes, whatever turns they take at their store. -/
theorem isSerial_patches_and_rules (c : Config) (ms : List (Race.Move ι)) :
    (∀ (as : List (StoreAction Container)) (space : ι → String) (id : ι → Identity)
        (p : ι → ClassificationPatch),
      let tasks := fun i => ClassificationRequest.patch c (space i) (id i) (p i)
      let s := Store.after as
      IsSerial tasks { s with failingUpdates := 0 } ((start tasks s).run ms))
    ∧ ∀ (as : List (StoreAction RuleResource)) (catalog : ι → Catalog) (calls : ι → RuleCall),
      let tasks := fun i => (calls i).script c (catalog i)
      let s := Store.after as
      IsSerial tasks { s with failingUpdates := 0 } ((start tasks s).run ms) := by
  refine ⟨fun as space id p => ?_, fun as catalog calls => ?_⟩
  · exact isSerial_run_start (fun i => ClassificationRequest.isAmending_patch) as ms
  · exact isSerial_run_start (fun i => (calls i).isAmending_script c (catalog i)) as ms

/-- Two patches of a namespace without a container: the second one finds, as it comes to create it,
that the first one has been there, and starts again. -/
example :
    let tasks : Bool → ClassificationRequest Unit := fun i =>
      ClassificationRequest.patch .default "team" ⟨"Disk;1a"⟩
        ⟨.set (if i then "api" else "db"), .unset, .unset, .unset⟩
    let w := (start tasks .empty).run
      [.call false, .call true, .call false, .call true, .call true, .call true]
    w.order = [false, true] ∧ w.writers = [false, true]
      ∧ (w.store.get? (ClassificationRequest.key .default "team")).bind
        (·.classification? (Identity.encodeKey ⟨"Disk;1a"⟩))
          = some ⟨some "api", none, none, none⟩ := by
  decide +kernel

end Contest

end RuleCatalog
