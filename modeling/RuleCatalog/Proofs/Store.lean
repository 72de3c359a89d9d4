import RuleCatalog.Script
import RuleCatalog.Store.Call

/-! # What a store keeps

Everything that can be done to a store is one `StoreAction`. A store keeps its resources under
their own keys and with versions of its own writes, and it does not change without saying so: where
an action makes no change known, all that is stored stays as it is, and otherwise all but the
resource of the change. -/
namespace RuleCatalog

/-- What others do to a store: direct changes, calls, and settings of its behaviour. -/
inductive StoreAction (α : Type) where
  | upsert (a : α)
  | remove (key : ObjectKey)
  | call (c : StoreCall α)
  | failLists (n : Nat)
  | failUpdates (n : Nat)
  | delay (ms : Nat)

namespace Store
variable {α : Type} [Resource α] {s : Store α}

/-- The store after an action, with the change that the action made. -/
def act (s : Store α) : StoreAction α → Store α × Option (Change α)
  | .upsert a => ((s.upsert a).store, (s.upsert a).change)
  | .remove key => ((s.remove key).store, (s.remove key).change)
  | .call c => ((s.perform c).store, (s.perform c).change)
  | .failLists n => ({ s with failingLists := n }, none)
  | .failUpdates n => ({ s with failingUpdates := n }, none)
  | .delay ms => ({ s with latency := ms }, none)

/-- Whether every resource is stored under its own key. -/
def IsKeyed (s : Store α) : Prop := ∀ key a, s.get? key = some a → Resource.key a = key

/-- Whether an outcome of an action leaves all resources as they are, or tells which one it
changes. -/
def Tells (s s' : Store α) (change : Option (Change α)) : Prop :=
  match change with
  | none => s'.objects = s.objects
  | some c => ∀ key, key ≠ Resource.key c.latest → s'.get? key = s.get? key

theorem isKeyed_empty : IsKeyed (.empty : Store α) := by
  intro key a h
  simp [empty, get?] at h

omit [Resource α] in
theorem get?_eq_of_objects {s s' : Store α} (h : s'.objects = s.objects) (key : ObjectKey) :
    s'.get? key = s.get? key := by
  unfold get?
  rw [h]

theorem isKeyed_of_objects {s s' : Store α} (h : s'.objects = s.objects) (hk : s.IsKeyed) :
    s'.IsKeyed := by
  intro key a ha
  exact hk key a (get?_eq_of_objects h key ▸ ha)

theorem isKeyed_write (hk : s.IsKeyed) (a : α) : (s.write a).IsKeyed := by
  intro key b hb
  rw [get?_write] at hb
  split at hb
  · rename_i he
    obtain rfl := Option.some.inj hb
    rw [Std.LawfulEqOrd.eq_of_compare he]
    exact Resource.key_stamped a _
  · exact hk key b hb

theorem isKeyed_discard (hk : s.IsKeyed) (key : ObjectKey) : (s.discard key).IsKeyed := by
  intro key' b hb
  rw [get?_discard] at hb
  split at hb
  · cases hb
  · exact hk key' b hb

theorem get?_write_of_ne (s : Store α) (a : α) {key : ObjectKey} (h : key ≠ Resource.key a) :
    (s.write a).get? key = s.get? key := by
  rw [get?_write, if_neg fun he => h (Std.LawfulEqOrd.eq_of_compare he)]

omit [Resource α] in
theorem get?_discard_of_ne {key key' : ObjectKey} (h : key' ≠ key) :
    (s.discard key).get? key' = s.get? key' := by
  rw [get?_discard, if_neg fun he => h (Std.LawfulEqOrd.eq_of_compare he).symm]

omit [Resource α] in
theorem objects_discard_of_none {key : ObjectKey} (h : s.get? key = none) :
    (s.discard key).objects = s.objects := by
  refine SortedMap.ext_get? fun key' => ?_
  show (s.discard key).get? key' = s.get? key'
  rw [get?_discard]
  split
  · rename_i he
    rw [← Std.LawfulEqOrd.eq_of_compare he, h]
  · rfl

theorem tells_create (s : Store α) (a : α) : s.Tells (s.create a).store (s.create a).change := by
  unfold create
  split
  · rfl
  · intro key hkey
    exact get?_write_of_ne _ a (by simpa [Change.latest, next] using hkey)

theorem tells_update (s : Store α) (a : α) : s.Tells (s.update a).store (s.update a).change := by
  unfold update
  split
  · rfl
  · split
    · rfl
    · split
      · intro key hkey
        exact get?_write_of_ne _ a (by simpa [Change.latest, next] using hkey)
      · rfl

theorem tells_delete (hk : s.IsKeyed) (key : ObjectKey) :
    s.Tells (s.delete key).store (s.delete key).change := by
  unfold delete
  split
  · rfl
  · rename_i old hold
    intro key' hkey
    refine get?_discard_of_ne (s := s.countWrite) ?_
    rwa [← hk key old hold]

theorem tells_upsert (s : Store α) (a : α) : s.Tells (s.upsert a).store (s.upsert a).change := by
  intro key hkey
  refine get?_write_of_ne s a ?_
  cases h : s.get? (Resource.key a) <;> simpa [h, Change.latest, next] using hkey

theorem tells_remove (hk : s.IsKeyed) (key : ObjectKey) :
    s.Tells (s.remove key).store (s.remove key).change := by
  unfold remove
  cases h : s.get? key with
  | none => exact objects_discard_of_none h
  | some old =>
    intro key' hkey
    refine get?_discard_of_ne ?_
    rwa [← hk key old h]

/-- A listing answers all that is stored or fails, and changes nothing. -/
theorem readAll_none (s : Store α) : ∃ s' reply, s.readAll none = ⟨s', reply, none⟩
    ∧ s'.objects = s.objects
    ∧ (reply = .ok s.list ∨ s.failingLists ≠ 0 ∧ ∃ e, reply = .error e) := by
  cases h : s.failingLists with
  | zero => exact ⟨s.countRead, .ok s.list, by simp [readAll, h], rfl, .inl rfl⟩
  | succ n =>
    exact ⟨{ s.countRead with failingLists := n }, .error (.backend "injected list failure"),
      by simp [readAll, h], rfl, .inr ⟨by simp, _, rfl⟩⟩

/-- No action changes a resource without telling. -/
theorem tells_act (hk : s.IsKeyed) (a : StoreAction α) : s.Tells (s.act a).1 (s.act a).2 := by
  cases a with
  | upsert a => exact s.tells_upsert a
  | remove key => exact tells_remove hk key
  | call c =>
    cases c with
    | get key => rfl
    | list space =>
      show s.Tells (s.readAll space).store (s.readAll space).change
      rw [show (s.readAll space).change = none by unfold readAll; split <;> rfl]
      exact s.objects_readAll space
    | create a => exact s.tells_create a
    | update a => exact s.tells_update a
    | delete key => exact tells_delete hk key
  | failLists n => rfl
  | failUpdates n => rfl
  | delay ms => rfl

/-- What is preserved by writes and discards is preserved by every action. -/
theorem act_preserves {P : Store α → Prop}
    (hsame : ∀ s s' : Store α, s'.objects = s.objects → s'.version = s.version → P s → P s')
    (hwrite : ∀ (s : Store α) (a : α), P s → P (s.write a))
    (hdiscard : ∀ (s : Store α) (key : ObjectKey), P s → P (s.discard key)) (h : P s)
    (a : StoreAction α) : P (s.act a).1 := by
  have hcount : P s.countWrite := hsame s _ rfl rfl h
  cases a with
  | upsert a => exact hwrite s a h
  | remove key => exact hdiscard s key h
  | call c =>
    cases c with
    | get key => exact hsame s _ rfl rfl h
    | list space =>
      have hversion : (s.readAll space).store.version = s.version := by
        unfold readAll
        split <;> rfl
      exact hsame s _ (s.objects_readAll space) hversion h
    | create a =>
      change P (s.create a).store
      unfold create
      split
      · exact hcount
      · exact hwrite _ a hcount
    | update a =>
      change P (s.update a).store
      unfold update
      split
      · exact hsame s _ rfl rfl h
      · split
        · exact hcount
        · split
          · exact hwrite _ a hcount
          · exact hcount
    | delete key =>
      change P (s.delete key).store
      unfold delete
      split
      · exact hcount
      · exact hdiscard _ key hcount
  | failLists n => exact hsame s _ rfl rfl h
  | failUpdates n => exact hsame s _ rfl rfl h
  | delay ms => exact hsame s _ rfl rfl h

theorem isKeyed_act (hk : s.IsKeyed) (a : StoreAction α) : (s.act a).1.IsKeyed :=
  act_preserves (fun _ _ ho _ hk => isKeyed_of_objects ho hk) (fun _ a hk => isKeyed_write hk a)
    (fun _ key hk => isKeyed_discard hk key) hk a

/-! ## Versions -/

/-- Whether every resource has the version of a write that has been. -/
def IsStamped (s : Store α) : Prop :=
  ∀ key a, s.get? key = some a → ∃ n ≤ s.version, Resource.version? a = some (toString n)

theorem eq_of_toString_eq {m n : Nat} (h : toString m = toString n) : m = n := by
  have hdigits : Nat.toDigits 10 m = Nat.toDigits 10 n := by
    rw [← Nat.toList_repr, ← Nat.toList_repr]
    exact congrArg String.toList h
  have hvalue := congrArg (Nat.ofDigitChars 10 · 0) hdigits
  simpa [Nat.ofDigitChars_toDigits] using hvalue

/-- Whether what is new in a store is newer than all versions of before. -/
structure Evolves (s s' : Store α) : Prop where
  version_le : s.version ≤ s'.version
  old_or_newer : ∀ key a, s'.get? key = some a → s.get? key = some a
    ∨ ∃ n, s.version < n ∧ Resource.version? a = some (toString n)

theorem isStamped_act (hs : s.IsStamped) (a : StoreAction α) : (s.act a).1.IsStamped := by
  refine act_preserves ?_ ?_ ?_ hs a
  · intro s s' ho hv hs key a ha
    rw [get?_eq_of_objects ho] at ha
    rw [hv]
    exact hs key a ha
  · intro s a hs key b hb
    rw [get?_write] at hb
    split at hb
    · obtain rfl := Option.some.inj hb
      exact ⟨s.version + 1, Nat.le_refl _, Resource.version?_stamped a _⟩
    · obtain ⟨n, hn, hb⟩ := hs key b hb
      exact ⟨n, Nat.le_succ_of_le hn, hb⟩
  · intro s key hs key' b hb
    rw [get?_discard] at hb
    split at hb
    · cases hb
    · exact hs key' b hb

theorem evolves_act (s : Store α) (a : StoreAction α) : s.Evolves (s.act a).1 := by
  have hrefl : s.Evolves s := ⟨Nat.le_refl _, fun _ _ ha => .inl ha⟩
  refine act_preserves ?_ ?_ ?_ hrefl a
  · intro s₁ s₂ ho hv h
    refine ⟨hv ▸ h.version_le, fun key a ha => ?_⟩
    rw [get?_eq_of_objects ho] at ha
    exact h.old_or_newer key a ha
  · intro s₁ a h
    refine ⟨Nat.le_succ_of_le h.version_le, fun key b hb => ?_⟩
    rw [get?_write] at hb
    split at hb
    · obtain rfl := Option.some.inj hb
      exact .inr ⟨s₁.version + 1, Nat.lt_succ_of_le h.version_le, Resource.version?_stamped a _⟩
    · exact h.old_or_newer key b hb
  · intro s₁ key h
    refine ⟨h.version_le, fun key' b hb => ?_⟩
    rw [get?_discard] at hb
    split at hb
    · cases hb
    · exact h.old_or_newer key' b hb

/-- Whether a resource has been read at a place, and is still what is stored there under its
version. -/
structure Remembers (s : Store α) (key : ObjectKey) (a : α) : Prop where
  key_eq : Resource.key a = key
  version : ∃ n ≤ s.version, Resource.version? a = some (toString n)
  eq_of_version_eq : ∀ b, s.get? key = some b → Resource.version? b = Resource.version? a → b = a

theorem remembers_of_get? (hk : s.IsKeyed) (hs : s.IsStamped) {key : ObjectKey} {a : α}
    (h : s.get? key = some a) : s.Remembers key a where
  key_eq := hk key a h
  version := hs key a h
  eq_of_version_eq _ hb _ := Option.some.inj (hb.symm.trans h)

theorem Remembers.of_evolves {t : Store α} {key : ObjectKey} {a : α} (h : s.Remembers key a)
    (he : s.Evolves t) : t.Remembers key a where
  key_eq := h.key_eq
  version := by
    obtain ⟨n, hn, hversion⟩ := h.version
    exact ⟨n, Nat.le_trans hn he.version_le, hversion⟩
  eq_of_version_eq b hb hversion := by
    rcases he.old_or_newer _ b hb with hold | ⟨n, hn, hnew⟩
    · exact h.eq_of_version_eq b hold hversion
    · -- a version is given once
      obtain ⟨m, hm, ha⟩ := h.version
      rw [hnew, ha] at hversion
      have hnm : n = m := eq_of_toString_eq (Option.some.inj hversion)
      omega

/-- The store after some actions, empty at first. -/
def after (as : List (StoreAction α)) : Store α := as.foldl (fun s a => (s.act a).1) .empty

theorem after_induction {P : Store α → Prop} (hempty : P .empty)
    (hact : ∀ s a, P s → P (s.act a).1) (as : List (StoreAction α)) : P (after as) := by
  have hrun : ∀ s, P s → P (as.foldl (fun s a => (s.act a).1) s) := by
    induction as with
    | nil => exact fun s hs => hs
    | cons a as ih => exact fun s hs => ih _ (hact s a hs)
  exact hrun _ hempty

theorem isKeyed_after (as : List (StoreAction α)) : (after as).IsKeyed :=
  after_induction isKeyed_empty (fun _ a hs => isKeyed_act hs a) as

theorem isStamped_after (as : List (StoreAction α)) : (after as).IsStamped := by
  have hempty : IsStamped (.empty : Store α) := by
    intro key a ha
    simp [empty, get?] at ha
  exact after_induction hempty (fun _ a hs => isStamped_act hs a) as

/-! ## Scripts that run alone -/

/-- How a store answers a script that runs alone. -/
def answer (s : Store α) (call : StoreCall α) : call.Reply × Store α :=
  ((s.perform call).reply, (s.perform call).store)

theorem isKeyed_run {ρ : Type} (script : Script (@StoreCall.Reply α) ρ) (h : s.IsKeyed) :
    (script.run answer s).2.IsKeyed := by
  induction script generalizing s with
  | done r => exact h
  | call call next ih => exact ih _ (isKeyed_act h (.call call))

theorem isStamped_run {ρ : Type} (script : Script (@StoreCall.Reply α) ρ) (h : s.IsStamped) :
    (script.run answer s).2.IsStamped := by
  induction script generalizing s with
  | done r => exact h
  | call call next ih => exact ih _ (isStamped_act h (.call call))

/-- Whether a store refuses no update but for its version. -/
structure IsCalm (s : Store α) : Prop where
  isKeyed : s.IsKeyed
  failingUpdates : s.failingUpdates = 0

theorem IsCalm.perform (h : s.IsCalm) (call : StoreCall α) : (s.perform call).store.IsCalm where
  isKeyed := isKeyed_act h.isKeyed (.call call)
  failingUpdates := by
    have hzero := h.failingUpdates
    cases call with
    | get key => exact hzero
    | list space =>
      change (s.readAll space).store.failingUpdates = 0
      unfold readAll
      split <;> exact hzero
    | create a =>
      change (s.create a).store.failingUpdates = 0
      unfold create
      split <;> exact hzero
    | update a =>
      change (s.update a).store.failingUpdates = 0
      unfold update
      rw [hzero]
      dsimp only
      split
      · exact hzero
      · split <;> exact hzero
    | delete key =>
      change (s.delete key).store.failingUpdates = 0
      unfold delete
      split <;> exact hzero

theorem IsCalm.run {ρ : Type} (script : Script (@StoreCall.Reply α) ρ) (h : s.IsCalm) :
    (script.run answer s).2.IsCalm := by
  induction script generalizing s with
  | done r => exact h
  | call call next ih => exact ih _ (h.perform call)

/-- A store stays calm when scripts run at it one after another. -/
theorem IsCalm.foldl_run {ι ρ : Type} (scripts : ι → Script (@StoreCall.Reply α) ρ)
    (h : s.IsCalm) (order : List ι) :
    (order.foldl (fun s i => ((scripts i).run answer s).2) s).IsCalm := by
  induction order generalizing s with
  | nil => exact h
  | cons i order ih => exact ih (h.run _)

end Store

end RuleCatalog
