import RuleCatalog.Proofs.Store

/-! # The history of a store

Those who listen from the start see every change. Replaying what they have seen gives what is
stored, and no two writes have one version, so that whoever has read a resource can write it back
only as long as nobody has changed it. Main statement: `fresh_versions_and_complete_changes`. -/
namespace RuleCatalog
variable {α : Type} [Resource α]

namespace Change

def key (c : Change α) : ObjectKey := Resource.key c.latest

omit [Resource α] in
/-- What was stored before. -/
def old? : Change α → Option α
  | added _ => none
  | updated old _ | deleted old => some old

omit [Resource α] in
/-- What a change has written. -/
def written? : Change α → Option α
  | added new | updated _ new => some new
  | deleted _ => none

/-- What is stored after a change. -/
def apply (m : SortedMap ObjectKey α) (c : Change α) : SortedMap ObjectKey α :=
  match c.written? with
  | some new => m.insert (Resource.key new) new
  | none => m.erase c.key

/-- What is stored after some changes, nothing at first. -/
def replay (cs : List (Change α)) : SortedMap ObjectKey α := cs.foldl apply ∅

end Change

namespace Store
variable {s s' : Store α} {key : ObjectKey}

@[simp] theorem key_next (s : Store α) (a : α) : Resource.key (s.next a) = Resource.key a :=
  Resource.key_stamped a _

/-! ## What an action can do -/

/-- The outcomes of an action, with the change that is made known. -/
inductive Step (s s' : Store α) : Option (Change α) → Prop
  | same (objects : s'.objects = s.objects) (version : s'.version = s.version) : Step s s' none
  | written (a : α) (objects : s'.objects = (s.write a).objects)
      (version : s'.version = s.version + 1) (c : Change α) (new : c.written? = some (s.next a))
      (latest : c.latest = s.next a) (old : c.old? = s.get? (Resource.key a)) : Step s s' (some c)
  | deleted (old : α) (stored : s.get? (Resource.key old) = some old)
      (objects : s'.objects = (s.discard (Resource.key old)).objects)
      (version : s'.version = s.version) : Step s s' (some (.deleted old))

theorem Step.added {a : α} (h : s.get? (Resource.key a) = none)
    (objects : s'.objects = (s.write a).objects) (version : s'.version = s.version + 1) :
    s.Step s' (some (.added (s.next a))) :=
  .written a objects version _ rfl rfl h.symm

theorem Step.updated {a old : α} (h : s.get? (Resource.key a) = some old)
    (objects : s'.objects = (s.write a).objects) (version : s'.version = s.version + 1) :
    s.Step s' (some (.updated old (s.next a))) :=
  .written a objects version _ rfl rfl h.symm

theorem step_upsert (s : Store α) (a : α) : s.Step (s.upsert a).store (s.upsert a).change := by
  unfold upsert
  cases h : s.get? (Resource.key a) with
  | none => exact .added h rfl rfl
  | some old => exact .updated h rfl rfl

theorem step_remove (hk : s.IsKeyed) (key : ObjectKey) :
    s.Step (s.remove key).store (s.remove key).change := by
  unfold remove
  cases h : s.get? key with
  | none => exact .same (objects_discard_of_none h) rfl
  | some old =>
    obtain rfl := hk key old h
    exact .deleted old h rfl rfl

theorem step_create (s : Store α) (a : α) : s.Step (s.create a).store (s.create a).change := by
  unfold create
  split
  · exact .same rfl rfl
  · rename_i hfree
    have hnone : s.get? (Resource.key a) = none := by
      simpa [SortedMap.contains, get?] using hfree
    exact .added hnone rfl rfl

theorem step_update (s : Store α) (a : α) : s.Step (s.update a).store (s.update a).change := by
  unfold update
  split
  · exact .same rfl rfl
  · split
    · exact .same rfl rfl
    · split
      · rename_i old hold _
        exact .updated hold rfl rfl
      · exact .same rfl rfl

theorem step_delete (hk : s.IsKeyed) (key : ObjectKey) :
    s.Step (s.delete key).store (s.delete key).change := by
  unfold delete
  split
  · exact .same rfl rfl
  · rename_i old hold
    obtain rfl := hk key old hold
    exact .deleted old hold rfl rfl

theorem step_act (hk : s.IsKeyed) (a : StoreAction α) : s.Step (s.act a).1 (s.act a).2 := by
  cases a with
  | upsert a => exact s.step_upsert a
  | remove key => exact step_remove hk key
  | call c =>
    cases c with
    | get key => exact .same rfl rfl
    | list space =>
      show s.Step (s.readAll space).store (s.readAll space).change
      unfold readAll
      split <;> exact .same rfl rfl
    | create a => exact s.step_create a
    | update a => exact s.step_update a
    | delete key => exact step_delete hk key
  | failLists n => exact .same rfl rfl
  | failUpdates n => exact .same rfl rfl
  | delay ms => exact .same rfl rfl

/-! ## What follows for one action -/

/-- A listener who has what is stored before an action has what is stored after it. -/
theorem Step.objects_eq {c : Option (Change α)} (h : s.Step s' c) :
    s'.objects = c.toList.foldl Change.apply s.objects := by
  cases h with
  | same objects => exact objects
  | written a objects version c new latest old =>
    rw [objects, Option.toList_some, List.foldl_cons, List.foldl_nil, Change.apply, new]
    show s.objects.insert (Resource.key a) (s.next a) = s.objects.insert _ (s.next a)
    rw [key_next]
  | deleted old stored objects => exact objects

theorem Step.old?_eq {c : Change α} (h : s.Step s' (some c)) : c.old? = s.get? c.key := by
  cases h with
  | written a objects version _ new latest old =>
    rw [old, Change.key, latest, key_next]
  | deleted old stored => exact stored.symm

theorem Step.version_le {c : Option (Change α)} (h : s.Step s' c) : s.version ≤ s'.version := by
  cases h <;> omega

/-- A write has the next version. -/
theorem Step.version?_written {c : Option (Change α)} (h : s.Step s' c) :
    (c.toList.filterMap Change.written?).map Resource.version?
        = (List.range' (s.version + 1) (c.toList.filterMap Change.written?).length).map
          (fun n => some (toString n))
      ∧ s'.version = s.version + (c.toList.filterMap Change.written?).length := by
  cases h with
  | same objects version => exact ⟨rfl, version⟩
  | written a objects version c new latest old =>
    rw [Option.toList_some, List.filterMap_cons, new]
    exact ⟨congrArg ([·]) (Resource.version?_stamped a _), version⟩
  | deleted old stored objects version => exact ⟨rfl, version⟩

/-- A place without a change stays as it is. -/
theorem Step.get?_of_ne {c : Option (Change α)} (h : s.Step s' c)
    (hc : ∀ c' ∈ c.toList, c'.key ≠ key) : s'.get? key = s.get? key := by
  cases h with
  | same objects => exact get?_eq_of_objects objects key
  | written a objects version c new latest old =>
    have hne : key ≠ Resource.key a := by
      have hkey := hc c (by simp)
      rw [Change.key, latest, key_next] at hkey
      exact hkey.symm
    rw [get?_eq_of_objects objects, get?_write_of_ne s a hne]
  | deleted old stored objects =>
    have hne : key ≠ Resource.key old := (hc (.deleted old) (by simp)).symm
    rw [get?_eq_of_objects objects, get?_discard_of_ne hne]

/-- What is stored where a change has been is newer than the store was. -/
theorem Step.version?_of_eq {c : Change α} (h : s.Step s' (some c)) (hc : c.key = key) {b : α}
    (hb : s'.get? key = some b) :
    s.version < s'.version ∧ Resource.version? b = some (toString s'.version) := by
  cases h with
  | written a objects version _ new latest old =>
    obtain rfl : Resource.key a = key := by
      rw [← hc, Change.key, latest, key_next]
    rw [get?_eq_of_objects objects, get?_write, if_pos Std.ReflCmp.compare_self] at hb
    obtain rfl := Option.some.inj hb
    rw [version]
    exact ⟨Nat.lt_succ_self _, Resource.version?_stamped a _⟩
  | deleted old stored objects =>
    subst hc
    rw [get?_eq_of_objects objects, get?_discard, Change.key, Change.latest,
      if_pos Std.ReflCmp.compare_self] at hb
    cases hb

/-- What is stored after an action was there before, or it is what the action has written. -/
theorem Step.old_or_new {c : Option (Change α)} (h : s.Step s' c) {b : α}
    (hb : s'.get? key = some b) :
    s.get? key = some b
      ∨ ∃ c' ∈ c, c'.key = key ∧ s.version < s'.version
        ∧ Resource.version? b = some (toString s'.version) := by
  by_cases hc : ∃ c' ∈ c, c'.key = key
  · obtain ⟨c', rfl, hkey⟩ := hc
    exact .inr ⟨c', rfl, hkey, h.version?_of_eq hkey hb⟩
  · refine .inl ((h.get?_of_ne fun c' hc' hkey => hc ⟨c', ?_, hkey⟩).symm.trans hb)
    exact Option.mem_toList.1 hc'

/-- Whether different places have different versions. -/
def HasOwnVersions (s : Store α) : Prop :=
  ∀ key key' a a', s.get? key = some a → s.get? key' = some a' →
    Resource.version? a = Resource.version? a' → key = key'

theorem version?_ne_of_isStamped (hs : s.IsStamped) {a : α} (ha : s.get? key = some a) {n : Nat}
    (hn : s.version < n) : Resource.version? a ≠ some (toString n) := by
  obtain ⟨m, hm, hversion⟩ := hs key a ha
  rw [hversion]
  intro he
  have hmn : m = n := eq_of_toString_eq (Option.some.inj he)
  omega

theorem Step.hasOwnVersions {c : Option (Change α)} (h : s.Step s' c) (hs : s.IsStamped)
    (hd : s.HasOwnVersions) : s'.HasOwnVersions := by
  intro key key' a a' ha ha' hv
  rcases h.old_or_new ha, h.old_or_new ha' with
    ⟨hold | ⟨c₁, hc₁, rfl, hlt, hnew⟩, hold' | ⟨c₂, hc₂, rfl, hlt', hnew'⟩⟩
  · exact hd key key' a a' hold hold' hv
  · exact absurd (hv.trans hnew') (version?_ne_of_isStamped hs hold hlt')
  · exact absurd (hv.symm.trans hnew) (version?_ne_of_isStamped hs hold' hlt)
  · rw [Option.mem_unique hc₁ hc₂]

/-! ## What follows for all actions -/

/-- A store after some actions. -/
def run (s : Store α) (as : List (StoreAction α)) : Store α := as.foldl (fun s a => (s.act a).1) s

/-- What listeners see of some actions. -/
def changes (s : Store α) : List (StoreAction α) → List (Change α)
  | [] => []
  | a :: as => (s.act a).2.toList ++ (s.act a).1.changes as

theorem hasOwnVersions_after (as : List (StoreAction α)) : (after as).HasOwnVersions := by
  have hempty : (Store.empty : Store α).HasOwnVersions := by
    intro key key' a a' ha
    simp [empty, get?] at ha
  have hstep : ∀ (s : Store α) a, s.IsKeyed ∧ s.IsStamped ∧ s.HasOwnVersions →
      (s.act a).1.IsKeyed ∧ (s.act a).1.IsStamped ∧ (s.act a).1.HasOwnVersions := by
    rintro s a ⟨hk, hs, hd⟩
    exact ⟨isKeyed_act hk a, isStamped_act hs a, (step_act hk a).hasOwnVersions hs hd⟩
  exact (after_induction ⟨isKeyed_empty, isStamped_after [], hempty⟩ hstep as).2.2

theorem objects_run (hk : s.IsKeyed) (as : List (StoreAction α)) :
    (s.run as).objects = (s.changes as).foldl Change.apply s.objects := by
  induction as generalizing s with
  | nil => rfl
  | cons a as ih =>
    rw [changes, List.foldl_append, ← (step_act hk a).objects_eq]
    exact ih (isKeyed_act hk a)

/-- The writes are numbered by their versions. -/
theorem version?_written (hk : s.IsKeyed) (as : List (StoreAction α)) :
    ((s.changes as).filterMap Change.written?).map Resource.version?
      = (List.range' (s.version + 1) ((s.changes as).filterMap Change.written?).length).map
        fun n => some (toString n) := by
  induction as generalizing s with
  | nil => rfl
  | cons a as ih =>
    obtain ⟨hhead, hversion⟩ := (step_act hk a).version?_written
    have hstart : (s.act a).1.version + 1
        = s.version + 1 + ((s.act a).2.toList.filterMap Change.written?).length := by omega
    rw [changes, List.filterMap_append, List.map_append, hhead, ih (isKeyed_act hk a), hstart,
      List.length_append, ← List.map_append, List.range'_append_1]

theorem get?_run_of_ne (hk : s.IsKeyed) {as : List (StoreAction α)}
    (h : ∀ c ∈ s.changes as, c.key ≠ key) : (s.run as).get? key = s.get? key := by
  induction as generalizing s with
  | nil => rfl
  | cons a as ih =>
    have hhead := (step_act hk a).get?_of_ne fun c hc => h c (List.mem_append_left _ hc)
    have htail := ih (isKeyed_act hk a) fun c hc => h c (List.mem_append_right _ hc)
    exact htail.trans hhead

/-- What is stored where there has been a change is newer than all that was stored before. -/
theorem version?_run_of_mem (hk : s.IsKeyed) {as : List (StoreAction α)}
    (h : ∃ c ∈ s.changes as, c.key = key) {b : α} (hb : (s.run as).get? key = some b) :
    ∃ n, s.version < n ∧ Resource.version? b = some (toString n) := by
  induction as generalizing s with
  | nil =>
    obtain ⟨c, hc, -⟩ := h
    cases hc
  | cons a as ih =>
    have hk' := isKeyed_act hk a
    by_cases htail : ∃ c ∈ (s.act a).1.changes as, c.key = key
    · obtain ⟨n, hn, hversion⟩ := ih hk' htail hb
      exact ⟨n, Nat.lt_of_le_of_lt (step_act hk a).version_le hn, hversion⟩
    · have hsame : (s.act a).1.get? key = some b := by
        rw [← get?_run_of_ne hk' fun c hc hkey => htail ⟨c, hc, hkey⟩]
        exact hb
      obtain ⟨c, hc, hkey⟩ := h
      have hhead : (s.act a).2 = some c := by
        rcases List.mem_append.1 hc with hc | hc
        · exact Option.mem_toList.1 hc
        · exact absurd ⟨c, hc, hkey⟩ htail
      have hstep := step_act hk a
      rw [hhead] at hstep
      exact ⟨_, hstep.version?_of_eq hkey hsame⟩

/-! ## Writing back what has been read -/

theorem failingUpdates_eq_zero_of_update {a b : α} (h : (s.update a).reply = .ok b) :
    s.failingUpdates = 0 := by
  unfold update at h
  split at h
  · cases h
  · assumption

theorem update_eq_ok_iff (s : Store α) (a : α) :
    (∃ b, (s.update a).reply = .ok b) ↔ s.failingUpdates = 0
      ∧ ∃ old, s.get? (Resource.key a) = some old
        ∧ Resource.version? old = Resource.version? a := by
  constructor
  · rintro ⟨b, hb⟩
    exact ⟨failingUpdates_eq_zero_of_update hb, (version_update hb).2.2⟩
  · rintro ⟨hcalm, old, hold, hversion⟩
    refine ⟨s.next a, ?_⟩
    simp [update, hcalm, hold, hversion]

theorem mem_list_iff (hk : s.IsKeyed) {a : α} :
    a ∈ s.list ↔ s.get? (Resource.key a) = some a := by
  constructor
  · intro ha
    obtain ⟨⟨key, b⟩, hb, rfl⟩ := List.mem_map.1 ha
    have hget : s.get? key = some b := SortedMap.get?_eq_some_iff.2 hb
    rwa [hk key b hget]
  · intro ha
    exact List.mem_map_of_mem (f := Prod.snd) (SortedMap.get?_eq_some_iff.1 ha)

/-- What has been read can be written back exactly as long as its place has not changed. -/
theorem update_run_eq_ok_iff (hk : s.IsKeyed) (hs : s.IsStamped) {a a' : α}
    (ha : s.get? (Resource.key a) = some a) (hkey : Resource.key a' = Resource.key a)
    (hversion : Resource.version? a' = Resource.version? a) (as : List (StoreAction α)) :
    (∃ b, ((s.run as).update a').reply = .ok b)
      ↔ (s.run as).failingUpdates = 0 ∧ ∀ c ∈ s.changes as, c.key ≠ Resource.key a := by
  rw [update_eq_ok_iff, hkey, hversion]
  refine and_congr_right fun _ => ⟨?_, fun h => ⟨a, (get?_run_of_ne hk h).trans ha, rfl⟩⟩
  rintro ⟨b, hb, hsame⟩ c hc hck
  obtain ⟨n, hn, hnew⟩ := version?_run_of_mem hk ⟨c, hc, hck⟩ hb
  exact version?_ne_of_isStamped hs ha hn (hsame.symm.trans hnew)

/-- In every history, no two stored resources have one version, the versions of the writes
increase, what has been read can be written back exactly as long as its place has not changed, and
what listeners have seen is what is stored, with what was stored before in every change. -/
theorem fresh_versions_and_complete_changes (as : List (StoreAction α)) :
    (after as).HasOwnVersions
    ∧ (∃ ns : List Nat, ((changes .empty as).filterMap Change.written?).map Resource.version?
        = ns.map (fun n => some (toString n)) ∧ ns.Pairwise (· < ·))
    ∧ (∀ a ∈ (after as).list, ∀ a', Resource.key a' = Resource.key a →
        Resource.version? a' = Resource.version? a → ∀ bs,
          (∃ b, ((after (as ++ bs)).update a').reply = .ok b)
            ↔ (after (as ++ bs)).failingUpdates = 0
              ∧ ∀ c ∈ (after as).changes bs, c.key ≠ Resource.key a)
    ∧ Change.replay (changes .empty as) = (after as).objects
    ∧ ∀ action c, ((after as).act action).2 = some c → c.old? = (after as).get? c.key := by
  refine ⟨hasOwnVersions_after as, ⟨_, version?_written isKeyed_empty as, ?_⟩, ?_, ?_, ?_⟩
  · exact List.pairwise_lt_range'
  · intro a ha a' hkey hversion bs
    have hafter : after (as ++ bs) = (after as).run bs := List.foldl_append
    rw [hafter]
    exact update_run_eq_ok_iff (isKeyed_after as) (isStamped_after as)
      ((mem_list_iff (isKeyed_after as)).1 ha) hkey hversion bs
  · exact (objects_run isKeyed_empty as).symm
  · intro action c hc
    have hstep := step_act (isKeyed_after as) action
    rw [hc] at hstep
    exact hstep.old?_eq

end Store

end RuleCatalog
