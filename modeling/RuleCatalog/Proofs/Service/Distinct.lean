import RuleCatalog.Proofs.Rule.Group
import RuleCatalog.Proofs.Service.Outcome

/-! # Rules that are kept apart

Requests for the rules of users and syncs, in any order, on a catalog that may be out of date. A
rule is added to a resource only if the resource does not have its identity, but a rule takes the
place of another one if the catalog does not have its identity; the resource may.
Main statement: `isDistinct_after_iff`, that all resources keep their rules apart exactly as long as
no rule is put into a resource that has it. -/
namespace RuleCatalog

namespace Store
variable {ρ : Type} {s t : Store RuleResource} {key : ObjectKey}
  {f : Option RuleResource → Amendment RuleResource ρ}

/-- Whether no resource has two rules with the same identity. -/
def IsDistinct (s : Store RuleResource) : Prop := ∀ key r, s.get? key = some r → r.IsDistinct

theorem isDistinct_iff_list : s.IsDistinct ↔ ∀ r ∈ s.list, r.IsDistinct := by
  simp only [IsDistinct, get?, list, SortedMap.values, List.mem_map, SortedMap.get?_eq_some_iff]
  constructor
  · rintro h _ ⟨p, hp, rfl⟩
    exact h p.1 p.2 hp
  · exact fun h key r hr => h r ⟨(key, r), hr, rfl⟩

instance (s : Store RuleResource) : Decidable s.IsDistinct :=
  decidable_of_iff _ isDistinct_iff_list.symm

theorem IsDistinct.of_content (h : s.IsDistinct) (hcontent : t.content = s.content) :
    t.IsDistinct := fun key r hr => h key r (get?_eq_of_content hcontent key ▸ hr)

theorem get?_write_self (s : Store RuleResource) (a : RuleResource) :
    (s.write a).get? (Resource.key a) = some (s.next a) := by
  rw [get?_write, if_pos Std.ReflCmp.compare_self]

/-- What is written has a version that nothing has had. -/
theorem get?_write_ne (hs : s.IsStamped) (a : RuleResource) {r : RuleResource}
    (hr : s.get? (Resource.key a) = some r) : (s.write a).get? (Resource.key a) ≠ some r := by
  rw [get?_write_self]
  rintro hsame
  obtain ⟨n, hn, hversion⟩ := hs _ r hr
  rw [← Option.some.inj hsame, next, Resource.version?_stamped] at hversion
  have := eq_of_toString_eq (Option.some.inj hversion)
  omega

theorem isDistinct_write_iff (h : s.IsDistinct) (a : RuleResource) :
    (s.write a).IsDistinct ↔ a.IsDistinct := by
  constructor
  · -- the stamp is no rule
    intro hwrite
    exact hwrite _ (s.next a) (s.get?_write_self a)
  · intro ha key r hr
    rw [get?_write] at hr
    split at hr
    · obtain rfl := Option.some.inj hr
      exact ha
    · exact h key r hr

theorem IsDistinct.amended {m : Amendment RuleResource ρ} (h : s.IsDistinct)
    (hm : ∀ a, m.resource? = some a → a.IsDistinct) : (s.amended m).IsDistinct := by
  unfold Store.amended
  cases ha : m.resource? with
  | none => exact h
  | some a => exact (isDistinct_write_iff h a).2 (hm a ha)

/-- A request that amends a resource keeps all rules apart if its amendment does. -/
theorem IsDistinct.run_within_amend (h : s.IsDistinct) (hs : s.IsMade) (hplan : IsPlan key f)
    (hm : ∀ a, (f (s.get? key)).resource? = some a → a.IsDistinct) (attempts : Nat)
    (operation : String) (limit : Option Nat) :
    ((Script.within limit (StoreRequest.amend attempts operation key f)).run answer
      s).2.IsDistinct := by
  rcases StoreRequest.content_run_within_amend hs.isKeyed hs.isStamped hplan attempts operation
    limit with hkept | happlied
  · exact h.of_content hkept
  · exact (h.amended hm).of_content happlied

end Store

theorem Script.run_within_done {ρ σ Call : Type} {Reply : Call → Type}
    (answer : σ → (c : Call) → Reply c × σ) (limit : Option Nat) (r : ρ) (s : σ) :
    ((Script.within limit (.done r : Script Reply ρ)).run answer s).2 = s := by
  rcases limit with _ | _ | n <;> rfl

/-! ## One request -/

namespace RuleRequest
variable {c : Config} {catalog : Catalog} {s s' : Store RuleResource} {key : ObjectKey}
  {group : String} {rule : Rule} {id : Identity} {limit : Option Nat}

theorem isDistinct_addition (h : s.IsDistinct) {result : Identity} {a : RuleResource}
    (ha : (addition key group rule result (s.get? key)).resource? = some a) : a.IsDistinct := by
  cases hget : s.get? key with
  | none =>
    rw [hget] at ha
    obtain rfl := Option.some.inj ha
    exact (RuleResource.isDistinct_add_iff group).2 ⟨rfl, List.nodup_nil⟩
  | some r =>
    rw [hget] at ha
    unfold addition at ha
    dsimp only at ha
    split at ha
    · cases ha
    · rename_i hnew
      obtain rfl := Option.some.inj ha
      exact (RuleResource.isDistinct_add_iff group).2 ⟨Bool.eq_false_iff.2 hnew, h key r hget⟩

/-- A rule is only added to a resource that does not have it. -/
theorem isDistinct_run_create (h : s.IsDistinct) (hs : s.IsMade) (c : Config) (catalog : Catalog)
    (key : ObjectKey) (group : String) (rule : Rule) (limit : Option Nat) :
    ((Script.within limit (create c catalog key group rule)).run Store.answer s).2.IsDistinct := by
  rcases create_cases c catalog key group rule with ⟨e, he⟩ | ⟨-, -, -, hamend⟩
  · rw [he, Script.run_within_done]
    exact h
  · rw [hamend]
    exact h.run_within_amend hs isPlan_addition (fun a ha => isDistinct_addition h ha) _ _ _

theorem exists_of_resource?_revision {source : ObjectKey} {f : RuleResource → Option RuleResource}
    {ρ : Type} {result : ρ} {found : Option RuleResource} {a : RuleResource}
    (h : (revision source id f result found).resource? = some a) :
    ∃ r, found = some r ∧ f r = some a := by
  unfold revision at h
  split at h
  · cases h
  · split at h
    · cases h
    · rename_i hedited
      obtain rfl := Option.some.inj h
      exact ⟨_, rfl, hedited⟩

theorem isDistinct_run_delete (h : s.IsDistinct) (hs : s.IsMade) (c : Config) (catalog : Catalog)
    (id : Identity) (limit : Option Nat) :
    ((Script.within limit (delete c catalog id)).run Store.answer s).2.IsDistinct := by
  rcases delete_cases c catalog id with ⟨e, he⟩ | ⟨current, -, hamend⟩
  · rw [he, Script.run_within_done]
    exact h
  · rw [hamend]
    refine h.run_within_amend hs (isPlan_revision fun _ _ => RuleResource.metadata_remove?)
      (fun a ha => ?_) _ _ _
    obtain ⟨r, hr, hedited⟩ := exists_of_resource?_revision ha
    exact (h _ r hr).remove? hedited

/-- Whether a rule has taken the place of another one in a resource that had it already, between two
states of the store. -/
def Collides (catalog : Catalog) (id : Identity) (rule : Rule) (s s' : Store RuleResource) : Prop :=
  ∃ current r, userRule catalog id = .ok current ∧ s.get? current.source = some r
    ∧ r.contains (Identity.ofRule rule.withoutSystemLabels) = true
    ∧ s'.get? current.source ≠ some r

theorem not_collides_of_content (h : s'.content = s.content) :
    ¬ Collides catalog id rule s s' := by
  rintro ⟨current, r, -, hr, -, hne⟩
  exact hne ((Store.get?_eq_of_content h _).trans hr)

/-- An update leaves everything as it is, or it writes the resource with the new rule. -/
theorem content_run_update (hs : s.IsMade) (c : Config) (catalog : Catalog) (id : Identity)
    (rule : Rule) (limit : Option Nat) :
    let s' := ((Script.within limit (update c catalog id rule)).run Store.answer s).2
    s'.content = s.content ∨ ∃ current r edited, userRule catalog id = .ok current
      ∧ Identity.ofRule rule.withoutSystemLabels ≠ id ∧ s.get? current.source = some r
      ∧ r.replace? id rule.withoutSystemLabels = some edited
      ∧ s'.content = (s.write edited).content := by
  intro s'
  rcases update_cases c catalog id rule with ⟨e, he⟩ | ⟨-, hdone⟩ | ⟨current, huser, hne, hamend⟩
  · refine .inl ?_
    simp only [s', he, Script.run_within_done]
  · refine .inl ?_
    simp only [s', hdone, Script.run_within_done]
  · have hplan : IsPlan current.source (revision current.source id
        (·.replace? id rule.withoutSystemLabels) (Identity.ofRule rule.withoutSystemLabels)) :=
      isPlan_revision fun _ _ => RuleResource.metadata_replace?
    rcases StoreRequest.content_run_within_amend hs.isKeyed hs.isStamped hplan c.writeAttempts
      "update rule" limit with hkept | happlied
    · rw [← hamend] at hkept
      exact .inl hkept
    · rw [← hamend] at happlied
      unfold Store.amended at happlied
      split at happlied
      · exact .inl happlied
      · rename_i edited hresource
        obtain ⟨r, hr, hedited⟩ := exists_of_resource?_revision hresource
        exact .inr ⟨current, r, edited, huser, hne, hr, hedited, happlied⟩

/-- A rule that takes the place of another one is the only one of its identity unless the resource
has had it. -/
theorem isDistinct_run_update_iff (h : s.IsDistinct) (hs : s.IsMade) (c : Config)
    (catalog : Catalog) (id : Identity) (rule : Rule) (limit : Option Nat) :
    let s' := ((Script.within limit (update c catalog id rule)).run Store.answer s).2
    s'.IsDistinct ↔ ¬ Collides catalog id rule s s' := by
  intro s'
  rcases content_run_update hs c catalog id rule limit with
    hkept | ⟨current, r, edited, huser, hne, hget, hedited, hwrite⟩
  · exact iff_of_true (h.of_content hkept) (not_collides_of_content hkept)
  have hkey : Resource.key edited = current.source :=
    (key_of_replace? hedited).trans (hs.isKeyed _ r hget)
  have hcollides : Collides catalog id rule s s'
      ↔ r.contains (Identity.ofRule rule.withoutSystemLabels) = true := by
    constructor
    · rintro ⟨current', r', huser', hr', hcontains, -⟩
      obtain rfl := Except.ok.inj (huser.symm.trans huser')
      obtain rfl := Option.some.inj (hget.symm.trans hr')
      exact hcontains
    · intro hcontains
      refine ⟨current, r, huser, hget, hcontains, ?_⟩
      rw [Store.get?_eq_of_content hwrite, ← hkey]
      exact Store.get?_write_ne hs.isStamped edited (hkey ▸ hget)
  have hdistinct : s'.IsDistinct ↔ edited.IsDistinct :=
    ⟨fun hs' => (Store.isDistinct_write_iff h edited).1 (hs'.of_content hwrite.symm),
      fun he => ((Store.isDistinct_write_iff h edited).2 he).of_content hwrite⟩
  rw [hdistinct, hcollides, Bool.not_eq_true]
  exact RuleResource.isDistinct_replace?_iff (h _ r hget) hne hedited

end RuleRequest

/-! ## Requests and syncs -/

namespace WorldMove

/-- Whether a move is a request or a sync. -/
def isOwn : WorldMove → Bool
  | others _ => false
  | sync _ | request _ _ => true

/-- Whether a move puts a rule in the place of another one in a resource that has it already. -/
def Collides (w : World) (m : WorldMove) : Prop :=
  ∃ id rule limit, m = .request (.updateRule id rule) limit
    ∧ RuleRequest.Collides w.catalog id rule w.stores.rules.store (w.move m).stores.rules.store

end WorldMove

namespace World

theorem isDistinct_move_iff {w : World} (h : w.stores.rules.store.IsDistinct)
    (hs : w.stores.rules.store.IsMade) {m : WorldMove} (hm : m.isOwn = true) :
    (w.move m).stores.rules.store.IsDistinct ↔ ¬ m.Collides w := by
  have hkept : (w.move m).stores.rules.store.IsDistinct →
      (∀ id rule limit, m ≠ .request (.updateRule id rule) limit) →
      ((w.move m).stores.rules.store.IsDistinct ↔ ¬ m.Collides w) := fun hdistinct hne =>
    iff_of_true hdistinct fun ⟨id, rule, limit, hm, _⟩ => hne id rule limit hm
  cases m with
  | others d => cases hm
  | sync s =>
    refine hkept ?_ nofun
    unfold move
    dsimp only
    cases s.catalog w.config <;> exact h
  | request q limit =>
    cases q with
    | createRule key group rule =>
      refine hkept ?_ nofun
      change (w.serve limit _).stores.rules.store.IsDistinct
      rw [stores_serve_rules]
      exact RuleRequest.isDistinct_run_create h hs _ _ _ _ _ _
    | updateRule id rule =>
      have hiff := RuleRequest.isDistinct_run_update_iff h hs w.config w.catalog id rule limit
      have hstore : (w.move (.request (.updateRule id rule) limit)).stores.rules.store
          = ((Script.within limit (RuleRequest.update w.config w.catalog id rule)).run
            Store.answer w.stores.rules.store).2 := by
        change (w.serve limit _).stores.rules.store = _
        rw [stores_serve_rules]
      rw [← hstore] at hiff
      refine hiff.trans (not_congr ⟨fun hc => ⟨id, rule, limit, rfl, hc⟩, ?_⟩)
      rintro ⟨id', rule', limit', hmove, hc⟩
      cases hmove
      exact hc
    | deleteRule id =>
      refine hkept ?_ nofun
      change (w.serve limit _).stores.rules.store.IsDistinct
      rw [stores_serve_rules]
      exact RuleRequest.isDistinct_run_delete h hs _ _ _ _
    | override id p | current id =>
      refine hkept ?_ nofun
      change (w.serve limit _).stores.rules.store.IsDistinct
      rw [stores_serve_overrides]
      exact h

/-- From a store on whose resources keep their rules apart, requests and syncs keep them apart
exactly as long as no request puts a rule in the place of another one in a resource that has it
already. -/
theorem isDistinct_after_iff (c : Config) (history ms : List WorldMove)
    (hms : ∀ m ∈ ms, m.isOwn = true) (h : (after c history).stores.rules.store.IsDistinct) :
    (∀ ms', ms' <+: ms → (after c (history ++ ms')).stores.rules.store.IsDistinct)
      ↔ ∀ ms' m, ms' ++ [m] <+: ms → ¬ m.Collides (after c (history ++ ms')) := by
  have hstep : ∀ ms' m, ms' ++ [m] <+: ms →
      (after c (history ++ ms')).stores.rules.store.IsDistinct →
      ((after c (history ++ (ms' ++ [m]))).stores.rules.store.IsDistinct
        ↔ ¬ m.Collides (after c (history ++ ms'))) := by
    intro ms' m hbegins hbefore
    rw [← List.append_assoc, after_append_singleton]
    exact isDistinct_move_iff hbefore (isMade_rules_after c _)
      (hms m (hbegins.subset (List.mem_append_right _ List.mem_cons_self)))
  constructor
  · intro hall ms' m hbegins
    have hbefore := hall ms' ((List.prefix_append ms' [m]).trans hbegins)
    exact (hstep ms' m hbegins hbefore).1 (hall _ hbegins)
  · intro hnone ms'
    induction ms' using List.reverseRecOn with
    | nil => exact fun _ => by rwa [List.append_nil]
    | append_singleton ms' m ih =>
      intro hbegins
      have hbefore := ih ((List.prefix_append ms' [m]).trans hbegins)
      exact (hstep ms' m hbegins hbefore).2 (hnone ms' m hbegins)

/-- A resource with one rule. -/
def single : List WorldMove :=
  [.others (.rules (.upsert ⟨.fresh ⟨"team", "disk"⟩, [⟨"disk", none, [up "A" "up == 1"]⟩]⟩))]
where
  up (name expr : String) : Rule := ⟨some name, none, expr, none, ∅, ∅⟩

/-- The catalog learns of the rule, a second one is added to its resource, and then the first one
is changed. -/
def changed (rule : Rule) : List WorldMove :=
  [.sync (after .default single).sources,
    .request (.createRule ⟨"team", "disk"⟩ "disk" (single.up "B" "up == 2")) none,
    .request (.updateRule (Identity.ofRule (single.up "A" "up == 1")) rule) none]

theorem isOwn_of_mem_changed (rule : Rule) : ∀ m ∈ changed rule, m.isOwn = true := by
  simp [changed, WorldMove.isOwn]

theorem isDistinct_after_single : (after .default single).stores.rules.store.IsDistinct := by
  decide +kernel

theorem isDistinct_after_iff_changed :
    (∀ m ∈ changed (single.up "C" "up == 3"), m.isOwn = true)
    ∧ (after .default single).stores.rules.store.IsDistinct
    ∧ ((∀ ms', ms' <+: changed (single.up "C" "up == 3") →
        (after .default (single ++ ms')).stores.rules.store.IsDistinct)
      ↔ ∀ ms' m, ms' ++ [m] <+: changed (single.up "C" "up == 3") →
        ¬ m.Collides (after .default (single ++ ms'))) :=
  ⟨isOwn_of_mem_changed _, isDistinct_after_single,
    isDistinct_after_iff .default single _ (isOwn_of_mem_changed _) isDistinct_after_single⟩

/-- The first rule becomes a copy of the second one, which the catalog does not know of yet. -/
theorem not_isDistinct_after_changed :
    (after .default single).stores.rules.store.IsDistinct
    ∧ (∀ m ∈ changed (single.up "B" "up == 2"), m.isOwn = true)
    ∧ ¬ (after .default
      (single ++ changed (single.up "B" "up == 2"))).stores.rules.store.IsDistinct :=
  ⟨isDistinct_after_single, isOwn_of_mem_changed _, by decide +kernel⟩

end World

end RuleCatalog
