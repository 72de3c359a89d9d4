import RuleCatalog.Proofs.Service.Outcome

/-! # Rules that come into view

A user creates a rule on a catalog that is up to date, and the next sync puts it in view, unless
the rule went into a resource that is being deleted. What the catalog keeps as silenced counts as
not there when a rule is created, but stands before it in the next catalog if its resource does.
Main statement: `get?_created_iff`. -/
namespace RuleCatalog

/-! ## What creating writes -/

namespace RuleResource

theorem mem_rules_addTo (name : String) (rule : Rule) (gs : List RuleGroup) :
    ∃ g ∈ addTo name rule gs, rule ∈ g.rules := by
  induction gs with
  | nil => exact ⟨_, List.mem_cons_self, List.mem_cons_self⟩
  | cons g gs ih =>
    unfold addTo
    split
    · exact ⟨_, List.mem_cons_self, by simp⟩
    · obtain ⟨g', hg', hrule⟩ := ih
      exact ⟨g', List.mem_cons_of_mem _ hg', hrule⟩

end RuleResource

namespace World
variable {α ρ : Type} [Stored α] {w : World}

/-- A program of one store answers what its script answers alone. -/
theorem run_ofStore_fst [LawfulStored α] (script : Script (@StoreCall.Reply α) ρ) (w : World) :
    ((Program.ofStore script).run perform w).1 = (script.run Store.answer w.store).1 := by
  induction script generalizing w with
  | done r => rfl
  | call c next ih =>
    have hrun : ((Program.ofStore (.call c next)).run perform w).1
        = ((Program.ofStore (next (w.store.perform c).reply)).run perform
          (w.absorb (w.store.perform c)).2).1 := by
      rw [← LawfulStored.reply_perform w c, ← LawfulStored.perform w c]
      rfl
    rw [hrun, ih, store_absorb]
    rfl

theorem config_perform (w : World) (c : Call) : (w.perform c).2.config = w.config := by
  cases c with
  | rules c | secrets c | overrides c | containers c => exact w.config_absorb _
  | _ => rfl

theorem config_run (program : Program ρ) (w : World) :
    (program.run perform w).2.config = w.config :=
  Script.run_induction (I := fun _ (w' : World) => w'.config = w.config)
    (fun c _ w' h => (w'.config_perform c).trans h) rfl

theorem config_move (w : World) (m : WorldMove) : (w.move m).config = w.config := by
  cases m with
  | others d => cases d <;> rfl
  | sync s =>
    unfold move
    dsimp only
    cases s.catalog w.config <;> rfl
  | request q limit => cases q <;> exact config_run _ _

theorem config_after (c : Config) (ms : List WorldMove) : (after c ms).config = c := by
  induction ms using List.reverseRecOn with
  | nil => rfl
  | append_singleton ms m ih =>
    rw [after_append_singleton]
    exact (config_move _ m).trans ih

end World

namespace RuleRequest
variable {c : Config} {catalog : Catalog} {s : Store RuleResource} {key : ObjectKey}
  {group : String} {rule : Rule} {id : Identity}

theorem key_base (hs : s.IsKeyed) (key : ObjectKey) : Resource.key (base s key) = key := by
  unfold base
  cases hget : s.get? key with
  | none => rfl
  | some r => exact hs key r hget

theorem isDeleting_base : (base s key).metadata.isDeleting = false
    ↔ ∀ r, s.get? key = some r → r.metadata.isDeleting = false := by
  unfold base
  cases s.get? key with
  | none => exact iff_of_true rfl nofun
  | some r => simp

/-- A rule that has been created has a name and an identity that the catalog did not have, and has
been added to a resource that did not have it, outside of the namespaces of the platform. -/
structure Created (c : Config) (catalog : Catalog) (key : ObjectKey) (group : String) (rule : Rule)
    (id : Identity) (s s' : Store RuleResource) : Prop where
  name : rule.withoutSystemLabels.name?.isSome = true
  identity : Identity.ofRule rule.withoutSystemLabels = id
  isPlatform : c.isPlatform key.space = false
  get? : catalog.get? id = none
  objects : s'.objects = (s.write ((base s key).add group rule.withoutSystemLabels)).objects

theorem name?_of_validate {rule : Rule} (h : rule.validate = .ok ()) :
    rule.name?.isSome = true := by
  unfold Rule.validate at h
  cases hname : rule.name? with
  | none => simp [hname] at h
  | some name => rfl

theorem created_of_run (hs : s.IsMade)
    (h : ((create c catalog key group rule).alone s).1 = .ok id) :
    Created c catalog key group rule id s ((create c catalog key group rule).alone s).2 := by
  obtain ⟨hid, hcontent⟩ := content_alone_create hs.isKeyed hs.isStamped h
  rcases create_cases c catalog key group rule with ⟨e, he⟩ | ⟨hvalid, hplatform, hnew, -⟩
  · rw [he] at h
    cases h
  · exact ⟨name?_of_validate hvalid, hid, hplatform, hid ▸ hnew, congrArg Prod.fst hcontent⟩

theorem created_of_run_ofStore {w w' : World} (hs : w.stores.rules.store.IsMade)
    (h : (Program.ofStore (create w.config w.catalog key group rule)).run World.perform w
      = (.ok id, w')) :
    Created w.config w.catalog key group rule id w.stores.rules.store w'.stores.rules.store := by
  have hreply := World.run_ofStore_fst (create w.config w.catalog key group rule) w
  have hstores := (World.run_ofStore (create w.config w.catalog key group rule) w).1
  rw [h] at hreply hstores
  rw [hstores]
  exact created_of_run hs hreply.symm

end RuleRequest

/-! ## What the next sync makes of it -/

namespace RulePlace
variable {s s' : Store RuleResource} {p q : RulePlace} {d : Definition} {key : ObjectKey}

/-- An earlier place is in a resource that is not a later one. -/
theorem isLE_key (h : compare p q = .lt ∨ p = q) : (compare p.key q.key).isLE := by
  rcases h with hlt | rfl
  · rw [compare_eq] at hlt
    cases hkey : compare p.key q.key with
    | gt => rw [hkey] at hlt; cases hlt
    | lt | eq => rfl
  · have hself : compare p.key p.key = .eq := Std.ReflCmp.compare_self
    rw [hself]
    rfl

theorem Defines.of_get? (h : p.Defines s d) (hget : s'.get? p.key = s.get? p.key) :
    p.Defines s' d := by
  obtain ⟨r, g, hr, hrest⟩ := h
  exact ⟨r, g, hget.trans hr, hrest⟩

theorem Defines.isDeleting (h : p.Defines s d) {r : RuleResource} (hr : s.get? p.key = some r) :
    r.metadata.isDeleting = false := by
  obtain ⟨r', g, hr', hlive, -⟩ := h
  rwa [← Option.some.inj (hr'.symm.trans hr)]

end RulePlace

namespace RuleRequest.Created
variable {c : Config} {catalog : Catalog} {key : ObjectKey} {group : String} {rule : Rule}
  {id : Identity} {s s' : Store RuleResource}

theorem get?_self (h : Created c catalog key group rule id s s') (hs : s.IsKeyed) :
    s'.get? key = some (s.next ((base s key).add group rule.withoutSystemLabels)) := by
  have hkey : Resource.key ((base s key).add group rule.withoutSystemLabels) = key :=
    key_base hs key
  rw [Store.get?_eq_of_objects h.objects, Store.get?_write, hkey,
    if_pos Std.ReflCmp.compare_self]

theorem get?_of_ne (h : Created c catalog key group rule id s s') (hs : s.IsKeyed)
    {key' : ObjectKey} (hne : key' ≠ key) : s'.get? key' = s.get? key' := by
  have hkey : Resource.key ((base s key).add group rule.withoutSystemLabels) = key :=
    key_base hs key
  rw [Store.get?_eq_of_objects h.objects]
  exact Store.get?_write_of_ne _ _ fun he => hne (he.trans hkey)

/-- The rule is there for a sync to find. -/
theorem exists_defines (h : Created c catalog key group rule id s s') (hs : s.IsKeyed)
    (hlive : (base s key).metadata.isDeleting = false) :
    ∃ p d, p.key = key ∧ RulePlace.Defines s' p d ∧ d.Has id := by
  obtain ⟨g, hg, hrule⟩ :=
    RuleResource.mem_rules_addTo group rule.withoutSystemLabels (base s key).groups
  obtain ⟨i, hi⟩ := List.mem_iff_getElem?.1 hg
  obtain ⟨j, hj⟩ := List.mem_iff_getElem?.1 hrule
  exact ⟨⟨key, i, j⟩, ⟨_, rule.withoutSystemLabels⟩, rfl,
    ⟨_, g, h.get?_self hs, hlive, hi, hj, rfl⟩, h.name, h.identity⟩

/-- The rule is in view once the catalog accounts for it, unless its resource is being deleted,
if all else that has its identity is in later resources. -/
theorem get?_iff (h : Created c catalog key group rule id s s') (hs : s.IsKeyed)
    (hlater : ∀ q d, RulePlace.Defines s q d → d.Has id → compare key q.key = .lt)
    {catalog' : Catalog} {stats' : SyncStats} (haccounts : Accounts c s' catalog' stats') :
    (∃ e, catalog'.get? id = some e ∧ e.trust = .userDefined ∧ e.source = key)
      ↔ (base s key).metadata.isDeleting = false := by
  have huser : Trust.of c.isPlatform key.space = .userDefined := by
    simp [Trust.of, h.isPlatform]
  constructor
  · rintro ⟨e, he, -, hsource⟩
    obtain ⟨-, -, p, d, hp, -, hkey⟩ := haccounts.origin id e (Option.or_eq_some_iff.2 (.inl he))
    have hself : s'.get? p.key
        = some (s.next ((base s key).add group rule.withoutSystemLabels)) := by
      rw [← hkey, hsource]
      exact h.get?_self hs
    exact (hp.defines.isDeleting hself :)
  · intro hlive
    obtain ⟨q, d', hq, hdefines, hhas⟩ := h.exists_defines hs hlive
    obtain ⟨e, he⟩ := Option.isSome_iff_exists.1 ((haccounts.contains_iff id).2
      ⟨q, d', hdefines, hhas⟩)
    obtain ⟨-, htrust, p, d, hp, -, hkey⟩ := haccounts.origin id e he
    have hsource : e.source = key := by
      by_contra hne
      rw [hkey] at hne
      have hlt := hlater p d (hp.defines.of_get? (h.get?_of_ne hs hne).symm) hp.has
      have hle := RulePlace.isLE_key (hp.first q d' hdefines hhas)
      rw [hq, Std.OrientedCmp.gt_of_lt hlt] at hle
      cases hle
    refine ⟨e, ?_, by rw [htrust, hsource, huser], hsource⟩
    rcases Option.or_eq_some_iff.1 he with hget | ⟨-, hdropped⟩
    · exact hget
    · have hplatform := haccounts.platform_of_dropped id e hdropped
      rw [hsource, h.isPlatform] at hplatform
      cases hplatform

end RuleRequest.Created

namespace Catalog
open RuleRequest

/-- What a catalog does not have in force, and has silenced only from later resources, stands in
later resources only. -/
theorem compare_of_defines {c : Config} {s : Store RuleResource} {catalog : Catalog}
    {stats : SyncStats} {key : ObjectKey} {id : Identity} (haccounts : Accounts c s catalog stats)
    (hget : catalog.get? id = none)
    (hdropped : ∀ e, catalog.dropped.get? id = some e → compare key e.source = .lt)
    {q : RulePlace} {d : Definition} (hq : q.Defines s d) (hhas : d.Has id) :
    compare key q.key = .lt := by
  obtain ⟨e, he⟩ := Option.isSome_iff_exists.1 ((haccounts.contains_iff id).2 ⟨q, d, hq, hhas⟩)
  obtain ⟨-, -, p, d', hp, -, hkey⟩ := haccounts.origin id e he
  have hlt : compare key p.key = .lt := by
    rw [← hkey]
    refine hdropped e ?_
    rcases Option.or_eq_some_iff.1 he with hrules | ⟨-, hsilenced⟩
    · rw [get?, hrules] at hget
      cases hget
    · exact hsilenced
  exact Std.TransCmp.lt_of_lt_of_isLE hlt (RulePlace.isLE_key (hp.first q d hq hhas))

/-- On a catalog that a sync has just put in place, whatever has happened before it, a rule is
created. The next sync, if nothing else changes a rule resource, has it in view as one of a user
from its resource exactly when that resource is not being deleted. A rule that the catalog keeps as
silenced must come from a later resource. -/
theorem get?_created_iff {c : Config} {history : List WorldMove} {w₁ w₂ w₃ w₄ : World}
    {stats stats' : SyncStats} {key : ObjectKey} {group : String} {rule : Rule} {id : Identity}
    (hsync : (sync c).run World.perform (.after c history) = (.ok stats, w₁))
    (hcreate : (Program.ofStore (create w₁.config w₁.catalog key group rule)).run World.perform w₁
      = (.ok id, w₂))
    (hdropped : ∀ e, w₁.catalog.dropped.get? id = some e → compare key e.source = .lt)
    (hconfig : w₃.config = w₂.config)
    (hrules : w₃.stores.rules.store.objects = w₂.stores.rules.store.objects)
    (hsync' : (sync w₃.config).run World.perform w₃ = (.ok stats', w₄)) :
    (∃ e, w₄.catalog.get? id = some e ∧ e.trust = .userDefined ∧ e.source = key)
      ↔ ∀ r, w₁.stores.rules.store.get? key = some r → r.metadata.isDeleting = false := by
  -- the catalog is that of the configuration, and accounts for what there is
  have hconfig₁ : w₁.config = c := by
    have hrun := World.config_run (sync c) (.after c history)
    rwa [hsync, World.config_after] at hrun
  have hobjects₁ : w₁.stores.rules.store.objects
      = (World.after c history).stores.rules.store.objects := by
    have hrun := SyncPhase.objects_rules_run_sync c (.after c history)
    rwa [hsync] at hrun
  have hmade₁ : w₁.stores.rules.store.IsMade := by
    have hrun := World.isMade_rules_run (World.isMade_rules_after c history) (sync c)
    rwa [hsync] at hrun
  have haccounts := accounts_of_run_sync (World.isMade_rules_after c history).isKeyed
    (show (sync (World.after c history).config).run World.perform _ = _ by
      rwa [World.config_after])
  -- the rule is created, and nothing but it is new
  have hcreated : Created w₁.config w₁.catalog key group rule id w₁.stores.rules.store
      w₃.stores.rules.store :=
    have hrun := created_of_run_ofStore hmade₁ hcreate
    { hrun with objects := hrules.trans hrun.objects }
  have hconfig₃ : w₃.config = w₁.config := by
    have hrun := World.config_run
      (Program.ofStore (create w₁.config w₁.catalog key group rule)) w₁
    rw [hcreate] at hrun
    exact hconfig.trans hrun
  have hkeyed₃ : w₃.stores.rules.store.IsKeyed := by
    have hrun := World.isMade_rules_run hmade₁
      (Program.ofStore (create w₁.config w₁.catalog key group rule))
    rw [hcreate] at hrun
    exact Store.isKeyed_of_objects hrules hrun.isKeyed
  have haccounts' := accounts_of_run_sync hkeyed₃ hsync'
  rw [hconfig₃] at haccounts'
  refine (hcreated.get?_iff hmade₁.isKeyed (fun q d hq hhas => ?_) haccounts').trans isDeleting_base
  have hq₀ := hq.of_get? (Store.get?_eq_of_objects hobjects₁ q.key).symm
  exact compare_of_defines haccounts hcreated.get? hdropped hq₀ hhas

/-- A resource without rules, of which deletion may have been asked for. -/
def bare (deletion : Option Timestamp) : List WorldMove :=
  [.others (.rules (.upsert ⟨{ Metadata.fresh ⟨"team", "disk"⟩ with deletion }, []⟩))]

/-- A request that adds a rule to the resource. -/
def addUp (w : World) : Program (Except ServiceError Identity) :=
  Program.ofStore (create w.config w.catalog ⟨"team", "disk"⟩ "disk" up)
where
  up : Rule := ⟨some "Up", none, "up == 1", none, ∅, ∅⟩

section
variable (deletion : Option Timestamp)

def synced : Except SyncError SyncStats × World :=
  (sync .default).run World.perform (.after .default (bare deletion))

def added : Except ServiceError Identity × World :=
  (addUp (synced deletion).2).run World.perform (synced deletion).2

def resynced : Except SyncError SyncStats × World :=
  (sync (added deletion).2.config).run World.perform (added deletion).2

end

theorem get?_created_iff_bare : ∃ w₁ w₂ w₃ id,
    (sync .default).run World.perform (.after .default (bare none)) = (.ok ⟨0, 0, 0⟩, w₁)
    ∧ (addUp w₁).run World.perform w₁ = (.ok id, w₂)
    ∧ w₁.catalog.dropped.get? id = none
    ∧ (sync w₂.config).run World.perform w₂ = (.ok ⟨1, 0, 0⟩, w₃)
    ∧ ((∃ e, w₃.catalog.get? id = some e ∧ e.trust = .userDefined
        ∧ e.source = ⟨"team", "disk"⟩)
      ↔ ∀ r, w₁.stores.rules.store.get? ⟨"team", "disk"⟩ = some r →
        r.metadata.isDeleting = false) := by
  have hreplies : (synced none).1 = .ok ⟨0, 0, 0⟩
      ∧ (added none).1 = .ok (Identity.ofRule addUp.up)
      ∧ (synced none).2.catalog.dropped.get? (Identity.ofRule addUp.up) = none
      ∧ (resynced none).1 = .ok ⟨1, 0, 0⟩ := by
    decide +kernel
  obtain ⟨hsync, hcreate, hdropped, hsync'⟩ := hreplies
  have hsync : (sync .default).run World.perform (.after .default (bare none))
      = (.ok ⟨0, 0, 0⟩, (synced none).2) := Prod.ext hsync rfl
  have hcreate : (addUp (synced none).2).run World.perform (synced none).2
      = (.ok (Identity.ofRule addUp.up), (added none).2) := Prod.ext hcreate rfl
  have hsync' : (sync (added none).2.config).run World.perform (added none).2
      = (.ok ⟨1, 0, 0⟩, (resynced none).2) := Prod.ext hsync' rfl
  exact ⟨_, _, _, _, hsync, hcreate, hdropped, hsync',
    get?_created_iff hsync hcreate (fun e he => nomatch hdropped.symm.trans he) rfl rfl hsync'⟩

/-- A rule that is created in a resource that is being deleted does not come into view. -/
theorem get?_created_deleting : ∃ w₁ w₂ w₃ id,
    (sync .default).run World.perform (.after .default (bare (some ⟨0, 0⟩)))
      = (.ok ⟨0, 0, 0⟩, w₁)
    ∧ (addUp w₁).run World.perform w₁ = (.ok id, w₂)
    ∧ (sync w₂.config).run World.perform w₂ = (.ok ⟨0, 0, 1⟩, w₃)
    ∧ w₃.catalog.get? id = none := by
  have hreplies : (synced (some ⟨0, 0⟩)).1 = .ok ⟨0, 0, 0⟩
      ∧ (added (some ⟨0, 0⟩)).1 = .ok (Identity.ofRule addUp.up)
      ∧ (resynced (some ⟨0, 0⟩)).1 = .ok ⟨0, 0, 1⟩
      ∧ (resynced (some ⟨0, 0⟩)).2.catalog.get? (Identity.ofRule addUp.up) = none := by
    decide +kernel
  obtain ⟨hsync, hcreate, hsync', hnone⟩ := hreplies
  exact ⟨(synced (some ⟨0, 0⟩)).2, (added (some ⟨0, 0⟩)).2, (resynced (some ⟨0, 0⟩)).2, _,
    Prod.ext hsync rfl, Prod.ext hcreate rfl, Prod.ext hsync' rfl, hnone⟩

end Catalog

end RuleCatalog
