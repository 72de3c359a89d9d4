import RuleCatalog.Proofs.Catalog.Account
import RuleCatalog.Proofs.Cluster.Scene
import RuleCatalog.Proofs.Service.Race
import RuleCatalog.Proofs.Service.Writes

/-! # The trust boundary of writes

Requests take place one after another, on whatever catalog is there, and in between others change
the stores and syncs replace the catalog. No request changes a rule resource of the platform, and
a request for overrides changes nothing but the override resource of its rule, if the catalog has
the rule as one of the platform and no deployment tool manages the resource.
Main statement: `respects_after`. -/
namespace RuleCatalog
open OverrideRequest

/-! ## Requests in a world -/

/-- A kind of resource whose calls a world answers as its store does. -/
class LawfulStored (α : Type) [Stored α] : Prop where
  withWatched_watched : ∀ s, Stored.withWatched s (Stored.watched s : Watched α) = s
  withWatched_withWatched : ∀ s (a b : Watched α),
    Stored.withWatched (Stored.withWatched s a) b = Stored.withWatched s b
  reply_perform : ∀ (w : World) (c : StoreCall α),
    Stored.reply c (w.perform (Stored.call c)).1 = (w.store.perform c).reply
  perform : ∀ (w : World) (c : StoreCall α),
    (w.perform (Stored.call c)).2 = (w.absorb (w.store.perform c)).2

instance : LawfulStored RuleResource := ⟨fun _ => rfl, fun _ _ _ => rfl, fun _ _ => rfl, fun _ _ => rfl⟩

instance : LawfulStored OverrideResource :=
  ⟨fun _ => rfl, fun _ _ _ => rfl, fun _ _ => rfl, fun _ _ => rfl⟩

namespace World
variable {α ρ : Type} [Stored α]

theorem config_notify (w : World) (change : Change α) : (w.notify change).config = w.config := by
  unfold notify
  dsimp only
  split <;> rfl

theorem stores_absorb (w : World) (a : Answer α ρ) : (w.absorb a).2.stores
    = Stored.withWatched w.stores { w.watched (α := α) with store := a.store } := by
  unfold absorb
  cases a.change with
  | none => rfl
  | some change => exact stores_notify _ _

theorem watched_absorb (w : World) (a : Answer α ρ) :
    (w.absorb a).2.watched (α := α) = { w.watched (α := α) with store := a.store } := by
  rw [watched, stores_absorb, Stored.watched_withWatched]

theorem config_absorb (w : World) (a : Answer α ρ) : (w.absorb a).2.config = w.config := by
  unfold absorb
  cases a.change with
  | none => rfl
  | some change => exact config_notify _ _

/-- A script of one store changes that store as it does alone, and neither the catalog nor the
configuration. -/
theorem run_ofStore [LawfulStored α] (script : Script (@StoreCall.Reply α) ρ) (w : World) :
    ((Program.ofStore script).run perform w).2.stores = Stored.withWatched w.stores
        { w.watched (α := α) with store := (script.run Store.answer w.store).2 }
      ∧ ((Program.ofStore script).run perform w).2.catalog = w.catalog
      ∧ ((Program.ofStore script).run perform w).2.config = w.config := by
  induction script generalizing w with
  | done r => exact ⟨(LawfulStored.withWatched_watched _).symm, rfl, rfl⟩
  | call c next ih =>
    have hrun : (Program.ofStore (.call c next)).run perform w
        = (Program.ofStore (next (w.store.perform c).reply)).run perform
          (w.absorb (w.store.perform c)).2 := by
      rw [← LawfulStored.reply_perform w c, ← LawfulStored.perform w c]
      rfl
    obtain ⟨hstores, hcatalog, hconfig⟩ := ih (w.store.perform c).reply (w.absorb (w.store.perform c)).2
    rw [hrun]
    refine ⟨?_, hcatalog.trans (catalog_absorb _ _), hconfig.trans (config_absorb _ _)⟩
    rw [hstores, stores_absorb, LawfulStored.withWatched_withWatched, watched_absorb, store_absorb]
    rfl

/-- A world after a request, which is given up if it is not done after so many calls. -/
def serve (limit : Option Nat) (w : World) (r : StoreRequest α ρ) : World :=
  ((Program.ofStore (Script.within limit r)).run perform w).2

end World

/-- What users ask of the services for rules and for overrides. -/
inductive ServiceRequest where
  | createRule (key : ObjectKey) (group : String) (rule : Rule)
  | updateRule (id : Identity) (rule : Rule)
  | deleteRule (id : Identity)
  | override (id : Identity) (q : Override.Request)
  /-- Reads the overrides of a rule. -/
  | current (id : Identity)

namespace ServiceRequest

def run (limit : Option Nat) (w : World) : ServiceRequest → World
  | createRule key group rule => w.serve limit (RuleRequest.create w.config w.catalog key group rule)
  | updateRule id rule => w.serve limit (RuleRequest.update w.config w.catalog id rule)
  | deleteRule id => w.serve limit (RuleRequest.delete w.config w.catalog id)
  | override id q => w.serve limit (OverrideCall.script w.config id ⟨w.catalog, q⟩)
  | current id => w.serve limit (OverrideRequest.current w.config id)

end ServiceRequest

/-- What happens to a world. -/
inductive WorldMove where
  /-- Others do something to a store. -/
  | others (d : Deed)
  /-- A sync puts in place the catalog of what it has read, at whatever moments that was. -/
  | sync (s : Sources)
  /-- A request takes place, and may be given up after so many calls. -/
  | request (q : ServiceRequest) (limit : Option Nat)

namespace World

def move (w : World) : WorldMove → World
  | .others d => (w.act d).1
  | .sync s =>
    match s.catalog w.config with
    | .ok (catalog, _) => { w with catalog := catalog }
    | .error _ => w
  | .request q limit => q.run limit w

/-- What one move after another makes of a world without resources and rules. -/
def after (c : Config) (ms : List WorldMove) : World := ms.foldl move (.empty c)

end World

/-- Whether a request has kept to what it may change. -/
structure Respects (q : ServiceRequest) (w w' : World) : Prop where
  /-- Rule resources of the platform stay as they are. -/
  platform : ∀ key, w.config.isPlatform key.space = true →
    w'.stores.rules.store.get? key = w.stores.rules.store.get? key
  /-- Only the override resource of the rule of the request changes, and only if the rule is one of
  the platform in the catalog and no deployment tool manages the resource. -/
  overrides : ∀ key, w'.stores.overrides.store.get? key ≠ w.stores.overrides.store.get? key →
    ∃ id p, q = .override id p ∧ key = OverrideRequest.key w.config id
      ∧ (∃ e, w.catalog.lookup? id = some e ∧ e.trust = .platformManaged)
      ∧ ¬ IsLocked w.config id w.stores.overrides.store
  /-- A request for overrides changes no other store. -/
  elsewhere : ∀ id p, q = .override id p → w'.stores.rules = w.stores.rules
  secrets : w'.stores.secrets = w.stores.secrets
  containers : w'.stores.containers = w.stores.containers
  catalog : w'.catalog = w.catalog

/-! ## One request -/

namespace World
variable {ρ : Type} {w : World} {limit : Option Nat}

/-- What holds throughout. -/
structure IsSound (w : World) : Prop where
  rules : w.stores.rules.store.IsKeyed
  overrides : w.stores.overrides.store.IsKeyed
  catalog : w.catalog.IsTruthful w.config

theorem stores_serve_rules (w : World) (limit : Option Nat) (r : RuleRequest ρ) :
    (w.serve limit r).stores = { w.stores with rules := { w.stores.rules with
      store := ((Script.within limit r).run Store.answer w.stores.rules.store).2 } } :=
  (run_ofStore (Script.within limit r) w).1

theorem stores_serve_overrides (w : World) (limit : Option Nat) (r : OverrideRequest ρ) :
    (w.serve limit r).stores = { w.stores with overrides := { w.stores.overrides with
      store := ((Script.within limit r).run Store.answer w.stores.overrides.store).2 } } :=
  (run_ofStore (Script.within limit r) w).1

theorem IsSound.serve_rules (hw : w.IsSound) (limit : Option Nat) (r : RuleRequest ρ) :
    (w.serve limit r).IsSound := by
  obtain ⟨-, hcatalog, hconfig⟩ := run_ofStore (Script.within limit r) w
  have hstores := stores_serve_rules w limit r
  refine ⟨?_, ?_, ?_⟩
  · rw [hstores]
    exact Store.isKeyed_run _ hw.rules
  · rw [hstores]
    exact hw.overrides
  · have htruthful := hw.catalog
    rwa [← hcatalog, ← hconfig] at htruthful

theorem IsSound.serve_overrides (hw : w.IsSound) (limit : Option Nat) (r : OverrideRequest ρ) :
    (w.serve limit r).IsSound := by
  obtain ⟨-, hcatalog, hconfig⟩ := run_ofStore (Script.within limit r) w
  have hstores := stores_serve_overrides w limit r
  refine ⟨?_, ?_, ?_⟩
  · rw [hstores]
    exact hw.rules
  · rw [hstores]
    exact Store.isKeyed_run _ hw.overrides
  · have htruthful := hw.catalog
    rwa [← hcatalog, ← hconfig] at htruthful

end World

namespace OverrideCall
variable {c : Config} {id : Identity}

theorem writesOnly_script (c : Config) (id : Identity) (x : OverrideCall) :
    StoreRequest.WritesOnly (· = key c id) (x.script c id) := by
  rcases x.script_cases c id with ⟨e, he⟩ | ⟨operation, hedit⟩
  · rw [he]
    trivial
  · rw [hedit]
    exact writesOnly_edit c id operation (x.edit id)

theorem script_of_forall_ne {x : OverrideCall}
    (h : ∀ e, x.catalog.lookup? id = some e → e.trust ≠ .platformManaged) :
    ∃ e, x.script c id = .done (.error e) := by
  have hrefused : ∀ action, ∃ e, platformRule x.catalog id action = .error e := by
    intro action
    cases hrule : platformRule x.catalog id action with
    | error e => exact ⟨e, rfl⟩
    | ok rule =>
      obtain ⟨hlookup, htrust⟩ := platformRule_eq_ok_iff.1 hrule
      exact absurd htrust (h rule hlookup)
  have hbind : ∀ {action : String} {f : CatalogRule → OverrideRequest OverrideOutcome},
      x.script c id = Request.ofReply (platformRule x.catalog id action) >>= f →
      ∃ e, x.script c id = .done (.error e) := by
    intro action f hscript
    obtain ⟨e, he⟩ := hrefused action
    rw [hscript, he]
    exact ⟨e, rfl⟩
  obtain ⟨catalog, q⟩ := x
  cases q with
  | update delta => exact hbind rfl
  | drop => exact hbind rfl
  | restore => exact hbind rfl

theorem objects_run_of_done {e : ServiceError} {x : OverrideCall} {s : Store OverrideResource}
    (h : x.script c id = .done (.error e)) (limit : Option Nat) :
    ((Script.within limit (x.script c id)).run Store.answer s).2.objects = s.objects := by
  rw [h]
  rcases limit with _ | _ | n <;> rfl

/-- A request that changes something has a rule of the platform, and the resource may be written. -/
theorem of_get?_run_ne {x : OverrideCall} {s : Store OverrideResource} {limit : Option Nat}
    {k : ObjectKey} (hs : s.IsKeyed)
    (h : ((Script.within limit (x.script c id)).run Store.answer s).2.get? k ≠ s.get? k) :
    k = key c id ∧ (∃ e, x.catalog.lookup? id = some e ∧ e.trust = .platformManaged)
      ∧ ¬ IsLocked c id s := by
  have hobjects : ((Script.within limit (x.script c id)).run Store.answer s).2.objects
      ≠ s.objects := fun ho => h (Store.get?_eq_of_objects ho k)
  -- otherwise the place is another one, the rule is refused, or the resource is read only
  refine ⟨?_, ?_, fun hlocked => ?_⟩
  · by_contra hk
    exact h (Script.get?_run_of_writesOnly ((writesOnly_script c id x).within limit) hs hk)
  · by_contra hnone
    have hne : ∀ e, x.catalog.lookup? id = some e → e.trust ≠ .platformManaged :=
      fun e he ht => hnone ⟨e, he, ht⟩
    obtain ⟨e, he⟩ := script_of_forall_ne (c := c) hne
    exact hobjects (objects_run_of_done he limit)
  · rcases x.script_cases c id with ⟨e, he⟩ | ⟨operation, hedit⟩
    · exact hobjects (objects_run_of_done he limit)
    · rw [hedit] at hobjects
      exact hobjects (objects_run_edit_of_isLocked hlocked limit operation (x.edit id))

end OverrideCall

namespace ServiceRequest
variable {ρ : Type} {w : World} {limit : Option Nat} {q : ServiceRequest}

theorem respects_serve_rules (hw : w.IsSound) {r : RuleRequest ρ}
    (hr : r.WritesOnly (w.config.isPlatform ·.space = false))
    (hq : ∀ id p, q ≠ .override id p) : Respects q w (w.serve limit r) where
  platform key hkey := by
    rw [World.stores_serve_rules]
    exact Script.get?_run_of_writesOnly (hr.within limit) hw.rules (by simp [hkey])
  overrides key hne := by
    rw [World.stores_serve_rules] at hne
    exact absurd rfl hne
  elsewhere id p h := absurd h (hq id p)
  secrets := by rw [World.stores_serve_rules]
  containers := by rw [World.stores_serve_rules]
  catalog := (World.run_ofStore _ w).2.1

theorem respects_serve_overrides {r : OverrideRequest ρ}
    (hr : ∀ key, ((Script.within limit r).run Store.answer w.stores.overrides.store).2.get? key
      ≠ w.stores.overrides.store.get? key → ∃ id p, q = .override id p
        ∧ key = OverrideRequest.key w.config id
        ∧ (∃ e, w.catalog.lookup? id = some e ∧ e.trust = .platformManaged)
        ∧ ¬ IsLocked w.config id w.stores.overrides.store) :
    Respects q w (w.serve limit r) where
  platform key _ := by rw [World.stores_serve_overrides]
  overrides key hne := by
    rw [World.stores_serve_overrides] at hne
    exact hr key hne
  elsewhere id p _ := by rw [World.stores_serve_overrides]
  secrets := by rw [World.stores_serve_overrides]
  containers := by rw [World.stores_serve_overrides]
  catalog := (World.run_ofStore _ w).2.1

theorem writesOnly_current (c : Config) (id : Identity) :
    (OverrideRequest.current c id).WritesOnly fun _ => False :=
  StoreRequest.writesOnly_get?_bind fun _ _ => StoreRequest.writesOnly_pure _

/-- A request keeps to what it may change. -/
theorem respects_run (hw : w.IsSound) (q : ServiceRequest) (limit : Option Nat) :
    Respects q w (q.run limit w) := by
  cases q with
  | createRule key group rule =>
    exact respects_serve_rules hw (RuleRequest.writesOnly_create _ _ _ _ _) nofun
  | updateRule id rule =>
    exact respects_serve_rules hw (RuleRequest.writesOnly_update hw.catalog _ _) nofun
  | deleteRule id =>
    exact respects_serve_rules hw (RuleRequest.writesOnly_delete hw.catalog _) nofun
  | override id p =>
    exact respects_serve_overrides fun key hne =>
      ⟨id, p, rfl, OverrideCall.of_get?_run_ne hw.overrides hne⟩
  | current id =>
    have hnone := (writesOnly_current w.config id).within limit
    exact respects_serve_overrides fun key hne =>
      absurd (Script.get?_run_of_writesOnly hnone hw.overrides not_false) hne

end ServiceRequest

/-! ## Whole runs -/

namespace Catalog

theorem isTruthful_empty (c : Config) : Catalog.empty.IsTruthful c := by
  intro id e he
  cases he

/-- What is built has the trust of the namespaces, whatever it is built of. -/
theorem isTruthful_build (c : Config) (es : List RelabelEntry)
    (managers : SortedMap String (Option Manager)) (resources : List RuleResource) :
    (build ⟨c.isPlatform, es, managers⟩ resources).1.IsTruthful c := by
  intro id e he
  rw [lookup?_eq, held_build] at he
  cases hfind : (definitions resources).find? (·.Has id) with
  | none =>
    rw [hfind] at he
    cases he
  | some d =>
    rw [hfind, Option.map_some, Option.getD_some] at he
    obtain ⟨labels, rfl, -⟩ := d.exists_of_held _ he
    rfl

end Catalog

namespace World

theorem isSound_empty (c : Config) : (World.empty c).IsSound :=
  ⟨Store.isKeyed_empty, Store.isKeyed_empty, Catalog.isTruthful_empty c⟩

theorem IsSound.move {w : World} (hw : w.IsSound) (m : WorldMove) : (w.move m).IsSound := by
  cases m with
  | others d =>
    cases d with
    | rules a => exact ⟨Store.isKeyed_act hw.rules a, hw.overrides, hw.catalog⟩
    | secrets a => exact ⟨hw.rules, hw.overrides, hw.catalog⟩
    | overrides a => exact ⟨hw.rules, Store.isKeyed_act hw.overrides a, hw.catalog⟩
    | containers a => exact ⟨hw.rules, hw.overrides, hw.catalog⟩
  | sync s =>
    unfold World.move
    dsimp only
    cases hcatalog : s.catalog w.config with
    | error e => exact hw
    | ok result =>
      obtain ⟨es, -, rfl⟩ := Sources.catalog_eq_ok hcatalog
      exact ⟨hw.rules, hw.overrides, Catalog.isTruthful_build w.config es _ s.rules⟩
  | request q limit =>
    cases q with
    | createRule key group rule => exact hw.serve_rules limit _
    | updateRule id rule => exact hw.serve_rules limit _
    | deleteRule id => exact hw.serve_rules limit _
    | override id p => exact hw.serve_overrides limit _
    | current id => exact hw.serve_overrides limit _

theorem after_append_singleton (c : Config) (ms : List WorldMove) (m : WorldMove) :
    after c (ms ++ [m]) = (after c ms).move m := by
  unfold after
  rw [List.foldl_append]
  rfl

/-- A sync that succeeds is such a move, with what there is at that moment. -/
theorem catalog_move_sync {w w' : World} {stats : SyncStats}
    (h : (Catalog.sync w.config).run perform w = (.ok stats, w')) :
    (w.move (.sync w.sources)).catalog = w'.catalog := by
  have hbuilt : w.sources.catalog w.config = .ok (w'.catalog, stats) := built_of_run_sync h
  unfold move
  dsimp only
  rw [hbuilt]

theorem isSound_after (c : Config) (ms : List WorldMove) : (after c ms).IsSound := by
  induction ms using List.reverseRecOn with
  | nil => exact isSound_empty c
  | append_singleton ms m ih =>
    rw [after_append_singleton]
    exact ih.move m

/-- Whatever has happened before, a request changes no rule resource of the platform, and a request
for overrides changes at most the override resource of its rule, if the catalog has the rule as one
of the platform and no deployment tool manages the resource. -/
theorem respects_after (c : Config) (ms : List WorldMove) (q : ServiceRequest)
    (limit : Option Nat) :
    Respects q (after c ms) (after c (ms ++ [.request q limit])) := by
  rw [after_append_singleton]
  exact q.respects_run (isSound_after c ms) limit

end World

end RuleCatalog
