import RuleCatalog.Proofs.Catalog.RulePlace
import RuleCatalog.Proofs.Catalog.Stamp
import RuleCatalog.Proofs.Cluster.SyncPhase

/-! # The account that a sync gives of all rules

A sync that succeeds has put every rule of the store into one of three classes: in force,
silenced, or skipped. What is in force or silenced is what stands first under its identity, and
the labels that the catalog adds leave identities as they are.
Main statement: `accounts_of_run_sync`. -/
namespace RuleCatalog

/-! ## The account -/

/-- Whether a catalog and the counts of its sync account for all rules of a store. -/
structure Accounts (c : Config) (s : Store RuleResource) (catalog : Catalog) (stats : SyncStats) :
    Prop where
  disjoint : ∀ id, ¬ (catalog.rules.contains id = true ∧ catalog.dropped.contains id = true)
  contains_iff : ∀ id, catalog.contains id = true ↔ ∃ p d, RulePlace.Defines s p d ∧ d.Has id
  /-- An entry comes from the first rule with its identity. -/
  origin : ∀ id e, catalog.lookup? id = some e → e.identity = id
    ∧ e.trust = .of c.isPlatform e.source.space
    ∧ ∃ p d, RulePlace.IsFirst s id p d ∧ e.stated = d.rule ∧ e.source = p.key
  platform_of_dropped : ∀ id e, catalog.dropped.get? id = some e →
    c.isPlatform e.source.space = true
  rules_eq : stats.rules = catalog.rules.size
  dropped_eq : stats.dropped = catalog.dropped.size
  total : stats.rules + stats.dropped + stats.skipped = (s.list.map (·.rules.length)).sum
  /-- The labels that the catalog adds leave the identity of a user's rule as it is. -/
  stable : ∀ id e, catalog.lookup? id = some e → e.trust = .userDefined →
    Identity.ofRule e.rule = e.identity

namespace Catalog
variable {s : Surroundings} {store : Store RuleResource} {id : Identity} {e : CatalogRule}
  {p : RulePlace} {d : Definition}

theorem lookup?_eq (c : Catalog) (id : Identity) :
    c.lookup? id = (c.held id).1.or (c.held id).2 := rfl

theorem held_build_of_isFirst (s : Surroundings) (h : RulePlace.IsFirst store id p d) :
    (build s store.list).1.held id = d.held s := by
  rw [held_build, find?_definitions_eq_some_iff.2 ⟨p, h⟩]
  rfl

/-- Under an identity stands what its first definition makes of its rule, or nothing. -/
theorem held_build_cases (s : Surroundings) (store : Store RuleResource) (id : Identity) :
    (∃ p d, RulePlace.IsFirst store id p d ∧ (build s store.list).1.held id = d.held s)
      ∨ (build s store.list).1.held id = (none, none) := by
  cases h : (definitions store.list).find? (·.Has id) with
  | none => exact .inr (by rw [held_build, h]; rfl)
  | some d =>
    obtain ⟨p, hp⟩ := find?_definitions_eq_some_iff.1 h
    exact .inl ⟨p, d, hp, held_build_of_isFirst s hp⟩

theorem disjoint_build (s : Surroundings) (store : Store RuleResource) (id : Identity) :
    ¬ ((build s store.list).1.rules.contains id = true
      ∧ (build s store.list).1.dropped.contains id = true) := by
  unfold SortedMap.contains
  obtain ⟨p, d, -, hheld⟩ | hheld := held_build_cases s store id
  · obtain ⟨labels, -, hd⟩ | ⟨-, hd⟩ := d.held_cases s
    · simp [(Prod.mk.inj (hheld.trans hd)).2]
    · simp [(Prod.mk.inj (hheld.trans hd)).1]
  · simp [(Prod.mk.inj hheld).1]

theorem exists_of_lookup?_build (h : (build s store.list).1.lookup? id = some e) :
    ∃ p d labels, RulePlace.IsFirst store id p d ∧ e = d.toCatalogRule s id labels
      ∧ (s.isPlatform d.owner.space = false → labels = d.rule.reportedLabels) := by
  rw [lookup?_eq] at h
  obtain ⟨p, d, hp, hheld⟩ | hheld := held_build_cases s store id
  · rw [hheld] at h
    obtain ⟨labels, he, huser⟩ := d.exists_of_held s h
    rw [hp.has.2] at he
    exact ⟨p, d, labels, hp, he, huser⟩
  · rw [hheld] at h
    cases h

theorem exists_lookup?_of_isFirst (h : RulePlace.IsFirst store id p d) :
    ∃ e, (build s store.list).1.lookup? id = some e ∧ e.stated = d.rule
      ∧ e.trust = .of s.isPlatform d.owner.space := by
  rw [lookup?_eq, held_build_of_isFirst s h]
  obtain ⟨labels, -, hheld⟩ | ⟨-, hheld⟩ := d.held_cases s <;>
    exact ⟨_, by rw [hheld]; rfl, rfl, rfl⟩

theorem contains_build_iff : (build s store.list).1.contains id = true
    ↔ ∃ p d, RulePlace.Defines store p d ∧ d.Has id := by
  constructor
  · intro h
    obtain ⟨e, he⟩ := Option.isSome_iff_exists.1 h
    obtain ⟨p, d, -, hp, -⟩ := exists_of_lookup?_build he
    exact ⟨p, d, hp.defines, hp.has⟩
  · rintro ⟨p, d, hdefines, hhas⟩
    obtain ⟨q, e, hfirst⟩ := exists_isFirst hdefines hhas
    obtain ⟨x, hx, -⟩ := exists_lookup?_of_isFirst hfirst
    exact Option.isSome_iff_exists.2 ⟨x, hx⟩

theorem isPlatform_of_dropped_build (h : (build s store.list).1.dropped.get? id = some e) :
    s.isPlatform e.source.space = true := by
  obtain ⟨p, d, -, hheld⟩ | hheld := held_build_cases s store id
  · obtain ⟨labels, -, hd⟩ | ⟨houtcome, hd⟩ := d.held_cases s
    · rw [(Prod.mk.inj (hheld.trans hd)).2] at h
      cases h
    · rw [(Prod.mk.inj (hheld.trans hd)).2] at h
      obtain rfl := Option.some.inj h
      cases hplatform : s.isPlatform d.owner.space with
      | false => simp [Definition.outcome, hplatform] at houtcome
      | true => exact hplatform
  · rw [(Prod.mk.inj hheld).2] at h
    cases h

theorem ofRule_of_lookup?_build (h : (build s store.list).1.lookup? id = some e)
    (htrust : e.trust = .userDefined) : Identity.ofRule e.rule = e.identity := by
  obtain ⟨p, d, labels, hp, rfl, hlabels⟩ := exists_of_lookup?_build h
  have huser : s.isPlatform d.owner.space = false := by
    cases hplatform : s.isPlatform d.owner.space with
    | false => rfl
    | true => simp [Definition.toCatalogRule, Trust.of, hplatform] at htrust
  have hbusiness : labels.business = d.rule.labels.business := by
    rw [hlabels huser, Rule.business_reportedLabels]
  rw [Definition.ofRule_toCatalogRule hbusiness]
  exact hp.has.2

theorem accounts_build (c : Config) (es : List RelabelEntry)
    (managers : SortedMap String (Option Manager)) (hstore : store.IsKeyed) :
    Accounts c store (build ⟨c.isPlatform, es, managers⟩ store.list).1
      (build ⟨c.isPlatform, es, managers⟩ store.list).2 where
  disjoint := disjoint_build _ store
  contains_iff _ := contains_build_iff
  origin id e he := by
    obtain ⟨p, d, labels, hp, rfl, -⟩ := exists_of_lookup?_build he
    exact ⟨rfl, rfl, p, d, hp, rfl, hp.defines.key_eq hstore⟩
  platform_of_dropped id e he := isPlatform_of_dropped_build he
  rules_eq := rfl
  dropped_eq := rfl
  total := total_build _ _
  stable id e he htrust := ofRule_of_lookup?_build he htrust

end Catalog

/-! ## A sync that succeeds -/

namespace World
open SyncPhase

theorem built_of_run_load {w w' : World} {result : Catalog × SyncStats}
    (h : (Catalog.load w.config).run World.perform w = (.ok result, w')) :
    w.built = .ok result := by
  have halike := alike_readSecret w w.config.relabelSecret.secret
  have hread : (w.perform (.secrets (.get w.config.relabelSecret.secret))).1
      = w.sources.secret := rfl
  -- the three reads, one after another: one that fails ends the sync, and none changes a source
  rw [load_eq, Script.run, hread] at h
  rw [World.built, Sources.catalog]
  cases hes : Catalog.entriesIn w.config.relabelSecret w.sources.secret with
  | error e => simp [hes, Script.run] at h
  | ok es =>
    simp only [hes, readRules, Script.run] at h
    obtain ⟨halike', hrules | ⟨-, e, hrules⟩⟩ :=
      perform_listRules (w.perform (.secrets (.get w.config.relabelSecret.secret))).2
    · simp only [hrules, readOverrides, Script.run] at h
      obtain ⟨-, hoverrides | ⟨-, e, hoverrides⟩⟩ := perform_listOverrides
        ((w.perform (.secrets (.get w.config.relabelSecret.secret))).2.perform
          (.rules (.list none))).2
      · simp only [hoverrides, Script.run, (halike.trans halike').sources, halike.sources] at h
        exact congrArg Except.ok (Except.ok.inj (Prod.mk.inj h).1)
      · simp [hoverrides, Script.run] at h
    · simp [hrules, Script.run] at h

/-- A sync that succeeds has put the catalog in place that the world's sources lead to. -/
theorem built_of_run_sync {w w' : World} {stats : SyncStats}
    (h : (Catalog.sync w.config).run World.perform w = (.ok stats, w')) :
    w.built = .ok (w'.catalog, stats) := by
  have hsync : (Catalog.sync w.config).run World.perform w
      = (Catalog.finishSync ((Catalog.load w.config).run World.perform w).1).run World.perform
        ((Catalog.load w.config).run World.perform w).2 := by
    show ((Catalog.load w.config).bind Catalog.finishSync).run World.perform w = _
    rw [Script.run_bind]
  rw [hsync] at h
  cases hload : (Catalog.load w.config).run World.perform w with
  | mk reply w₁ =>
    rw [hload] at h
    cases reply with
    | error e => simp [Catalog.finishSync, Script.run] at h
    | ok result =>
      obtain ⟨hstats, rfl⟩ := Prod.mk.inj h
      obtain rfl := Except.ok.inj hstats
      exact built_of_run_load hload

end World

theorem Sources.catalog_eq_ok {c : Config} {s : Sources} {result : Catalog × SyncStats}
    (h : s.catalog c = .ok result) : ∃ es, Catalog.entriesIn c.relabelSecret s.secret = .ok es
      ∧ result = Catalog.build
        ⟨c.isPlatform, es, Surroundings.managersOf c.overrideSpace s.overrides⟩ s.rules := by
  unfold catalog at h
  cases hes : Catalog.entriesIn c.relabelSecret s.secret with
  | error e => simp [hes, Except.map] at h
  | ok es =>
    rw [hes] at h
    exact ⟨es, rfl, (Except.ok.inj h).symm⟩

/-- A sync succeeds when the relabel entries can be read and the lists are answered. -/
theorem Catalog.exists_run_sync {w : World} {es : List RelabelEntry}
    (hentries : entriesIn w.config.relabelSecret w.sources.secret = .ok es)
    (hlists : SyncPhase.ListsAnswer w) :
    ∃ stats w', (sync w.config).run World.perform w = (.ok stats, w')
      ∧ w'.catalog = (build ⟨w.config.isPlatform, es,
        Surroundings.managersOf w.config.overrideSpace w.sources.overrides⟩
        w.stores.rules.store.list).1 := by
  have hbuilt : w.built = .ok (build ⟨w.config.isPlatform, es,
      Surroundings.managersOf w.config.overrideSpace w.sources.overrides⟩
      w.stores.rules.store.list) := by
    unfold World.built Sources.catalog
    rw [hentries]
    rfl
  obtain ⟨hreply, hcatalog⟩ := SyncPhase.run_sync hlists
  rw [hbuilt] at hreply hcatalog
  exact ⟨_, _, Prod.ext hreply rfl, hcatalog⟩

/-- A sync that succeeds accounts for all rules of the store. -/
theorem Catalog.accounts_of_run_sync {w w' : World} {stats : SyncStats}
    (hstore : w.stores.rules.store.IsKeyed)
    (hsync : (Catalog.sync w.config).run World.perform w = (.ok stats, w')) :
    Accounts w.config w.stores.rules.store w'.catalog stats := by
  obtain ⟨es, -, hbuild⟩ := Sources.catalog_eq_ok (World.built_of_run_sync hsync)
  obtain ⟨hcatalog, hstats⟩ := Prod.mk.inj hbuild
  rw [hcatalog, hstats]
  exact accounts_build w.config es _ hstore

/-- A world with a user's rule, its copy in a namespace of the platform, a rule without a name, and
one that the relabel entries silence. -/
def World.mixed : World := ((World.empty .default).withStore secrets).withStore rules
where
  secrets : Store Secret := .after [.upsert
    ⟨.fresh ⟨"openshift-monitoring", "alert-relabel-configs"⟩, .ofList [("config.yaml",
      Utf8.bytes "- {action: drop, source_labels: [severity], regex: info}")]⟩]
  rules : Store RuleResource := .after [
    .upsert ⟨.fresh ⟨"openshift-monitoring", "disk"⟩, [⟨"disk", none,
      [alert "DiskFull" "warning", alert "" "warning", alert "DiskUsed" "info"]⟩]⟩,
    .upsert ⟨.fresh ⟨"app-team", "disk"⟩, [⟨"disk", none, [alert "DiskFull" "warning"]⟩]⟩]
  alert (name severity : String) : Rule :=
    ⟨some name, none, "disk_used > 90", none, .ofList [("severity", severity)], ∅⟩

theorem Catalog.accounts_of_run_sync_mixed : World.mixed.stores.rules.store.IsKeyed
    ∧ ∃ w, (Catalog.sync World.mixed.config).run World.perform World.mixed = (.ok ⟨1, 1, 2⟩, w)
      ∧ Accounts World.mixed.config World.mixed.stores.rules.store w.catalog ⟨1, 1, 2⟩ := by
  have hrules : World.mixed.rules.IsKeyed := by
    unfold World.mixed.rules
    exact Store.isKeyed_after _
  have hstore : World.mixed.stores.rules.store.IsKeyed := hrules
  have hreply : ((Catalog.sync World.mixed.config).run World.perform World.mixed).1
      = .ok ⟨1, 1, 2⟩ := by decide +kernel
  obtain ⟨w, hsync⟩ : ∃ w, (Catalog.sync World.mixed.config).run World.perform World.mixed
      = (.ok ⟨1, 1, 2⟩, w) := ⟨_, by rw [← hreply]⟩
  exact ⟨hstore, w, hsync, accounts_of_run_sync hstore hsync⟩

end RuleCatalog
