import RuleCatalog.Catalog.Sync
import RuleCatalog.Proofs.Cluster.Moves
import RuleCatalog.Proofs.Store

/-! # Phases of a sync

A sync is always in one of eight phases, which say what it has read so far and whether it has the
right to sync. `PhaseStep` lists all that one step of a sync can do; `exists_phaseStep` says that
there is nothing else. `run_sync` is the sync that nothing else interferes with. -/
namespace RuleCatalog

/-- What a sync reads. -/
@[ext] structure Sources where
  secret : Option Secret
  rules : List RuleResource
  overrides : List OverrideResource

/-- The catalog of some sources. -/
def Sources.catalog (c : Config) (s : Sources) : Except SyncError (Catalog × SyncStats) :=
  (Catalog.entriesIn c.relabelSecret s.secret).map fun es =>
    Catalog.build ⟨c.isPlatform, es, Surroundings.managersOf c.overrideSpace s.overrides⟩ s.rules

namespace World

/-- What a sync would read at this moment. -/
def sources (w : World) : Sources where
  secret := w.stores.secrets.store.get? w.config.relabelSecret.secret
  rules := w.stores.rules.store.list
  overrides := w.stores.overrides.store.list

/-- The catalog that a sync would build at this moment. -/
def built (w : World) : Except SyncError (Catalog × SyncStats) := w.sources.catalog w.config

/-- Whether two worlds differ at most in how often their stores were used. -/
structure Alike (w w' : World) : Prop where
  config : w'.config = w.config
  rules : w'.stores.rules.store.objects = w.stores.rules.store.objects
  secrets : w'.stores.secrets.store.objects = w.stores.secrets.store.objects
  overrides : w'.stores.overrides.store.objects = w.stores.overrides.store.objects
  catalog : w'.catalog = w.catalog
  queue : w'.queue = w.queue
  isListening : w'.isListening = w.isListening
  issued : w'.issued = w.issued
  served : w'.served = w.served

theorem Alike.refl (w : World) : w.Alike w := ⟨rfl, rfl, rfl, rfl, rfl, rfl, rfl, rfl, rfl⟩

theorem Alike.trans {w w' w'' : World} (h : w.Alike w') (h' : w'.Alike w'') : w.Alike w'' where
  config := h'.config.trans h.config
  rules := h'.rules.trans h.rules
  secrets := h'.secrets.trans h.secrets
  overrides := h'.overrides.trans h.overrides
  catalog := h'.catalog.trans h.catalog
  queue := h'.queue.trans h.queue
  isListening := h'.isListening.trans h.isListening
  issued := h'.issued.trans h.issued
  served := h'.served.trans h.served

theorem Alike.sources {w w' : World} (h : w.Alike w') : w'.sources = w.sources := by
  unfold World.sources Store.get? Store.list
  rw [h.config, h.rules, h.secrets, h.overrides]

theorem Alike.built {w w' : World} (h : w.Alike w') : w'.built = w.built := by
  unfold World.built
  rw [h.sources, h.config]

end World

/-- How far a sync is. -/
inductive SyncPhase where
  | fresh
  /-- Waits for the right to sync. -/
  | queued (ticket : Nat)
  | reading
  /-- Has read the relabel entries. -/
  | entries (es : List RelabelEntry)
  /-- Has read the relabel entries and the rules. -/
  | listed (es : List RelabelEntry) (rules : List RuleResource)
  /-- Has read all, and built a catalog. -/
  | built (result : Catalog × SyncStats)
  /-- Gives the right to sync back. -/
  | ending (answer : Except SyncError SyncStats)
  | ended (answer : Except SyncError SyncStats)

namespace SyncPhase
open Catalog

/-- What is left of reading once the rules have been read. -/
def readOverrides (c : Config) (es : List RelabelEntry) (rules : List RuleResource) :
    Program (Except SyncError (Catalog × SyncStats)) :=
  .call (.overrides (.list none)) fun overrides =>
    match overrides with
    | .error e => .done (.error (.load "override resources" e))
    | .ok overrides =>
      .done (.ok (build ⟨c.isPlatform, es, Surroundings.managersOf c.overrideSpace overrides⟩
        rules))

/-- What is left of reading once the relabel entries have been read. -/
def readRules (c : Config) (es : List RelabelEntry) :
    Program (Except SyncError (Catalog × SyncStats)) :=
  .call (.rules (.list none)) fun rules =>
    match rules with
    | .error e => .done (.error (.load "rule resources" e))
    | .ok rules => readOverrides c es rules

theorem load_eq (c : Config) : load c =
    .call (.secrets (.get c.relabelSecret.secret)) fun secret =>
      match entriesIn c.relabelSecret secret with
      | .error e => .done (.error e)
      | .ok es => readRules c es := rfl

/-- What is left of a sync in a phase. -/
def rest (c : Config) : SyncPhase → Program (Except SyncError SyncStats)
  | fresh | queued _ => sync c
  | reading => (load c).bind finishSync
  | entries es => (readRules c es).bind finishSync
  | listed es rules => (readOverrides c es rules).bind finishSync
  | built result => finishSync (.ok result)
  | ending answer => .call .release fun _ => .done answer
  | ended answer => .done answer

/-- What a phase says of the wait of the next call. -/
def AllowsWait (wait : Option Wait) : SyncPhase → Prop
  | fresh => wait = none
  | queued n => wait = some (.ticket n)
  | _ => True

/-- Whether a program is a sync in a phase. -/
def Describes (c : Config) (p : SyncPhase) (t : ActiveProgram (Except SyncError SyncStats)) :
    Prop := t.program = p.rest c ∧ p.AllowsWait t.wait

/-- The place in the order of those who ask for the right to sync. -/
def ticket? : SyncPhase → Option Nat
  | queued n => some n
  | _ => none

/-- Whether a sync in the phase has the right to sync. -/
def isHolding : SyncPhase → Bool
  | fresh | queued _ | ended _ => false
  | _ => true

/-- Whether what a sync has read is what there is. -/
def IsCurrent (w : World) : SyncPhase → Prop
  | entries es => entriesIn w.config.relabelSecret w.sources.secret = .ok es
  | listed es rules =>
    entriesIn w.config.relabelSecret w.sources.secret = .ok es ∧ w.sources.rules = rules
  | built result => w.built = .ok result
  | _ => True

/-- Whether a sync in the phase is going to read everything. -/
def isWaiting : SyncPhase → Bool
  | fresh | queued _ => true
  | _ => false

/-- Whether a sync in the phase has done its work. -/
def isSuccess : SyncPhase → Bool
  | ending (.ok _) | ended (.ok _) => true
  | _ => false

theorem isCurrent_of_not_isHolding (w : World) {p : SyncPhase} (h : p.isHolding = false) :
    p.IsCurrent w := by
  cases p <;> simp_all [isHolding, IsCurrent]

theorem isCurrent_congr {w w' : World} (hs : w'.sources = w.sources)
    (hc : w'.config = w.config) {p : SyncPhase} (h : p.IsCurrent w) : p.IsCurrent w' := by
  cases p <;> simp_all [IsCurrent, World.built]

/-- All that one step of a sync can do. -/
inductive PhaseStep (w : World) : SyncPhase → SyncPhase → World → Prop
  /-- A call begins. -/
  | begin (p : SyncPhase) (h : p.isHolding = true) : PhaseStep w p p w
  | ask : PhaseStep w fresh (queued w.issued) { w with issued := w.issued + 1 }
  | acquire {n : Nat} (h : n ≤ w.served) : PhaseStep w (queued n) reading w
  /-- A store is read. -/
  | read {p p' : SyncPhase} {w' : World} (hp : p.isHolding = true) (hp' : p'.isHolding = true)
      (halike : w.Alike w') (hcurrent : p.IsCurrent w → p'.IsCurrent w')
      (hsuccess : p'.isSuccess = false) : PhaseStep w p p' w'
  | install (result : Catalog × SyncStats) :
      PhaseStep w (built result) (ending (.ok result.2)) { w with catalog := result.1 }
  | release (answer : Except SyncError SyncStats) :
      PhaseStep w (ending answer) (ended answer) { w with served := w.served + 1 }

theorem alike_readSecret (w : World) (key : ObjectKey) :
    w.Alike (w.perform (.secrets (.get key))).2 :=
  ⟨rfl, rfl, rfl, rfl, rfl, rfl, rfl, rfl, rfl⟩

/-- A listing of the rules answers all of them or fails. -/
theorem perform_listRules (w : World) :
    w.Alike (w.perform (.rules (.list none))).2
      ∧ ((w.perform (.rules (.list none))).1 = .ok w.sources.rules
        ∨ w.stores.rules.store.failingLists ≠ 0
          ∧ ∃ e, (w.perform (.rules (.list none))).1 = .error e) := by
  obtain ⟨s', reply, hread, hobjects, hreply⟩ := w.stores.rules.store.readAll_none
  have hp : w.perform (.rules (.list none)) = w.absorb (w.stores.rules.store.readAll none) := rfl
  rw [hp, hread]
  exact ⟨⟨rfl, hobjects, rfl, rfl, rfl, rfl, rfl, rfl, rfl⟩, hreply⟩

theorem perform_listOverrides (w : World) :
    w.Alike (w.perform (.overrides (.list none))).2
      ∧ ((w.perform (.overrides (.list none))).1 = .ok w.sources.overrides
        ∨ w.stores.overrides.store.failingLists ≠ 0
          ∧ ∃ e, (w.perform (.overrides (.list none))).1 = .error e) := by
  obtain ⟨s', reply, hread, hobjects, hreply⟩ := w.stores.overrides.store.readAll_none
  have hp : w.perform (.overrides (.list none))
      = w.absorb (w.stores.overrides.store.readAll none) := rfl
  rw [hp, hread]
  exact ⟨⟨rfl, rfl, rfl, hobjects, rfl, rfl, rfl, rfl, rfl⟩, hreply⟩

/-- Whether a program and its world are what a sync can come to from a phase. -/
def LeadsTo (w : World) (p : SyncPhase) (t : ActiveProgram (Except SyncError SyncStats))
    (w' : World) : Prop := ∃ p', p'.Describes w.config t ∧ PhaseStep w p p' w'

/-- The relabel entries are read, or the sync has failed. -/
theorem leadsTo_reading (w : World) (limit : Option (Nat × Except SyncError SyncStats)) :
    LeadsTo w reading ⟨Script.bind (match entriesIn w.config.relabelSecret w.sources.secret with
        | .error e => .done (.error e)
        | .ok es => readRules w.config es) finishSync, none, limit⟩
      (w.perform (.secrets (.get w.config.relabelSecret.secret))).2 := by
  have halike := alike_readSecret w w.config.relabelSecret.secret
  cases he : entriesIn w.config.relabelSecret w.sources.secret with
  | error e => exact ⟨.ending (.error e), ⟨rfl, trivial⟩, .read rfl rfl halike (fun _ => trivial) rfl⟩
  | ok es =>
    refine ⟨.entries es, ⟨rfl, trivial⟩, .read rfl rfl halike (fun _ => ?_) rfl⟩
    rw [IsCurrent, halike.config, halike.sources]
    exact he

/-- The rules are read, or the sync has failed. -/
theorem leadsTo_entries (w : World) (es : List RelabelEntry)
    (limit : Option (Nat × Except SyncError SyncStats)) :
    LeadsTo w (entries es) ⟨Script.bind (match (w.perform (.rules (.list none))).1 with
        | .error e => .done (.error (.load "rule resources" e))
        | .ok rules => readOverrides w.config es rules) finishSync, none, limit⟩
      (w.perform (.rules (.list none))).2 := by
  obtain ⟨halike, hread | ⟨-, e, hread⟩⟩ := perform_listRules w
  · rw [hread]
    refine ⟨.listed es w.sources.rules, ⟨rfl, trivial⟩, .read rfl rfl halike (fun hes => ?_) rfl⟩
    rw [IsCurrent, halike.config, halike.sources]
    exact ⟨hes, rfl⟩
  · rw [hread]
    exact ⟨.ending (.error (.load "rule resources" e)), ⟨rfl, trivial⟩,
      .read rfl rfl halike (fun _ => trivial) rfl⟩

/-- The override resources are read and the catalog is built, or the sync has failed. -/
theorem leadsTo_listed (w : World) (es : List RelabelEntry) (rules : List RuleResource)
    (limit : Option (Nat × Except SyncError SyncStats)) :
    LeadsTo w (listed es rules) ⟨Script.bind (match (w.perform (.overrides (.list none))).1 with
        | .error e => .done (.error (.load "override resources" e))
        | .ok overrides => .done (.ok (build ⟨w.config.isPlatform, es,
          Surroundings.managersOf w.config.overrideSpace overrides⟩ rules))) finishSync,
        none, limit⟩
      (w.perform (.overrides (.list none))).2 := by
  obtain ⟨halike, hread | ⟨-, e, hread⟩⟩ := perform_listOverrides w
  · rw [hread]
    refine ⟨.built (build ⟨w.config.isPlatform, es,
      Surroundings.managersOf w.config.overrideSpace w.sources.overrides⟩ rules),
      ⟨rfl, trivial⟩, .read rfl rfl halike (fun hes => ?_) rfl⟩
    rw [IsCurrent, halike.built, World.built, Sources.catalog, hes.1, ← hes.2]
    rfl
  · rw [hread]
    exact ⟨.ending (.error (.load "override resources" e)), ⟨rfl, trivial⟩,
      .read rfl rfl halike (fun _ => trivial) rfl⟩

/-- A sync does nothing but what is listed. -/
theorem exists_phaseStep {w w' : World} {p : SyncPhase}
    {t t' : ActiveProgram (Except SyncError SyncStats)} (hp : p.Describes w.config t)
    (h : t.move? w = some (t', w')) : ∃ p', p'.Describes w.config t' ∧ PhaseStep w p p' w' := by
  obtain ⟨program, wait, limit⟩ := t
  obtain ⟨rfl, hwait⟩ := hp
  -- the next call begins, which only matters for the right to sync, or it takes place
  cases p with
  | fresh =>
    obtain rfl : wait = none := hwait
    obtain ⟨rfl, rfl⟩ := Prod.mk.inj (Option.some.inj h)
    exact ⟨.queued w.issued, ⟨rfl, rfl⟩, .ask⟩
  | queued n =>
    obtain rfl : wait = some (.ticket n) := hwait
    simp only [ActiveProgram.move?, rest, sync] at h
    split at h
    · rename_i hover
      obtain ⟨rfl, rfl⟩ := Prod.mk.inj (Option.some.inj h)
      exact ⟨.reading, ⟨rfl, trivial⟩, .acquire (by simpa [World.canResume, World.isOver] using hover)⟩
    · cases h
  | reading =>
    obtain ⟨rfl, rfl⟩ | ⟨-, rfl, rfl⟩ := ActiveProgram.cases_of_move?_call h
    · exact ⟨.reading, ⟨rfl, trivial⟩, .begin _ rfl⟩
    · exact leadsTo_reading w limit
  | entries es =>
    obtain ⟨rfl, rfl⟩ | ⟨-, rfl, rfl⟩ := ActiveProgram.cases_of_move?_call h
    · exact ⟨.entries es, ⟨rfl, trivial⟩, .begin _ rfl⟩
    · exact leadsTo_entries w es limit
  | listed es rules =>
    obtain ⟨rfl, rfl⟩ | ⟨-, rfl, rfl⟩ := ActiveProgram.cases_of_move?_call h
    · exact ⟨.listed es rules, ⟨rfl, trivial⟩, .begin _ rfl⟩
    · exact leadsTo_listed w es rules limit
  | built result =>
    obtain ⟨rfl, rfl⟩ | ⟨-, rfl, rfl⟩ := ActiveProgram.cases_of_move?_call h
    · exact ⟨.built result, ⟨rfl, trivial⟩, .begin _ rfl⟩
    · exact ⟨.ending (.ok result.2), ⟨rfl, trivial⟩, .install result⟩
  | ending answer =>
    obtain ⟨rfl, rfl⟩ | ⟨-, rfl, rfl⟩ := ActiveProgram.cases_of_move?_call h
    · exact ⟨.ending answer, ⟨rfl, trivial⟩, .begin _ rfl⟩
    · exact ⟨.ended answer, ⟨rfl, trivial⟩, .release answer⟩
  | ended answer => simp [ActiveProgram.move?, rest] at h

theorem eq_ended_of_result? {c : Config} {p : SyncPhase}
    {t : ActiveProgram (Except SyncError SyncStats)} {r : Except SyncError SyncStats}
    (hp : p.Describes c t) (h : t.result? = some r) : p = ended r := by
  obtain ⟨hprogram, -⟩ := hp
  unfold ActiveProgram.result? at h
  rw [hprogram] at h
  cases p with
  | ended answer => exact congrArg ended (Option.some.inj h)
  | _ => cases h

/-! ## What a step of a sync leaves alone -/

namespace PhaseStep
variable {w w' : World} {p p' : SyncPhase}

theorem config (h : PhaseStep w p p' w') : w'.config = w.config := by
  cases h with
  | read _ _ halike => exact halike.config
  | _ => rfl

theorem sources (h : PhaseStep w p p' w') : w'.sources = w.sources := by
  cases h with
  | read _ _ halike => exact halike.sources
  | _ => rfl

theorem queue (h : PhaseStep w p p' w') : w'.queue = w.queue := by
  cases h with
  | read _ _ halike => exact halike.queue
  | _ => rfl

theorem isListening (h : PhaseStep w p p' w') : w'.isListening = w.isListening := by
  cases h with
  | read _ _ halike => exact halike.isListening
  | _ => rfl

theorem built (h : PhaseStep w p p' w') : w'.built = w.built := by
  unfold World.built
  rw [h.sources, h.config]

/-- What is current stays current while nobody else does anything. -/
theorem isCurrent (h : PhaseStep w p p' w') (hp : p.IsCurrent w) : p'.IsCurrent w' := by
  cases h with
  | begin => exact hp
  | read _ _ _ hcurrent => exact hcurrent hp
  | _ => trivial

/-- The catalog becomes the built one when a sync has done its work, and changes only then. -/
theorem isSuccess_or_catalog (h : PhaseStep w p p' w') (hp : p.IsCurrent w) :
    (∃ stats, w'.built = .ok (w'.catalog, stats))
      ∨ w'.catalog = w.catalog ∧ (p'.isSuccess = true → p.isSuccess = true) := by
  cases h with
  | begin => exact .inr ⟨rfl, id⟩
  | ask => exact .inr ⟨rfl, id⟩
  | acquire => exact .inr ⟨rfl, id⟩
  | read _ _ halike _ hsuccess => exact .inr ⟨halike.catalog, by simp [hsuccess]⟩
  | install result => exact .inl ⟨result.2, hp⟩
  | release answer => exact .inr ⟨rfl, by cases answer <;> exact id⟩

/-- A sync that is going to read everything still is, or has just acquired the right to. -/
theorem isWaiting_or_acquire (h : PhaseStep w p p' w') (hp : p.isWaiting = true) :
    p'.isWaiting = true ∨ ∃ n, p = queued n ∧ n ≤ w.served ∧ p' = reading ∧ w' = w := by
  cases h with
  | begin _ h => cases p <;> simp_all [isWaiting, isHolding]
  | ask => exact .inl rfl
  | acquire h => exact .inr ⟨_, rfl, h, rfl, rfl⟩
  | read h => cases p <;> simp_all [isWaiting, isHolding]
  | install => cases hp
  | release => cases hp

end PhaseStep

/-! ## A sync alone -/

/-- Whether no listing that a sync makes is going to fail. -/
structure ListsAnswer (w : World) : Prop where
  rules : w.stores.rules.store.failingLists = 0
  overrides : w.stores.overrides.store.failingLists = 0

theorem overrides_listRules (w : World) :
    (w.perform (.rules (.list none))).2.stores.overrides = w.stores.overrides := by
  obtain ⟨s', reply, hread, -⟩ := w.stores.rules.store.readAll_none
  have hp : w.perform (.rules (.list none)) = w.absorb (w.stores.rules.store.readAll none) := rfl
  rw [hp, hread]
  rfl

theorem run_readOverrides (c : Config) (es : List RelabelEntry) (rules : List RuleResource)
    {w : World} (hw : w.stores.overrides.store.failingLists = 0) :
    ∃ w', (readOverrides c es rules).run World.perform w = (.ok (build ⟨c.isPlatform, es,
      Surroundings.managersOf c.overrideSpace w.sources.overrides⟩ rules), w') ∧ w.Alike w' := by
  rw [readOverrides, Script.run]
  obtain ⟨halike, hread | ⟨hne, -⟩⟩ := perform_listOverrides w
  · rw [hread]
    exact ⟨_, rfl, halike⟩
  · exact absurd hw hne

theorem run_readRules (c : Config) (es : List RelabelEntry) {w : World} (hw : ListsAnswer w) :
    ∃ w', (readRules c es).run World.perform w = (.ok (build ⟨c.isPlatform, es,
      Surroundings.managersOf c.overrideSpace w.sources.overrides⟩ w.sources.rules), w')
      ∧ w.Alike w' := by
  rw [readRules, Script.run]
  obtain ⟨halike, hread | ⟨hne, -⟩⟩ := perform_listRules w
  · have hnext : (w.perform (.rules (.list none))).2.stores.overrides.store.failingLists = 0 := by
      rw [overrides_listRules]
      exact hw.overrides
    obtain ⟨w', hrun, halike'⟩ := run_readOverrides c es w.sources.rules hnext
    rw [hread]
    exact ⟨w', by rw [hrun, halike.sources], halike.trans halike'⟩
  · exact absurd hw.rules hne

theorem run_load {w : World} (hw : ListsAnswer w) :
    ∃ w', (load w.config).run World.perform w = (w.built, w') ∧ w.Alike w' := by
  have hread : (w.perform (.secrets (.get w.config.relabelSecret.secret))).1
      = w.sources.secret := rfl
  have hlists : ListsAnswer (w.perform (.secrets (.get w.config.relabelSecret.secret))).2 :=
    ⟨hw.rules, hw.overrides⟩
  have halike := alike_readSecret w w.config.relabelSecret.secret
  rw [load_eq, Script.run, hread, World.built, Sources.catalog]
  cases entriesIn w.config.relabelSecret w.sources.secret with
  | error e => exact ⟨_, rfl, halike⟩
  | ok es =>
    obtain ⟨w', hrun, halike'⟩ := run_readRules w.config es hlists
    exact ⟨w', by rw [hrun, halike.sources]; rfl, halike.trans halike'⟩

/-- A sync alone puts the catalog in place that it builds. -/
theorem run_sync {w : World} (hw : ListsAnswer w) :
    ((sync w.config).run World.perform w).1 = w.built.map (·.2)
      ∧ ((sync w.config).run World.perform w).2.catalog
        = match w.built with
          | .ok (catalog, _) => catalog
          | .error _ => w.catalog := by
  obtain ⟨w', hrun, halike⟩ := run_load hw
  have hsync : (sync w.config).run World.perform w
      = (finishSync w.built).run World.perform w' := by
    show ((load w.config).bind finishSync).run World.perform w = _
    rw [Script.run_bind, hrun]
  rw [hsync]
  cases w.built with
  | ok result => exact ⟨rfl, rfl⟩
  | error e => exact ⟨rfl, halike.catalog⟩

/-! ## What a sync leaves alone -/

theorem alike_run_readOverrides (c : Config) (es : List RelabelEntry) (rules : List RuleResource)
    (w : World) : w.Alike ((readOverrides c es rules).run World.perform w).2 := by
  obtain ⟨halike, -⟩ := perform_listOverrides w
  rw [readOverrides, Script.run]
  cases (w.perform (.overrides (.list none))).1 <;> exact halike

theorem alike_run_readRules (c : Config) (es : List RelabelEntry) (w : World) :
    w.Alike ((readRules c es).run World.perform w).2 := by
  obtain ⟨halike, -⟩ := perform_listRules w
  rw [readRules, Script.run]
  cases (w.perform (.rules (.list none))).1 with
  | error e => exact halike
  | ok rules => exact halike.trans (alike_run_readOverrides c es rules _)

theorem alike_run_load (c : Config) (w : World) :
    w.Alike ((load c).run World.perform w).2 := by
  have halike := alike_readSecret w c.relabelSecret.secret
  rw [load_eq, Script.run]
  cases entriesIn c.relabelSecret (w.perform (.secrets (.get c.relabelSecret.secret))).1 with
  | error e => exact halike
  | ok es => exact halike.trans (alike_run_readRules c es _)

/-- A sync changes no rule, whether it succeeds or fails. -/
theorem objects_rules_run_sync (c : Config) (w : World) :
    ((sync c).run World.perform w).2.stores.rules.store.objects
      = w.stores.rules.store.objects := by
  have hsync : (sync c).run World.perform w
      = (finishSync ((load c).run World.perform w).1).run World.perform
        ((load c).run World.perform w).2 := by
    show ((load c).bind finishSync).run World.perform w = _
    rw [Script.run_bind]
  have hload := (alike_run_load c w).rules
  rw [hsync]
  cases ((load c).run World.perform w).1 <;> exact hload

end SyncPhase

end RuleCatalog
