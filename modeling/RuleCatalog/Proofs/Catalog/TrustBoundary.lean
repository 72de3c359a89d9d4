import RuleCatalog.Proofs.Catalog.Account

/-! # The catalog at the trust boundary

What users state reaches the platform's part of the catalog in one way only: a user's rule that
comes before a rule of the platform with the same identity overtakes it, and the platform's rule is
skipped as a repetition. Main statement: `platformHeld_eq_iff`, on two stores that agree on all
resources of the platform. -/
namespace RuleCatalog

/-- What a catalog holds under an identity as a rule of the platform. -/
def Catalog.platformHeld (c : Catalog) (id : Identity) :
    Option CatalogRule × Option CatalogRule :=
  ((c.rules.get? id).filter (·.trust == .platformManaged),
    (c.dropped.get? id).filter (·.trust == .platformManaged))

/-- Whether two stores agree on the resources in the namespaces of the platform. -/
def AgreesOnPlatform (c : Config) (s s' : Store RuleResource) : Prop :=
  ∀ key, c.isPlatform key.space = true → s.get? key = s'.get? key

/-- Whether the platform has a rule with an identity. -/
def StatedByPlatform (c : Config) (s : Store RuleResource) (id : Identity) : Prop :=
  ∃ p d, RulePlace.Defines s p d ∧ d.Has id ∧ c.isPlatform p.key.space = true

/-- Whether a rule of the platform has the identity of a user's rule that comes first. -/
def Overtaken (c : Config) (s : Store RuleResource) (id : Identity) : Prop :=
  StatedByPlatform c s id
    ∧ ∃ p d, RulePlace.IsFirst s id p d ∧ c.isPlatform p.key.space = false

theorem AgreesOnPlatform.symm {c : Config} {s s' : Store RuleResource}
    (h : AgreesOnPlatform c s s') : AgreesOnPlatform c s' s :=
  fun key hkey => (h key hkey).symm

theorem RulePlace.Defines.of_agreesOnPlatform {c : Config} {s s' : Store RuleResource}
    {p : RulePlace} {d : Definition} (h : AgreesOnPlatform c s s')
    (hp : c.isPlatform p.key.space = true) (hd : p.Defines s d) : p.Defines s' d := by
  unfold Defines at hd ⊢
  rwa [← h p.key hp]

theorem StatedByPlatform.of_agreesOnPlatform {c : Config} {s s' : Store RuleResource}
    {id : Identity} (hagrees : AgreesOnPlatform c s s') (h : StatedByPlatform c s id) :
    StatedByPlatform c s' id := by
  obtain ⟨p, d, hd, hhas, hp⟩ := h
  exact ⟨p, d, hd.of_agreesOnPlatform hagrees hp, hhas, hp⟩

theorem StatedByPlatform.exists_isFirst {c : Config} {s : Store RuleResource} {id : Identity}
    (h : StatedByPlatform c s id) : ∃ p d, RulePlace.IsFirst s id p d := by
  obtain ⟨q, e, he, hhas, -⟩ := h
  exact Catalog.exists_isFirst he hhas

namespace RulePlace
variable {c : Config} {s s' : Store RuleResource} {id : Identity} {p p' : RulePlace}
  {d d' : Definition}

/-- Stores that agree on the platform have one first definition where it is the platform's. -/
theorem IsFirst.eq_of_agreesOnPlatform (h : AgreesOnPlatform c s s') (hd : IsFirst s id p d)
    (hd' : IsFirst s' id p' d') (hp : c.isPlatform p.key.space = true)
    (hp' : c.isPlatform p'.key.space = true) : d = d' := by
  have hdefines : p.Defines s' d := hd.defines.of_agreesOnPlatform h hp
  have hdefines' : p'.Defines s d' := hd'.defines.of_agreesOnPlatform h.symm hp'
  obtain rfl : p = p' :=
    eq_of_before (hd.first p' d' hdefines' hd'.has) (hd'.first p d hdefines hd.has)
  exact hdefines.unique hd'.defines

/-- The first definition of an identity is the platform's, unless a user's rule overtakes it. -/
theorem IsFirst.isPlatform_iff (h : IsFirst s id p d) (hplatform : StatedByPlatform c s id) :
    c.isPlatform p.key.space = true ↔ ¬ Overtaken c s id := by
  constructor
  · rintro hp ⟨-, q, e, he, huser⟩
    obtain rfl := h.unique he
    simp [hp] at huser
  · intro hnot
    by_contra hp
    exact hnot ⟨hplatform, p, d, h, by simpa using hp⟩

end RulePlace

namespace Definition
variable {d : Definition} {s : Surroundings}

theorem trust_of_held {e : CatalogRule}
    (h : (d.held s).1 = some e ∨ (d.held s).2 = some e) : e.trust = .of s.isPlatform d.owner.space := by
  obtain ⟨labels, -, hheld⟩ | ⟨-, hheld⟩ := d.held_cases s
  all_goals
    rw [hheld] at h
    rcases h with h | h
  · rw [← Option.some.inj h]
    rfl
  · cases h
  · cases h
  · rw [← Option.some.inj h]
    rfl

theorem held_ne_none (d : Definition) (s : Surroundings) : d.held s ≠ (none, none) := by
  obtain ⟨labels, -, hheld⟩ | ⟨-, hheld⟩ := d.held_cases s <;> simp [hheld]

end Definition

namespace Catalog
variable {c : Config} {es : List RelabelEntry} {managers : SortedMap String (Option Manager)}
  {store store' : Store RuleResource} {id : Identity} {p : RulePlace} {d : Definition}

theorem platformHeld_eq (catalog : Catalog) (id : Identity) : catalog.platformHeld id
    = ((catalog.held id).1.filter (·.trust == .platformManaged),
      (catalog.held id).2.filter (·.trust == .platformManaged)) := rfl

theorem filter_eq_ite {α : Type} {o : Option α} {p : α → Bool} {b : Bool}
    (h : ∀ a, o = some a → p a = b) : o.filter p = if b = true then o else none := by
  cases o with
  | none => simp
  | some a => cases b <;> simp [h a rfl]

theorem platformHeld_build (hstore : store.IsKeyed) (hd : RulePlace.IsFirst store id p d) :
    (build ⟨c.isPlatform, es, managers⟩ store.list).1.platformHeld id
      = if c.isPlatform p.key.space = true then d.held ⟨c.isPlatform, es, managers⟩
        else (none, none) := by
  have hheld := held_build_of_isFirst ⟨c.isPlatform, es, managers⟩ hd
  have hspace : d.owner.space = p.key.space := congrArg ObjectKey.space (hd.defines.key_eq hstore)
  have hof : (Trust.of c.isPlatform p.key.space == .platformManaged)
      = c.isPlatform p.key.space := by
    unfold Trust.of
    cases c.isPlatform p.key.space <;> rfl
  have htrust : ∀ e, (d.held ⟨c.isPlatform, es, managers⟩).1 = some e
      ∨ (d.held ⟨c.isPlatform, es, managers⟩).2 = some e →
      (e.trust == .platformManaged) = c.isPlatform p.key.space := by
    intro e he
    rw [Definition.trust_of_held he, hspace]
    exact hof
  rw [platformHeld_eq, hheld, filter_eq_ite fun e he => htrust e (.inl he),
    filter_eq_ite fun e he => htrust e (.inr he)]
  split <;> rfl

theorem platformHeld_build_of_not_stated (hstore : store.IsKeyed)
    (h : ¬ StatedByPlatform c store id) :
    (build ⟨c.isPlatform, es, managers⟩ store.list).1.platformHeld id = (none, none) := by
  obtain ⟨p, d, hd, -⟩ | hheld := held_build_cases ⟨c.isPlatform, es, managers⟩ store id
  · have hp : ¬ c.isPlatform p.key.space = true := fun hp => h ⟨p, d, hd.defines, hd.has, hp⟩
    rw [platformHeld_build hstore hd, if_neg hp]
  · rw [platformHeld_eq, hheld]
    rfl

theorem platformHeld_build_eq_iff (hstore : store.IsKeyed) (hstore' : store'.IsKeyed)
    (hagrees : AgreesOnPlatform c store store') (id : Identity) :
    (build ⟨c.isPlatform, es, managers⟩ store.list).1.platformHeld id
        = (build ⟨c.isPlatform, es, managers⟩ store'.list).1.platformHeld id
      ↔ (Overtaken c store id ↔ Overtaken c store' id) := by
  by_cases hstated : StatedByPlatform c store id
  · have hstated' : StatedByPlatform c store' id := hstated.of_agreesOnPlatform hagrees
    obtain ⟨p, d, hd⟩ := hstated.exists_isFirst
    obtain ⟨p', d', hd'⟩ := hstated'.exists_isFirst
    have hovertaken : (Overtaken c store id ↔ Overtaken c store' id)
        ↔ (c.isPlatform p.key.space = true ↔ c.isPlatform p'.key.space = true) := by
      rw [hd.isPlatform_iff hstated, hd'.isPlatform_iff hstated', not_iff_not]
    rw [platformHeld_build hstore hd, platformHeld_build hstore' hd', hovertaken]
    -- where both are the platform's they are one, and where one is, the other holds nothing
    by_cases hp : c.isPlatform p.key.space = true <;>
      by_cases hp' : c.isPlatform p'.key.space = true
    · simp [hp, hp', hd.eq_of_agreesOnPlatform hagrees hd' hp hp']
    · simp [hp, hp', d.held_ne_none]
    · simp [hp, hp', (d'.held_ne_none _).symm]
    · simp [hp, hp']
  · have hstated' : ¬ StatedByPlatform c store' id :=
      fun h => hstated (h.of_agreesOnPlatform hagrees.symm)
    rw [platformHeld_build_of_not_stated hstore hstated,
      platformHeld_build_of_not_stated hstore' hstated']
    simp [Overtaken, hstated, hstated']

/-- Two syncs over stores that agree on the resources of the platform, with the same relabel
entries and overrides, hold the same under an identity as a rule of the platform, in force or
silenced, exactly when it is overtaken by a user's rule in both stores or in none. -/
theorem platformHeld_eq_iff {w₁ w₂ w₁' w₂' : World} {stats₁ stats₂ : SyncStats}
    (hconfig : w₂.config = w₁.config) (hstore₁ : w₁.stores.rules.store.IsKeyed)
    (hstore₂ : w₂.stores.rules.store.IsKeyed)
    (hagrees : AgreesOnPlatform w₁.config w₁.stores.rules.store w₂.stores.rules.store)
    (hsecret : w₂.sources.secret = w₁.sources.secret)
    (hoverrides : w₂.sources.overrides = w₁.sources.overrides)
    (hsync₁ : (sync w₁.config).run World.perform w₁ = (.ok stats₁, w₁'))
    (hsync₂ : (sync w₂.config).run World.perform w₂ = (.ok stats₂, w₂')) (id : Identity) :
    w₁'.catalog.platformHeld id = w₂'.catalog.platformHeld id
      ↔ (Overtaken w₁.config w₁.stores.rules.store id
        ↔ Overtaken w₁.config w₂.stores.rules.store id) := by
  obtain ⟨es₁, hes₁, hbuild₁⟩ := Sources.catalog_eq_ok (World.built_of_run_sync hsync₁)
  obtain ⟨es₂, hes₂, hbuild₂⟩ := Sources.catalog_eq_ok (World.built_of_run_sync hsync₂)
  rw [hconfig, hsecret, hes₁] at hes₂
  obtain rfl := Except.ok.inj hes₂
  rw [hconfig, hoverrides] at hbuild₂
  rw [(Prod.mk.inj hbuild₁).1, (Prod.mk.inj hbuild₂).1]
  exact platformHeld_build_eq_iff hstore₁ hstore₂ hagrees id

/-- One alert in a resource of each of some namespaces. -/
def copies (spaces : List String) : Store RuleResource :=
  .after (spaces.map fun space => .upsert ⟨.fresh ⟨space, "disk"⟩, [⟨"disk", none, [⟨some "DiskFull",
    none, "disk_used > 90", none, .ofList [("severity", "warning")], ∅⟩]⟩]⟩)

def plain : World := (World.empty .default).withStore (copies ["openshift-monitoring"])

/-- The same world, once a user has stated a copy of the alert. -/
def copied : World := (World.empty .default).withStore (copies ["openshift-monitoring", "app-team"])

theorem isKeyed_copies (spaces : List String) : (copies spaces).IsKeyed := by
  unfold copies
  exact Store.isKeyed_after _

theorem agreesOnPlatform_copied :
    AgreesOnPlatform .default plain.stores.rules.store copied.stores.rules.store := by
  intro key hkey
  have hcopied := Store.get?_upsert (copies ["openshift-monitoring"]) ⟨.fresh ⟨"app-team", "disk"⟩,
    [⟨"disk", none, [⟨some "DiskFull", none, "disk_used > 90", none,
      .ofList [("severity", "warning")], ∅⟩]⟩]⟩ key
  rw [if_neg] at hcopied
  · exact hcopied.symm
  · intro heq
    rw [Std.LawfulEqOrd.eq_of_compare heq] at hkey
    exact absurd hkey (by decide)

/-- The copy overtakes the alert: the catalog no longer has it as a rule of the platform. -/
theorem run_sync_copied : ∃ w w' id, (sync .default).run World.perform plain = (.ok ⟨1, 0, 0⟩, w)
    ∧ (sync .default).run World.perform copied = (.ok ⟨1, 0, 1⟩, w')
    ∧ w.catalog.platformHeld id ≠ w'.catalog.platformHeld id := by
  have hplain : ((sync .default).run World.perform plain).1 = .ok ⟨1, 0, 0⟩ := by decide +kernel
  have hcopied : ((sync .default).run World.perform copied).1 = .ok ⟨1, 0, 1⟩ := by decide +kernel
  refine ⟨_, _, ⟨"DiskFull;6a6373589775092adf1d09371c6dc5cee6d9c2af681acff550aac8a755aaaf77"⟩,
    by rw [← hplain], by rw [← hcopied], ?_⟩
  decide +kernel

theorem platformHeld_eq_iff_copied : ∃ w w' id,
    plain.stores.rules.store.IsKeyed ∧ copied.stores.rules.store.IsKeyed
    ∧ AgreesOnPlatform .default plain.stores.rules.store copied.stores.rules.store
    ∧ (sync .default).run World.perform plain = (.ok ⟨1, 0, 0⟩, w)
    ∧ (sync .default).run World.perform copied = (.ok ⟨1, 0, 1⟩, w')
    ∧ (w.catalog.platformHeld id = w'.catalog.platformHeld id
      ↔ (Overtaken .default plain.stores.rules.store id
        ↔ Overtaken .default copied.stores.rules.store id)) := by
  obtain ⟨w, w', id, hplain, hcopied, -⟩ := run_sync_copied
  exact ⟨w, w', id, isKeyed_copies _, isKeyed_copies _, agreesOnPlatform_copied, hplain, hcopied,
    @platformHeld_eq_iff plain copied _ _ _ _ rfl (isKeyed_copies _) (isKeyed_copies _)
      agreesOnPlatform_copied rfl rfl hplain hcopied id⟩

/-- A user who states a copy of a rule takes it out of the platform's part of the catalog. -/
theorem platformHeld_ne_of_copy :
    AgreesOnPlatform .default plain.stores.rules.store copied.stores.rules.store
    ∧ copied.sources.secret = plain.sources.secret
    ∧ copied.sources.overrides = plain.sources.overrides
    ∧ ∃ w w' id, (sync .default).run World.perform plain = (.ok ⟨1, 0, 0⟩, w)
      ∧ (sync .default).run World.perform copied = (.ok ⟨1, 0, 1⟩, w')
      ∧ w.catalog.platformHeld id ≠ w'.catalog.platformHeld id :=
  ⟨agreesOnPlatform_copied, rfl, rfl, run_sync_copied⟩

end Catalog

end RuleCatalog
