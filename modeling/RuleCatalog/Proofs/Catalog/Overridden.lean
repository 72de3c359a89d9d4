import RuleCatalog.Proofs.Catalog.Account
import RuleCatalog.Proofs.Override.Effect
import RuleCatalog.Proofs.Service.Race

/-! # Overrides in the catalog

Requests that succeed write entries for a rule, and the next sync relabels what is reported of the
rule with them. Overrides of alerts take effect in the catalog, as far as the texts have room in
patterns; those of recording rules never do. Main statement: `takesEffect_iff`. -/
namespace RuleCatalog
open Override OverrideRequest

/-! ## Requests one after another -/

/-- A store once requests for a rule have succeeded, one after another and from no override resource
on. Others may do what they like to the resources of other rules. -/
inductive Overridden (c : Config) (id : Identity) (r : Rule) : Store OverrideResource → Prop
  | start {s : Store OverrideResource} (hs : s.IsKeyed) (hnone : s.get? (key c id) = none) :
    Overridden c id r s
  | request {s s' : Store OverrideResource} {x : OverrideCall} {e : CatalogRule}
    {outcome : OverrideOutcome} (h : Overridden c id r s) (hlookup : x.catalog.lookup? id = some e)
    (hstated : e.stated = r) (hrun : (x.script c id).run Store.answer s = (.ok outcome, s')) :
    Overridden c id r s'
  | others {s : Store OverrideResource} (a : StoreAction OverrideResource)
    (h : Overridden c id r s) (hkept : (s.act a).1.get? (key c id) = s.get? (key c id)) :
    Overridden c id r (s.act a).1

variable {c : Config} {id : Identity} {r : Rule} {name : String}

theorem OverrideCall.subject_of_lookup? {x : OverrideCall} {e : CatalogRule}
    (hname : e.stated.name? = some name) (h : x.catalog.lookup? id = some e) :
    x.subject id = subjectOf id e.stated := by
  simp only [subject, h, subjectOf, alertName, hname, Option.getD_some]

theorem OverrideCall.stored_of_run {x : OverrideCall} {s s' : Store OverrideResource}
    {outcome : OverrideOutcome} (hs : s.IsKeyed)
    (hrun : (x.script c id).run Store.answer s = (.ok outcome, s')) :
    ∃ edit, x.edit id (stored c id s) = .ok edit
      ∧ stored c id s' = edit.entries (stored c id s) := by
  rcases x.script_cases c id with ⟨e, he⟩ | ⟨operation, hedit⟩
  · rw [he] at hrun
    cases (Prod.mk.inj hrun).1
  · rw [hedit, Phase.edit_eq_script] at hrun
    exact stored_of_run_reading hs hrun

namespace Overridden

theorem isKeyed {s : Store OverrideResource} (h : Overridden c id r s) : s.IsKeyed := by
  induction h with
  | start hs hnone => exact hs
  | @request s s' x e outcome h hlookup hstated hrun ih =>
    have hkeyed := Store.isKeyed_run (x.script c id) ih
    rwa [hrun] at hkeyed
  | others a h hkept ih => exact Store.isKeyed_act ih a

theorem reachable {s : Store OverrideResource} (hname : r.name? = some name)
    (h : Overridden c id r s) : Reachable (subjectOf id r) (stored c id s) := by
  -- on the requests: each adds its edit, and what others do is elsewhere
  induction h with
  | start hs hnone =>
    rw [stored_of_none hnone]
    exact .nil
  | @request s s' x e outcome h hlookup hstated hrun ih =>
    obtain ⟨edit, hedit, hstored⟩ := OverrideCall.stored_of_run h.isKeyed hrun
    subst hstated
    rw [OverrideCall.edit, OverrideCall.subject_of_lookup? hname hlookup] at hedit
    rw [hstored]
    exact ih.edit hedit
  | others a h hkept ih =>
    unfold stored at ih ⊢
    rwa [hkept]

end Overridden

/-! ## The catalog of the next sync -/

/-- Whether a catalog has a rule as its entries say: silenced if they silence it, and in force with
the overrides otherwise. -/
structure TakesEffect (catalog : Catalog) (id : Identity) (stated : Labels)
    (es : List RelabelEntry) : Prop where
  dropped_iff : catalog.dropped.contains id = true ↔ isDropped id es = true
  overridden : isDropped id es = false → ∃ e, catalog.rules.get? id = some e
    ∧ e.rule.labels.business = (effective id stated es).business

namespace Catalog
variable {s : Surroundings} {store : Store RuleResource} {p : RulePlace} {d : Definition}
  {es : List RelabelEntry}

theorem takesEffect_iff_of_held {catalog : Catalog} {stated : Labels}
    {rule silenced : Option CatalogRule} (h : catalog.held id = (rule, silenced)) :
    TakesEffect catalog id stated es ↔ (silenced.isSome = true ↔ isDropped id es = true)
      ∧ (isDropped id es = false → ∃ e, rule = some e
        ∧ e.rule.labels.business = (effective id stated es).business) := by
  obtain ⟨rfl, rfl⟩ := Prod.mk.inj h
  exact ⟨fun h => ⟨h.dropped_iff, h.overridden⟩, fun h => ⟨h.1, h.2⟩⟩

/-- What a definition makes of its rule takes effect if what relabeling makes of it does. -/
theorem takesEffect_iff_accords {catalog : Catalog} (h : catalog.held id = d.held s) :
    TakesEffect catalog id d.rule.labels es ↔ Accords id d.rule.labels es (d.outcome s) := by
  obtain ⟨labels, houtcome, hheld⟩ | ⟨houtcome, hheld⟩ := d.held_cases s
  · have hbusiness : (d.toCatalogRule s (Identity.ofRule d.rule) labels).rule.labels.business
        = labels.business := Definition.business_stamp ..
    rw [takesEffect_iff_of_held (h.trans hheld), houtcome, Accords, ← hbusiness]
    cases isDropped id es <;> simp
  · rw [takesEffect_iff_of_held (h.trans hheld), houtcome, Accords]
    cases isDropped id es <;> simp

theorem takesEffect_build_iff (hfirst : RulePlace.IsFirst store id p d)
    (hplatform : s.isPlatform d.owner.space = true) :
    TakesEffect (build s store.list).1 id d.rule.labels es
      ↔ Accords id d.rule.labels es (relabel s.entries d.rule.reportedLabels) := by
  have hheld := held_build_of_isFirst s hfirst
  have houtcome : d.outcome s = relabel s.entries d.rule.reportedLabels := if_pos hplatform
  rw [takesEffect_iff_accords hheld, houtcome]

theorem ne_empty_of_has (h : d.Has id) : id ≠ .empty := by
  rintro rfl
  have hempty := Identity.isEmpty_ofRule d.rule
  rw [h.2, Option.isNone_eq_false_iff.2 h.1] at hempty
  cases hempty

/-- Once requests for a rule of the platform have succeeded and their entries are in place, a sync
succeeds, and its catalog has the rule as the entries say exactly when there are none, or the rule
is an alert and its texts have room in patterns. -/
theorem takesEffect_iff {w : World}
    (hfirst : RulePlace.IsFirst w.stores.rules.store id p d)
    (hplatform : w.config.isPlatform d.owner.space = true)
    (hoverridden : Overridden w.config id d.rule w.stores.overrides.store)
    (hentries : entriesIn w.config.relabelSecret w.sources.secret
      = .ok (stored w.config id w.stores.overrides.store))
    (hlists : SyncPhase.ListsAnswer w) :
    ∃ stats w', (sync w.config).run World.perform w = (.ok stats, w')
      ∧ (TakesEffect w'.catalog id d.rule.labels (stored w.config id w.stores.overrides.store)
        ↔ stored w.config id w.stores.overrides.store = []
          ∨ d.rule.kind = .alert ∧ HasRoom (";" ++ (subjectOf id d.rule).anchored)
            ∧ HasRoom id.text) := by
  obtain ⟨name, hname⟩ := Option.isSome_iff_exists.1 hfirst.has.1
  obtain ⟨stats, w', hrun, hcatalog⟩ := exists_run_sync hentries hlists
  refine ⟨stats, w', hrun, ?_⟩
  rw [hcatalog, takesEffect_build_iff hfirst hplatform]
  exact (hoverridden.reachable hname).accords_iff hname (ne_empty_of_has hfirst.has)

theorem entriesIn_of_payload {l : SecretLocation} {secret : Option Secret} {payload : List UInt8}
    (h : (secret.bind fun s => s.data.get? l.key) = some payload)
    (hes : RelabelEntry.ofPayload? payload = some es) : entriesIn l secret = .ok es := by
  rw [entriesIn, h]
  dsimp only
  rw [hes]

/-- A world with a recording rule of the platform, and with given override resources and relabel
entries. -/
def recording (overrides : Store OverrideResource) (entries : String) : World :=
  (((World.empty .default).withStore rules).withStore overrides).withStore secrets
where
  rule : Rule := ⟨none, some "job:up:sum", "sum by (job) (up)", none, ∅, ∅⟩
  id : Identity :=
    ⟨"job:up:sum;67b5fc9464566b7ed2af6c5ef3970a401efd198f13304406ad50749254750374"⟩
  owner : Metadata := .fresh ⟨"openshift-monitoring", "jobs"⟩
  rules : Store RuleResource := .after [.upsert ⟨owner, [⟨"jobs", none, [rule]⟩]⟩]
  secret : Secret := ⟨.fresh SecretLocation.default.secret,
    .ofList [(SecretLocation.default.key, Utf8.bytes entries)]⟩
  secrets : Store Secret := .after [.upsert secret]

/-- The entries that silence the recording rule. -/
def silences : String := .ofList (lines.flatMap String.toList)
where
  lines : List String := [
    "- source_labels: [&a openshift_io_alert_rule_id, alertname]\n",
    "  regex: ;job:up:sum\n",
    "  target_label: *a\n",
    "  replacement: &b job:up:sum;",
    "67b5fc9464566b7ed2af6c5ef3970a401efd198f13304406ad50749254750374\n",
    "- source_labels: [*a]\n",
    "  regex: *b\n",
    "  action: drop\n"]

theorem isFirst_recording (overrides : Store OverrideResource) (entries : String) :
    ∃ p d, RulePlace.IsFirst (recording overrides entries).stores.rules.store recording.id p d
      ∧ d.rule = recording.rule ∧ d.owner.space = "openshift-monitoring" := by
  have hfind : (definitions recording.rules.list).find? (·.Has recording.id)
      = some ⟨{ recording.owner with version := some "1" }, recording.rule⟩ := by
    decide +kernel
  obtain ⟨p, hp⟩ := find?_definitions_eq_some_iff.1 hfind
  exact ⟨p, _, hp, rfl, rfl⟩

theorem payload_recording (overrides : Store OverrideResource) (entries : String) :
    ((recording overrides entries).sources.secret.bind fun s =>
      s.data.get? SecretLocation.default.key) = some (Utf8.bytes entries) := by
  have hsecret : (recording overrides entries).sources.secret
      = (Store.empty.upsert (recording.secret entries)).store.get? SecretLocation.default.secret :=
    rfl
  have hkey : compare SecretLocation.default.secret (Resource.key (recording.secret entries))
      = .eq := Std.ReflCmp.compare_self
  have hdata : (Store.empty.next (recording.secret entries)).data
      = SortedMap.insert ∅ SecretLocation.default.key (Utf8.bytes entries) := rfl
  rw [hsecret, Store.get?_upsert, if_pos hkey, Option.bind_some, hdata]
  exact SortedMap.get?_insert_self ..

theorem ofPayload?_silences : RelabelEntry.ofPayload? (Utf8.bytes silences)
    = some [anchor recording.id "job:up:sum" ∅, silence recording.id] := by
  have hchars : silences.toList = silences.lines.flatMap String.toList := String.toList_ofList
  rw [RelabelEntry.ofPayload?_bytes (by decide +kernel)]
  unfold Yaml.Document.read? Yaml.Token.scan?
  rw [hchars]
  decide +kernel

theorem entriesIn_silences (overrides : Store OverrideResource) :
    entriesIn .default (recording overrides silences).sources.secret
      = .ok [anchor recording.id "job:up:sum" ∅, silence recording.id] :=
  entriesIn_of_payload (payload_recording overrides silences) ofPayload?_silences

theorem run_drop_of_none {catalog : Catalog} {e : CatalogRule} {s : Store OverrideResource}
    (he : platformRule catalog id "drop" = .ok e) (hs : s.get? (key c id) = none) :
    (OverrideCall.script c id ⟨catalog, .drop⟩).run Store.answer s
      = (.ok .created, s.countRead.countWrite.write
        (fresh c id [anchor id (alertName e) e.stated.labels, silence id])) := by
  have hscript : OverrideCall.script c id ⟨catalog, .drop⟩
      = OverrideRequest.edit c id "drop rule" fun es =>
        .ok (Override.drop id (alertName e) e.stated.labels es) := by
    change Request.ofReply (platformRule catalog id "drop") >>= _ = _
    rw [he]
    rfl
  have hdrop : Override.drop id (alertName e) e.stated.labels []
      = .write [anchor id (alertName e) e.stated.labels, silence id] := rfl
  rw [hscript, Phase.edit_eq_script, run_reading, hs, Phase.afterRead, hdrop]
  exact run_creating (s := s.countRead) hs _ _ _

/-- The recording rule is in the catalog, and its silence succeeds. -/
theorem exists_silence : ∃ (stats : SyncStats) (w : World) (e : CatalogRule)
    (overrides : Store OverrideResource),
    (sync .default).run World.perform (recording .empty "") = (.ok stats, w)
    ∧ w.catalog.lookup? recording.id = some e ∧ e.stated = recording.rule
    ∧ (OverrideCall.script .default recording.id ⟨w.catalog, .drop⟩).run Store.answer .empty
      = (.ok .created, overrides)
    ∧ stored .default recording.id overrides
      = [anchor recording.id "job:up:sum" ∅, silence recording.id]
    ∧ overrides.failingLists = 0 := by
  have hentries : entriesIn .default (recording .empty "").sources.secret = .ok [] :=
    entriesIn_of_payload (payload_recording .empty "") (RelabelEntry.ofPayload?_of_blank nofun)
  obtain ⟨stats, w, hsync, hcatalog⟩ :=
    exists_run_sync (w := recording .empty "") hentries ⟨rfl, rfl⟩
  obtain ⟨p, d, hfirst, hrule, hspace⟩ := isFirst_recording .empty ""
  obtain ⟨e, he, hstated, htrust⟩ : ∃ e, w.catalog.lookup? recording.id = some e
      ∧ e.stated = d.rule ∧ e.trust = .of Config.default.isPlatform d.owner.space := by
    rw [hcatalog]
    exact exists_lookup?_of_isFirst hfirst
  rw [hrule] at hstated
  rw [hspace] at htrust
  have hplatform : Trust.of Config.default.isPlatform "openshift-monitoring" = .platformManaged := by
    decide
  have hrun := run_drop_of_none (c := .default) (s := .empty)
    (platformRule_eq_ok_iff.2 ⟨he, htrust.trans hplatform⟩) rfl
  have hname : alertName e = "job:up:sum" := by
    rw [alertName, hstated]
    rfl
  rw [hname, hstated] at hrun
  exact ⟨stats, w, e, _, hsync, he, hstated, hrun, stored_write key_fresh, rfl⟩

/-- A sync with the entries of its override resource puts the silenced recording rule in force. -/
theorem takesEffect_iff_recording : ∃ overrides stats w, ∃ p d,
    RulePlace.IsFirst (recording overrides silences).stores.rules.store recording.id p d
    ∧ Config.default.isPlatform d.owner.space = true
    ∧ Overridden .default recording.id d.rule overrides
    ∧ entriesIn .default (recording overrides silences).sources.secret
      = .ok (stored .default recording.id overrides)
    ∧ SyncPhase.ListsAnswer (recording overrides silences)
    ∧ (sync .default).run World.perform (recording overrides silences) = (.ok stats, w)
    ∧ (TakesEffect w.catalog recording.id d.rule.labels (stored .default recording.id overrides)
      ↔ stored .default recording.id overrides = []
        ∨ d.rule.kind = .alert ∧ HasRoom (";" ++ (subjectOf recording.id d.rule).anchored)
          ∧ HasRoom recording.id.text) := by
  obtain ⟨-, w, e, overrides, -, he, hstated, hrun, hstored, hlists⟩ := exists_silence
  obtain ⟨p, d, hfirst, hrule, hspace⟩ := isFirst_recording overrides silences
  have hplatform : Config.default.isPlatform d.owner.space = true := by
    rw [hspace]
    decide
  have hoverridden : Overridden .default recording.id d.rule overrides :=
    .request (.start Store.isKeyed_empty rfl) he (hstated.trans hrule.symm) hrun
  have hentries := entriesIn_silences overrides
  rw [← hstored] at hentries
  obtain ⟨stats, w', hsync, hiff⟩ := takesEffect_iff (w := recording overrides silences) hfirst
    hplatform hoverridden hentries ⟨rfl, hlists⟩
  exact ⟨overrides, stats, w', p, d, hfirst, hplatform, hoverridden, hentries, ⟨rfl, hlists⟩, hsync,
    hiff⟩

/-- A recording rule whose silence has succeeded stays in force. -/
theorem not_takesEffect_of_record : ∃ stats w e overrides stats' w',
    (sync .default).run World.perform (recording .empty "") = (.ok stats, w)
    ∧ w.catalog.lookup? recording.id = some e ∧ e.stated = recording.rule
    ∧ (OverrideCall.script .default recording.id ⟨w.catalog, .drop⟩).run Store.answer .empty
      = (.ok .created, overrides)
    ∧ entriesIn .default (recording overrides silences).sources.secret
      = .ok (stored .default recording.id overrides)
    ∧ (sync .default).run World.perform (recording overrides silences) = (.ok stats', w')
    ∧ ¬ TakesEffect w'.catalog recording.id recording.rule.labels
      (stored .default recording.id overrides) := by
  obtain ⟨stats, w, e, overrides, hsync, he, hstated, hrun, hstored, hlists⟩ := exists_silence
  obtain ⟨p, d, hfirst, hrule, hspace⟩ := isFirst_recording overrides silences
  have hplatform : Config.default.isPlatform d.owner.space = true := by
    rw [hspace]
    decide
  have hentries := entriesIn_silences overrides
  obtain ⟨stats', w', hsync', hcatalog⟩ :=
    exists_run_sync (w := recording overrides silences) hentries ⟨rfl, hlists⟩
  have hreachable : Reachable (subjectOf recording.id recording.rule)
      (stored .default recording.id overrides) :=
    (Overridden.request (.start Store.isKeyed_empty rfl) he hstated hrun).reachable rfl
  have hid : recording.id ≠ .empty := ne_empty_of_has hfirst.has
  refine ⟨stats, w, e, overrides, stats', w', hsync, he, hstated, hrun, ?_, hsync', ?_⟩
  · rw [hentries, hstored]
  · rw [hcatalog, ← hrule, takesEffect_build_iff hfirst hplatform, hrule]
    have hiff := hreachable.accords_iff rfl hid
    rw [hstored] at hiff ⊢
    rw [hiff]
    rintro (hnil | ⟨halert, -⟩)
    · cases hnil
    · cases halert

end Catalog

end RuleCatalog
