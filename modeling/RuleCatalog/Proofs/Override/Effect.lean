import RuleCatalog.Proofs.Catalog.Stamp
import RuleCatalog.Proofs.Override.Isolation

/-! # What the entries of a rule do to the rule itself

Once its anchor has matched, the overrides of a rule are laid over its labels one after another,
and a silence drops it. The anchor asks for the rule's name as the name of an alert, which a
recording rule never carries. Main statement: `Reachable.accords_iff`. -/
namespace RuleCatalog.Override

/-- The subject of the override requests for a rule. -/
def subjectOf (id : Identity) (r : Rule) : Subject := ⟨id, r.name?.getD id.ruleName, r.labels⟩

/-- Whether an outcome of relabeling is what some entries stand for: the rule is dropped if they
silence it, and otherwise it has the labels with the overrides. -/
def Accords (id : Identity) (stated : Labels) (es : List RelabelEntry) : RelabelOutcome → Prop
  | .drop => isDropped id es = true
  | .keep labels =>
    isDropped id es = false ∧ labels.business = (effective id stated es).business

variable {id : Identity} {s : State} {r : Subject} {labels : Labels}

/-! ## Entries behind the anchor -/

def State.scoped (id : Identity) (s : State) : List RelabelEntry :=
  s.overrides.toList.map (fun p => override id p.1 p.2) ++ if s.dropped then [silence id] else []

theorem entries_of_ne_initial (h : s ≠ .initial) :
    s.entries r = anchor r.id r.alertName r.stated :: s.scoped r.id := by
  rw [State.entries, if_neg h]
  rfl

theorem isScoped_of_mem_scoped {e : RelabelEntry} (h : e ∈ s.scoped id) :
    isScoped id e = true ∧ (e.action = .replace ∨ e.action = .drop) := by
  rcases List.mem_append.1 h with h | h
  · obtain ⟨p, -, rfl⟩ := List.mem_map.1 h
    exact ⟨isScoped_override, .inl rfl⟩
  · split at h
    · obtain rfl := List.mem_singleton.1 h
      exact ⟨isScoped_silence, .inr rfl⟩
    · cases h

theorem isSome_match?_scoped {e : RelabelEntry} (he : isScoped id e = true) :
    (e.step.match? labels).isSome = true
      ↔ (labels.get? Label.ruleId).getD "" = id.text ∧ HasRoom id.text := by
  simp only [isScoped, Bool.and_eq_true, beq_iff_eq] at he
  have hinput : e.input labels = (labels.get? Label.ruleId).getD "" := by
    simp [RelabelEntry.input, he.1]
  rw [isSome_match?_exactly he.2, hinput]

theorem relabel_scoped_of_not_matches
    (h : ¬ ((labels.get? Label.ruleId).getD "" = id.text ∧ HasRoom id.text)) :
    relabel (s.scoped id) labels = .keep labels := by
  refine relabel_of_forall fun e he => ?_
  obtain ⟨hscoped, haction⟩ := isScoped_of_mem_scoped he
  refine apply_of_match?_eq_none haction ?_
  rw [← Option.not_isSome_iff_eq_none, isSome_match?_scoped hscoped]
  exact h

theorem apply_override {k v : String} (hk : k ≠ "")
    (hstamp : (labels.get? Label.ruleId).getD "" = id.text) (hroom : HasRoom id.text) :
    (override id k v).step.apply labels = .keep (RelabelEntry.assign labels k v) := by
  have hscoped : isScoped id (override id k v) = true := isScoped_override
  obtain ⟨c, hc⟩ := Option.isSome_iff_exists.1
    ((isSome_match?_scoped hscoped).2 ⟨hstamp, hroom⟩)
  have hexpand : String.ofList (Template.expand c (written v).toList) = v := by
    simp [written, Template.expand_escape]
  have happly : (override id k v).step.apply labels
      = if k = "" then .keep labels
        else .keep (RelabelEntry.assign labels k
          (.ofList (Template.expand c (written v).toList))) := by
    unfold RelabelStep.apply
    rw [hc]
    rfl
  rw [happly, if_neg hk, hexpand]

/-- The entries of a rule stamp what the anchor matches, and do nothing else to what has no stamp. -/
theorem relabel_entries_of_isSome_iff {p : Prop} [Decidable p] (hid : r.id ≠ .empty)
    (hne : s ≠ .initial) (hget : labels.get? Label.ruleId = none)
    (hmatch : ((anchor r.id r.alertName r.stated).step.match? labels).isSome = true ↔ p) :
    relabel (s.entries r) labels
      = if p then relabel (s.scoped r.id) (labels.insert Label.ruleId r.id.text)
        else .keep labels := by
  rw [entries_of_ne_initial hne, relabel_cons]
  by_cases hp : p
  · rw [if_pos hp, apply_anchor_of_isSome hid (hmatch.2 hp)]
  · have happly : (anchor r.id r.alertName r.stated).step.apply labels = .keep labels := by
      refine apply_of_match?_eq_none (.inl rfl) ?_
      rw [← Option.not_isSome_iff_eq_none, hmatch]
      exact hp
    have htext : r.id.text ≠ "" := fun he => hid (by cases hi : r.id; simp_all [Identity.empty])
    rw [if_neg hp, happly]
    exact relabel_scoped_of_not_matches fun h => htext (by rw [← h.1, hget, Option.getD_none])

/-- Labels with some others laid over them. -/
def overlay (upper labels : Labels) : Labels :=
  upper.toList.foldl (fun m p => RelabelEntry.assign m p.1 p.2) labels

theorem get?_overlay (upper labels : Labels) (k : String) :
    (overlay upper labels).get? k = match upper.get? k with
      | none => labels.get? k
      | some v => if v = "" then none else some v :=
  get?_foldl_assign upper.sorted labels k

theorem relabel_overrides (hroom : HasRoom id.text) {l : List (String × String)}
    (hl : ∀ p ∈ l, p.1 ≠ "" ∧ p.1 ≠ Label.ruleId)
    (hstamp : (labels.get? Label.ruleId).getD "" = id.text) :
    relabel (l.map fun p => override id p.1 p.2) labels
      = .keep (l.foldl (fun m p => RelabelEntry.assign m p.1 p.2) labels) := by
  induction l generalizing labels with
  | nil => rfl
  | cons p l ih =>
    obtain ⟨hp, hid⟩ := hl p List.mem_cons_self
    have happly := apply_override (v := p.2) hp hstamp hroom
    have hkept : (RelabelEntry.assign labels p.1 p.2).get? Label.ruleId
        = labels.get? Label.ruleId :=
      get?_of_apply_eq_keep (e := override id p.1 p.2) hid happly
    rw [List.map_cons, relabel_cons, happly, List.foldl_cons]
    exact ih (fun q hq => hl q (List.mem_cons_of_mem _ hq)) (by rw [hkept, hstamp])

/-- With the stamp, the overrides are laid over the labels, and the silence drops them. -/
theorem relabel_scoped (hs : s.IsValid) (hroom : HasRoom id.text)
    (hstamp : (labels.get? Label.ruleId).getD "" = id.text) :
    relabel (s.scoped id) labels
      = if s.dropped = true then .drop else .keep (overlay s.overrides labels) := by
  have hkeys : ∀ p ∈ s.overrides.toList, p.1 ≠ "" ∧ p.1 ≠ Label.ruleId :=
    fun p hp => ne_of_checkLabel (hs p.1 (List.mem_map_of_mem hp))
  have hid : (overlay s.overrides labels).get? Label.ruleId = labels.get? Label.ruleId := by
    rw [get?_overlay]
    cases ho : s.overrides.get? Label.ruleId with
    | none => rfl
    | some v => exact absurd rfl (hkeys _ (SortedMap.get?_eq_some_iff.1 ho)).2
  have hoverrides := relabel_overrides hroom hkeys hstamp
  rw [State.scoped, relabel_append, hoverrides]
  change relabel (if s.dropped then [silence id] else []) (overlay s.overrides labels) = _
  cases hd : s.dropped with
  | false => rfl
  | true =>
    have hmatch : ((silence id).step.match? (overlay s.overrides labels)).isSome = true :=
      (isSome_match?_scoped isScoped_silence).2 ⟨by rw [hid, hstamp], hroom⟩
    have happly : (silence id).step.apply (overlay s.overrides labels) = .drop := by
      unfold RelabelStep.apply
      exact if_pos hmatch
    rw [if_pos rfl, if_pos rfl, relabel_cons, happly]

/-! ## Labels after an outcome -/

theorem isSystem_of_checkLabel {k : String} (h : checkLabel k = .ok ()) :
    Label.isSystem k = false := by
  unfold checkLabel at h
  split at h
  · cases h
  · split at h
    · cases h
    · rename_i hsystem
      simp only [Bool.or_eq_true, not_or, Bool.not_eq_true] at hsystem
      exact hsystem.1

theorem business_overlay (upper : Labels) {m m' : Labels} (h : m.business = m'.business) :
    (overlay upper m).business = (overlay upper m').business := by
  refine SortedMap.ext_get? fun k => ?_
  have hk := congrArg (SortedMap.get? · k) h
  simp only [Labels.get?_business] at hk
  rw [Labels.get?_business, Labels.get?_business, get?_overlay, get?_overlay]
  cases upper.get? k with
  | none => exact hk
  | some v => rfl

theorem effective_entries (hs : s.IsValid) (stated : Labels) :
    effective r.id stated (s.entries r) = overlay s.overrides stated := by
  unfold effective
  rw [current_entries hs]
  rfl

/-- Labels that are left as they are do not accord with entries that there are. -/
theorem not_accords_keep (hs : s.IsValid) (hminimal : s.IsMinimal r) (hne : s ≠ .initial)
    (hlabels : labels.business = r.stated.business) :
    ¬ Accords r.id r.stated (s.entries r) (.keep labels) := by
  rintro ⟨hdropped, hbusiness⟩
  rw [isDropped_entries] at hdropped
  rw [hlabels, effective_entries hs] at hbusiness
  have hover : s.overrides = ∅ := by
    refine SortedMap.ext_get? fun k => ?_
    cases hv : s.overrides.get? k with
    | none => rfl
    | some v =>
      obtain ⟨hempty, hstated⟩ := hminimal k v hv
      have hsystem := isSystem_of_checkLabel (hs k (SortedMap.mem_keys_iff.2 ⟨v, hv⟩))
      have hk := congrArg (SortedMap.get? · k) hbusiness
      simp only [Labels.get?_business, get?_overlay, hv, if_neg hempty, hsystem,
        Bool.false_eq_true, if_false] at hk
      exact absurd hk hstated
  refine hne ?_
  cases s
  simp_all [State.initial]

/-! ## The labels that are reported of a rule -/

theorem ne_empty_of_name? {x : Rule} {name : String} (h : x.name? = some name) : name ≠ "" := by
  have hnonempty : ∀ t : Option String, nonempty? t = some name → name ≠ "" := by
    intro t ht
    simpa using (Option.filter_eq_some_iff.1 ht).2
  unfold Rule.name? at h
  rcases Option.or_eq_some_iff.1 h with h | ⟨-, h⟩
  · exact hnonempty _ h
  · exact hnonempty _ h

theorem map_get?_keys (m : Labels) : (m.keys.map fun k => (m.get? k).getD "") = m.values := by
  unfold SortedMap.keys SortedMap.values
  rw [List.map_map]
  refine List.map_congr_left fun p hp => ?_
  have hget : m.get? p.1 = some p.2 := SortedMap.get?_eq_some_iff.2 hp
  simp [hget]

theorem get?_business_of_anchoring {stated : Labels} {k : String}
    (h : k ∈ (anchoring stated).keys) : stated.business.get? k = (anchoring stated).get? k := by
  obtain ⟨v, hv⟩ := SortedMap.mem_keys_iff.1 h
  rw [hv]
  unfold anchoring at hv
  rw [SortedMap.get?_filter, Option.filter_eq_some_iff] at hv
  obtain ⟨hget, hkept⟩ := hv
  have hsystem : ¬ Label.isSystem k = true := by
    intro hsystem
    simp [hsystem] at hkept
  rw [Labels.get?_business, if_neg hsystem, hget]

theorem get?_business_of_isSystem {stated : Labels} {k : String} (h : Label.isSystem k = true) :
    stated.business.get? k = none := by
  rw [Labels.get?_business, if_pos h]

theorem get?_reportedLabels_of_ne {x : Rule} {k : String} (h : k ≠ Label.alertName) :
    x.reportedLabels.get? k = x.labels.business.get? k := by
  unfold Rule.reportedLabels
  split
  · rw [SortedMap.get?_insert, if_neg fun he => h (Std.LawfulEqOrd.eq_of_compare he)]
  · rfl

/-- The anchor of a rule takes in the label with the name of an alert and what the rule states. -/
theorem anchor_input_business {id : Identity} {name : String} {stated labels : Labels}
    (h : ∀ k, k ≠ Label.alertName → labels.get? k = stated.business.get? k) :
    (anchor id name stated).input labels = ";" ++ String.intercalate ";"
      ((labels.get? Label.alertName).getD "" :: (anchoring stated).values) := by
  have hid : labels.get? Label.ruleId = none := by
    rw [h _ (by decide), get?_business_of_isSystem (by decide)]
  have hkeys : (anchoring stated).keys.map (fun k => (labels.get? k).getD "")
      = (anchoring stated).values := by
    rw [← map_get?_keys]
    refine List.map_congr_left fun k hk => ?_
    rw [h k (ne_alertName_of_mem_anchoring (r := ⟨id, name, stated⟩) hk),
      get?_business_of_anchoring hk]
  have hinput : (anchor id name stated).input labels
      = String.intercalate ";" ((labels.get? Label.ruleId).getD ""
        :: (labels.get? Label.alertName).getD ""
        :: (anchoring stated).keys.map fun k => (labels.get? k).getD "") := rfl
  rw [hinput, hid, hkeys, Option.getD_none, String.intercalate_cons_cons, String.empty_append]

theorem eq_of_intercalate_cons_eq {a b : String} {texts : List String}
    (h : String.intercalate ";" (a :: texts) = String.intercalate ";" (b :: texts)) : a = b := by
  cases texts with
  | nil => simpa using h
  | cons t texts =>
    rw [String.intercalate_cons_cons, String.intercalate_cons_cons] at h
    have hlist := congrArg String.toList h
    simp only [String.toList_append, List.append_assoc] at hlist
    exact String.toList_inj.1 (List.append_cancel_right hlist)

theorem isSome_match?_reported (id : Identity) {x : Rule} {name : String}
    (hname : x.name? = some name) :
    ((anchor id name x.labels).step.match? x.reportedLabels).isSome = true
      ↔ x.kind = .alert ∧ HasRoom (";" ++ (subjectOf id x).anchored) := by
  have hanchored : (subjectOf id x).anchored
      = String.intercalate ";" (name :: (anchoring x.labels).values) := by
    rw [Subject.anchored, subjectOf, hname]
    rfl
  have hregex := anchor_regex ⟨id, name, x.labels⟩
  rw [isSome_match?_exactly hregex, anchor_input_business fun _ => get?_reportedLabels_of_ne,
    hanchored]
  refine and_congr_left fun _ => ?_
  cases hkind : x.kind with
  | alert =>
    have hget : x.reportedLabels.get? Label.alertName = some name := by
      unfold Rule.reportedLabels
      rw [hkind, hname]
      exact SortedMap.get?_insert_self ..
    rw [hget]
    exact iff_of_true rfl rfl
  | record =>
    have hget : x.reportedLabels.get? Label.alertName = none := by
      unfold Rule.reportedLabels
      rw [hkind]
      exact get?_business_of_isSystem rfl
    rw [hget]
    refine iff_of_false (fun heq => ?_) (by simp)
    exact ne_empty_of_name? hname (eq_of_intercalate_cons_eq ((String.append_right_inj _).1 heq)).symm

section reported
variable {x : Rule} {name : String}

theorem entries_subjectOf (hname : x.name? = some name) (hne : s ≠ .initial) :
    s.entries (subjectOf id x) = anchor id name x.labels :: s.scoped id := by
  rw [entries_of_ne_initial hne, subjectOf, hname]
  rfl

/-- The anchor stamps what is reported of an alert, and leaves a recording rule alone. -/
theorem relabel_reported (hname : x.name? = some name) (hid : id ≠ .empty) (hne : s ≠ .initial) :
    relabel (s.entries (subjectOf id x)) x.reportedLabels
      = if x.kind = .alert ∧ HasRoom (";" ++ (subjectOf id x).anchored) then
          relabel (s.scoped id) (x.reportedLabels.insert Label.ruleId id.text)
        else .keep x.reportedLabels := by
  have hget : x.reportedLabels.get? Label.ruleId = none := by
    rw [get?_reportedLabels_of_ne (by decide), get?_business_of_isSystem (by decide)]
  have hmatch := isSome_match?_reported id hname
  have hentries : s.entries (subjectOf id x) = s.entries ⟨id, name, x.labels⟩ := by
    rw [subjectOf, hname, Option.getD_some]
  rw [hentries]
  exact relabel_entries_of_isSome_iff (r := ⟨id, name, x.labels⟩) hid hne hget hmatch

theorem accords_relabel_scoped (hs : s.IsValid) (hroom : HasRoom id.text)
    (hstamp : (labels.get? Label.ruleId).getD "" = id.text)
    (hlabels : labels.business = x.labels.business) :
    Accords id x.labels (s.entries (subjectOf id x)) (relabel (s.scoped id) labels) := by
  have hdropped : isDropped id (s.entries (subjectOf id x)) = s.dropped :=
    isDropped_entries (r := subjectOf id x)
  have heffective : effective id x.labels (s.entries (subjectOf id x))
      = overlay s.overrides x.labels := effective_entries (r := subjectOf id x) hs x.labels
  rw [relabel_scoped hs hroom hstamp]
  split
  · rename_i hdrop
    exact hdropped.trans hdrop
  · rename_i hdrop
    refine ⟨hdropped.trans (Bool.eq_false_iff.2 hdrop), ?_⟩
    rw [heffective]
    exact business_overlay _ hlabels

/-- The entries that requests for a rule lead to have the effect that they stand for exactly when
there are none, or the rule is an alert and its texts have room in patterns. -/
theorem Reachable.accords_iff {es : List RelabelEntry} (h : Reachable (subjectOf id x) es)
    (hname : x.name? = some name) (hid : id ≠ .empty) :
    Accords id x.labels es (relabel es x.reportedLabels)
      ↔ es = [] ∨ x.kind = .alert ∧ HasRoom (";" ++ (subjectOf id x).anchored)
        ∧ HasRoom id.text := by
  obtain ⟨s, hs, hminimal, rfl⟩ := h.exists_state
  by_cases hne : s = .initial
  · have hnil : s.entries (subjectOf id x) = [] := if_pos hne
    rw [hnil]
    exact iff_of_true ⟨rfl, Rule.business_reportedLabels x⟩ (.inl rfl)
  have hcons : s.entries (subjectOf id x) ≠ [] := by simp [entries_subjectOf hname hne]
  have hkept : ∀ labels : Labels, labels.business = x.labels.business →
      ¬ Accords id x.labels (s.entries (subjectOf id x)) (.keep labels) :=
    fun labels hlabels => not_accords_keep (r := subjectOf id x) hs hminimal hne hlabels
  rw [relabel_reported hname hid hne, or_iff_right hcons, ← and_assoc]
  -- what the anchor does not stamp is reported as it is, which no entries stand for
  split
  · rename_i hanchor
    have hbusiness : Labels.business (x.reportedLabels.insert Label.ruleId id.text)
        = x.labels.business := by
      rw [Labels.business_insert _ (by decide), Rule.business_reportedLabels]
    have hstamp : ((x.reportedLabels.insert Label.ruleId id.text).get? Label.ruleId).getD ""
        = id.text := by rw [SortedMap.get?_insert_self, Option.getD_some]
    rw [and_iff_right hanchor]
    by_cases hroom : HasRoom id.text
    · exact iff_of_true (accords_relabel_scoped hs hroom hstamp hbusiness) hroom
    · rw [relabel_scoped_of_not_matches fun h => hroom h.2]
      exact iff_of_false (hkept _ hbusiness) hroom
  · rename_i hanchor
    exact iff_of_false (hkept _ (Rule.business_reportedLabels x)) fun h => hanchor h.1

end reported

end RuleCatalog.Override
