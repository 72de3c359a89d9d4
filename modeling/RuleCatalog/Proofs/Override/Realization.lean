import RuleCatalog.Proofs.Override.Effect

/-! # What the entries of a rule make of its labels

Entries are read as overrides and a silence, and they are run as a relabel program. On the labels
that the rule states, with its name, the run has the outcome that the reading gives.
Main statement: `Reachable.relabel_eq_realized_iff`. -/
namespace RuleCatalog.Override

/-- The outcome that the entries of a rule are read as: dropped, or its labels with the overrides,
its name and, if there are entries, the stamp. -/
def realized (r : Subject) (es : List RelabelEntry) : RelabelOutcome :=
  if isDropped r.id es = true then .drop
  else
    let labels := (effective r.id r.stated es).insert Label.alertName r.alertName
    .keep (if es = [] then labels else labels.insert Label.ruleId r.id.text)

variable {r : Subject} {s : State} {es : List RelabelEntry} {upper labels : Labels}

/-! ## Labels under overrides -/

theorem overlay_insert {k : String} (h : upper.get? k = none) (labels : Labels) (v : String) :
    overlay upper (labels.insert k v) = (overlay upper labels).insert k v := by
  refine SortedMap.ext_get? fun k' => ?_
  rw [get?_overlay, SortedMap.get?_insert, SortedMap.get?_insert, get?_overlay]
  by_cases hk : compare k' k = .eq
  · obtain rfl := Std.LawfulEqOrd.eq_of_compare hk
    rw [if_pos hk, if_pos hk, h]
  · rw [if_neg hk, if_neg hk]

theorem State.IsValid.get?_eq_none (h : s.IsValid) {k : String} (hk : Label.isSystem k = true) :
    s.overrides.get? k = none := by
  cases hv : s.overrides.get? k with
  | none => rfl
  | some v =>
    have hvalid := isSystem_of_checkLabel (h k (SortedMap.mem_keys_iff.2 ⟨v, hv⟩))
    rw [hk] at hvalid
    cases hvalid

/-- The name and the stamp are out of reach of overrides. -/
theorem overlay_stamped (h : s.IsValid) :
    overlay s.overrides (r.carried.insert Label.ruleId r.id.text)
      = ((overlay s.overrides r.stated).insert Label.alertName r.alertName).insert
        Label.ruleId r.id.text := by
  have hid : s.overrides.get? Label.ruleId = none := h.get?_eq_none (by decide)
  have hname : s.overrides.get? Label.alertName = none := h.get?_eq_none (by decide)
  rw [overlay_insert hid, Subject.carried, overlay_insert hname]

/-! ## The anchor on its own rule -/

theorem resembles_self : Resembles r r ↔ HasRoom (";" ++ r.anchored) := by
  have hvalues : (anchoring r.stated).keys.map (fun k => (r.stated.get? k).getD "")
      = (anchoring r.stated).values := by
    rw [← map_get?_keys]
    refine List.map_congr_left fun k hk => ?_
    obtain ⟨v, hv⟩ := SortedMap.mem_keys_iff.1 hk
    rw [hv]
    unfold anchoring at hv
    rw [SortedMap.get?_filter, Option.filter_eq_some_iff] at hv
    rw [hv.1]
  unfold Resembles
  rw [hvalues]
  exact and_iff_right rfl

theorem isSome_match?_carried (hstamp : r.stated.get? Label.ruleId = none) :
    ((anchor r.id r.alertName r.stated).step.match? r.carried).isSome = true
      ↔ HasRoom (";" ++ r.anchored) := by
  rw [isSome_match?_anchor hstamp, resembles_self]

/-! ## Reading and running -/

theorem realized_entries (hs : s.IsValid) (hne : s ≠ .initial) :
    realized r (s.entries r) = if s.dropped = true then .drop
      else .keep (overlay s.overrides (r.carried.insert Label.ruleId r.id.text)) := by
  have hcons : s.entries r ≠ [] := by simp [entries_of_ne_initial hne]
  unfold realized
  rw [isDropped_entries, effective_entries hs, overlay_stamped hs]
  simp only [if_neg hcons]

theorem business_carried : r.carried.business = r.stated.business :=
  Labels.business_insert r.stated (k := Label.alertName) (by decide) r.alertName

/-- What entries are read as is in accord with them. -/
theorem accords_realized (r : Subject) (es : List RelabelEntry) :
    Accords r.id r.stated es (realized r es) := by
  have hname : Label.isSystem Label.alertName = true := by decide
  have hid : Label.isSystem Label.ruleId = true := by decide
  unfold realized
  split
  · rename_i hdropped
    exact hdropped
  · rename_i hdropped
    refine ⟨Bool.eq_false_iff.2 hdropped, ?_⟩
    split
    · rw [Labels.business_insert _ hname]
    · rw [Labels.business_insert _ hid, Labels.business_insert _ hname]

/-- On the labels of the rule, the entries that requests for it lead to have the outcome that they
are read as, exactly when there are none or the texts of the anchor and of the identity have room
in patterns. -/
theorem Reachable.relabel_eq_realized_iff (h : Reachable r es) (hid : r.id ≠ .empty)
    (hstamp : r.stated.get? Label.ruleId = none) :
    relabel es r.carried = realized r es
      ↔ es = [] ∨ HasRoom (";" ++ r.anchored) ∧ HasRoom r.id.text := by
  obtain ⟨s, hs, hminimal, rfl⟩ := h.exists_state
  by_cases hne : s = .initial
  · have hnil : s.entries r = [] := if_pos hne
    rw [hnil]
    exact iff_of_true rfl (.inl rfl)
  have hcons : s.entries r ≠ [] := by simp [entries_of_ne_initial hne]
  -- labels that are left as they are stand for no entries at all
  have hkept : ∀ labels : Labels, labels.business = r.stated.business →
      .keep labels ≠ realized r (s.entries r) := by
    intro labels hlabels heq
    have haccords := accords_realized r (s.entries r)
    rw [← heq] at haccords
    exact not_accords_keep hs hminimal hne hlabels haccords
  rw [relabel_entries_of_isSome_iff hid hne (get?_ruleId_carried hstamp)
    (isSome_match?_carried hstamp), or_iff_right hcons]
  split
  · rename_i hanchor
    rw [and_iff_right hanchor]
    by_cases hroom : HasRoom r.id.text
    · refine iff_of_true ?_ hroom
      have hget : ((r.carried.insert Label.ruleId r.id.text).get? Label.ruleId).getD ""
          = r.id.text := by rw [SortedMap.get?_insert_self, Option.getD_some]
      rw [relabel_scoped hs hroom hget, realized_entries hs hne]
    · rw [relabel_scoped_of_not_matches fun h => hroom h.2]
      refine iff_of_false (hkept _ ?_) hroom
      rw [Labels.business_insert _ (by decide), business_carried]
  · rename_i hanchor
    exact iff_of_false (hkept _ business_carried) fun h => hanchor h.1

/-- A value with a dollar sign is set as it stands, and labels with signs of patterns are matched as
they stand. -/
theorem relabel_eq_realized_dollar :
    let r : Subject := ⟨⟨"Cost;1a"⟩, "Cost", .ofList [("severity", "none"), ("tariff", "a.b*")]⟩
    let es := State.entries r ⟨.ofList [("severity", "$1 (high)")], false⟩
    Reachable r es ∧ relabel es r.carried = realized r es
      ∧ realized r es = .keep (.ofList [("alertname", "Cost"), ("severity", "$1 (high)"),
        ("tariff", "a.b*"), ("openshift_io_alert_rule_id", "Cost;1a")]) := by
  intro r es
  have hedit : Request.edit r [] (.update (.ofList [("severity", "$1 (high)")]))
      = .ok (.write es) := by decide +kernel
  have h : Reachable r es := Reachable.nil.edit hedit
  have hid : r.id ≠ .empty := by decide
  have hstamp : r.stated.get? Label.ruleId = none := by decide +kernel
  have hroom : HasRoom (";" ++ r.anchored) ∧ HasRoom r.id.text := by decide +kernel
  exact ⟨h, (h.relabel_eq_realized_iff hid hstamp).2 (.inr hroom), by decide +kernel⟩

end RuleCatalog.Override
