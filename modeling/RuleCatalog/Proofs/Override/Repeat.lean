import RuleCatalog.Proofs.Override.Machine

/-! # Requests made twice

Whatever a list of entries holds, what a request writes is recognised by the same request again,
and the end of a silence takes out what the silence has put in. Main statement:
`settles_and_restores`. -/
namespace RuleCatalog.Override
variable {id : Identity} {es : List RelabelEntry}

/-! ## Entries without overrides -/

theorem pair?_eq_none_of_isAnchor {e : RelabelEntry} (h : isAnchor id e = true) :
    pair? id e = none := by
  have htarget : e.target = Label.ruleId := by
    simp only [isAnchor, Bool.and_eq_true, beq_iff_eq] at h
    exact h.1.2
  simp [pair?, htarget]

theorem pair?_eq_none_of_isSilence {e : RelabelEntry} (h : isSilence id e = true) :
    pair? id e = none := by
  have haction : e.action = .drop := by
    simp only [isSilence, Bool.and_eq_true, beq_iff_eq] at h
    exact h.1
  simp [pair?, haction]

/-- Overrides are read off labels that a replacement may target. -/
theorem ne_of_mem_keys_current {k : String} (h : k ∈ (current id es).keys) :
    k ≠ "" ∧ k ≠ Label.ruleId := by
  obtain ⟨v, hv⟩ := SortedMap.mem_keys_iff.1 h
  rw [current, SortedMap.get?_ofList] at hv
  obtain ⟨e, -, he⟩ := List.mem_filterMap.1 (List.mem_reverse.1 (SortedMap.mem_of_lookup hv))
  unfold pair? at he
  split at he
  · rename_i hc
    simp only [Bool.and_eq_true, bne_iff_ne] at hc
    obtain rfl := congrArg Prod.fst (Option.some.inj he)
    exact ⟨hc.1.2, hc.2⟩
  · cases he

/-! ## Overrides -/

theorem desired_desired (stated current delta : Labels) :
    desired stated (desired stated current delta) delta = desired stated current delta := by
  refine SortedMap.ext_get? fun k => ?_
  simp only [get?_desired, wanted?]
  cases hd : delta.get? k with
  | none => simp only [Option.filter_filter, Bool.and_self]
  | some v => rfl

theorem ne_of_mem_keys_desired {stated delta : Labels} (hdelta : (Request.update delta).IsValid)
    {k : String} (h : k ∈ (desired stated (current id es) delta).keys) :
    k ≠ "" ∧ k ≠ Label.ruleId := by
  rcases mem_keys_desired h with hk | hk
  · exact ne_of_mem_keys_current hk
  · exact ne_of_checkLabel (hdelta k hk)

/-- The overrides that a block is made of are read off it again. -/
theorem current_block {stamp : RelabelEntry} {overrides : Labels} {silences : List RelabelEntry}
    (hoverrides : ∀ k ∈ overrides.keys, k ≠ "" ∧ k ≠ Label.ruleId)
    (hstamp : pair? id stamp = none) (hsilences : ∀ e ∈ silences, isSilence id e = true) :
    current id (block stamp id overrides silences) = overrides := by
  have hnone : silences.filterMap (pair? id) = [] :=
    List.filterMap_eq_nil_iff.2 fun e he => pair?_eq_none_of_isSilence (hsilences e he)
  unfold block
  split
  · rename_i hempty
    rw [Bool.and_eq_true] at hempty
    exact (SortedMap.ext (List.isEmpty_iff.1 hempty.1)).symm
  · unfold current
    rw [List.cons_append, List.filterMap_cons, hstamp, List.filterMap_append,
      filterMap_pair?_override hoverrides, hnone, List.append_nil, SortedMap.ofList_toList]

/-- Entries of others have no part in what is read off a list. -/
theorem current_append_of_foreign (id : Identity) (es block : List RelabelEntry) :
    current id (es.filter (fun e => !belongs id e) ++ block) = current id block := by
  have hforeign : (es.filter fun e => !belongs id e).filterMap (pair? id) = [] := by
    refine List.filterMap_eq_nil_iff.2 fun e he => ?_
    cases hp : pair? id e with
    | none => rfl
    | some p => simp [belongs_of_pair? hp] at he
  unfold current
  rw [List.filterMap_append, hforeign, List.nil_append]

theorem update_update (r : Subject) (es : List RelabelEntry) {delta : Labels}
    (h : (Request.update delta).IsValid) :
    ∃ edit, (Request.update delta).edit r es = .ok edit
      ∧ (Request.update delta).edit r (edit.entries es) = .ok .unchanged := by
  refine ⟨_, update_of_isValid h r es, ?_⟩
  rw [update_of_isValid h]
  split
  · rename_i hsame
    rw [Edit.entries, if_pos hsame]
  · have hstamp : pair? r.id
        ((es.find? (isAnchor r.id)).getD (anchor r.id r.alertName r.stated)) = none := by
      cases he : es.find? (isAnchor r.id) with
      | none => exact pair?_anchor
      | some e => exact pair?_eq_none_of_isAnchor (List.find?_some he)
    rw [Edit.entries_between, current_append_of_foreign,
      current_block (fun _ => ne_of_mem_keys_desired h) hstamp
        fun e he => (List.mem_filter.1 he).2,
      desired_desired, if_pos rfl]

/-! ## Silences -/

theorem insertBefore_eq_append (p : RelabelEntry → Bool) (e : RelabelEntry)
    (es : List RelabelEntry) :
    ∃ l l', es = l ++ l' ∧ insertBefore p e es = l ++ e :: l' :=
  ⟨_, _, List.takeWhile_append_dropWhile.symm, rfl⟩

theorem filter_insertBefore {p q : RelabelEntry → Bool} {e : RelabelEntry} (h : q e = false)
    (es : List RelabelEntry) : (insertBefore p e es).filter q = es.filter q := by
  obtain ⟨l, l', rfl, hinsert⟩ := insertBefore_eq_append p e es
  rw [hinsert, List.filter_append, List.filter_append, List.filter_cons, h]
  rfl

theorem any_insertBefore {p q : RelabelEntry → Bool} {e : RelabelEntry} (h : q e = true)
    (es : List RelabelEntry) : (insertBefore p e es).any q = true := by
  obtain ⟨l, l', -, hinsert⟩ := insertBefore_eq_append p e es
  rw [hinsert, List.any_append, List.any_cons, h, Bool.true_or, Bool.or_true]

/-- The entries with the stamp of a rule. -/
def stamped (id : Identity) (alertName : String) (stated : Labels) (es : List RelabelEntry) :
    List RelabelEntry :=
  if es.any (isAnchor id) then es else insertBefore (isScoped id) (anchor id alertName stated) es

section stamped
variable (id : Identity) (alertName : String) (stated : Labels) (es : List RelabelEntry)

theorem any_isAnchor_stamped : (stamped id alertName stated es).any (isAnchor id) = true := by
  unfold stamped
  split
  · assumption
  · exact any_insertBefore isAnchor_anchor es

theorem any_isSilence_stamped :
    (stamped id alertName stated es).any (isSilence id) = es.any (isSilence id) := by
  unfold stamped
  split
  · rfl
  · obtain ⟨l, l', rfl, hinsert⟩ :=
      insertBefore_eq_append (isScoped id) (anchor id alertName stated) es
    rw [hinsert, List.any_append, List.any_append, List.any_cons, isSilence_anchor, Bool.false_or]

theorem current_stamped : current id (stamped id alertName stated es) = current id es := by
  unfold stamped
  split
  · rfl
  · obtain ⟨l, l', rfl, hinsert⟩ :=
      insertBefore_eq_append (isScoped id) (anchor id alertName stated) es
    unfold current
    rw [hinsert, List.filterMap_append, List.filterMap_append, List.filterMap_cons, pair?_anchor]

/-- A rule that is silenced has both its stamp and a silence. -/
theorem entries_drop :
    (Override.drop id alertName stated es).entries es
      = stamped id alertName stated es ++ if isDropped id es then [] else [silence id] := by
  unfold Override.drop stamped
  cases es.any (isAnchor id) <;> cases isDropped id es <;> simp [Edit.entries]

theorem any_isAnchor_drop :
    ((Override.drop id alertName stated es).entries es).any (isAnchor id) = true := by
  rw [entries_drop, List.any_append, any_isAnchor_stamped, Bool.true_or]

theorem isDropped_drop :
    isDropped id ((Override.drop id alertName stated es).entries es) = true := by
  rw [entries_drop, isDropped, List.any_append, any_isSilence_stamped]
  cases hdropped : isDropped id es with
  | true =>
    rw [isDropped] at hdropped
    rw [hdropped, Bool.true_or]
  | false => simp [isSilence_silence]

end stamped

theorem drop_of_isDropped {alertName : String} {stated : Labels}
    (hanchored : es.any (isAnchor id) = true) (hdropped : isDropped id es = true) :
    Override.drop id alertName stated es = .unchanged := by
  simp [Override.drop, hanchored, hdropped]

theorem drop_of_not_isDropped {alertName : String} {stated : Labels}
    (h : isDropped id es = false) :
    Override.drop id alertName stated es
      = .write (stamped id alertName stated es ++ [silence id]) := by
  simp [Override.drop, stamped, h]

theorem restore_of_not_isDropped (h : isDropped id es = false) :
    Override.restore id es = .unchanged := by
  simp [Override.restore, h]

theorem restore_of_isDropped (h : isDropped id es = true) :
    Override.restore id es = .between es (es.filter fun e =>
      !isSilence id e && (!(current id es).isEmpty || !isAnchor id e)) := by
  simp [Override.restore, h]

theorem isDropped_restore (id : Identity) (es : List RelabelEntry) :
    isDropped id ((Override.restore id es).entries es) = false := by
  cases hdropped : isDropped id es with
  | false =>
    rw [restore_of_not_isDropped hdropped]
    exact hdropped
  | true =>
    rw [restore_of_isDropped hdropped, Edit.entries_between, isDropped, List.any_eq_false]
    intro e he
    have hkept := (List.mem_filter.1 he).2
    simp only [Bool.and_eq_true, Bool.not_eq_true'] at hkept
    simp [hkept.1]

/-- A request that has been met changes nothing any more. -/
theorem edit_edit (r : Subject) (es : List RelabelEntry) {q : Request} (h : q.IsValid) :
    ∃ edit, q.edit r es = .ok edit ∧ q.edit r (edit.entries es) = .ok .unchanged := by
  cases q with
  | update delta => exact update_update r es h
  | drop =>
    exact ⟨_, rfl, congrArg Except.ok
      (drop_of_isDropped (any_isAnchor_drop _ _ _ _) (isDropped_drop _ _ _ _))⟩
  | restore =>
    exact ⟨_, rfl, congrArg Except.ok (restore_of_not_isDropped (isDropped_restore _ _))⟩

/-! ## A silence and its end -/

theorem current_append_silence (id : Identity) (es : List RelabelEntry) :
    current id (es ++ [silence id]) = current id es := by
  unfold current
  rw [List.filterMap_append, List.filterMap_cons, pair?_silence, List.filterMap_nil,
    List.append_nil]

/-- The end of a silence takes out what the silence has put in, a stamp only where there was none. -/
theorem filter_stamped_append_silence {alertName : String} {stated : Labels}
    (hdropped : isDropped id es = false)
    (hanchored : es.any (isAnchor id) = true ↔ current id es ≠ ∅) :
    (stamped id alertName stated es ++ [silence id]).filter (fun e =>
        !isSilence id e && (!(current id es).isEmpty || !isAnchor id e)) = es := by
  have hsilent : ∀ e ∈ es, isSilence id e = false := fun e he =>
    Bool.eq_false_iff.2 (List.any_eq_false.1 hdropped e he)
  rw [List.filter_append, List.filter_cons, isSilence_silence]
  cases ha : es.any (isAnchor id) with
  | true =>
    have hempty : (current id es).isEmpty = false :=
      Bool.eq_false_iff.2 fun he => hanchored.1 ha (SortedMap.ext (List.isEmpty_iff.1 he))
    have hkeep : es.filter (fun e => !isSilence id e && (!false || !isAnchor id e)) = es :=
      List.filter_eq_self.2 fun e he => by simp [hsilent e he]
    rw [stamped, if_pos ha, hempty, hkeep]
    exact List.append_nil es
  | false =>
    have hempty : (current id es).isEmpty = true := by
      have hcurrent : current id es = ∅ := by
        by_contra hne
        rw [hanchored.2 hne] at ha
        cases ha
      rw [hcurrent]
      rfl
    have hkeep : es.filter (fun e => !isSilence id e && (!true || !isAnchor id e)) = es := by
      refine List.filter_eq_self.2 fun e he => ?_
      simp [hsilent e he, Bool.eq_false_iff.2 (List.any_eq_false.1 ha e he)]
    rw [stamped, if_neg (by simp [ha]), hempty, filter_insertBefore (by simp [isAnchor_anchor]),
      hkeep]
    exact List.append_nil es

theorem restore_drop {alertName : String} {stated : Labels}
    (hdropped : isDropped id es = false)
    (hanchored : es.any (isAnchor id) = true ↔ current id es ≠ ∅) :
    ∃ es', Override.drop id alertName stated es = .write es'
      ∧ Override.restore id es' = if es = [] then .delete else .write es := by
  refine ⟨_, drop_of_not_isDropped hdropped, ?_⟩
  have hsilenced : isDropped id (stamped id alertName stated es ++ [silence id]) = true := by
    simp [isDropped, isSilence_silence]
  have hne : es ≠ stamped id alertName stated es ++ [silence id] := by
    intro he
    rw [he, hsilenced] at hdropped
    cases hdropped
  rw [restore_of_isDropped hsilenced, current_append_silence, current_stamped,
    filter_stamped_append_silence hdropped hanchored, Edit.between, if_neg hne]

/-- Every request is met by its own answer, and a silence is undone by its end where the rule has
a stamp exactly if it has overrides. -/
theorem settles_and_restores (r : Subject) (es : List RelabelEntry) :
    (∀ q : Request, q.IsValid →
      ∃ edit, q.edit r es = .ok edit ∧ q.edit r (edit.entries es) = .ok .unchanged)
    ∧ (isDropped r.id es = false → (es.any (isAnchor r.id) = true ↔ current r.id es ≠ ∅) →
      ∃ es', Override.drop r.id r.alertName r.stated es = .write es'
        ∧ Override.restore r.id es' = if es = [] then .delete else .write es) :=
  ⟨fun _ h => edit_edit r es h, restore_drop⟩

end RuleCatalog.Override
