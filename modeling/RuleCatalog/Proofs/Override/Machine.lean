import RuleCatalog.Proofs.Override.State

/-! # Editing refines a machine

Requests for rules with different identities edit one list of entries. What the entries of a rule
stand for moves by the requests for this rule alone, as `Request.next` says. -/
namespace RuleCatalog.Override

inductive Request where
  | update (delta : Labels)
  | drop
  | restore

/-- The override of a label after an update: the new value if there is one, which is none if it is
empty, and else the one of before. What the rule states anyway is not overridden. -/
def wanted? (stated current delta : Labels) (k : String) : Option String :=
  (match delta.get? k with
    | none => current.get? k
    | some v => if v = "" then none else some v).filter (stated.get? k != some ·)

namespace Request

def edit (r : Subject) (es : List RelabelEntry) : Request → Except ValidationError Edit
  | update delta => Override.update r.id r.alertName r.stated es delta
  | drop => .ok (Override.drop r.id r.alertName r.stated es)
  | restore => .ok (Override.restore r.id es)

/-- Whether a request names labels only that may be overridden. -/
def IsValid : Request → Prop
  | update delta => ∀ k ∈ delta.keys, checkLabel k = .ok ()
  | drop | restore => True

/-- What a request makes of the state of its rule. -/
def next (r : Subject) (s : State) : Request → State
  | update delta =>
    { s with overrides :=
        .ofKeys (s.overrides.keys ++ delta.keys) (wanted? r.stated s.overrides delta) }
  | drop => { s with dropped := true }
  | restore => { s with dropped := false }

end Request

/-! ## The wanted overrides -/

theorem get?_foldl_assign {l : List (String × String)}
    (h : l.Pairwise (fun a b => compare a.1 b.1 = .lt)) (m : Labels) (k : String) :
    (l.foldl (fun m p => if p.2 = "" then m.erase p.1 else m.insert p.1 p.2) m).get? k
      = match SortedMap.lookup k l with
        | none => m.get? k
        | some v => if v = "" then none else some v := by
  induction l generalizing m with
  | nil => rfl
  | cons p l ih =>
    rw [List.foldl_cons, ih (List.pairwise_cons.1 h).2, SortedMap.lookup]
    by_cases hk : compare k p.1 = .eq
    · obtain rfl := Std.LawfulEqOrd.eq_of_compare hk
      rw [SortedMap.lookup_of_pairwise_cons h, if_pos hk]
      dsimp only
      split
      · simp [SortedMap.get?_erase]
      · simp
    · rw [if_neg hk]
      cases SortedMap.lookup k l with
      | some v => rfl
      | none =>
        dsimp only
        split
        · rw [SortedMap.get?_erase, if_neg fun he => hk (Std.OrientedCmp.eq_symm he)]
        · rw [SortedMap.get?_insert, if_neg hk]

section wanted
variable {stated current delta : Labels} {k v : String}

theorem mem_keys_of_wanted? (h : wanted? stated current delta k = some v) :
    k ∈ current.keys ++ delta.keys := by
  rw [wanted?, Option.filter_eq_some_iff] at h
  rw [List.mem_append]
  cases hd : delta.get? k with
  | none =>
    rw [hd] at h
    exact .inl (SortedMap.mem_keys_iff.2 ⟨v, h.1⟩)
  | some w => exact .inr (SortedMap.mem_keys_iff.2 ⟨w, hd⟩)

theorem get?_desired (stated current delta : Labels) (k : String) :
    (desired stated current delta).get? k = wanted? stated current delta k := by
  unfold desired
  rw [SortedMap.get?_filter, get?_foldl_assign delta.sorted]
  rfl

theorem mem_keys_desired (h : k ∈ (desired stated current delta).keys) :
    k ∈ current.keys ∨ k ∈ delta.keys := by
  obtain ⟨v, hv⟩ := SortedMap.mem_keys_iff.1 h
  rw [get?_desired] at hv
  exact List.mem_append.1 (mem_keys_of_wanted? hv)

theorem desired_eq_ofKeys (stated current delta : Labels) : desired stated current delta
    = .ofKeys (current.keys ++ delta.keys) (wanted? stated current delta) := by
  refine SortedMap.ext_get? fun k => ?_
  rw [get?_desired, SortedMap.get?_ofKeys fun _ _ => mem_keys_of_wanted?]

end wanted

/-- The update of the entries wants the overrides of the next state. -/
theorem Request.next_update (r : Subject) (s : State) (delta : Labels) :
    (Request.update delta).next r s
      = { s with overrides := desired r.stated s.overrides delta } := by
  rw [desired_eq_ofKeys, next]

theorem isValid_next {r : Subject} {s : State} {q : Request} (hs : s.IsValid) (hq : q.IsValid) :
    (q.next r s).IsValid := by
  cases q with
  | update delta =>
    rw [Request.next_update]
    intro k hk
    rcases mem_keys_desired hk with hk | hk
    · exact hs k hk
    · exact hq k hk
  | drop => exact hs
  | restore => exact hs

/-- Whether the overrides of a state are values that the rule does not have anyway. -/
def State.IsMinimal (r : Subject) (s : State) : Prop :=
  ∀ k v, s.overrides.get? k = some v → v ≠ "" ∧ r.stated.get? k ≠ some v

theorem State.isMinimal_initial (r : Subject) : State.initial.IsMinimal r := by
  intro k v hv
  cases hv

theorem isMinimal_next {r : Subject} {s : State} (hs : s.IsMinimal r) (q : Request) :
    (q.next r s).IsMinimal r := by
  cases q with
  | update delta =>
    rw [Request.next_update]
    intro k v hv
    rw [get?_desired, wanted?, Option.filter_eq_some_iff] at hv
    obtain ⟨hv, hstated⟩ := hv
    refine ⟨?_, by simpa using hstated⟩
    cases hd : delta.get? k with
    | none =>
      rw [hd] at hv
      exact (hs k v hv).1
    | some u =>
      rw [hd] at hv
      dsimp only at hv
      split at hv
      · cases hv
      · rename_i hu
        obtain rfl := Option.some.inj hv
        exact hu
  | drop => exact hs
  | restore => exact hs

theorem forall_checkLabel_of_forM {ks : List String} (h : ks.forM checkLabel = .ok ()) :
    ∀ k ∈ ks, checkLabel k = .ok () := by
  induction ks with
  | nil => simp
  | cons k ks ih =>
    have hcons : (checkLabel k >>= fun _ => ks.forM checkLabel) = .ok () := h
    cases hk : checkLabel k with
    | error e =>
      rw [hk] at hcons
      cases hcons
    | ok u =>
      rw [hk] at hcons
      exact List.forall_mem_cons.2 ⟨hk, ih hcons⟩

theorem isValid_of_edit {r : Subject} {es : List RelabelEntry} {q : Request} {edit : Edit}
    (h : q.edit r es = .ok edit) : q.IsValid := by
  cases q with
  | update delta =>
    refine forall_checkLabel_of_forM ?_
    change Override.update r.id r.alertName r.stated es delta = .ok edit at h
    unfold Override.update at h
    cases hm : delta.keys.forM checkLabel with
    | error e =>
      rw [hm] at h
      cases h
    | ok u => rfl
  | drop => trivial
  | restore => trivial

/-! ## Edits -/

/-- Whether an edit of the entries that stand for a state makes them stand for another one. -/
structure Refines (r : Subject) (s s' : State) (es : List RelabelEntry) (edit : Edit) : Prop where
  represents : Represents r s' (edit.entries es)
  others : (edit.entries es).filter (fun e => !belongs r.id e)
    = es.filter (fun e => !belongs r.id e)
  unchanged_iff : edit = .unchanged ↔ s' = s
  delete_iff : edit = .delete ↔ s' ≠ s ∧ edit.entries es = []

theorem between_ne_write_nil (es es' : List RelabelEntry) : Edit.between es es' ≠ .write [] := by
  unfold Edit.between
  split
  · simp
  · split
    · simp
    · rename_i hne
      simpa using hne

theorem Refines.of_represents {r : Subject} {s s' : State} {es : List RelabelEntry} {edit : Edit}
    (h : Represents r s es) (h' : Represents r s' (edit.entries es))
    (hothers : (edit.entries es).filter (fun e => !belongs r.id e)
      = es.filter (fun e => !belongs r.id e))
    (hsame : s' = s → edit = .unchanged) (hwrite : edit ≠ .write []) : Refines r s s' es edit where
  represents := h'
  others := hothers
  unchanged_iff := by
    refine ⟨?_, hsame⟩
    rintro rfl
    exact h'.eq_state h
  delete_iff := by
    constructor
    · rintro rfl
      exact ⟨fun he => by simpa using hsame he, rfl⟩
    · rintro ⟨hne, hnil⟩
      cases edit with
      | unchanged => exact absurd (h'.eq_state h) hne
      | write es' => exact absurd (congrArg Edit.write hnil) hwrite
      | delete => rfl

/-! ## Each request -/

section requests
variable {r : Subject} {s : State} {es : List RelabelEntry}

theorem filter_isSilence_eq (h : Represents r s es) :
    es.filter (isSilence r.id) = if s.dropped then [silence r.id] else [] := by
  have hfilter : es.filter (isSilence r.id) = (s.entries r).filter (isSilence r.id) := by
    rw [← h.filter_eq, List.filter_filter]
    refine List.filter_congr fun e _ => ?_
    cases he : isSilence r.id e with
    | false => rfl
    | true => rw [belongs_of_isSilence he]; rfl
  have hoverrides : (s.overrides.toList.map fun p => override r.id p.1 p.2).filter
      (isSilence r.id) = [] := by
    rw [List.filter_eq_nil_iff]
    intro e he
    obtain ⟨p, -, rfl⟩ := List.mem_map.1 he
    simp [isSilence_override]
  rw [hfilter, State.entries]
  split
  · rename_i hs
    rw [hs]
    rfl
  · rw [List.cons_append, List.filter_cons, isSilence_anchor, List.filter_append, hoverrides]
    cases s.dropped
    · rfl
    · simp [isSilence_silence]

/-- An anchor that is found is the one that would be made. -/
theorem stamp_eq (h : Represents r s es) :
    (es.find? (isAnchor r.id)).getD (anchor r.id r.alertName r.stated)
      = anchor r.id r.alertName r.stated := by
  cases he : es.find? (isAnchor r.id) with
  | none => rfl
  | some e =>
    have hanchor := List.find?_some he
    have hmem : e ∈ s.entries r := by
      rw [← h.filter_eq]
      exact List.mem_filter.2 ⟨List.mem_of_find?_eq_some he, belongs_of_isAnchor hanchor⟩
    rcases mem_entries hmem with rfl | ⟨p, hp, rfl⟩ | rfl
    · rfl
    · have hlabel := (ne_of_checkLabel (h.isValid p.1 (List.mem_map_of_mem hp))).2
      rw [isAnchor_override hlabel] at hanchor
      cases hanchor
    · rw [isAnchor_silence] at hanchor
      cases hanchor

theorem block_eq_entries (r : Subject) (s : State) :
    block (anchor r.id r.alertName r.stated) r.id s.overrides
      (if s.dropped then [silence r.id] else []) = s.entries r := by
  obtain ⟨overrides, dropped⟩ := s
  by_cases ho : overrides = ∅
  · subst ho
    cases dropped <;> rfl
  · have hf : overrides.isEmpty = false :=
      Bool.eq_false_iff.2 fun he => ho (SortedMap.ext (List.isEmpty_iff.1 he))
    simp [block, State.entries, State.initial, ho, hf]

theorem belongs_of_mem_entries {e : RelabelEntry} (h : e ∈ s.entries r) :
    belongs r.id e = true := by
  rcases mem_entries h with rfl | ⟨p, -, rfl⟩ | rfl
  · exact belongs_of_isAnchor isAnchor_anchor
  · exact belongs_of_isScoped isScoped_override
  · exact belongs_of_isScoped isScoped_silence

theorem filter_belongs_entries : (s.entries r).filter (belongs r.id) = s.entries r :=
  List.filter_eq_self.2 fun _ he => belongs_of_mem_entries he

theorem filter_not_belongs_entries : (s.entries r).filter (fun e => !belongs r.id e) = [] := by
  rw [List.filter_eq_nil_iff]
  intro e he
  simp [belongs_of_mem_entries he]

theorem filter_belongs_filter_not (id : Identity) (es : List RelabelEntry) :
    (es.filter fun e => !belongs id e).filter (belongs id) = [] := by
  simp [List.filter_filter]

theorem forM_checkLabel {ks : List String} (h : ∀ k ∈ ks, checkLabel k = .ok ()) :
    ks.forM checkLabel = .ok () := by
  induction ks with
  | nil => rfl
  | cons k ks ih =>
    have hk := h k List.mem_cons_self
    have hks := ih fun k' hk' => h k' (List.mem_cons_of_mem _ hk')
    show (checkLabel k >>= fun _ => ks.forM checkLabel) = .ok ()
    rw [hk]
    exact hks

theorem update_of_isValid {delta : Labels} (h : (Request.update delta).IsValid)
    (r : Subject) (es : List RelabelEntry) :
    (Request.update delta).edit r es = .ok
      (if desired r.stated (current r.id es) delta = current r.id es then
        .unchanged
      else .between es (es.filter (fun e => !belongs r.id e)
        ++ block ((es.find? (isAnchor r.id)).getD (anchor r.id r.alertName r.stated)) r.id
          (desired r.stated (current r.id es) delta) (es.filter (isSilence r.id)))) := by
  change Override.update r.id r.alertName r.stated es delta = _
  unfold Override.update
  rw [forM_checkLabel h]
  by_cases hsame : desired r.stated (current r.id es) delta = current r.id es
  · simp only [if_pos hsame]
    rfl
  · simp only [if_neg hsame]
    rfl

theorem update_refines (h : Represents r s es) {delta : Labels}
    (hq : (Request.update delta).IsValid) :
    ∃ edit, (Request.update delta).edit r es = .ok edit
      ∧ Refines r s ((Request.update delta).next r s) es edit := by
  have hvalid := isValid_next h.isValid hq (r := r)
  rw [Request.next_update] at hvalid ⊢
  by_cases hsame : desired r.stated s.overrides delta = s.overrides
  · refine ⟨.unchanged, ?_, ?_⟩
    · rw [update_of_isValid hq, h.current_eq, if_pos hsame]
    · rw [hsame]
      exact .of_represents h h rfl (fun _ => rfl) (by simp)
  · let s' : State := { s with overrides := desired r.stated s.overrides delta }
    let es' := es.filter (fun e => !belongs r.id e) ++ s'.entries r
    have hedit : (Request.update delta).edit r es = .ok (.between es es') := by
      have hblock : block (anchor r.id r.alertName r.stated) r.id
          (desired r.stated s.overrides delta) (if s.dropped then [silence r.id] else [])
            = s'.entries r := block_eq_entries r s'
      rw [update_of_isValid hq, h.current_eq, if_neg hsame, stamp_eq h, filter_isSilence_eq h,
        hblock]
    have hown : es'.filter (belongs r.id) = s'.entries r := by
      rw [List.filter_append, filter_belongs_filter_not, filter_belongs_entries, List.nil_append]
    have hothers : es'.filter (fun e => !belongs r.id e) = es.filter (fun e => !belongs r.id e) := by
      rw [List.filter_append, filter_not_belongs_entries, List.append_nil, List.filter_filter]
      simp
    refine ⟨_, hedit, .of_represents h ?_ ?_ ?_ (between_ne_write_nil _ _)⟩
    · rw [Edit.entries_between]
      exact ⟨hvalid, hown⟩
    · rw [Edit.entries_between]
      exact hothers
    · intro hnext
      exact absurd (congrArg State.overrides hnext) hsame

theorem insertBefore_of_none {p : RelabelEntry → Bool} {e : RelabelEntry}
    (h : ∀ x ∈ es, p x = false) : insertBefore p e es = es ++ [e] := by
  induction es with
  | nil => rfl
  | cons x es ih =>
    have hx : p x = false := h x List.mem_cons_self
    have hes := ih fun y hy => h y (List.mem_cons_of_mem _ hy)
    rw [insertBefore] at hes ⊢
    simp [hx, hes]

/-- A rule without entries is stamped and silenced at the end of the list. -/
theorem drop_of_initial (h : Represents r .initial es) :
    Override.drop r.id r.alertName r.stated es
      = .write (es ++ [anchor r.id r.alertName r.stated, silence r.id]) := by
  have hanchored : es.any (isAnchor r.id) = false := h.any_isAnchor_eq
  have hdropped : isDropped r.id es = false := h.isDropped_eq
  have hnone : ∀ x ∈ es, isScoped r.id x = false := by
    intro x hx
    refine Bool.eq_false_iff.2 fun hs => ?_
    have hmem : x ∈ es.filter (belongs r.id) := List.mem_filter.2 ⟨hx, belongs_of_isScoped hs⟩
    rw [h.filter_eq] at hmem
    cases hmem
  simp [Override.drop, hanchored, hdropped, insertBefore_of_none hnone]

/-- A rule with entries is silenced at the end of the list. -/
theorem drop_of_ne_initial (h : Represents r s es) (hs : s ≠ .initial) (hd : s.dropped = false) :
    Override.drop r.id r.alertName r.stated es = .write (es ++ [silence r.id]) := by
  have hanchored : es.any (isAnchor r.id) = true := by
    rw [h.any_isAnchor_eq]
    exact decide_eq_true hs
  have hdropped : isDropped r.id es = false := h.isDropped_eq.trans hd
  simp [Override.drop, hanchored, hdropped]

theorem drop_of_dropped (h : Represents r s es) (hd : s.dropped = true) :
    Override.drop r.id r.alertName r.stated es = .unchanged := by
  have hs : s ≠ .initial := by
    rintro rfl
    cases hd
  have hanchored : es.any (isAnchor r.id) = true := by
    rw [h.any_isAnchor_eq]
    exact decide_eq_true hs
  have hdropped : isDropped r.id es = true := h.isDropped_eq.trans hd
  simp [Override.drop, hanchored, hdropped]

theorem belongs_silence : belongs r.id (silence r.id) = true :=
  belongs_of_isScoped isScoped_silence

theorem belongs_anchor : belongs r.id (anchor r.id r.alertName r.stated) = true :=
  belongs_of_isAnchor isAnchor_anchor

theorem drop_refines (h : Represents r s es) :
    ∃ edit, Request.drop.edit r es = .ok edit
      ∧ Refines r s (Request.drop.next r s) es edit := by
  refine ⟨_, rfl, ?_⟩
  cases hd : s.dropped with
  | true =>
    have hnext : Request.drop.next r s = s := by
      show { s with dropped := true } = s
      rw [← hd]
    rw [drop_of_dropped h hd, hnext]
    exact .of_represents h h rfl (fun _ => rfl) (by simp)
  | false =>
    have hne : Request.drop.next r s ≠ s := fun he => by
      have hdropped := congrArg State.dropped he
      rw [hd] at hdropped
      cases hdropped
    by_cases hs : s = .initial
    · subst hs
      rw [drop_of_initial h]
      refine .of_represents h ⟨h.isValid, ?_⟩ ?_ (fun he => absurd he hne) (by simp)
      · rw [Edit.entries, List.filter_append, h.filter_eq]
        simp only [List.filter_cons, belongs_anchor, belongs_silence]
        rfl
      · rw [Edit.entries, List.filter_append]
        simp [belongs_anchor, belongs_silence]
    · rw [drop_of_ne_initial h hs hd]
      refine .of_represents h ⟨h.isValid, ?_⟩ ?_ (fun he => absurd he hne) (by simp)
      · rw [Edit.entries, List.filter_append, h.filter_eq]
        simp only [List.filter_cons, belongs_silence]
        have hdropped : Request.drop.next r s ≠ .initial := fun he => by
          cases congrArg State.dropped he
        simp [State.entries, hs, hd, hdropped]
        rfl
      · rw [Edit.entries, List.filter_append]
        simp [belongs_silence]

/-- What is left of the entries of a silenced rule without its silence. -/
theorem filter_entries_of_dropped (hs : s.IsValid) (hd : s.dropped = true) :
    (s.entries r).filter (fun e =>
        !isSilence r.id e && (!s.overrides.isEmpty || !isAnchor r.id e))
      = State.entries r { s with dropped := false } := by
  have hne : s ≠ .initial := by
    rintro rfl
    cases hd
  have hoverrides : ∀ e ∈ s.overrides.toList.map (fun p => override r.id p.1 p.2),
      (!isSilence r.id e && (!s.overrides.isEmpty || !isAnchor r.id e)) = true := by
    intro e he
    obtain ⟨p, hp, rfl⟩ := List.mem_map.1 he
    have hlabel := (ne_of_checkLabel (hs p.1 (List.mem_map_of_mem hp))).2
    simp [isSilence_override, isAnchor_override hlabel]
  have hentries : s.entries r = anchor r.id r.alertName r.stated
      :: s.overrides.toList.map (fun p => override r.id p.1 p.2) ++ [silence r.id] := by
    rw [State.entries, if_neg hne, hd]
    rfl
  rw [hentries, List.filter_append, List.filter_cons, List.filter_eq_self.2 hoverrides]
  by_cases ho : s.overrides = ∅
  · have hempty : SortedMap.isEmpty (∅ : Labels) = true := rfl
    simp [ho, hempty, isAnchor_anchor, isSilence_silence, State.entries, State.initial]
  · have hf : s.overrides.isEmpty = false :=
      Bool.eq_false_iff.2 fun he => ho (SortedMap.ext (List.isEmpty_iff.1 he))
    simp [ho, hf, isSilence_anchor, isSilence_silence, State.entries, State.initial]

theorem restore_refines (h : Represents r s es) :
    ∃ edit, Request.restore.edit r es = .ok edit
      ∧ Refines r s (Request.restore.next r s) es edit := by
  refine ⟨_, rfl, ?_⟩
  cases hd : s.dropped with
  | false =>
    have hnext : Request.restore.next r s = s := by
      show { s with dropped := false } = s
      rw [← hd]
    have hedit : Override.restore r.id es = .unchanged := by
      simp [Override.restore, h.isDropped_eq, hd]
    rw [hedit, hnext]
    exact .of_represents h h rfl (fun _ => rfl) (by simp)
  | true =>
    let keep : RelabelEntry → Bool := fun e =>
      !isSilence r.id e && (!s.overrides.isEmpty || !isAnchor r.id e)
    have hedit : Override.restore r.id es = .between es (es.filter keep) := by
      simp [Override.restore, h.isDropped_eq, hd, h.current_eq, keep]
    have hown : (es.filter keep).filter (belongs r.id)
        = (Request.restore.next r s).entries r := by
      have hcomm : (es.filter keep).filter (belongs r.id)
          = (es.filter (belongs r.id)).filter keep := by
        rw [List.filter_filter, List.filter_filter]
        exact List.filter_congr fun e _ => Bool.and_comm _ _
      rw [hcomm, h.filter_eq]
      exact filter_entries_of_dropped h.isValid hd
    have hothers : (es.filter keep).filter (fun e => !belongs r.id e)
        = es.filter (fun e => !belongs r.id e) := by
      rw [List.filter_filter]
      refine List.filter_congr fun e _ => ?_
      cases hb : belongs r.id e with
      | true => rfl
      | false =>
        have hsilence : isSilence r.id e = false :=
          Bool.eq_false_iff.2 fun he => by simp [belongs_of_isSilence he] at hb
        have hanchor : isAnchor r.id e = false :=
          Bool.eq_false_iff.2 fun he => by simp [belongs_of_isAnchor he] at hb
        simp [keep, hsilence, hanchor]
    rw [hedit]
    refine .of_represents h ?_ ?_ ?_ (between_ne_write_nil _ _)
    · rw [Edit.entries_between]
      exact ⟨h.isValid, hown⟩
    · rw [Edit.entries_between]
      exact hothers
    · intro hnext
      have hdropped := congrArg State.dropped hnext
      rw [hd] at hdropped
      cases hdropped

/-- Every request does to the entries what it does to the state. -/
theorem request_refines (h : Represents r s es) {q : Request} (hq : q.IsValid) :
    ∃ edit, q.edit r es = .ok edit ∧ Refines r s (q.next r s) es edit := by
  cases q with
  | update delta => exact update_refines h hq
  | drop => exact drop_refines h
  | restore => exact restore_refines h

end requests

/-! ## Edits of any entries -/

theorem desired_empty {stated current delta : Labels} (h : desired stated current delta = ∅) :
    desired stated ∅ delta = ∅ := by
  refine SortedMap.ext_get? fun k => ?_
  have hk := congrArg (SortedMap.get? · k) h
  simp only [get?_desired, wanted?] at hk ⊢
  cases hd : delta.get? k with
  | none => rfl
  | some v =>
    rw [hd] at hk
    exact hk

theorem exists_edit_eq_ok {q : Request} (h : q.IsValid) (r : Subject)
    (es : List RelabelEntry) : ∃ edit, q.edit r es = .ok edit := by
  cases q with
  | update delta => exact ⟨_, update_of_isValid h r es⟩
  | drop => exact ⟨_, rfl⟩
  | restore => exact ⟨_, rfl⟩

theorem entries_eq_nil_of_between {es es' : List RelabelEntry}
    (h : Edit.between es es' = .delete) : es' = [] := by
  have hentries := Edit.entries_between es es'
  rw [h] at hentries
  exact hentries.symm

theorem eq_empty_of_block {a : RelabelEntry} {id : Identity} {overrides : Labels}
    {silences : List RelabelEntry} (h : block a id overrides silences = []) : overrides = ∅ := by
  unfold block at h
  split at h
  · rename_i hempty
    rw [Bool.and_eq_true] at hempty
    exact SortedMap.ext (List.isEmpty_iff.1 hempty.1)
  · cases h

theorem drop_ne_delete (id : Identity) (name : String) (stated : Labels)
    (es : List RelabelEntry) : Override.drop id name stated es ≠ .delete := by
  unfold Override.drop
  dsimp only
  split
  · simp
  · simp

/-- Whether an edit may be made of any entries, and has nothing to do where it has deleted. -/
structure IsEdit (f : List RelabelEntry → Except ValidationError Edit) : Prop where
  exists_ok : ∀ {es edit}, f es = .ok edit → ∀ es', ∃ edit', f es' = .ok edit'
  nil_of_delete : ∀ {es}, f es = .ok .delete → f [] = .ok .unchanged

theorem isEdit_edit (r : Subject) (q : Request) : IsEdit (q.edit r) where
  exists_ok h es' := exists_edit_eq_ok (isValid_of_edit h) r es'
  nil_of_delete {es} h := by
    cases q with
    | update delta =>
      have hvalid := isValid_of_edit h
      rw [update_of_isValid hvalid] at h ⊢
      have hnil : desired r.stated ∅ delta = ∅ := by
        split at h
        · cases h
        · have hentries := entries_eq_nil_of_between (Except.ok.inj h)
          exact desired_empty (eq_empty_of_block (List.append_eq_nil_iff.1 hentries).2)
      have hcurrent : current r.id [] = ∅ := rfl
      rw [hcurrent, if_pos hnil]
    | drop => exact absurd (Except.ok.inj h) (drop_ne_delete r.id r.alertName r.stated es)
    | restore => rfl

end RuleCatalog.Override
