import RuleCatalog.Proofs.Override.Family
import RuleCatalog.Proofs.Pattern.ReadLiteral
import RuleCatalog.Relabel.Run

/-! # What the entries of one rule do to another

The anchor of a rule looks at the labels that the rule states and at no others. The entries leave
another rule alone exactly when it does not have the looked-for values. Main statement:
`Reachable.relabel_eq_keep_iff`. -/
namespace RuleCatalog

/-! ## Entries that change nothing -/

theorem relabel_cons (e : RelabelEntry) (es : List RelabelEntry) (labels : Labels) :
    relabel (e :: es) labels
      = match e.step.apply labels with
        | .keep labels => relabel es labels
        | .drop => .drop := rfl

theorem relabel_of_forall {es : List RelabelEntry} {labels : Labels}
    (h : ∀ e ∈ es, e.step.apply labels = .keep labels) : relabel es labels = .keep labels := by
  induction es with
  | nil => rfl
  | cons e es ih =>
    have he := h e List.mem_cons_self
    have hes := ih fun e' he' => h e' (List.mem_cons_of_mem _ he')
    rw [relabel_cons, he]
    exact hes

/-- A step does nothing to labels other than its target. -/
theorem get?_of_apply_eq_keep {e : RelabelEntry} {n : String} (hn : e.target ≠ n)
    {labels labels' : Labels} (h : e.step.apply labels = .keep labels') :
    labels'.get? n = labels.get? n := by
  have hassign : ∀ v, (RelabelEntry.assign labels e.target v).get? n = labels.get? n := by
    intro v
    have hcompare : compare e.target n ≠ .eq := fun he =>
      hn (Std.LawfulEqOrd.eq_of_compare he)
    unfold RelabelEntry.assign
    split
    · rw [SortedMap.get?_erase, if_neg hcompare]
    · rw [SortedMap.get?_insert, if_neg fun he => hcompare (Std.OrientedCmp.eq_symm he)]
  unfold RelabelStep.apply at h
  rw [show e.step.entry = e from rfl] at h
  cases ha : e.action <;> simp only [ha] at h
  case replace =>
    cases hm : e.step.match? labels with
    | none =>
      rw [hm] at h
      cases h
      rfl
    | some c =>
      rw [hm] at h
      dsimp only at h
      split at h
      · cases h
        rfl
      · cases h
        exact hassign _
  case drop | keep =>
    split at h
    all_goals cases h
    all_goals rfl
  all_goals
    cases h
    rfl

theorem get?_of_relabel_eq_keep {es : List RelabelEntry} {n : String}
    (hn : ∀ e ∈ es, e.target ≠ n) {labels labels' : Labels}
    (h : relabel es labels = .keep labels') : labels'.get? n = labels.get? n := by
  induction es generalizing labels with
  | nil =>
    cases h
    rfl
  | cons e es ih =>
    rw [relabel_cons] at h
    cases he : e.step.apply labels with
    | drop =>
      rw [he] at h
      cases h
    | keep labels₁ =>
      rw [he] at h
      have hes := ih (fun e' he' => hn e' (List.mem_cons_of_mem _ he')) h
      rw [hes, get?_of_apply_eq_keep (hn e List.mem_cons_self) he]

namespace Override
variable {a b r : Subject} {s : State} {id : Identity} {labels : Labels}

/-! ## Given texts as patterns -/

/-- Whether a given text is short enough for a pattern. -/
def HasRoom (text : String) : Prop := (Utf8.bytes text).length + 6 ≤ 327680

instance (text : String) : Decidable (HasRoom text) := inferInstanceAs (Decidable (_ ≤ _))

theorem isSome_match?_exactly {e : RelabelEntry} {text : String} (h : e.regex = exactly text)
    (labels : Labels) :
    (e.step.match? labels).isSome = true ↔ e.input labels = text ∧ HasRoom text := by
  have hmatch := Pattern.find?_escape text.toList (e.input labels)
  rw [String.ofList_toList] at hmatch
  have hmatch? : e.step.match? labels
      = ((Pattern.parse? ("^(?:" ++ exactly text ++ ")$")).map Regex.matcher).bind
        (·.find? (e.input labels)) := by
    rw [← h]
    rfl
  rw [hmatch?]
  exact hmatch

theorem exactly_append (s t : String) : exactly (s ++ t) = exactly s ++ exactly t := by
  simp [exactly, Pattern.escape]

theorem exactly_intercalate (texts : List String) :
    exactly (String.intercalate ";" texts) = String.intercalate ";" (texts.map exactly) := by
  induction texts with
  | nil => rfl
  | cons t texts ih =>
    cases texts with
    | nil => simp
    | cons u texts =>
      rw [List.map_cons] at ih
      rw [String.intercalate_cons_cons, List.map_cons, List.map_cons,
        String.intercalate_cons_cons, exactly_append, exactly_append, ih]
      rfl

theorem apply_of_match?_eq_none {e : RelabelEntry} (ha : e.action = .replace ∨ e.action = .drop)
    (h : e.step.match? labels = none) : e.step.apply labels = .keep labels := by
  unfold RelabelStep.apply
  rw [show e.step.entry = e from rfl]
  rcases ha with ha | ha
  · rw [ha, h]
  · rw [ha, h]
    rfl

/-! ## Anchors -/

/-- The labels that a rule carries into a relabel program. -/
def Subject.carried (r : Subject) : Labels := r.stated.insert Label.alertName r.alertName

/-- What the anchor of a rule looks for, after the empty stamp. -/
def Subject.anchored (r : Subject) : String :=
  String.intercalate ";" (r.alertName :: (anchoring r.stated).values)

/-- Whether a rule has the values that the anchor of another one looks for. -/
def Resembles (b a : Subject) : Prop :=
  String.intercalate ";"
      (b.alertName :: (anchoring a.stated).keys.map fun k => (b.stated.get? k).getD "")
    = a.anchored ∧ HasRoom (";" ++ a.anchored)

instance : Decidable (Resembles b a) := inferInstanceAs (Decidable (_ ∧ _))

theorem anchor_regex (r : Subject) :
    (anchor r.id r.alertName r.stated).regex = exactly (";" ++ r.anchored) := by
  have hjoin : ";" ++ r.anchored
      = String.intercalate ";" ("" :: r.alertName :: (anchoring r.stated).values) := by
    rw [String.intercalate_cons_cons, String.empty_append]
    rfl
  rw [hjoin, exactly_intercalate]
  rfl

/-- Texts without a semicolon can be told from their join. -/
theorem eq_of_intercalate_eq {xs ys : List String} (hx : ∀ x ∈ xs, ';' ∉ x.toList)
    (hy : ∀ y ∈ ys, ';' ∉ y.toList) (hxs : xs ≠ []) (hys : ys ≠ [])
    (h : String.intercalate ";" xs = String.intercalate ";" ys) : xs = ys := by
  have hsplit : ∀ zs : List String, (∀ z ∈ zs, ';' ∉ z.toList) → zs ≠ [] →
      (String.intercalate ";" zs).toList.splitOn ';' = zs.map String.toList := by
    intro zs hz hzs
    rw [String.toList_intercalate]
    exact List.splitOn_intercalate ';' (by simpa using hz) (by simpa using hzs)
  have hmap : xs.map String.toList = ys.map String.toList := by
    rw [← hsplit xs hx hxs, ← hsplit ys hy hys, h]
  exact List.map_injective_iff.2 (fun _ _ => String.toList_inj.1) hmap

/-- Without semicolons, a rule has the looked-for values when it has the name and all labels of the
other one, and whatever else it has. -/
theorem resembles_iff_of_not_mem
    (ha : ∀ x ∈ a.alertName :: (anchoring a.stated).values, ';' ∉ x.toList)
    (hb : ∀ x ∈ b.alertName :: b.stated.values, ';' ∉ x.toList) :
    Resembles b a ↔ b.alertName = a.alertName
      ∧ (∀ p ∈ (anchoring a.stated).toList, (b.stated.get? p.1).getD "" = p.2)
      ∧ HasRoom (";" ++ a.anchored) := by
  have hvalues : ∀ x ∈ b.alertName :: (anchoring a.stated).keys.map
      (fun k => (b.stated.get? k).getD ""), ';' ∉ x.toList := by
    intro x hx
    rcases List.mem_cons.1 hx with rfl | hx
    · exact hb _ List.mem_cons_self
    · obtain ⟨k, -, rfl⟩ := List.mem_map.1 hx
      cases hk : b.stated.get? k with
      | none => simp
      | some v =>
        have hmem : (k, v) ∈ b.stated.toList := SortedMap.get?_eq_some_iff.1 hk
        exact hb v (List.mem_cons_of_mem _ (List.mem_map_of_mem hmem))
  have hjoin : String.intercalate ";" (b.alertName :: (anchoring a.stated).keys.map
        fun k => (b.stated.get? k).getD "") = a.anchored
      ↔ b.alertName = a.alertName
        ∧ ∀ p ∈ (anchoring a.stated).toList, (b.stated.get? p.1).getD "" = p.2 := by
    have hkeys : (anchoring a.stated).keys.map (fun k => (b.stated.get? k).getD "")
        = (anchoring a.stated).values
        ↔ ∀ p ∈ (anchoring a.stated).toList, (b.stated.get? p.1).getD "" = p.2 := by
      unfold SortedMap.keys SortedMap.values
      rw [List.map_map, List.map_inj_left]
      rfl
    rw [← hkeys, ← List.cons_eq_cons]
    constructor
    · exact fun h => eq_of_intercalate_eq hvalues ha (by simp) (by simp) h
    · exact fun h => congrArg (String.intercalate ";") h
  unfold Resembles
  rw [hjoin, and_assoc]

theorem ne_alertName_of_mem_anchoring {k : String} (h : k ∈ (anchoring r.stated).keys) :
    k ≠ Label.alertName := by
  rintro rfl
  obtain ⟨v, hv⟩ := SortedMap.mem_keys_iff.1 h
  unfold anchoring at hv
  rw [SortedMap.get?_filter, Option.filter_eq_some_iff] at hv
  simp [Label.isSystem] at hv

theorem get?_carried_of_ne {k : String} (h : k ≠ Label.alertName) :
    b.carried.get? k = b.stated.get? k := by
  unfold Subject.carried
  rw [SortedMap.get?_insert, if_neg fun he => h (Std.LawfulEqOrd.eq_of_compare he)]

theorem get?_ruleId_carried (hb : b.stated.get? Label.ruleId = none) :
    b.carried.get? Label.ruleId = none := by
  rw [get?_carried_of_ne (by decide), hb]

theorem anchor_input (hb : b.stated.get? Label.ruleId = none) :
    (anchor a.id a.alertName a.stated).input b.carried
      = ";" ++ String.intercalate ";"
        (b.alertName :: (anchoring a.stated).keys.map fun k => (b.stated.get? k).getD "") := by
  have hname : b.carried.get? Label.alertName = some b.alertName := SortedMap.get?_insert_self ..
  have hkeys : (anchoring a.stated).keys.map (fun k => (b.carried.get? k).getD "")
      = (anchoring a.stated).keys.map fun k => (b.stated.get? k).getD "" :=
    List.map_congr_left fun k hk => by
      rw [get?_carried_of_ne (ne_alertName_of_mem_anchoring hk)]
  have hinput : (anchor a.id a.alertName a.stated).input b.carried
      = String.intercalate ";" ((b.carried.get? Label.ruleId).getD ""
        :: (b.carried.get? Label.alertName).getD ""
        :: (anchoring a.stated).keys.map fun k => (b.carried.get? k).getD "") := rfl
  rw [hinput, hkeys, hname, get?_ruleId_carried hb, Option.getD_none, Option.getD_some,
    String.intercalate_cons_cons, String.empty_append]

theorem isSome_match?_anchor (hb : b.stated.get? Label.ruleId = none) :
    ((anchor a.id a.alertName a.stated).step.match? b.carried).isSome = true ↔ Resembles b a := by
  rw [isSome_match?_exactly (anchor_regex a), anchor_input hb]
  unfold Resembles
  simp

/-- An anchor that matches stamps the identity. -/
theorem apply_anchor_of_isSome (ha : a.id ≠ .empty)
    (h : ((anchor a.id a.alertName a.stated).step.match? labels).isSome = true) :
    (anchor a.id a.alertName a.stated).step.apply labels
      = .keep (labels.insert Label.ruleId a.id.text) := by
  have htext : a.id.text ≠ "" := fun he => ha (by cases hi : a.id; simp_all [Identity.empty])
  obtain ⟨c, hc⟩ := Option.isSome_iff_exists.1 h
  have hexpand : String.ofList (Template.expand c (written a.id.text).toList) = a.id.text := by
    simp [written, Template.expand_escape]
  have happly : (anchor a.id a.alertName a.stated).step.apply labels
      = .keep (RelabelEntry.assign labels Label.ruleId
        (.ofList (Template.expand c (written a.id.text).toList))) := by
    unfold RelabelStep.apply
    rw [hc]
    rfl
  rw [happly, hexpand, RelabelEntry.assign, if_neg htext]

/-! ## Runs -/

/-- What is scoped to a stamp does nothing where there is none. -/
theorem match?_scoped_eq_none {e : RelabelEntry} (he : isScoped id e = true) (hid : id ≠ .empty)
    (h : labels.get? Label.ruleId = none) : e.step.match? labels = none := by
  simp only [isScoped, Bool.and_eq_true, beq_iff_eq] at he
  obtain ⟨hsources, hregex⟩ := he
  have hinput : e.input labels = "" := by
    simp [RelabelEntry.input, hsources, h]
  rw [← Option.not_isSome_iff_eq_none, isSome_match?_exactly hregex, hinput]
  rintro ⟨htext, -⟩
  refine hid ?_
  cases id
  simp_all [Identity.empty]

theorem relabel_entries_of_not_resembles (ha : a.id ≠ .empty)
    (hb : b.stated.get? Label.ruleId = none) (h : ¬Resembles b a) :
    relabel (s.entries a) b.carried = .keep b.carried := by
  refine relabel_of_forall fun e he => ?_
  have hstamp := get?_ruleId_carried hb
  rcases mem_entries he with rfl | ⟨p, -, rfl⟩ | rfl
  · refine apply_of_match?_eq_none (.inl rfl) ?_
    rw [← Option.not_isSome_iff_eq_none, isSome_match?_anchor hb]
    exact h
  · exact apply_of_match?_eq_none (.inl rfl) (match?_scoped_eq_none isScoped_override ha hstamp)
  · exact apply_of_match?_eq_none (.inr rfl) (match?_scoped_eq_none isScoped_silence ha hstamp)

/-- A rule with the looked-for values is stamped, and nothing after the anchor takes the stamp
away. -/
theorem relabel_entries_ne_of_resembles (hs : s.IsValid) (hne : s ≠ .initial)
    (ha : a.id ≠ .empty) (hb : b.stated.get? Label.ruleId = none) (h : Resembles b a) :
    relabel (s.entries a) b.carried ≠ .keep b.carried := by
  intro hkeep
  let rest := s.overrides.toList.map (fun p => override a.id p.1 p.2)
    ++ if s.dropped then [silence a.id] else []
  have hentries : s.entries a = anchor a.id a.alertName a.stated :: rest := by
    rw [State.entries, if_neg hne]
    rfl
  have hstamp : (anchor a.id a.alertName a.stated).step.apply b.carried
      = .keep (b.carried.insert Label.ruleId a.id.text) :=
    apply_anchor_of_isSome ha ((isSome_match?_anchor hb).2 h)
  have htargets : ∀ e ∈ rest, e.target ≠ Label.ruleId := by
    intro e he
    rcases List.mem_append.1 he with he | he
    · obtain ⟨p, hp, rfl⟩ := List.mem_map.1 he
      exact (ne_of_checkLabel (hs p.1 (List.mem_map_of_mem hp))).2
    · split at he
      · rw [List.mem_singleton.1 he]
        exact (by decide : "" ≠ Label.ruleId)
      · cases he
  rw [hentries, relabel_cons, hstamp] at hkeep
  have hget := get?_of_relabel_eq_keep htargets hkeep
  rw [get?_ruleId_carried hb, SortedMap.get?_insert_self] at hget
  cases hget

/-! ## Reachable entries -/

/-- The entries that requests for one rule alone lead to. -/
inductive Reachable (r : Subject) : List RelabelEntry → Prop
  | nil : Reachable r []
  | edit {es : List RelabelEntry} {q : Request} {edit : Edit} (h : Reachable r es)
    (hedit : q.edit r es = .ok edit) : Reachable r (edit.entries es)

/-- What requests lead to are the entries of a state with nothing in it that the rule has anyway. -/
theorem Reachable.exists_state {es : List RelabelEntry} (h : Reachable r es) :
    ∃ s : State, s.IsValid ∧ s.IsMinimal r ∧ es = s.entries r := by
  induction h with
  | nil => exact ⟨.initial, State.isValid_initial, State.isMinimal_initial r, rfl⟩
  | @edit _ q edit h hedit ih =>
    obtain ⟨s, hs, hminimal, rfl⟩ := ih
    have hrepresents : Represents r s (s.entries r) := ⟨hs, filter_belongs_entries⟩
    obtain ⟨edit', hedit', hrefines⟩ := request_refines hrepresents (isValid_of_edit hedit)
    obtain rfl : edit' = edit := Except.ok.inj (hedit'.symm.trans hedit)
    have hall : (edit'.entries (s.entries r)).filter (belongs r.id)
        = edit'.entries (s.entries r) := by
      rw [List.filter_eq_self]
      intro e he
      have hothers := hrefines.others
      rw [filter_not_belongs_entries, List.filter_eq_nil_iff] at hothers
      simpa using hothers e he
    exact ⟨_, hrefines.represents.isValid, isMinimal_next hminimal q,
      hall.symm.trans hrefines.represents.filter_eq⟩

theorem Reachable.exists_eq_entries {es : List RelabelEntry} (h : Reachable r es) :
    ∃ s : State, s.IsValid ∧ es = s.entries r := by
  obtain ⟨s, hs, -, hes⟩ := h.exists_state
  exact ⟨s, hs, hes⟩

/-- The entries of one rule leave another one alone exactly when there are none, or the other rule
does not have the values that the anchor looks for. -/
theorem Reachable.relabel_eq_keep_iff {es : List RelabelEntry} (h : Reachable a es)
    (ha : a.id ≠ .empty) (hb : b.stated.get? Label.ruleId = none) :
    relabel es b.carried = .keep b.carried ↔ es = [] ∨ ¬Resembles b a := by
  obtain ⟨s, hs, rfl⟩ := h.exists_eq_entries
  constructor
  · intro hkeep
    by_cases hne : s = .initial
    · exact .inl (if_pos hne)
    · exact .inr fun hresembles => relabel_entries_ne_of_resembles hs hne ha hb hresembles hkeep
  · rintro (hnil | hresembles)
    · rw [hnil]
      rfl
    · exact relabel_entries_of_not_resembles ha hb hresembles

theorem Reachable.silenced (r : Subject) :
    Reachable r [anchor r.id r.alertName r.stated, silence r.id] :=
  Reachable.nil.edit (q := .drop) rfl

/-- The silence of one twin leaves the other one alone. -/
theorem relabel_silenced_twin :
    let es := [anchor ⟨"Watchdog;1a"⟩ "Watchdog" (twins false).stated, silence ⟨"Watchdog;1a"⟩]
    Reachable (twins false) es ∧ relabel es (twins true).carried = .keep (twins true).carried := by
  intro es
  have h : Reachable (twins false) es := .silenced (twins false)
  have hid : (twins false).id ≠ .empty := by decide
  have hstamp : (twins true).stated.get? Label.ruleId = none := by decide +kernel
  have hvalues : ¬Resembles (twins true) (twins false) := by decide +kernel
  exact ⟨h, (h.relabel_eq_keep_iff hid hstamp).2 (.inr hvalues)⟩

/-- A label that the silenced rule does not state is not looked at: a rule that has all of its
labels and one more is silenced with it. -/
theorem relabel_narrower_rule :
    let a : Subject := ⟨⟨"DiskFull;1a"⟩, "DiskFull", .ofList [("severity", "warning")]⟩
    let b : Subject :=
      ⟨⟨"DiskFull;2b"⟩, "DiskFull", .ofList [("severity", "warning"), ("team", "web")]⟩
    a.id ≠ b.id ∧ anchoring a.stated ≠ anchoring b.stated
      ∧ a.stated.get? Label.ruleId = none ∧ b.stated.get? Label.ruleId = none
      ∧ ∃ es, Reachable a es ∧ relabel es b.carried = .drop := by
  intro a b
  have hdrop : relabel [anchor a.id a.alertName a.stated, silence a.id] b.carried = .drop := by
    decide +kernel
  exact ⟨by decide, by decide +kernel, by decide +kernel, by decide +kernel, _, .silenced a, hdrop⟩

end Override

end RuleCatalog
