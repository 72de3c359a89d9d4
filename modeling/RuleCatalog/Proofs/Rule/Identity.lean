import RuleCatalog.Rule.Identity

/-! # What an identity tells apart

The content of a rule is one text for all its fields, joined with equals signs, commas and line
breaks that the fields may hold themselves. Rules whose fields can be told apart in this text
have one identity only if they have the same business content. Main statement: `ofRule_eq_iff`. -/
namespace RuleCatalog

/-! ## Joined texts -/

/-- Texts that are joined by a mark which starts with a character of its own are told apart at
its last place. -/
theorem eq_of_append_mark_eq {c : Char} {w x x' a a' : List Char} (hc : c ∉ w)
    (ha : ¬ c :: w <:+: a) (ha' : ¬ c :: w <:+: a')
    (h : x ++ (c :: w ++ a) = x' ++ (c :: w ++ a')) : x = x' ∧ a = a' := by
  -- the longer text in front would hold the mark of the other one, or a part of it
  have hfront : ∀ {y a a' : List Char}, ¬ c :: w <:+: a →
      c :: w ++ a = y ++ (c :: w ++ a') → y = [] := by
    intro y a a' ha heq
    cases y with
    | nil => rfl
    | cons d y =>
      obtain ⟨-, htail⟩ := List.cons.inj heq
      rcases List.append_eq_append_iff.1 htail with ⟨z, rfl, hz⟩ | ⟨z, rfl, hz⟩
      · exact absurd ⟨z, a', by rw [hz, List.append_assoc]⟩ ha
      · cases z with
        | nil => exact absurd ⟨[], a', hz⟩ ha
        | cons d z =>
          obtain ⟨rfl, -⟩ := List.cons.inj hz
          exact absurd (List.mem_append_right y List.mem_cons_self) hc
  rcases List.append_eq_append_iff.1 h with ⟨y, rfl, heq⟩ | ⟨y, rfl, heq⟩
  · obtain rfl := hfront ha heq
    exact ⟨(List.append_nil x).symm, List.append_cancel_left heq⟩
  · obtain rfl := hfront ha' heq
    exact ⟨List.append_nil x', (List.append_cancel_left heq).symm⟩

/-- Texts that are joined by a character that is not in the first ones are told apart at its first
place. -/
theorem eq_of_append_cons_eq {c : Char} {x x' a a' : List Char} (hx : c ∉ x) (hx' : c ∉ x')
    (h : x ++ c :: a = x' ++ c :: a') : x = x' ∧ a = a' := by
  rcases List.append_eq_append_iff.1 h with ⟨y, rfl, heq⟩ | ⟨y, rfl, heq⟩
  · cases y with
    | nil => exact ⟨(List.append_nil x).symm, (List.cons.inj heq).2⟩
    | cons d y =>
      obtain ⟨rfl, -⟩ := List.cons.inj heq
      exact absurd (List.mem_append_right x List.mem_cons_self) hx'
  · cases y with
    | nil => exact ⟨List.append_nil x', (List.cons.inj heq).2.symm⟩
    | cons d y =>
      obtain ⟨rfl, -⟩ := List.cons.inj heq
      exact absurd (List.mem_append_right x' List.mem_cons_self) hx

/-! ## Entries -/

namespace Identity

/-- Whether an entry can be told from its neighbours in a joined text: no sign that joins is in its
key, and no equals sign follows a comma in its value. -/
structure IsEntry (p : String × String) : Prop where
  key : '=' ∉ p.1.toList ∧ ',' ∉ p.1.toList
  value : ∀ us vs, p.2.toList = us ++ ',' :: vs → '=' ∉ vs

/-- The text of entries, as characters. -/
def joined (ps : List (String × String)) : List Char :=
  List.intercalate [','] (ps.map fun p => p.1.toList ++ '=' :: p.2.toList)

/-- The text of entries after an entry. -/
def joinedTail : List (String × String) → List Char
  | [] => []
  | p :: ps => ',' :: joined (p :: ps)

theorem toList_joinPairs (labels : Labels) : (joinPairs labels).toList = joined labels.toList := by
  rw [joinPairs, String.toList_intercalate, List.map_map, joined]
  congr 1
  refine List.map_congr_left fun p _ => ?_
  show (p.1 ++ "=" ++ p.2).toList = _
  rw [String.toList_append, String.toList_append, List.append_assoc]
  rfl

theorem joined_cons (p : String × String) (ps : List (String × String)) :
    joined (p :: ps) = p.1.toList ++ '=' :: (p.2.toList ++ joinedTail ps) := by
  cases ps with
  | nil => simp [joined, joinedTail]
  | cons q ps => simp [joined, joinedTail, List.intercalate_cons_cons]

/-- A value ends where the entries go on: the next equals sign is the one after the next key. -/
theorem eq_nil_of_joinedTail_eq {ps qs : List (String × String)} {v w : List Char}
    (hps : ∀ p ∈ ps, IsEntry p) (hw : ∀ us vs, w = us ++ ',' :: vs → '=' ∉ vs)
    {y : List Char} (hy : w = v ++ y) (h : joinedTail ps = y ++ joinedTail qs) : y = [] := by
  cases y with
  | nil => rfl
  | cons d y =>
    exfalso
    cases ps with
    | nil => cases h
    | cons p ps =>
      obtain ⟨rfl, htail⟩ := List.cons.inj h
      have hequal : '=' ∉ y := hw v y hy
      change joined (p :: ps) = y ++ joinedTail qs at htail
      rw [joined_cons] at htail
      have hkey := hps p List.mem_cons_self
      cases qs with
      | nil =>
        rw [joinedTail, List.append_nil] at htail
        exact hequal (htail ▸ List.mem_append_right _ List.mem_cons_self)
      | cons q qs =>
        -- either the value holds the equals sign after the key, or the key the comma
        rcases List.append_eq_append_iff.1 htail with ⟨z, rfl, hz⟩ | ⟨z, hz, hz'⟩
        · cases z with
          | nil => cases hz
          | cons e z =>
            obtain ⟨rfl, -⟩ := List.cons.inj hz
            exact hequal (List.mem_append_right _ List.mem_cons_self)
        · cases z with
          | nil => cases hz'
          | cons e z =>
            obtain ⟨rfl, -⟩ := List.cons.inj hz'
            exact hkey.key.2 (hz ▸ List.mem_append_right _ List.mem_cons_self)

/-- Entries that can be told apart are joined to a text of their own. -/
theorem eq_of_joined_eq {ps qs : List (String × String)} (hps : ∀ p ∈ ps, IsEntry p)
    (hqs : ∀ q ∈ qs, IsEntry q) (h : joined ps = joined qs) : ps = qs := by
  induction ps generalizing qs with
  | nil =>
    cases qs with
    | nil => rfl
    | cons q qs =>
      rw [joined_cons] at h
      exact absurd h (by simp [joined])
  | cons p ps ih =>
    cases qs with
    | nil =>
      rw [joined_cons] at h
      exact absurd h (by simp [joined])
    | cons q qs =>
      have hp := hps p List.mem_cons_self
      have hq := hqs q List.mem_cons_self
      have hps' : ∀ r ∈ ps, IsEntry r := fun r hr => hps r (List.mem_cons_of_mem p hr)
      have hqs' : ∀ r ∈ qs, IsEntry r := fun r hr => hqs r (List.mem_cons_of_mem q hr)
      rw [joined_cons, joined_cons] at h
      obtain ⟨hkey, h⟩ := eq_of_append_cons_eq hp.key.1 hq.key.1 h
      have hvalue : p.2.toList = q.2.toList ∧ joinedTail ps = joinedTail qs := by
        rcases List.append_eq_append_iff.1 h with ⟨y, hy, htail⟩ | ⟨y, hy, htail⟩
        · obtain rfl := eq_nil_of_joinedTail_eq hps' hq.value hy htail
          exact ⟨by rw [hy, List.append_nil], htail⟩
        · obtain rfl := eq_nil_of_joinedTail_eq hqs' hp.value hy htail
          exact ⟨by rw [hy, List.append_nil], htail.symm⟩
      have hrest : joined ps = joined qs := by
        cases ps <;> cases qs <;> simp_all [joinedTail]
      rw [ih hps' hqs' hrest, Prod.ext (String.toList_inj.1 hkey) (String.toList_inj.1 hvalue.1)]

theorem eq_of_joinPairs_eq {labels labels' : Labels} (h : ∀ p ∈ labels.toList, IsEntry p)
    (h' : ∀ p ∈ labels'.toList, IsEntry p) (heq : joinPairs labels = joinPairs labels') :
    labels = labels' := by
  have hjoined := congrArg String.toList heq
  rw [toList_joinPairs, toList_joinPairs] at hjoined
  exact SortedMap.ext (eq_of_joined_eq h h' hjoined)

/-! ## The content -/

/-- Whether the fields of a rule can be told apart in its content. -/
structure IsSeparable (r : Rule) : Prop where
  hold : ¬ "\nfor=".toList <:+: (Text.trimmed (r.hold.getD "")).toList
  labels : ∀ p ∈ r.labels.business.toList, IsEntry p
  labelLines : ¬ "\nlabels=".toList <:+: (joinPairs r.labels.business).toList
  annotations : ∀ p ∈ r.annotations.toList, IsEntry p
  annotationLines : ¬ "\nannotations=".toList <:+: (joinPairs r.annotations).toList

/-- The content of a rule up to its expression. -/
def contentStart (r : Rule) (name : String) : List Char :=
  "kind=".toList ++ r.kind.text.toList ++ "\nname=".toList ++ name.toList ++ "\nexpr=".toList
    ++ (Query.canonicalize r.expr).toList

theorem toList_lines (kind name expr hold labels annotations : String) :
    (String.intercalate "\n" ["kind=" ++ kind, "name=" ++ name, "expr=" ++ expr, "for=" ++ hold,
      "labels=" ++ labels, "annotations=" ++ annotations]).toList =
    "kind=".toList ++ kind.toList ++ "\nname=".toList ++ name.toList ++ "\nexpr=".toList ++ expr.toList
      ++ ("\nfor=".toList ++ hold.toList) ++ ("\nlabels=".toList ++ labels.toList)
      ++ ("\nannotations=".toList ++ annotations.toList) := by
  simp only [String.toList_intercalate, List.map_cons, List.map_nil, List.intercalate_cons_cons,
    List.intercalate_singleton, String.toList_append, List.append_assoc]
  rfl

theorem toList_content (r : Rule) (name : String) : (content r name).toList =
    contentStart r name ++ ("\nfor=".toList ++ (Text.trimmed (r.hold.getD "")).toList)
      ++ ("\nlabels=".toList ++ (joinPairs r.labels.business).toList)
      ++ ("\nannotations=".toList ++ (joinPairs r.annotations).toList) :=
  toList_lines _ _ _ _ _ _

/-- The content of a rule tells the fields after its expression apart. -/
theorem eq_of_content_eq {r s : Rule} {name name' : String} (hr : IsSeparable r) (hs : IsSeparable s)
    (h : content r name = content s name') :
    contentStart r name = contentStart s name'
      ∧ Text.trimmed (r.hold.getD "") = Text.trimmed (s.hold.getD "")
      ∧ r.labels.business = s.labels.business ∧ r.annotations = s.annotations := by
  have htext := congrArg String.toList h
  rw [toList_content, toList_content] at htext
  obtain ⟨hbefore, hannotations⟩ :=
    eq_of_append_mark_eq (by decide) hr.annotationLines hs.annotationLines htext
  obtain ⟨hbefore, hlabels⟩ :=
    eq_of_append_mark_eq (by decide) hr.labelLines hs.labelLines hbefore
  obtain ⟨hstart, hhold⟩ := eq_of_append_mark_eq (by decide) hr.hold hs.hold hbefore
  exact ⟨hstart, String.toList_inj.1 hhold,
    eq_of_joinPairs_eq hr.labels hs.labels (String.toList_inj.1 hlabels),
    eq_of_joinPairs_eq hr.annotations hs.annotations (String.toList_inj.1 hannotations)⟩

/-- The text of a rule's kind ends where the line ends. -/
theorem kind_of_text_append_eq {k k' : RuleKind} {a a' : List Char}
    (h : k.text.toList ++ '\n' :: a = k'.text.toList ++ '\n' :: a') : k = k' := by
  have hline : ∀ k : RuleKind, '\n' ∉ k.text.toList := by
    intro k
    cases k <;> decide
  have htext := String.toList_inj.1 (eq_of_append_cons_eq (hline k) (hline k') h).1
  revert htext
  cases k <;> cases k' <;> decide

theorem eq_of_contentStart_eq {r s : Rule} {name : String} (h : contentStart r name = contentStart s name) :
    r.kind = s.kind ∧ Query.canonicalize r.expr = Query.canonicalize s.expr := by
  unfold contentStart at h
  generalize Query.canonicalize r.expr = expr, Query.canonicalize s.expr = expr' at h ⊢
  have hkind : r.kind = s.kind := by
    simp only [List.append_assoc, List.append_cancel_left_eq] at h
    exact kind_of_text_append_eq h
  rw [hkind] at h
  exact ⟨hkind, String.toList_inj.1 (List.append_cancel_left h)⟩

theorem length_hexDigest (message : List UInt8) : (Sha256.hexDigest message).toList.length = 64 := by
  have hbytes : ∀ bs : List UInt8, (bs.flatMap Text.hexByte).length = 2 * bs.length := by
    intro bs
    induction bs with
    | nil => rfl
    | cons b bs ih =>
      rw [List.flatMap_cons, List.length_append, ih, List.length_cons, Text.hexByte]
      simp only [List.length_cons, List.length_nil]
      omega
  rw [Sha256.hexDigest, String.toList_ofList, hbytes, Sha256.length_digest]

theorem ofRule_of_name? {r : Rule} {name : String} (h : r.name? = some name) :
    ofRule r = ⟨name ++ ";" ++ Sha256.hexDigest (Utf8.bytes (content r name))⟩ := by
  rw [ofRule, h]

/-- Two rules with names whose fields can be told apart have one identity exactly if they have one
business content. -/
theorem ofRule_eq_iff {r s : Rule} {name name' : String} (hr : r.name? = some name)
    (hs : s.name? = some name') (hrfields : IsSeparable r) (hsfields : IsSeparable s)
    (hdigest : Sha256.hexDigest (Utf8.bytes (content r name))
        = Sha256.hexDigest (Utf8.bytes (content s name')) → content r name = content s name') :
    ofRule r = ofRule s ↔ r.kind = s.kind ∧ name = name'
      ∧ Query.canonicalize r.expr = Query.canonicalize s.expr
      ∧ Text.trimmed (r.hold.getD "") = Text.trimmed (s.hold.getD "")
      ∧ r.labels.business = s.labels.business ∧ r.annotations = s.annotations := by
  rw [ofRule_of_name? hr, ofRule_of_name? hs, Identity.mk.injEq]
  constructor
  · intro h
    have htext := congrArg String.toList h
    simp only [String.toList_append] at htext
    obtain ⟨hname, hsha⟩ := List.append_inj' htext ((length_hexDigest _).trans (length_hexDigest _).symm)
    obtain rfl := String.toList_inj.1 (List.append_cancel_right hname)
    obtain ⟨hstart, hhold, hlabels, hannotations⟩ :=
      eq_of_content_eq hrfields hsfields (hdigest (String.toList_inj.1 hsha))
    obtain ⟨hkind, hexpr⟩ := eq_of_contentStart_eq hstart
    exact ⟨hkind, rfl, hexpr, hhold, hlabels, hannotations⟩
  · rintro ⟨hkind, rfl, hexpr, hhold, hlabels, hannotations⟩
    rw [content, content, hkind, hexpr, hhold, hlabels, hannotations]

/-- The statement at two layouts of a rule, one of them stamped with its name. -/
theorem ofRule_eq_iff_stamped :
    ofRule ⟨some "DiskFull", none, "disk_used == 0", some " 5m", .ofList [("severity", "warning")], ∅⟩
      = ofRule ⟨some "DiskFull", none, "disk_used==0", some "5m",
        .ofList [("alertname", "DiskFull"), ("severity", "warning")], ∅⟩ := by
  have hentry : IsEntry ("severity", "warning") :=
    ⟨by decide, fun us vs h => absurd (h ▸ List.mem_append_right us List.mem_cons_self :
      ',' ∈ "warning".toList) (by decide)⟩
  have hseparable (hold : Option String) (labels : Labels)
      (hhold : Text.trimmed (hold.getD "") = "5m")
      (hlabels : labels.business.toList = [("severity", "warning")]) (expr : String) :
      IsSeparable ⟨some "DiskFull", none, expr, hold, labels, ∅⟩ := by
    have hjoined : joinPairs labels.business = "severity=warning" := by
      rw [joinPairs, hlabels]
      decide +kernel
    have hempty : ¬ "\nannotations=".toList <:+: (joinPairs ∅).toList := by decide +kernel
    refine ⟨?_, ?_, ?_, by simp, hempty⟩
    · rw [hhold]
      decide +kernel
    · rw [hlabels]
      simpa using hentry
    · rw [hjoined]
      decide +kernel
  have hexpr : Query.canonicalize "disk_used == 0" = Query.canonicalize "disk_used==0" := by
    decide +kernel
  have hhold : Text.trimmed " 5m" = "5m" := by decide +kernel
  have hhold' : Text.trimmed "5m" = "5m" := by decide +kernel
  have hlabels : Labels.business (.ofList [("severity", "warning")])
      = Labels.business (.ofList [("alertname", "DiskFull"), ("severity", "warning")]) := by
    decide +kernel
  refine (ofRule_eq_iff rfl rfl ?_ ?_ ?_).2 ?_
  · exact hseparable (some " 5m") _ hhold (by decide +kernel) _
  · exact hseparable (some "5m") _ hhold' (by decide +kernel) _
  · intro _
    simp only [content, hexpr, Option.getD_some, hhold, hhold', hlabels]
    rfl
  · exact ⟨rfl, rfl, hexpr, hhold.trans hhold'.symm, hlabels, rfl⟩

/-- A value may read as the end of one label and the whole of the next. -/
theorem ofRule_eq_of_joined_value :
    ofRule ⟨some "DiskFull", none, "disk_used > 90", none,
        .ofList [("severity", "warning,team=web")], ∅⟩
      = ofRule ⟨some "DiskFull", none, "disk_used > 90", none,
        .ofList [("severity", "warning"), ("team", "web")], ∅⟩
      ∧ Labels.business (.ofList [("severity", "warning,team=web")])
        ≠ Labels.business (.ofList [("severity", "warning"), ("team", "web")]) := by
  refine ⟨?_, by decide +kernel⟩
  have hjoined : joinPairs (Labels.business (.ofList [("severity", "warning,team=web")]))
      = joinPairs (Labels.business (.ofList [("severity", "warning"), ("team", "web")])) := by
    decide +kernel
  have hname (labels : Labels) :
      Rule.name? ⟨some "DiskFull", none, "disk_used > 90", none, labels, ∅⟩ = some "DiskFull" := rfl
  rw [ofRule_of_name? (hname _), ofRule_of_name? (hname _)]
  simp only [content, hjoined]
  rfl

end Identity
end RuleCatalog
