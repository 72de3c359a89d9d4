import RuleCatalog.Proofs.Query.RoundTrip

/-! # Layout carries no meaning

A text that is scanned is a row of gaps and tokens. Its gaps may be replaced by others, and put
where none were, without a change to its tokens. Main statements: `scan_eq_ok_iff`,
`Relaid.scan_eq` and `scan_relaid`. -/
namespace RuleCatalog.Query
open Text

variable {c : Char} {cs cs' g g' r v w : List Char} {t : Token} {ts : List Token}

/-! ## Gaps -/

/-- A row of blanks and comments, each comment with the end of its line. -/
inductive IsGap : List Char → Prop
  | nil : IsGap []
  | blank {c : Char} {g : List Char} (hc : isBlank c = true) (h : IsGap g) : IsGap (c :: g)
  | comment {w g : List Char} (hw : '\n' ∉ w) (h : IsGap g) : IsGap ('#' :: (w ++ '\n' :: g))

theorem skipGap_blank (hc : isBlank c = true) (cs : List Char) :
    skipGap false (c :: cs) = skipGap false cs := by
  rw [skipGap, if_pos hc]

theorem skipGap_hash (cs : List Char) : skipGap false ('#' :: cs) = skipGap true cs := by
  rw [skipGap, if_neg (by decide)]
  rfl

theorem skipGap_token (hb : isBlank c = false) (hc : c ≠ '#') (cs : List Char) :
    skipGap false (c :: cs) = c :: cs := by
  rw [skipGap, if_neg (by rw [hb]; exact Bool.false_ne_true), if_neg (by simpa using hc)]

/-- A comment without an end of its line takes the rest of the text. -/
theorem skipGap_open (hw : '\n' ∉ w) : skipGap true w = [] := by
  induction w with
  | nil => rfl
  | cons c w ih =>
    rw [List.mem_cons, not_or] at hw
    have hc : (c != '\n') = true := by simpa using Ne.symm hw.1
    rw [skipGap, hc, ih hw.2]

theorem skipGap_comment (hw : '\n' ∉ w) (cs : List Char) :
    skipGap true (w ++ '\n' :: cs) = skipGap false cs := by
  induction w with
  | nil => rfl
  | cons c w ih =>
    rw [List.mem_cons, not_or] at hw
    have hc : (c != '\n') = true := by simpa using Ne.symm hw.1
    rw [List.cons_append, skipGap, hc, ih hw.2]

theorem IsGap.skipGap_append (h : IsGap g) (cs : List Char) :
    skipGap false (g ++ cs) = skipGap false cs := by
  induction h with
  | nil => rfl
  | blank hc h ih => rw [List.cons_append, skipGap_blank hc, ih]
  | @comment w g hw h ih =>
    rw [List.cons_append, List.append_assoc, List.cons_append, skipGap_hash, skipGap_comment hw, ih]

theorem IsGap.scan_append (h : IsGap g) (cs : List Char) : scan (g ++ cs) = scan cs := by
  rw [scan.eq_def, scan.eq_def cs, h.skipGap_append]

theorem IsGap.not_isSolid (h : IsGap g) : ∀ d ∈ g.head?, ¬ IsSolid d := by
  cases h with
  | nil => simp
  | blank hc h =>
    rintro d hd hsolid
    obtain rfl := Option.some.inj hd
    rw [hsolid.blank] at hc
    cases hc
  | comment hw h =>
    rintro d hd hsolid
    exact hsolid.comment (Option.some.inj hd).symm

/-- A text is skipped, or a gap and then a character of a token stand in front. -/
theorem exists_gap (cs : List Char) : skipGap false cs = [] ∨
    ∃ g c r, IsGap g ∧ cs = g ++ c :: r ∧ isBlank c = false ∧ c ≠ '#' := by
  match cs with
  | [] => exact .inl rfl
  | c :: cs =>
    cases hc : isBlank c with
    | true =>
      refine (exists_gap cs).imp (fun h => ?_) fun ⟨g, d, r, hg, hcs, hd⟩ => ?_
      · rw [skipGap_blank hc, h]
      · exact ⟨c :: g, d, r, .blank hc hg, by rw [hcs, List.cons_append], hd⟩
    | false =>
      by_cases hhash : c = '#'
      · subst hhash
        by_cases hline : '\n' ∈ cs
        · obtain ⟨w, cs', rfl, hw⟩ := List.eq_append_cons_of_mem hline
          refine (exists_gap cs').imp (fun h => ?_) fun ⟨g, d, r, hg, hcs, hd⟩ => ?_
          · rw [skipGap_hash, skipGap_comment hw, h]
          · refine ⟨'#' :: (w ++ '\n' :: g), d, r, .comment hw hg, ?_, hd⟩
            rw [hcs, List.cons_append, List.append_assoc, List.cons_append]
        · left
          rw [skipGap_hash, skipGap_open hline]
      · exact .inr ⟨[], c, cs, .nil, rfl, hc, hhash⟩
termination_by cs.length
decreasing_by
  all_goals simp_all
  all_goals omega

/-! ## Texts of tokens -/

/-- Whether a text is a row of gaps and the tokens it is scanned to, where the gaps in front of
tokens are of a kind. -/
inductive Scans (p : List Char → Prop) : List Char → List Token → Prop
  | last {g : List Char} (h : skipGap false g = []) : Scans p g []
  | token {g v r : List Char} {c : Char} {t : Token} {ts : List Token} (hg : p g)
      (hlex : lexeme c (v ++ r) = .ok (t, r)) (h : Scans p r ts) :
      Scans p (g ++ c :: (v ++ r)) (t :: ts)

/-- A character that a token starts with stands in no gap. -/
theorem not_gap_of_lexeme (h : lexeme c (v ++ r) = .ok (t, r)) : isBlank c = false ∧ c ≠ '#' := by
  rcases chars_of_lexeme h with hsolid | ⟨hmark, -⟩
  · have hc := hsolid c List.mem_cons_self
    exact ⟨hc.blank, hc.comment⟩
  · constructor
    · cases hb : isBlank c with
      | false => rfl
      | true =>
        rw [quoteMark?_of_isBlank hb] at hmark
        cases hmark
    · rintro rfl
      cases hmark

theorem IsGap.scan_token (hg : IsGap g) (h : lexeme c (v ++ r) = .ok (t, r)) :
    scan (g ++ c :: (v ++ r)) = (scan r).map (t :: ·) := by
  obtain ⟨hblank, hc⟩ := not_gap_of_lexeme h
  rw [hg.scan_append, scan_cons hblank hc, h]

theorem scan_of_skipGap (h : skipGap false cs = []) : scan cs = .ok [] := by
  rw [scan.eq_def]
  split
  · rfl
  · rename_i hgap
    rw [h] at hgap
    cases hgap

theorem scan_eq_ok_iff : scan cs = .ok ts ↔ Scans IsGap cs ts := by
  constructor
  · intro h
    induction hn : cs.length using Nat.strongRecOn generalizing cs ts with | ind n ih => ?_
    subst hn
    rcases exists_gap cs with hskip | ⟨g, c, r, hg, rfl, hblank, hc⟩
    · rw [scan_of_skipGap hskip] at h
      cases h
      exact .last hskip
    · rw [hg.scan_append, scan_cons hblank hc] at h
      cases hlex : lexeme c r with
      | error x =>
        rw [hlex] at h
        cases h
      | ok p =>
        obtain ⟨t, rest⟩ := p
        rw [hlex] at h
        obtain ⟨us, hrest, rfl⟩ := map_eq_ok.1 h
        obtain ⟨v, -, rfl, -, -⟩ := lexeme_eq_ok hlex
        refine .token hg hlex (ih rest.length ?_ hrest rfl)
        simp only [List.length_append, List.length_cons]
        omega
  · intro h
    induction h with
    | last h => exact scan_of_skipGap h
    | token hg hlex h ih =>
      rw [hg.scan_token hlex, ih]
      rfl

/-! ## Other gaps -/

/-- Whether a text has the tokens of another with other gaps. A gap may be replaced by any gap and
put where none was, but not taken away; after the last token it may also end in an open comment. -/
inductive Relaid : List Char → List Char → Prop
  | last {g k : List Char} (hg : skipGap false g = []) (hk : skipGap false k = []) : Relaid g k
  | token {g k v r s : List Char} {c : Char} {t : Token} (hg : IsGap g) (hk : IsGap k)
      (hnil : k = [] → g = []) (hlex : lexeme c (v ++ r) = .ok (t, r)) (h : Relaid r s) :
      Relaid (g ++ c :: (v ++ r)) (k ++ c :: (v ++ s))

theorem not_isSolid_of_skipGap (h : skipGap false cs = []) : ∀ d ∈ cs.head?, ¬ IsSolid d := by
  intro d hd hsolid
  cases cs with
  | nil => cases hd
  | cons c cs =>
    obtain rfl := Option.some.inj hd
    rw [skipGap_token hsolid.blank hsolid.comment] at h
    cases h

theorem Relaid.goesOnAs (h : Relaid cs cs') : GoesOnAs cs cs' := by
  intro d hd
  cases h with
  | last hg hk => exact .inr (not_isSolid_of_skipGap hk d hd)
  | @token g k v r s c t hg hk hnil hlex h =>
    cases k with
    | nil =>
      rw [hnil rfl]
      exact .inl hd
    | cons e k => exact .inr (hk.not_isSolid d hd)

theorem Relaid.scan_eq (h : Relaid cs cs') : scan cs' = scan cs := by
  induction h with
  | last hg hk => rw [scan_of_skipGap hg, scan_of_skipGap hk]
  | token hg hk hnil hlex h ih =>
    rw [hg.scan_token hlex, hk.scan_token (lexeme_of_goesOnAs hlex h.goesOnAs), ih]

theorem Relaid.exists_scan (h : Relaid cs cs') : ∃ ts, scan cs = .ok ts := by
  induction h with
  | last hg hk => exact ⟨[], scan_of_skipGap hg⟩
  | @token g k v r s c t hg hk hnil hlex h ih =>
    obtain ⟨ts, hts⟩ := ih
    exact ⟨t :: ts, by rw [hg.scan_token hlex, hts]; rfl⟩

/-- A text that is scanned has its own tokens with its own gaps, and no other text can be relaid. -/
theorem relaid_self_iff : Relaid cs cs ↔ ∃ ts, scan cs = .ok ts := by
  refine ⟨Relaid.exists_scan, ?_⟩
  rintro ⟨ts, h⟩
  rw [scan_eq_ok_iff] at h
  induction h with
  | last h => exact .last h h
  | token hg hlex h ih => exact .token hg hg id hlex ih

/-- A query has its tokens in every layout, and one canonical text if it can be read. -/
theorem scan_relaid {query query' : String} (h : scan query.toList = .ok ts)
    (hrelaid : Relaid query.toList query'.toList) : scan query'.toList = .ok ts
      ∧ ∀ e, Expr.parse query = .ok e → canonicalize query' = canonicalize query := by
  have hscan := hrelaid.scan_eq
  refine ⟨hscan.trans h, fun e he => ?_⟩
  have hparse : Expr.parse query' = Expr.parse query := by
    rw [Expr.parse, Expr.parse, hscan]
  rw [canonicalize, canonicalize, hparse, he]

/-- The statement at a text with gaps in front, at the end and around a name, one of them with a
mark of a string in its comment. -/
theorem scan_relaid_commented :
    scan "up>-1e3".toList = .ok [.ident "up", .symbol .greater, .symbol .minus, .number "1e3"]
    ∧ Relaid "up>-1e3".toList "\tup # it's up\n> -1e3 # x\n".toList
    ∧ scan "\tup # it's up\n> -1e3 # x\n".toList
      = .ok [.ident "up", .symbol .greater, .symbol .minus, .number "1e3"]
    ∧ canonicalize "\tup # it's up\n> -1e3 # x\n" = canonicalize "up>-1e3" := by
  have hscan : scan "up>-1e3".toList
      = .ok [.ident "up", .symbol .greater, .symbol .minus, .number "1e3"] := by decide +kernel
  have hrelaid : Relaid "up>-1e3".toList "\tup # it's up\n> -1e3 # x\n".toList := by
    have hcomment : IsGap " # it's up\n".toList :=
      .blank rfl (.comment (w := " it's up".toList) (by decide) .nil)
    refine .token (g := []) (k := ['\t']) (v := ['p']) (r := ">-1e3".toList)
      (s := " # it's up\n> -1e3 # x\n".toList) .nil (.blank rfl .nil) nofun rfl ?_
    refine .token (g := []) (k := " # it's up\n".toList) (v := []) (r := "-1e3".toList)
      (s := " -1e3 # x\n".toList) .nil hcomment nofun rfl ?_
    refine .token (g := []) (k := [' ']) (v := []) (r := "1e3".toList)
      (s := "1e3 # x\n".toList) .nil (.blank rfl .nil) nofun rfl ?_
    exact .token (g := []) (k := []) (v := ['e', '3']) (r := []) (s := " # x\n".toList)
      .nil .nil (fun _ => rfl) rfl (.last rfl rfl)
  have hparse : Expr.parse "up>-1e3" = .ok (.binary .greater (.selector (some "up") [] none .empty)
      (.unary .minus (.number "1e3")) false none) :=
    parse_eq_ok_iff.2 ⟨_, hscan, by simp, by decide, by rfl⟩
  obtain ⟨hscan', hcanonical⟩ := scan_relaid hscan hrelaid
  exact ⟨hscan, hrelaid, hscan', hcanonical _ hparse⟩

end RuleCatalog.Query
