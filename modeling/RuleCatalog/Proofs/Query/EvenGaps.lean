import RuleCatalog.Proofs.Query.Blanks
import RuleCatalog.Proofs.Query.Relayout

/-! # Even blanks and tokens

Evening out the blanks of a text keeps its strings and drops the ends of the lines of its
comments, so it keeps the tokens of a text unless a token stands after a comment. Main
statements: `relaid_evenBlanks` and `scan_normalizeBlanks`. -/
namespace RuleCatalog.Query
open Text

variable {c q : Char} {b cs g r v : List Char} {t : Token} {ts : List Token} {p : List Char → Prop}

/-- Whether a text has no characters but blanks. -/
def AllBlank (g : List Char) : Prop := ∀ d ∈ g, isBlank d = true

instance (g : List Char) : Decidable (AllBlank g) :=
  List.decidableBAll (fun d => isBlank d = true) g

theorem AllBlank.isGap (h : AllBlank g) : IsGap g := by
  induction g with
  | nil => exact .nil
  | cons c g ih =>
    exact .blank (h c List.mem_cons_self) (ih fun d hd => h d (List.mem_cons_of_mem c hd))

theorem AllBlank.not_isSolid (h : AllBlank g) : ∀ d ∈ g.head?, ¬ IsSolid d := h.isGap.not_isSolid

/-- Whether a query is scanned and no token stands after a comment. -/
def CommentsLast (query : String) : Prop := ∃ ts, Scans AllBlank query.toList ts

/-! ## Blanks at the ends -/

theorem skipGap_allBlank (hb : AllBlank b) (comment : Bool) : skipGap comment b = [] := by
  induction b generalizing comment with
  | nil => rfl
  | cons c b ih =>
    have hrest : AllBlank b := fun d hd => hb d (List.mem_cons_of_mem c hd)
    cases comment with
    | false => rw [skipGap_blank (hb c List.mem_cons_self), ih hrest]
    | true => rw [skipGap, ih hrest]

theorem skipGap_append_blanks (hb : AllBlank b) (comment : Bool) (cs : List Char) :
    skipGap comment (cs ++ b) = [] ↔ skipGap comment cs = [] := by
  induction cs generalizing comment with
  | nil => exact iff_of_true (skipGap_allBlank hb comment) rfl
  | cons c cs ih =>
    rw [List.cons_append]
    cases comment with
    | true => exact ih (c != '\n')
    | false =>
      unfold skipGap
      split
      · exact ih false
      split
      · exact ih true
      · exact iff_of_false (List.cons_ne_nil _ _) (List.cons_ne_nil _ _)

theorem isBlank_getLast?_of_lexeme (h : lexeme c (v ++ r) = .ok (t, r)) :
    ∀ d ∈ (c :: v).getLast?, isBlank d = false := by
  intro d hd
  rcases chars_of_lexeme h with hsolid | ⟨-, hstring⟩
  · exact (hsolid d (List.mem_of_getLast? hd)).blank
  · rw [List.getLast?_cons, hstring.getLast?] at hd
    obtain rfl := Option.some.inj hd
    exact (not_gap_of_lexeme h).1

/-- Blanks at the end of a text stand behind each of its tokens. -/
theorem exists_rest_of_append (hb : AllBlank b) (hlex : lexeme c (v ++ r) = .ok (t, r))
    (h : cs ++ b = g ++ c :: (v ++ r)) : ∃ r', r = r' ++ b ∧ cs = g ++ c :: (v ++ r') := by
  rw [← List.cons_append, ← List.append_assoc] at h
  -- if the blanks reached into the token, its last character would be one of them
  rcases List.append_eq_append_iff.1 h with ⟨a, htoken, hblank⟩ | ⟨r', hcs, hr⟩
  · cases ha : a.getLast? with
    | none =>
      obtain rfl := List.getLast?_eq_none_iff.1 ha
      rw [List.append_nil] at htoken
      exact ⟨[], hblank.symm, by rw [List.append_nil, htoken]⟩
    | some d =>
      have hlast : (c :: v).getLast? = some d := by
        have := congrArg List.getLast? htoken
        rw [List.getLast?_append, List.getLast?_append, ha, List.getLast?_cons] at this
        rw [List.getLast?_cons]
        exact this
      have hd := isBlank_getLast?_of_lexeme hlex d hlast
      rw [hb d (hblank ▸ List.mem_append_left r (List.mem_of_getLast? ha))] at hd
      cases hd
  · exact ⟨r', hr, by rw [hcs, List.append_assoc, List.cons_append]⟩

/-- The blanks at the end of a text stand after its last token. -/
theorem scans_append_blanks (hb : AllBlank b) : Scans p (cs ++ b) ts ↔ Scans p cs ts := by
  constructor
  · intro h
    generalize hcs : cs ++ b = cs' at h
    induction h generalizing cs with
    | last h =>
      subst hcs
      exact .last ((skipGap_append_blanks hb false cs).1 h)
    | @token g v rest c t ts hg hlex h ih =>
      obtain ⟨rest', rfl, rfl⟩ := exists_rest_of_append hb hlex hcs
      refine .token hg (lexeme_of_goesOnAs hlex fun d hd => .inl ?_) (ih rfl)
      rw [List.head?_append, Option.mem_def.1 hd]
      rfl
  · intro h
    induction h with
    | last h => exact .last ((skipGap_append_blanks hb false _).2 h)
    | @token g v rest c t ts hg hlex h ih =>
      rw [List.append_assoc, List.cons_append, List.append_assoc]
      refine .token hg (lexeme_of_goesOnAs hlex fun d hd => ?_) ih
      rw [List.head?_append] at hd
      cases hrest : rest.head? with
      | none =>
        rw [hrest, Option.none_or] at hd
        exact .inr (hb.not_isSolid d hd)
      | some e =>
        rw [hrest, Option.some_or] at hd
        exact .inl hd

/-- The blanks in front of a text stand before its first token. -/
theorem scans_blanks_append (hb : AllBlank b) : Scans AllBlank (b ++ cs) ts ↔ Scans AllBlank cs ts := by
  constructor
  · intro h
    generalize hcs : b ++ cs = cs' at h
    cases h with
    | last h =>
      rw [← hcs, hb.isGap.skipGap_append] at h
      exact .last h
    | @token g v rest c t ts hg hlex h =>
      -- the blanks end in the first gap, since no token starts with one
      rcases List.append_eq_append_iff.1 hcs with ⟨g', rfl, rfl⟩ | ⟨b', rfl, hcs'⟩
      · exact .token (fun d hd => hg d (List.mem_append_right b hd)) hlex h
      · cases b' with
        | nil =>
          obtain rfl : c :: (v ++ rest) = cs := hcs'
          exact .token (g := []) (by simp [AllBlank]) hlex h
        | cons d b' =>
          obtain ⟨rfl, -⟩ := List.cons.inj hcs'
          have hc := hb c (by simp)
          rw [(not_gap_of_lexeme hlex).1] at hc
          cases hc
  · intro h
    cases h with
    | last h => exact .last (by rw [hb.isGap.skipGap_append, h])
    | token hg hlex h =>
      rw [← List.append_assoc]
      exact .token (List.forall_mem_append.2 ⟨hb, hg⟩) hlex h

theorem scans_trim (cs : List Char) : Scans AllBlank (trim cs) ts ↔ Scans AllBlank cs ts := by
  obtain ⟨a, b, ha, hb, hsplit⟩ := trim_append cs
  rw [hsplit, scans_blanks_append ha, scans_append_blanks hb, ← hsplit]

theorem scan_trim (h : scan cs = .ok ts) : scan (trim cs) = .ok ts := by
  obtain ⟨a, b, ha, hb, hsplit⟩ := trim_append cs
  rw [hsplit, scan_blanks ha] at h
  exact scan_eq_ok_iff.2 ((scans_append_blanks hb).1 (scan_eq_ok_iff.1 h))

/-! ## Strings and tokens -/

theorem evenBlanks_string (hq : q ≠ '\\') (h : EndsString q v) (r : List Char) :
    evenBlanks (some q) false false (v ++ r) = v ++ evenBlanks none false false r := by
  induction h with
  | mark => rw [List.singleton_append, evenBlanks_some, insideNext_mark hq]; rfl
  | plain hc h ih => rw [List.cons_append, evenBlanks_some, insideNext_plain hc, ih]; rfl
  | escape hbacktick h ih =>
    rw [List.cons_append, List.cons_append, evenBlanks_some, insideNext_backslash hbacktick,
      evenBlanks_some]
    show '\\' :: _ :: evenBlanks (some q) false false _ = _
    rw [ih]
    rfl

/-- The characters of a token stay as they are. -/
theorem evenBlanks_token (h : lexeme c (v ++ r) = .ok (t, r)) (pending : Bool) :
    evenBlanks none false pending (c :: (v ++ r))
      = (if pending then [' '] else []) ++ c :: (v ++ evenBlanks none false false r) := by
  rw [evenBlanks_cons _ _ (not_gap_of_lexeme h).1]
  rcases chars_of_lexeme h with hsolid | ⟨hmark, hstring⟩
  · rw [(hsolid c List.mem_cons_self).mark,
      evenBlanks_solid fun d hd => hsolid d (List.mem_cons_of_mem c hd)]
  · have hc : c ≠ '\\' := by
      rintro rfl
      cases hmark
    rw [hmark, evenBlanks_string hc hstring]

/-! ## Gaps -/

/-- What is left of blanks in front of a token. -/
def evenGap (g : List Char) : List Char := if g.isEmpty then [] else [' ']

theorem isGap_evenGap (g : List Char) : IsGap (evenGap g) := by
  unfold evenGap
  split
  · exact .nil
  · exact .blank rfl .nil

theorem evenBlanks_blanks (hg : AllBlank g) (pending : Bool) (cs : List Char) :
    evenBlanks none false pending (g ++ cs) = evenBlanks none false (pending || !g.isEmpty) cs := by
  induction g generalizing pending with
  | nil => simp
  | cons c g ih =>
    rw [List.cons_append, evenBlanks_blank _ _ (hg c List.mem_cons_self),
      ih (fun d hd => hg d (List.mem_cons_of_mem c hd))]
    simp

theorem evenBlanks_gap (hg : AllBlank g) (h : lexeme c (v ++ r) = .ok (t, r)) :
    evenBlanks none false false (g ++ c :: (v ++ r))
      = evenGap g ++ c :: (v ++ evenBlanks none false false r) := by
  rw [evenBlanks_blanks hg, evenBlanks_token h, evenGap]
  cases g <;> rfl

theorem skipGap_cons_of {comment comment' : Bool} {r : List Char}
    (hr : ∀ {k k' : Bool}, skipGap k cs = [] → (k = true → k' = true) → skipGap k' r = [])
    (h : skipGap comment (c :: cs) = []) (hcomment : comment = true → comment' = true) :
    skipGap comment' (c :: r) = [] := by
  cases comment with
  | true =>
    rw [hcomment rfl, skipGap]
    exact hr h id
  | false =>
    unfold skipGap at h
    split at h
    · rename_i hblank
      cases comment' with
      | true => exact hr h fun hfalse => absurd hfalse Bool.false_ne_true
      | false =>
        rw [skipGap_blank hblank]
        exact hr h id
    split at h
    · rename_i hhash
      obtain rfl := eq_of_beq hhash
      cases comment' with
      | true => exact hr h id
      | false =>
        rw [skipGap_hash]
        exact hr h id
    · cases h

/-- A text that is skipped is skipped with even blanks, in a comment also where it was in none. -/
theorem skipGap_evenBlanks {comment comment' : Bool} (h : skipGap comment cs = [])
    (hcomment : comment = true → comment' = true) (open? : Option Char) (escaped pending : Bool) :
    skipGap comment' (evenBlanks open? escaped pending cs) = [] := by
  induction cs generalizing comment comment' open? escaped pending with
  | nil => rfl
  | cons c cs ih =>
    cases open? with
    | some q =>
      rw [evenBlanks_some]
      exact skipGap_cons_of (fun hk hkk => ih hk hkk _ _ _) h hcomment
    | none =>
      cases hblank : isBlank c with
      | true =>
        -- a comment that ends here goes on with even blanks
        rw [evenBlanks_blank _ _ hblank]
        cases comment with
        | false =>
          rw [skipGap_blank hblank] at h
          exact ih h hcomment _ _ _
        | true => exact ih h (fun _ => hcomment rfl) _ _ _
      | false =>
        rw [evenBlanks_cons _ _ hblank]
        have hnext : skipGap comment' (c :: evenBlanks (quoteMark? c) false false cs) = [] :=
          skipGap_cons_of (fun hk hkk => ih hk hkk _ _ _) h hcomment
        cases pending with
        | false => exact hnext
        | true =>
          cases comment' with
          | false => exact hnext
          | true => exact hnext

/-- A comment in front of a token stays a comment. -/
theorem IsGap.allBlank_or_evenBlanks (h : IsGap g) (pending : Bool) (cs : List Char) :
    AllBlank g ∨ ∃ s r, AllBlank s ∧ evenBlanks none false pending (g ++ cs) = s ++ '#' :: r := by
  induction h generalizing pending with
  | nil => exact .inl (by simp [AllBlank])
  | @blank c g hc h ih =>
    refine (ih true).imp (fun hg => ?_) fun hg => ?_
    · exact List.forall_mem_cons.2 ⟨hc, hg⟩
    · rwa [List.cons_append, evenBlanks_blank _ _ hc]
  | @comment w g hw h ih =>
    refine .inr ⟨if pending then [' '] else [], _, ?_, evenBlanks_cons _ _ (by decide)⟩
    split <;> simp [AllBlank, isBlank]

/-! ## Tokens -/

theorem relaid_evenBlanks (h : Scans AllBlank cs ts) : Relaid cs (evenBlanks none false false cs) := by
  induction h with
  | last h => exact .last h (skipGap_evenBlanks h id _ _ _)
  | @token g v rest c t ts hg hlex h ih =>
    rw [evenBlanks_gap hg hlex]
    refine .token hg.isGap (isGap_evenGap g) (fun hnil => ?_) hlex ih
    simpa [evenGap] using hnil

theorem goesOnAs_evenBlanks (cs : List Char) : GoesOnAs cs (evenBlanks none false false cs) := by
  intro d hd
  cases cs with
  | nil => cases hd
  | cons c cs =>
    cases hc : isBlank c with
    | true =>
      rw [evenBlanks_blank _ _ hc] at hd
      exact .inr (not_isSolid_evenBlanks_pending false cs d hd)
    | false =>
      rw [evenBlanks_cons _ _ hc] at hd
      exact .inl hd

theorem scans_allBlank_of_evenBlanks (h : Scans IsGap cs ts)
    (hline : '\n' ∉ evenBlanks none false false cs)
    (hscan : scan (evenBlanks none false false cs) = .ok ts) : Scans AllBlank cs ts := by
  induction h with
  | last h => exact .last h
  | @token g v rest c t ts hg hlex h ih =>
    rcases hg.allBlank_or_evenBlanks false (c :: (v ++ rest)) with hblank | ⟨s, r, hs, heven⟩
    · rw [evenBlanks_gap hblank hlex] at hline hscan
      rw [(isGap_evenGap g).scan_token (lexeme_of_goesOnAs hlex (goesOnAs_evenBlanks rest))] at hscan
      obtain ⟨us, hrest, heq⟩ := map_eq_ok.1 hscan
      obtain ⟨-, rfl⟩ := List.cons.inj heq
      exact .token hblank hlex (ih (fun hmem => hline (by simp [hmem])) hrest)
    · rw [heven] at hline hscan
      have hopen : skipGap false ('#' :: r) = [] := by
        rw [skipGap_hash, skipGap_open fun hmem => hline (by simp [hmem])]
      rw [scan_blanks hs, scan_of_skipGap hopen] at hscan
      cases hscan

/-- Evening out blanks keeps the tokens of a query in which no token stands after a comment, and of
no other query, unless it keeps the end of a line. -/
theorem scan_normalizeBlanks {query : String} (h : scan query.toList = .ok ts) :
    (CommentsLast query → scan (normalizeBlanks query).toList = .ok ts)
    ∧ ('\n' ∉ (normalizeBlanks query).toList → scan (normalizeBlanks query).toList = .ok ts →
        CommentsLast query)
    ∧ ∀ query' ts', scan query'.toList = .ok ts' → CommentsLast query → CommentsLast query' →
        normalizeBlanks query' = normalizeBlanks query → ts' = ts := by
  have hkeep : ∀ {query : String} {ts : List Token}, scan query.toList = .ok ts → CommentsLast query →
      scan (normalizeBlanks query).toList = .ok ts := by
    rintro query ts h ⟨us, hlast⟩
    have hrelaid := relaid_evenBlanks ((scans_trim _).2 hlast)
    rw [normalizeBlanks, String.toList_ofList, hrelaid.scan_eq, scan_trim h]
  refine ⟨hkeep h, fun hline hscan => ?_, fun query' ts' h' hlast hlast' heq => ?_⟩
  · rw [normalizeBlanks, String.toList_ofList] at hline hscan
    have hscans := scan_eq_ok_iff.1 (scan_trim h)
    exact ⟨ts, (scans_trim _).1 (scans_allBlank_of_evenBlanks hscans hline hscan)⟩
  · have hscan := hkeep h' hlast'
    rw [heq, hkeep h hlast] at hscan
    exact (Except.ok.inj hscan).symm

/-- The statement at a text with blanks in a string, and with a comment at its end. -/
theorem scan_normalizeBlanks_string :
    scan "\tx  'a  \\'b'\n # it's  so\n".toList = .ok [.ident "x", .string "a  'b"]
    ∧ CommentsLast "\tx  'a  \\'b'\n # it's  so\n"
    ∧ normalizeBlanks "\tx  'a  \\'b'\n # it's  so\n" = "x 'a  \\'b' # it's  so"
    ∧ scan (normalizeBlanks "\tx  'a  \\'b'\n # it's  so\n").toList
      = .ok [.ident "x", .string "a  'b"] := by
  have hscan : scan "\tx  'a  \\'b'\n # it's  so\n".toList = .ok [.ident "x", .string "a  'b"] := by
    decide +kernel
  have hlast : CommentsLast "\tx  'a  \\'b'\n # it's  so\n" := by
    refine ⟨[.ident "x", .string "a  'b"], ?_⟩
    refine .token (g := ['\t']) (c := 'x') (v := []) (r := "  'a  \\'b'\n # it's  so\n".toList)
      (by decide) rfl ?_
    exact .token (g := [' ', ' ']) (c := '\'') (v := "a  \\'b'".toList)
      (r := "\n # it's  so\n".toList) (by decide) (by decide +kernel) (.last rfl)
  exact ⟨hscan, hlast, by decide +kernel, (scan_normalizeBlanks hscan).1 hlast⟩

/-- A comment takes the rest of the text once the end of its line is a space. -/
theorem not_scan_normalizeBlanks_comment :
    ¬ ∀ (query : String) (ts : List Token), scan query.toList = .ok ts →
      scan (normalizeBlanks query).toList = .ok ts := by
  intro h
  have hscan : scan "up up #\n up".toList = .ok [.ident "up", .ident "up", .ident "up"] := by
    decide +kernel
  have heven : scan (normalizeBlanks "up up #\n up").toList = .ok [.ident "up", .ident "up"] := by
    decide +kernel
  have hsame := h _ _ hscan
  rw [heven] at hsame
  cases hsame

end RuleCatalog.Query
