import RuleCatalog.Proofs.Query.Lookahead

/-! # Evening out blanks

Evening out the blanks of a text a second time changes nothing, and a text without comments is
scanned to what it was scanned to before. Main statements: `normalizeBlanks_normalizeBlanks` and
`scan_of_normalizeBlanks`. -/
namespace RuleCatalog.Query
open Text

variable {c q : Char} {cs r v : List Char} {t : Token}

/-! ## Inside strings -/

/-- The string that a text is in, and whether its next character is escaped, after a character
of a string. -/
def insideNext (q : Char) (escaped : Bool) (c : Char) : Option Char × Bool :=
  if escaped then (some q, false)
  else if c = '\\' ∧ q ≠ '\x60' then (some q, true)
  else (if c = q then none else some q, false)

/-- The characters of a text that stand outside its strings. -/
def outside (open? : Option Char) (escaped : Bool) : List Char → List Char
  | [] => []
  | c :: cs =>
    match open? with
    | some q => outside (insideNext q escaped c).1 (insideNext q escaped c).2 cs
    | none => c :: outside (quoteMark? c) false cs

theorem evenBlanks_some (q : Char) (escaped pending : Bool) (c : Char) (cs : List Char) :
    evenBlanks (some q) escaped pending (c :: cs)
      = c :: evenBlanks (insideNext q escaped c).1 (insideNext q escaped c).2 pending cs := by
  rw [evenBlanks]
  unfold insideNext
  split
  · rfl
  · split <;> rfl

theorem insideNext_mark (hq : q ≠ '\\') : insideNext q false q = (none, false) := by
  rw [insideNext, if_neg Bool.false_ne_true, if_neg fun h => hq h.1, if_pos rfl]

theorem insideNext_plain (hc : c ≠ q ∧ (c = '\\' → q = '\x60')) :
    insideNext q false c = (some q, false) := by
  rw [insideNext, if_neg Bool.false_ne_true, if_neg fun h => h.2 (hc.2 h.1), if_neg hc.1]

theorem insideNext_backslash (hq : q ≠ '\x60') : insideNext q false '\\' = (some q, true) := by
  rw [insideNext, if_neg Bool.false_ne_true, if_pos ⟨rfl, hq⟩]

theorem exists_of_evenBlanks_cons {escaped : Bool}
    (h : evenBlanks (some q) escaped false cs = c :: r) : ∃ rest, cs = c :: rest
      ∧ evenBlanks (insideNext q escaped c).1 (insideNext q escaped c).2 false rest = r
      ∧ outside (some q) escaped cs
        = outside (insideNext q escaped c).1 (insideNext q escaped c).2 rest := by
  cases cs with
  | nil => cases h
  | cons d cs =>
    rw [evenBlanks_some] at h
    obtain ⟨rfl, hrest⟩ := List.cons.inj h
    exact ⟨cs, rfl, hrest, rfl⟩

/-- A string with even blanks around it was in the text before they were evened out. -/
theorem exists_of_evenBlanks_string (hq : q ≠ '\\') (hv : EndsString q v)
    (h : evenBlanks (some q) false false cs = v ++ r) : ∃ rest, cs = v ++ rest
      ∧ evenBlanks none false false rest = r
      ∧ outside (some q) false cs = outside none false rest := by
  induction hv generalizing cs with
  | mark =>
    obtain ⟨rest, rfl, hrest, hout⟩ := exists_of_evenBlanks_cons h
    rw [insideNext_mark hq] at hrest hout
    exact ⟨rest, rfl, hrest, hout⟩
  | plain hc hv ih =>
    obtain ⟨cs, rfl, hrest, hout⟩ := exists_of_evenBlanks_cons h
    rw [insideNext_plain hc] at hrest hout
    obtain ⟨rest, rfl, heven, hout'⟩ := ih hrest
    exact ⟨rest, rfl, heven, hout.trans hout'⟩
  | escape hbacktick hv ih =>
    obtain ⟨cs, rfl, hrest, hout⟩ := exists_of_evenBlanks_cons h
    rw [insideNext_backslash hbacktick] at hrest hout
    obtain ⟨cs, rfl, hrest', hout'⟩ := exists_of_evenBlanks_cons hrest
    obtain ⟨rest, rfl, heven, hout''⟩ := ih hrest'
    exact ⟨rest, rfl, heven, hout.trans (hout'.trans hout'')⟩

/-! ## Tokens -/

variable {b : List Char}

theorem not_isSolid_evenBlanks_pending (escaped : Bool) (cs : List Char) :
    ∀ d ∈ (evenBlanks none escaped true cs).head?, ¬ IsSolid d := by
  induction cs generalizing escaped with
  | nil => simp [evenBlanks]
  | cons c cs ih =>
    cases hc : isBlank c with
    | true =>
      rw [evenBlanks_blank _ _ hc]
      exact ih false
    | false =>
      rw [evenBlanks_cons _ _ hc]
      intro d hd
      obtain rfl : ' ' = d := Option.some.inj hd
      decide

/-- Solid characters of a text with even blanks were in the text before they were evened out. -/
theorem exists_of_evenBlanks_solid (hv : ∀ d ∈ v, IsSolid d)
    (h : evenBlanks none false false cs = v ++ r) : ∃ rest, cs = v ++ rest
      ∧ evenBlanks none false false rest = r
      ∧ outside none false cs = v ++ outside none false rest := by
  induction v generalizing cs with
  | nil => exact ⟨cs, rfl, h, rfl⟩
  | cons d v ih =>
    have hd := hv d List.mem_cons_self
    cases cs with
    | nil => cases h
    | cons c cs =>
      cases hc : isBlank c with
      | true =>
        rw [evenBlanks_blank _ _ hc] at h
        exact absurd hd (not_isSolid_evenBlanks_pending false cs d (by rw [h]; rfl))
      | false =>
        rw [evenBlanks_cons _ _ hc] at h
        obtain ⟨rfl, hrest⟩ := List.cons.inj h
        rw [hd.mark] at hrest
        obtain ⟨rest, rfl, heven, hout⟩ := ih (fun e he => hv e (List.mem_cons_of_mem c he)) hrest
        exact ⟨rest, rfl, heven, by rw [outside, hd.mark, hout]; rfl⟩

theorem goesOnAs_append_blanks (hb : ∀ d ∈ b, isBlank d = true) (cs : List Char) :
    GoesOnAs (evenBlanks none false false cs) (cs ++ b) := by
  intro d hd
  cases hblank : isBlank d with
  | true =>
    refine .inr fun hsolid => ?_
    rw [hsolid.blank] at hblank
    cases hblank
  | false =>
    cases cs with
    | nil =>
      rw [hb d (List.mem_of_mem_head? hd)] at hblank
      cases hblank
    | cons c cs =>
      obtain rfl := Option.some.inj hd
      rw [evenBlanks_cons _ _ hblank]
      exact .inl rfl

/-- A token that is read after the blanks were evened out is read before as well, from a text
without comments. -/
theorem lexeme_of_evenBlanks (hb : ∀ d ∈ b, isBlank d = true)
    (hcomment : '#' ∉ outside (quoteMark? c) false cs)
    (h : lexeme c (evenBlanks (quoteMark? c) false false cs) = .ok (t, r)) :
    ∃ rest, lexeme c (cs ++ b) = .ok (t, rest ++ b) ∧ evenBlanks none false false rest = r
      ∧ '#' ∉ outside none false rest := by
  obtain ⟨v, p, hv, hspell, -⟩ := lexeme_eq_ok h
  -- a string keeps its blanks, and any other token has none
  have hback : ∃ rest, cs = v ++ rest ∧ evenBlanks none false false rest = r
      ∧ '#' ∉ outside none false rest := by
    rcases hspell.chars with hsolid | ⟨hmark, hstring⟩
    · rw [(hsolid c List.mem_cons_self).mark] at hv hcomment
      obtain ⟨rest, hcs, heven, hout⟩ :=
        exists_of_evenBlanks_solid (fun d hd => hsolid d (List.mem_cons_of_mem c hd)) hv
      exact ⟨rest, hcs, heven, fun hmem => hcomment (hout ▸ List.mem_append_right v hmem)⟩
    · have hc : c ≠ '\\' := by
        rintro rfl
        cases hmark
      rw [hmark] at hv hcomment
      obtain ⟨rest, hcs, heven, hout⟩ := exists_of_evenBlanks_string hc hstring hv
      exact ⟨rest, hcs, heven, hout ▸ hcomment⟩
  obtain ⟨rest, rfl, rfl, hrest⟩ := hback
  rw [hv] at h
  refine ⟨rest, ?_, rfl, hrest⟩
  rw [List.append_assoc]
  exact lexeme_of_goesOnAs h (goesOnAs_append_blanks hb rest)

theorem scan_blanks (hb : ∀ d ∈ b, isBlank d = true) (cs : List Char) : scan (b ++ cs) = scan cs := by
  induction b with
  | nil => rfl
  | cons c b ih =>
    rw [List.cons_append, scan_blank (hb c List.mem_cons_self),
      ih fun d hd => hb d (List.mem_cons_of_mem c hd)]

/-- A text without comments that is scanned after its blanks were evened out is scanned before,
to the same tokens. -/
theorem scan_of_evenBlanks (hb : ∀ d ∈ b, isBlank d = true) {cs : List Char} {pending : Bool}
    {ts : List Token} (hcomment : '#' ∉ outside none false cs)
    (h : scan (evenBlanks none false pending cs) = .ok ts) : scan (cs ++ b) = .ok ts := by
  -- on the length, since a token may take more than one character
  induction hn : cs.length using Nat.strongRecOn generalizing cs pending ts with | ind n ih => ?_
  subst hn
  cases cs with
  | nil =>
    rw [evenBlanks] at h
    have := scan_blanks hb []
    rwa [List.append_nil, h] at this
  | cons c cs =>
    rw [outside, List.mem_cons, not_or] at hcomment
    cases hblank : isBlank c with
    | true =>
      rw [evenBlanks_blank _ _ hblank] at h
      rw [quoteMark?_of_isBlank hblank] at hcomment
      rw [List.cons_append, scan_blank hblank]
      exact ih cs.length (Nat.lt_succ_self _) hcomment.2 h rfl
    | false =>
      have hpending : scan (evenBlanks none false pending (c :: cs))
          = scan (c :: evenBlanks (quoteMark? c) false false cs) := by
        rw [evenBlanks_cons _ _ hblank]
        cases pending with
        | false => rfl
        | true => exact scan_blank (by decide)
      rw [hpending, scan_cons hblank (Ne.symm hcomment.1)] at h
      rw [List.cons_append, scan_cons hblank (Ne.symm hcomment.1)]
      cases hlex : lexeme c (evenBlanks (quoteMark? c) false false cs) with
      | error x =>
        rw [hlex] at h
        cases h
      | ok p =>
        obtain ⟨t, r⟩ := p
        rw [hlex] at h
        obtain ⟨ts', hscan, rfl⟩ := map_eq_ok.1 h
        obtain ⟨rest, hrest, rfl, hout⟩ :=
          lexeme_of_evenBlanks hb hcomment.2 hlex
        have hlt : rest.length < (c :: cs).length := by
          have hlength := length_lexeme_le hrest
          simp only [List.length_append] at hlength
          rw [List.length_cons]
          omega
        rw [hrest]
        dsimp only
        rw [ih rest.length hlt hout hscan rfl]
        rfl

/-! ## The text without blanks at its ends -/

theorem trimEnd_append (cs : List Char) :
    ∃ b, (∀ d ∈ b, isBlank d = true) ∧ cs = trimEnd cs ++ b := by
  refine ⟨(cs.reverse.takeWhile isBlank).reverse, fun d hd => ?_, ?_⟩
  · exact of_mem_takeWhile (List.mem_reverse.1 hd)
  · rw [trimEnd, ← List.reverse_append, List.takeWhile_append_dropWhile, List.reverse_reverse]

theorem getLast?_trimEnd (cs : List Char) : ∀ c ∈ (trimEnd cs).getLast?, isBlank c = false := by
  rw [trimEnd, List.getLast?_reverse]
  exact head?_dropWhile_eq_false

theorem head?_trim (cs : List Char) : ∀ c ∈ (trim cs).head?, isBlank c = false := by
  intro c hc
  obtain ⟨b, -, hsplit⟩ := trimEnd_append (trimStart cs)
  have hhead : ∀ c ∈ (cs.dropWhile isBlank).head?, isBlank c = false := head?_dropWhile_eq_false
  refine hhead c ?_
  rw [← trimStart, hsplit, List.head?_append, ← trim, Option.mem_def.1 hc]
  rfl

theorem trim_append (cs : List Char) : ∃ a b, (∀ d ∈ a, isBlank d = true)
    ∧ (∀ d ∈ b, isBlank d = true) ∧ cs = a ++ (trim cs ++ b) := by
  obtain ⟨b, hb, hsplit⟩ := trimEnd_append (trimStart cs)
  refine ⟨cs.takeWhile isBlank, b, fun d => of_mem_takeWhile, hb, ?_⟩
  rw [trim, ← hsplit, trimStart, List.takeWhile_append_dropWhile]

theorem trim_eq_self (hhead : ∀ c ∈ cs.head?, isBlank c = false)
    (hlast : ∀ c ∈ cs.getLast?, isBlank c = false) : trim cs = cs := by
  have hstart : trimStart cs = cs := by
    cases cs with
    | nil => rfl
    | cons c cs => exact trimStart_eq_self (hhead c rfl)
  rw [trim, hstart, trimEnd_eq_self hlast]

theorem outside_blanks {a : List Char} (ha : ∀ d ∈ a, isBlank d = true) (cs : List Char) :
    outside none false (a ++ cs) = a ++ outside none false cs := by
  induction a with
  | nil => rfl
  | cons c a ih =>
    rw [List.cons_append, outside, quoteMark?_of_isBlank (ha c List.mem_cons_self),
      ih fun d hd => ha d (List.mem_cons_of_mem c hd)]
    rfl

theorem outside_append_subset (open? : Option Char) (escaped : Bool) (cs b : List Char) :
    outside open? escaped cs ⊆ outside open? escaped (cs ++ b) := by
  induction cs generalizing open? escaped with
  | nil => exact List.nil_subset _
  | cons c cs ih =>
    cases open? with
    | some q => exact ih _ _
    | none => exact List.cons_subset_cons c (ih _ _)

/-- Whether a comment starts in a text: a hash sign stands outside its strings. -/
def HasComment (query : String) : Prop := '#' ∈ outside none false query.toList

instance (query : String) : Decidable (HasComment query) :=
  inferInstanceAs (Decidable ('#' ∈ outside none false query.toList))

/-- A text without comments that is scanned with even blanks is scanned as it stands. -/
theorem scan_of_normalizeBlanks {query : String} {ts : List Token} (hcomment : ¬ HasComment query)
    (h : scan (normalizeBlanks query).toList = .ok ts) : scan query.toList = .ok ts := by
  obtain ⟨a, b, ha, hb, hsplit⟩ := trim_append query.toList
  rw [normalizeBlanks, String.toList_ofList] at h
  rw [HasComment, hsplit, outside_blanks ha] at hcomment
  have htrim : '#' ∉ outside none false (trim query.toList) := fun hmem =>
    hcomment (List.mem_append_right a (outside_append_subset none false _ b hmem))
  rw [hsplit, scan_blanks ha]
  exact scan_of_evenBlanks hb htrim h

/-! ## Even blanks stay -/

theorem evenBlanks_none (escaped pending : Bool) (cs : List Char) :
    evenBlanks none escaped pending cs = evenBlanks none false pending cs := by
  cases cs <;> rfl

theorem evenBlanks_evenBlanks (open? : Option Char) (escaped pending : Bool) (cs : List Char) :
    evenBlanks open? escaped false (evenBlanks open? escaped pending cs)
      = evenBlanks open? escaped pending cs := by
  induction cs generalizing open? escaped pending with
  | nil => rfl
  | cons c cs ih =>
    cases open? with
    | some q => rw [evenBlanks_some, evenBlanks_some, ih]
    | none =>
      cases hc : isBlank c with
      | true => rw [evenBlanks_blank _ _ hc, evenBlanks_none, ih]
      | false =>
        have hsolid : evenBlanks none escaped false (c :: evenBlanks (quoteMark? c) false false cs)
            = c :: evenBlanks (quoteMark? c) false false cs := by
          rw [evenBlanks_cons _ _ hc, ih]
          rfl
        rw [evenBlanks_cons _ _ hc]
        cases pending with
        | false => exact hsolid
        | true =>
          show evenBlanks none escaped false (' ' :: c :: _) = ' ' :: c :: _
          rw [evenBlanks_blank _ _ (by decide), evenBlanks_cons _ _ hc, ih]
          rfl

theorem getLast?_evenBlanks {open? : Option Char} {escaped pending : Bool} {cs : List Char} {c : Char}
    (hc : isBlank c = false) (h : cs.getLast? = some c) :
    (evenBlanks open? escaped pending cs).getLast? = some c := by
  induction cs generalizing open? escaped pending with
  | nil => cases h
  | cons d cs ih =>
    cases cs with
    | nil =>
      obtain rfl : d = c := Option.some.inj h
      cases open? with
      | some q => rw [evenBlanks_some]; rfl
      | none => rw [evenBlanks_cons _ _ hc, List.getLast?_append]; rfl
    | cons e cs =>
      rw [List.getLast?_cons_cons] at h
      have hcons (o : Option Char) (x : Bool) (p : Bool) :
          (d :: evenBlanks o x p (e :: cs)).getLast? = some c := by
        rw [List.getLast?_cons, ih h]
        rfl
      cases open? with
      | some q =>
        rw [evenBlanks_some]
        exact hcons _ _ _
      | none =>
        cases hd : isBlank d with
        | true =>
          rw [evenBlanks_blank _ _ hd]
          exact ih h
        | false =>
          rw [evenBlanks_cons _ _ hd, List.getLast?_append, hcons]
          rfl

theorem normalizeBlanks_normalizeBlanks (query : String) :
    normalizeBlanks (normalizeBlanks query) = normalizeBlanks query := by
  have htrim : trim (evenBlanks none false false (trim query.toList))
      = evenBlanks none false false (trim query.toList) := by
    refine trim_eq_self ?_ ?_
    · cases h : trim query.toList with
      | nil => simp [evenBlanks]
      | cons c cs =>
        have hc := head?_trim query.toList c (by rw [h]; rfl)
        rw [evenBlanks_cons _ _ hc]
        simpa using hc
    · cases h : (trim query.toList).getLast? with
      | none =>
        rw [List.getLast?_eq_none_iff.1 h]
        simp [evenBlanks]
      | some c =>
        have hc := getLast?_trimEnd _ c h
        rw [getLast?_evenBlanks hc h]
        simpa using hc
  rw [normalizeBlanks, normalizeBlanks, String.toList_ofList, htrim, evenBlanks_evenBlanks]

end RuleCatalog.Query
