import RuleCatalog.Pattern.Escape
import RuleCatalog.Pattern.Read
import RuleCatalog.Proofs.Pattern.SearchLiteral

/-! # Reading the pattern of a given text

The text that `escape` writes is read back as the pattern of the given text. -/
namespace RuleCatalog.Pattern

/-- The part of a sequence that one given character is. -/
def charPart (c : Char) : Part := ⟨.text [c], true, 0⟩

theorem normal_single (p : Nat × Nat) : Text.Ranges.normal [p] = [p] := by
  simp [Text.Ranges.normal, Text.Ranges.normal.join]

theorem charPattern_initial (c : Char) : charPattern .initial c = .text [c] := by
  have hscalars : scalars [(c.toNat, c.toNat)] = [(c.toNat, c.toNat)] := by
    have hvalid : ¬(0xD800 ≤ c.toNat ∧ c.toNat ≤ 0xDFFF) := by
      rcases c.valid with h | h
      · have : c.toNat < 0xD800 := h
        omega
      · have : 0xDFFF < c.toNat := h.1
        omega
    simp [scalars, hvalid]
  show ofSet [(c.toNat, c.toNat)] = _
  unfold ofSet
  rw [hscalars, normal_single]
  simp [Char.ofNat_toNat]

theorem readAtom?_meta {c : Char} (h : isMeta c = true) (rest : List Char) :
    readAtom? .initial ('\\' :: c :: rest) = some (.text [c], rest) := by
  have hread : readEscape? .initial (c :: rest) = some (.char c false, rest) := by
    simp only [isMeta, List.mem_cons, decide_eq_true_eq, List.not_mem_nil, or_false] at h
    rcases h with rfl | rfl | rfl | rfl | rfl | rfl | rfl | rfl | rfl | rfl | rfl | rfl | rfl
      | rfl | rfl | rfl | rfl | rfl <;> rfl
  have hpattern : (Atom.char c false).pattern? .initial = some (.text [c]) :=
    congrArg some (charPattern_initial c)
  simp only [readAtom?, hread, Option.bind_eq_bind, Option.bind_some, hpattern]
  rfl

theorem readAtom?_plain {c : Char} (h : isMeta c = false) (rest : List Char) :
    readAtom? .initial (c :: rest) = some (.text [c], rest) := by
  unfold readAtom?
  split
  · rename_i heq
    obtain ⟨rfl, -⟩ := List.cons.inj heq
    cases h
  · rename_i heq
    obtain ⟨rfl, -⟩ := List.cons.inj heq
    cases h
  · rename_i heq
    obtain ⟨rfl, -⟩ := List.cons.inj heq
    cases h
  · rename_i heq
    obtain ⟨rfl, -⟩ := List.cons.inj heq
    cases h
  · rename_i heq
    obtain ⟨rfl, rfl⟩ := List.cons.inj heq
    rw [charPattern_initial]
  · rename_i heq
    cases heq

variable {n : Nat} {earlier parts : List Part} {groups : Nat} {names : List (String × Nat)}

/-- One character of a given text is read. -/
theorem readBody?_char (c : Char) (rest : List Char) :
    readBody? (n + 1) earlier parts ⟨escape [c] ++ rest, .initial, groups, names⟩
      = readBody? n earlier (charPart c :: parts) ⟨rest, .initial, groups, names⟩ := by
  cases h : isMeta c with
  | true =>
    have hescape : escape [c] ++ rest = '\\' :: c :: rest := by simp [escape, h]
    rw [hescape, readBody?]
    show (readAtom? .initial ('\\' :: c :: rest)).bind _ = _
    rw [readAtom?_meta h]
    rfl
  | false =>
    have hescape : escape [c] ++ rest = c :: rest := by simp [escape, h]
    rw [hescape, readBody?]
    have hskip : Settings.skip .initial (c :: rest) = c :: rest := rfl
    have hne : ∀ d, isMeta d = true → c ≠ d := by
      rintro d hd rfl
      rw [h] at hd
      cases hd
    dsimp only
    rw [hskip]
    split
    case h_1 heq => cases heq
    case h_10 =>
      rw [readAtom?_plain h]
      rfl
    -- all other cases are those of a character that is escaped
    all_goals
      rename_i heq
      exact absurd (List.cons.inj heq).1 (hne _ rfl)

/-- A given text is read, character by character. -/
theorem readBody?_escape (s rest : List Char) :
    readBody? (n + s.length) earlier parts ⟨escape s ++ rest, .initial, groups, names⟩
      = readBody? n earlier ((s.map charPart).reverse ++ parts)
        ⟨rest, .initial, groups, names⟩ := by
  induction s generalizing parts with
  | nil => rfl
  | cons c s ih =>
    have hescape : escape (c :: s) ++ rest = escape [c] ++ (escape s ++ rest) := by
      simp [escape]
    rw [hescape, List.length_cons, ← Nat.add_assoc, readBody?_char, ih]
    simp

theorem joinTexts_chars (c : Char) (s : List Char) :
    joinTexts ((c :: s).map fun c => text [c]) = [text (c :: s)] := by
  induction s generalizing c with
  | nil => rfl
  | cons d s ih =>
    rw [List.map_cons, joinTexts, ih]
    rfl

theorem length_le_escape (s : List Char) : s.length ≤ (escape s).length := by
  induction s with
  | nil => exact Nat.le_refl _
  | cons c s ih =>
    rw [escape_cons, List.length_append, List.length_cons]
    split <;> simp <;> omega

theorem sequence_chars (c : Char) (s : List Char) :
    sequence ((c :: s).map fun c => text [c]) = text (c :: s) := by
  have hparts : ((c :: s).map fun c => text [c]).flatMap Pattern.parts
      = (c :: s).map fun c => text [c] := by
    rw [List.flatMap_map]
    exact List.map_eq_flatMap.symm
  rw [sequence, hparts, joinTexts_chars]
  rfl

theorem sequencePart_of_length {ps : List Part} (h : 2 ≤ ps.length) : sequencePart ps
    = ⟨.sequence (ps.reverse.map (·.pattern)), true, (ps.map (·.depth)).foldl max 0 + 1⟩ := by
  match ps with
  | p :: q :: ps => rfl

theorem depth_chars (s : List Char) :
    (((s.map charPart).reverse).map (·.depth)).foldl max 0 = 0 := by
  rw [← List.map_reverse, List.map_map]
  induction s.reverse with
  | nil => rfl
  | cons c s ih => exact ih

/-- What a given text is within a sequence. -/
def bodyPattern (s : List Char) : Pattern := if s = [] then .empty else .text s

theorem sequencePart_chars (s : List Char) : (sequencePart (s.map charPart).reverse).depth ≤ 1
    ∧ (sequencePart (s.map charPart).reverse).pattern = bodyPattern s := by
  match s with
  | [] => exact ⟨Nat.zero_le _, rfl⟩
  | [c] => exact ⟨Nat.zero_le _, rfl⟩
  | c :: d :: s =>
    rw [sequencePart_of_length (by simp)]
    refine ⟨?_, ?_⟩
    · exact Nat.le_of_eq (congrArg (· + 1) (depth_chars (c :: d :: s)))
    · dsimp only
      rw [List.reverse_reverse, List.map_map]
      exact sequence_chars c (d :: s)

/-- The pattern of a given text between the start and the end, as it is read. -/
def readLiteral (s : List Char) : Pattern :=
  if s = [] then .cat (.look .textStart) (.look .textEnd) else literal s

theorem sequence_anchored (s : List Char) :
    sequence [.look .textStart, bodyPattern s, .look .textEnd] = readLiteral s := by
  cases s <;> rfl

theorem compile_readLiteral (s : List Char) : compile (readLiteral s) = literalProgram s := by
  cases s with
  | nil => rfl
  | cons c s => exact compile_literal (c :: s)

/-- A given text is read between the start and the end, unless it is too long. -/
theorem parse?_escape (s : List Char) :
    parse? ("^(?:" ++ .ofList (escape s) ++ ")$")
      = if (readLiteral s).fits then some ⟨readLiteral s, 0, []⟩ else none := by
  have hchars : ("^(?:" ++ String.ofList (escape s) ++ ")$").toList
      = '^' :: '(' :: '?' :: ':' :: (escape s ++ [')', '$']) := by
    simp
  obtain ⟨n, hn⟩ : ∃ n, (escape s).length + 5 = n + 3 + s.length :=
    ⟨(escape s).length + 2 - s.length, by have := length_le_escape s; omega⟩
  obtain ⟨hdepth, hpattern⟩ := sequencePart_chars s
  have hinner : readBody? ((escape s).length + 5) [] []
      ⟨escape s ++ [')', '$'], .initial, 0, []⟩
        = some (sequencePart (s.map charPart).reverse, ⟨[')', '$'], .initial, 0, []⟩) := by
    rw [hn, readBody?_escape, List.append_nil]
    rfl
  have hgroup : ∀ k body rest, readBody? k [] [] ⟨rest, .initial, 0, []⟩
      = some (body, ⟨[')', '$'], .initial, 0, []⟩) →
      readBody? (k + 2) [] [] ⟨'^' :: '(' :: '?' :: ':' :: rest, .initial, 0, []⟩
        = readBody? k [] [⟨body.pattern, true, body.depth + 1⟩, ⟨.look .textStart, true, 0⟩]
          ⟨['$'], .initial, 0, []⟩ := by
    intro k body rest h
    show (readBody? k [] [] ⟨rest, .initial, 0, []⟩).bind _ = _
    rw [h]
    rfl
  have hbody : readBody? ((escape s).length + 7) [] []
      ⟨'^' :: '(' :: '?' :: ':' :: (escape s ++ [')', '$']), .initial, 0, []⟩
        = some (⟨readLiteral s, true, (sequencePart (s.map charPart).reverse).depth + 2⟩,
          ⟨[], .initial, 0, []⟩) := by
    rw [hgroup _ _ _ hinner, hpattern, ← sequence_anchored]
    have hstop : ∀ k p q, readBody? (k + 2) [] [q, p] ⟨['$'], .initial, 0, []⟩
        = some (sequencePart [⟨.look .textEnd, true, 0⟩, q, p], ⟨[], .initial, 0, []⟩) :=
      fun _ _ _ => rfl
    rw [hstop, sequencePart_of_length (by simp)]
    simp
  have hlength : ('^' :: '(' :: '?' :: ':' :: (escape s ++ [')', '$'])).length + 1
      = (escape s).length + 7 := by simp
  have hmax : (sequencePart (s.map charPart).reverse).depth + 2 ≤ maxDepth := by
    unfold maxDepth
    omega
  rw [parse?, hchars, hlength, hbody]
  simp [hmax]

/-! ## The memory of a given text -/

/-- Whether an operation adds a number of single states, as far as there is room. -/
def Adds (f : Memory → Option Memory) (n : Nat) : Prop :=
  ∀ m, f (.single m) = if m + n ≤ 327680 then some (.single (m + n)) else none

theorem adds_grow? (n : Nat) : Adds (·.grow? (.single n)) n := by
  intro m
  have hbytes : (Memory.single m + Memory.single n).bytes ≤ Memory.limit ↔ m + n ≤ 327680 := by
    show 32 * (m + n) + (0 + 0) ≤ 10 * 2 ^ 20 ↔ _
    omega
  dsimp only [Memory.grow?]
  by_cases h : m + n ≤ 327680
  · rw [if_pos (hbytes.2 h), if_pos h]
    rfl
  · rw [if_neg (fun hb => h (hbytes.1 hb)), if_neg h]

theorem Adds.bind {f g : Memory → Option Memory} {a b : Nat} (hf : Adds f a) (hg : Adds g b) :
    Adds (fun m => (f m).bind g) (a + b) := by
  intro m
  dsimp only
  rw [hf m]
  by_cases ha : m + a ≤ 327680
  · rw [if_pos ha, Option.bind_some, hg, Nat.add_assoc]
  · rw [if_neg ha, if_neg (by omega)]
    rfl

theorem adds_fixed (n : Nat) (backward : Bool) :
    Adds (Outline.addTo backward (.fixed (.single n) (.single n)) .alone) n := by
  have h := (adds_grow? n).bind (adds_grow? 0)
  cases backward <;> exact h

theorem adds_cat {p q : Outline} {a b : Nat} {backward : Bool}
    (hp : Adds (p.addTo backward .alone) a) (hq : Adds (q.addTo backward .alone) b) :
    Adds (Outline.addTo backward (.cat p q) .alone) (a + b) := by
  cases backward with
  | true =>
    rw [Nat.add_comm a b]
    exact (hq.bind hp).bind (adds_grow? 0)
  | false => exact (hp.bind hq).bind (adds_grow? 0)

theorem adds_group {p : Outline} {a : Nat} (hp : Adds (p.addTo false .alone) a) :
    Adds (Outline.addTo false (.group p) .alone) (1 + (a + 1)) :=
  (adds_grow? 1).bind (hp.bind ((adds_grow? 1).bind (adds_grow? 0)))

theorem adds_readLiteral (s : List Char) (backward : Bool) :
    Adds ((outline false (readLiteral s)).addTo backward .alone)
      (1 + ((Utf8.bytes (.ofList s)).length + 1)) := by
  cases s with
  | nil => exact adds_cat (adds_fixed 1 backward) (adds_fixed 1 backward)
  | cons c s =>
    have htext := adds_fixed (Utf8.bytes (.ofList (c :: s))).length backward
    exact adds_cat (adds_fixed 1 backward) (adds_cat htext (adds_fixed 1 backward))

/-- A given text is refused only if it is very long. -/
theorem fits_readLiteral_iff (s : List Char) : (readLiteral s).fits = true
    ↔ (Utf8.bytes (.ofList s)).length + 6 ≤ 327680 := by
  have hstart : (readLiteral s).startsAtStart = true := by cases s <;> rfl
  have hend : (readLiteral s).endsAtEnd = true := by cases s <;> rfl
  have hbackward := (adds_readLiteral s true).bind (adds_grow? 1) 1
  have hforward := (adds_group (adds_readLiteral s false)).bind (adds_grow? 1) 1
  generalize (Utf8.bytes (.ofList s)).length = n at hbackward hforward ⊢
  have hroom : ∀ k, (if k ≤ 327680 then some (Memory.single k) else none).isSome
      = decide (k ≤ 327680) := by
    intro k
    split <;> simp [*]
  simp only [fits, hstart, hend, skipMemory, if_true, hbackward, hforward, hroom,
    Bool.and_eq_true, decide_eq_true_eq]
  omega

/-- A given text matches itself and nothing else, unless it is too long. -/
theorem find?_escape (s : List Char) (text : String) :
    (((parse? ("^(?:" ++ .ofList (escape s) ++ ")$")).map Regex.matcher).bind
        (·.find? text)).isSome = true
      ↔ text = .ofList s ∧ (Utf8.bytes (.ofList s)).length + 6 ≤ 327680 := by
  rw [parse?_escape, ← fits_readLiteral_iff]
  by_cases h : (readLiteral s).fits = true
  · have hsearch := search_literal_isSome_iff s text.toList.toArray
    rw [compile_literal] at hsearch
    have htext : text.toList.toArray.toList = s ↔ text = .ofList s := by
      constructor
      · rintro rfl
        simp
      · rintro rfl
        simp
    rw [if_pos h, Option.map_some, Option.bind_some, Matcher.find?, Regex.matcher,
      compile_readLiteral, Option.isSome_map, hsearch, htext]
    simp [h]
  · rw [if_neg h]
    simp [h]

end RuleCatalog.Pattern
