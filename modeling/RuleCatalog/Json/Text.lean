import RuleCatalog.Text.Ascii

/-! # Texts in JSON

A text between double quotes, and reading it back. Characters of sixteen bits and more may be
written as two escapes, each for half of a surrogate pair; half a pair alone is no text.
Main statement: `takeText?_quoted`, that reading undoes writing. -/
namespace RuleCatalog.Json
open Text

/-- What a character after a backslash stands for by itself. -/
def shortEscapes : List (Char × Char) :=
  [('"', '"'), ('\\', '\\'), ('/', '/'), ('b', '\x08'), ('f', '\x0c'), ('n', '\n'), ('r', '\r'),
    ('t', '\t')]

/-- How a text writes a character: control characters, quotes and backslashes as escapes. -/
def escape (c : Char) : List Char :=
  if c == '"' || c == '\\' then ['\\', c]
  else if c == '\x08' then ['\\', 'b']
  else if c == '\x0c' then ['\\', 'f']
  else if c == '\n' then ['\\', 'n']
  else if c == '\r' then ['\\', 'r']
  else if c == '\t' then ['\\', 't']
  else if c.toNat < 0x20 then ['\\', 'u', '0', '0'] ++ hexByte (.ofNat c.toNat)
  else [c]

/-- A text in double quotes. -/
def quoted (s : String) : List Char := '"' :: s.toList.flatMap escape ++ ['"']

/-- The code points, and the halves of surrogate pairs, up to the closing quote, and the text
after it. -/
def takePoints? : List Char → Option (List Nat × List Char)
  | [] => none
  | '"' :: cs => some ([], cs)
  | '\\' :: 'u' :: a :: b :: c :: d :: cs =>
    if [a, b, c, d].all isHexDigit then
      (takePoints? cs).map fun p => (ofDigits 16 [a, b, c, d] :: p.1, p.2)
    else none
  | '\\' :: c :: cs =>
    (shortEscapes.lookup c).bind fun e => (takePoints? cs).map fun p => (e.toNat :: p.1, p.2)
  | c :: cs =>
    if c.toNat < 0x20 || c == '\\' then none
    else (takePoints? cs).map fun p => (c.toNat :: p.1, p.2)

def isHighHalf (n : Nat) : Bool := 0xD800 ≤ n && n ≤ 0xDBFF

def isLowHalf (n : Nat) : Bool := 0xDC00 ≤ n && n ≤ 0xDFFF

/-- The characters of code points with surrogate pairs; nothing where half a pair is alone. -/
def join? : List Nat → Option (List Char)
  | [] => some []
  | [n] => if isHighHalf n || isLowHalf n then none else some [.ofNat n]
  | n :: m :: ns =>
    if isHighHalf n && isLowHalf m then
      (join? ns).map (Char.ofNat ((n - 0xD800) * 0x400 + (m - 0xDC00) + 0x10000) :: ·)
    else if isHighHalf n || isLowHalf n then none
    else (join? (m :: ns)).map (Char.ofNat n :: ·)

/-- The text after an opening quote, unless its surrogates do not pair up. -/
def takeText? (cs : List Char) : Option (Option String × List Char) :=
  (takePoints? cs).map fun p => ((join? p.1).map .ofList, p.2)

theorem not_isHalf (c : Char) : isHighHalf c.toNat = false ∧ isLowHalf c.toNat = false := by
  have h := c.valid
  simp only [UInt32.isValidChar, Nat.isValidChar] at h
  have e : c.toNat = c.val.toNat := rfl
  simp only [isHighHalf, isLowHalf, Bool.and_eq_false_iff, decide_eq_false_iff_not, e]
  omega

theorem join?_map_toNat (cs : List Char) : join? (cs.map Char.toNat) = some cs := by
  induction cs with
  | nil => rfl
  | cons c cs ih =>
    obtain ⟨h, l⟩ := not_isHalf c
    cases cs with
    | nil => simp [join?, h, l]
    | cons d ds =>
      simp only [List.map_cons] at ih ⊢
      simp [join?, h, l, ih]

theorem ofDigits_hexByte : ∀ n < 0x20,
    ofDigits 16 ('0' :: '0' :: hexByte (.ofNat n)) = n
      ∧ ('0' :: '0' :: hexByte (.ofNat n)).all isHexDigit = true := by decide

theorem takePoints?_of_plain {c : Char} (h : ¬ c.toNat < 0x20) (hq : c ≠ '"') (hb : c ≠ '\\')
    (cs : List Char) :
    takePoints? (c :: cs) = (takePoints? cs).map fun p => (c.toNat :: p.1, p.2) := by
  rw [takePoints?.eq_def]
  split <;> grind

theorem takePoints?_escape (c : Char) (cs : List Char) :
    takePoints? (escape c ++ cs) = (takePoints? cs).map fun p => (c.toNat :: p.1, p.2) := by
  unfold escape
  repeat' split
  · rename_i h
    rcases Bool.or_eq_true_iff.1 h with h | h <;> obtain rfl := eq_of_beq h <;> rfl
  · rename_i h; obtain rfl := eq_of_beq h; rfl
  · rename_i h; obtain rfl := eq_of_beq h; rfl
  · rename_i h; obtain rfl := eq_of_beq h; rfl
  · rename_i h; obtain rfl := eq_of_beq h; rfl
  · rename_i h; obtain rfl := eq_of_beq h; rfl
  · rename_i h
    obtain ⟨hd, ha⟩ := ofDigits_hexByte c.toNat h
    simp only [hexByte] at hd ha
    simp only [hexByte, List.cons_append, List.nil_append, takePoints?, ha, hd, if_true]
  · exact takePoints?_of_plain (by assumption) (by simp_all) (by simp_all) cs

theorem takeText?_quoted (s : String) (rest : List Char) :
    takeText? ((s.toList.flatMap escape ++ ['"']) ++ rest) = some (some s, rest) := by
  have h : ∀ l : List Char, takePoints? (l.flatMap escape ++ '"' :: rest)
      = some (l.map Char.toNat, rest) := fun l => by
    induction l with
    | nil => rfl
    | cons c l ih => simp [List.flatMap_cons, takePoints?_escape, ih]
  simp [takeText?, h, join?_map_toNat]

end RuleCatalog.Json
