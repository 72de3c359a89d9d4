import RuleCatalog.Query.Token
import RuleCatalog.Text.Blank

/-! # Splitting a query into tokens

A text is a row of gaps (blanks and comments) and tokens. `lexeme` reads one token off the
front of a text; `scan` reads them all. Main statement: a token takes at least one character. -/
namespace RuleCatalog.Query
open Text

def isIdentStart (c : Char) : Bool := c.isAlpha || c == '_'
def isIdentPart (c : Char) : Bool := c.isAlphanum || c == '_' || c == ':'

/-- A name may also start with a colon, if a name follows it. -/
def startsIdent : List Char → Bool
  | ':' :: d :: _ => isIdentStart d
  | c :: _ => isIdentStart c
  | [] => false

def startsNumber : List Char → Bool
  | '.' :: d :: _ => d.isDigit
  | c :: _ => c.isDigit
  | [] => false

/-- The text after a time unit; `ms` is one unit and not a minute. -/
def dropUnit? : List Char → Option (List Char)
  | 'm' :: 's' :: cs => some cs
  | c :: cs => if c ∈ ['s', 'm', 'h', 'd', 'w', 'y'] then some cs else none
  | [] => none

theorem length_dropUnit?_lt {cs r : List Char} (h : dropUnit? cs = some r) :
    r.length < cs.length := by
  unfold dropUnit? at h
  split at h
  · simp at h; subst h; simp only [List.length_cons]; omega
  · split at h
    · simp at h; subst h; simp
    · simp at h
  · simp at h

theorem length_dropWhile_le (p : Char → Bool) (cs : List Char) :
    (cs.dropWhile p).length ≤ cs.length :=
  (List.dropWhile_sublist p).length_le

/-- Whether a text is a row of quantities, each a whole number with its unit. -/
def isQuantities (cs : List Char) : Bool :=
  if cs.isEmpty then true
  else if (cs.takeWhile Char.isDigit).isEmpty then false
  else match _h : dropUnit? (cs.dropWhile Char.isDigit) with
    | none => false
    | some r => isQuantities r
termination_by cs.length
decreasing_by
  exact Nat.lt_of_lt_of_le (length_dropUnit?_lt _h) (length_dropWhile_le _ _)

/-- Whether a text is a duration such as `1h30m`. -/
def isDuration (cs : List Char) : Bool := !cs.isEmpty && isQuantities cs

/-- An exponent at the front of a text, and the text after it. -/
def exponent? : List Char → Option (List Char × List Char)
  | e :: cs =>
    if e != 'e' && e != 'E' then none else
    let (sign, ds) := match cs with
      | '+' :: r => (['+'], r)
      | '-' :: r => (['-'], r)
      | r => ([], r)
    if (ds.takeWhile Char.isDigit).isEmpty then none
    else some (e :: sign ++ ds.takeWhile Char.isDigit, ds.dropWhile Char.isDigit)
  | [] => none

/-- Reads a number, or a duration where letters follow the digits. -/
def lexNumber : List Char → Except ParseError (Token × List Char)
  | '0' :: 'x' :: cs =>
    .ok (.number (.ofList ('0' :: 'x' :: cs.takeWhile isHexDigit)), cs.dropWhile isHexDigit)
  | '0' :: 'X' :: cs =>
    .ok (.number (.ofList ('0' :: 'X' :: cs.takeWhile isHexDigit)), cs.dropWhile isHexDigit)
  | cs =>
    let part (c : Char) : Bool := c.isDigit || c == '.'
    let digits := cs.takeWhile part
    let rest := cs.dropWhile part
    match exponent? rest with
    | some (e, rest) => .ok (.number (.ofList (digits ++ e)), rest)
    | none =>
      if (rest.takeWhile Char.isAlpha).isEmpty then .ok (.number (.ofList digits), rest) else
        let text := digits ++ rest.takeWhile Char.isAlphanum
        if isDuration text then .ok (.duration (.ofList text), rest.dropWhile Char.isAlphanum)
        else .error (.invalidDuration (.ofList text))

/-- The character that an escape of one letter stands for; other characters stand for
themselves. -/
def plainEscape (c : Char) : Char :=
  match c with
  | 'n' => '\n'
  | 't' => '\t'
  | 'r' => '\r'
  | 'a' => '\x07'
  | 'b' => '\x08'
  | 'f' => '\x0c'
  | 'v' => '\x0b'
  | c => c

/-- The number of hexadecimal digits after an escape letter. -/
def escapeWidth? (c : Char) : Option Nat :=
  match c with
  | 'x' => some 2
  | 'u' => some 4
  | 'U' => some 8
  | _ => none

/-- The character with a code point. -/
def charOfCode? (n : Nat) : Option Char :=
  if n.isValidChar then some (Char.ofNat n) else none

/-- The character of an escape's digits; all of its width have to be there. -/
def readEscape? (width : Nat) (digits : List Char) : Option Char :=
  if digits.length = width then (readSigned? 16 digits).bind charOfCode? else none

/-- The value of a string up to its closing quote, and the text after it. -/
def lexQuoted (mark : Char) (cs : List Char) : Except ParseError (List Char × List Char) :=
  match cs with
  | [] => .error .unterminatedString
  | c :: cs =>
    if c = mark then .ok ([], cs)
    else if c ≠ '\\' then do
      let (v, rest) ← lexQuoted mark cs
      return (c :: v, rest)
    else match cs with
      | [] => .error .unterminatedEscape
      | e :: cs =>
        match escapeWidth? e with
        | none => do
          let (v, rest) ← lexQuoted mark cs
          return (plainEscape e :: v, rest)
        | some w =>
          match readEscape? w (cs.take w) with
          | none => .error (.invalidEscape e (.ofList (cs.take w)))
          | some d => do
            let (v, rest) ← lexQuoted mark (cs.drop w)
            return (d :: v, rest)
termination_by cs.length
decreasing_by all_goals (simp only [List.length_cons, List.length_drop]; omega)

/-- The operator at the front of a text, the longer one of two, and the text after it. -/
def lexSymbol? : List Char → Option (Symbol × List Char)
  | '=' :: '=' :: cs => some (.equal, cs)
  | '!' :: '=' :: cs => some (.notEqual, cs)
  | '=' :: '~' :: cs => some (.matches, cs)
  | '!' :: '~' :: cs => some (.notMatches, cs)
  | '>' :: '=' :: cs => some (.greaterEqual, cs)
  | '<' :: '=' :: cs => some (.lessEqual, cs)
  | '=' :: cs => some (.assign, cs)
  | '>' :: cs => some (.greater, cs)
  | '<' :: cs => some (.less, cs)
  | '+' :: cs => some (.plus, cs)
  | '-' :: cs => some (.minus, cs)
  | '*' :: cs => some (.times, cs)
  | '/' :: cs => some (.divide, cs)
  | '%' :: cs => some (.modulo, cs)
  | '^' :: cs => some (.power, cs)
  | _ => none

/-- The token of a single punctuation character. -/
def punctuation? (c : Char) : Option Token :=
  match c with
  | '(' => some .leftParen
  | ')' => some .rightParen
  | '{' => some .leftBrace
  | '}' => some .rightBrace
  | '[' => some .leftBracket
  | ']' => some .rightBracket
  | ',' => some .comma
  | ':' => some .colon
  | '@' => some .at
  | _ => none

/-- Reads the token at the front of the text `c :: cs`. -/
def lexeme (c : Char) (cs : List Char) : Except ParseError (Token × List Char) :=
  if startsNumber (c :: cs) then lexNumber (c :: cs)
  else if startsIdent (c :: cs) then
    .ok (.ident (.ofList (c :: cs.takeWhile isIdentPart)), cs.dropWhile isIdentPart)
  else if c = '"' ∨ c = '\'' then do
    let (v, rest) ← lexQuoted c cs
    return (.string (.ofList v), rest)
  else if c = '\x60' then
    match cs.dropWhile (· != '\x60') with
    | [] => .error .unterminatedRawString
    | _ :: rest => .ok (.string (.ofList (cs.takeWhile (· != '\x60'))), rest)
  else match punctuation? c with
    | some t => .ok (t, cs)
    | none => match lexSymbol? (c :: cs) with
      | some (s, rest) => .ok (.symbol s, rest)
      | none => .error (.unexpectedCharacter c)

theorem length_lexQuoted_le {mark : Char} {cs v r : List Char}
    (h : lexQuoted mark cs = .ok (v, r)) : r.length ≤ cs.length := by
  fun_induction lexQuoted mark cs generalizing v r with
  | case1 => simp at h
  | case2 => simp at h; obtain ⟨_, rfl⟩ := h; simp
  | case3 c cs hc hne ih =>
    match hq : lexQuoted mark cs with
    | .error e => simp [hq, bind, Except.bind] at h
    | .ok (v', r') =>
      simp [hq, bind, Except.bind, pure, Except.pure] at h
      have := ih hq; obtain ⟨_, rfl⟩ := h; simp; omega
  | case4 => simp at h
  | case5 c hc hne e cs hw ih =>
    match hq : lexQuoted mark cs with
    | .error e => simp [hq, bind, Except.bind] at h
    | .ok (v', r') =>
      simp [hq, bind, Except.bind, pure, Except.pure] at h
      have := ih hq; obtain ⟨_, rfl⟩ := h; simp; omega
  | case6 => simp at h
  | case7 c hc hne e cs w hw d hd ih =>
    match hq : lexQuoted mark (cs.drop w) with
    | .error e => simp [hq, bind, Except.bind] at h
    | .ok (v', r') =>
      simp [hq, bind, Except.bind, pure, Except.pure] at h
      have := ih hq; obtain ⟨_, rfl⟩ := h; simp at *; omega

theorem length_exponent?_le {cs e r : List Char} (h : exponent? cs = some (e, r)) :
    r.length ≤ cs.length := by
  unfold exponent? at h
  split at h
  · rename_i c cs
    split at h
    · simp at h
    · split at h
      rename_i sign ds hs
      split at h
      · simp at h
      · simp at h
        obtain ⟨_, rfl⟩ := h
        have : ds.length ≤ cs.length := by
          split at hs <;> simp at hs <;> obtain ⟨_, rfl⟩ := hs <;> simp
        have := length_dropWhile_le Char.isDigit ds
        simp; omega
  · simp at h

theorem length_lexSymbol?_lt {cs r : List Char} {s : Symbol} (h : lexSymbol? cs = some (s, r)) :
    r.length < cs.length := by
  unfold lexSymbol? at h
  split at h <;> simp at h <;> obtain ⟨_, rfl⟩ := h <;> simp only [List.length_cons] <;> omega

theorem length_dropWhile_lt {p : Char → Bool} {c : Char} {cs : List Char} (h : p c = true) :
    ((c :: cs).dropWhile p).length < (c :: cs).length := by
  have := length_dropWhile_le p cs
  simp [h]; omega

theorem length_lexNumber_lt {c : Char} {cs r : List Char} {t : Token}
    (hs : startsNumber (c :: cs) = true) (h : lexNumber (c :: cs) = .ok (t, r)) :
    r.length < (c :: cs).length := by
  have hd : (c.isDigit || c == '.') = true := by
    unfold startsNumber at hs
    split at hs <;> simp_all
  unfold lexNumber at h
  split at h
  · simp at h
    have := length_dropWhile_le isHexDigit cs
    rename_i x hx; simp at hx; obtain ⟨_, rfl⟩ := hx
    obtain ⟨_, rfl⟩ := h
    have := length_dropWhile_le isHexDigit x
    simp; omega
  · rename_i x hx; simp at hx; obtain ⟨_, rfl⟩ := hx
    simp at h; obtain ⟨_, rfl⟩ := h
    have := length_dropWhile_le isHexDigit x
    simp; omega
  · have hlt : ((c :: cs).dropWhile fun c => c.isDigit || c == '.').length < (c :: cs).length :=
      length_dropWhile_lt (p := fun c => c.isDigit || c == '.') hd
    dsimp only at h
    generalize ((c :: cs).dropWhile fun c => c.isDigit || c == '.') = rest at h hlt
    split at h
    · rename_i e rest' he
      simp at h; obtain ⟨_, rfl⟩ := h
      exact Nat.lt_of_le_of_lt (length_exponent?_le he) hlt
    · split at h
      · simp at h; obtain ⟨_, rfl⟩ := h; exact hlt
      · split at h
        · simp at h; obtain ⟨_, rfl⟩ := h
          exact Nat.lt_of_le_of_lt (length_dropWhile_le _ _) hlt
        · simp at h

/-- A token takes at least one character. -/
theorem length_lexeme_le {c : Char} {cs r : List Char} {t : Token}
    (h : lexeme c cs = .ok (t, r)) : r.length ≤ cs.length := by
  unfold lexeme at h
  split at h
  · rename_i hs; have := length_lexNumber_lt hs h; simp at this; omega
  split at h
  · simp at h; obtain ⟨_, rfl⟩ := h; exact length_dropWhile_le _ _
  split at h
  · cases hq : lexQuoted c cs with
    | error e => simp [hq, bind, Except.bind] at h
    | ok p =>
      simp [hq, bind, Except.bind, pure, Except.pure] at h
      obtain ⟨_, rfl⟩ := h
      exact length_lexQuoted_le hq
  split at h
  · split at h
    · simp at h
    · rename_i d rest hd
      simp at h; obtain ⟨_, rfl⟩ := h
      have := length_dropWhile_le (· != '\x60') cs
      rw [hd] at this; simp at this; omega
  split at h
  · simp at h; obtain ⟨_, rfl⟩ := h; simp
  split at h
  · rename_i hl
    simp at h; obtain ⟨_, rfl⟩ := h
    have := length_lexSymbol?_lt hl
    simp at this; omega
  · simp at h

/-- The tokens of a text. -/
def scan (cs : List Char) : Except ParseError (List Token) :=
  match _hg : skipGap false cs with
  | [] => .ok []
  | c :: rest =>
    match _hl : lexeme c rest with
    | .error e => .error e
    | .ok (t, rest') => do
      let ts ← scan rest'
      return t :: ts
termination_by cs.length
decreasing_by
  have h := length_skipGap_le false cs
  have h' := length_lexeme_le _hl
  rw [_hg] at h
  simp at h
  omega

end RuleCatalog.Query
