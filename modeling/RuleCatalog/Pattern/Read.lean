import RuleCatalog.Pattern.Class
import RuleCatalog.Pattern.Form
import RuleCatalog.Pattern.Memory
import RuleCatalog.Text.Newer

/-! # Reading patterns

The text of a pattern, read from left to right. Letters such as `(?i)` change the settings up
to the end of the group that they stand in. A pattern that is not well formed, nests too deep
or grows too large is refused. -/
namespace RuleCatalog.Pattern
open Text

/-- The text after what means nothing under the settings. -/
def Settings.skip (s : Settings) (cs : List Char) : List Char :=
  if s.spaced then skipGap false cs else cs

theorem Settings.length_skip_le (s : Settings) (cs : List Char) :
    (s.skip cs).length ≤ cs.length := by
  unfold skip
  split
  · exact length_skipGap_le false cs
  · exact Nat.le_refl _

/-- What one escape or character stands for. -/
inductive Atom where
  /-- A character; `isByte` where it was written as two hexadecimal digits. -/
  | char (c : Char) (isByte : Bool)
  | set (r : Ranges)
  | look (l : Look)

/-- The punctuation that may be escaped; letters, digits and angle brackets have or keep
meanings of their own. -/
def isEscapable (c : Char) : Bool :=
  c.toNat < 0x80 && !c.isAlphanum && c != '<' && c != '>'

/-- Takes a number of hexadecimal digits. -/
def takeHex? (s : Settings) : Nat → List Char → Option (List Char × List Char)
  | 0, cs => some ([], cs)
  | n + 1, cs =>
    match s.skip cs with
    | c :: rest =>
      if isHexDigit c then (takeHex? s n rest).map fun r => (c :: r.1, r.2) else none
    | [] => none

/-- Takes the text up to a closing brace. -/
def takeBraced? (s : Settings) (cs : List Char) : Option (List Char × List Char) :=
  match _h : s.skip cs with
  | [] => none
  | c :: rest =>
    if c = '}' then some ([], rest) else (takeBraced? s rest).map fun r => (c :: r.1, r.2)
termination_by cs.length
decreasing_by
  have := s.length_skip_le cs
  rw [_h] at this
  exact this

def scalar? (digits : List Char) : Option Char :=
  (readDigits? 16 digits).bind fun n => if n.isValidChar then some (Char.ofNat n) else none

/-- Reads a hexadecimal escape after its letter. -/
def readHex? (s : Settings) (letter : Char) (cs : List Char) : Option (Atom × List Char) :=
  match s.skip cs with
  | '{' :: rest => do
    let (digits, rest) ← takeBraced? s rest
    let c ← scalar? digits
    return (.char c false, s.skip rest)
  | cs => do
    let width := if letter = 'x' then 2 else if letter = 'u' then 4 else 8
    let (digits, rest) ← takeHex? s width cs
    let c ← scalar? digits
    return (.char c (letter = 'x'), s.skip rest)

/-- Reads a property escape after its letter. -/
def readProperty? (s : Settings) (negated : Bool) (cs : List Char) : Option (Atom × List Char) :=
  if s.ascii then none else
  match s.skip cs with
  | '{' :: rest => do
    let (inside, rest) ← takeBraced? s rest
    let query := Class.Query.ofText inside
    let r ← Class.closed? s (negated != query.differs) (← query.set?)
    return (.set r, rest)
  | c :: rest => do
    let r ← Class.closed? s negated (← (Class.Query.ofText [c]).set?)
    return (.set r, s.skip rest)
  | [] => none

def edgeNames : List (String × WordEdge) :=
  [("start", .start), ("end", .stop), ("start-half", .startHalf), ("end-half", .stopHalf)]

/-- The edge in braces after a word boundary; braces that hold no name are left for a loop. -/
def readEdge? (s : Settings) (cs : List Char) : Option (Option WordEdge × List Char) :=
  match cs with
  | '{' :: rest =>
    match s.skip rest with
    | [] => none
    | c :: _ =>
      if !(c.isAlpha || c == '-') then some (none, cs) else do
        let (name, after) ← takeBraced? s rest
        let e ← edgeNames.lookup (.ofList name)
        return (some e, after)
  | cs => some (none, cs)

/-- Reads what follows a backslash. -/
def readEscape? (s : Settings) : List Char → Option (Atom × List Char)
  | [] => none
  | c :: cs =>
    if c = 'x' ∨ c = 'u' ∨ c = 'U' then readHex? s c cs
    else if c = 'p' ∨ c = 'P' then readProperty? s (c = 'P') cs
    else match Class.ofEscape? s c with
      | some r => (Class.checked s r).map fun r => (.set r, cs)
      | none =>
        if isEscapable c then some (.char c false, cs) else
        match c with
        | 'a' => some (.char '\x07' false, cs)
        | 'f' => some (.char '\x0c' false, cs)
        | 't' => some (.char '\t' false, cs)
        | 'n' => some (.char '\n' false, cs)
        | 'r' => some (.char '\r' false, cs)
        | 'v' => some (.char '\x0b' false, cs)
        | 'A' => some (.look .textStart, cs)
        | 'z' => some (.look .textEnd, cs)
        | 'b' => (readEdge? s cs).map fun r => (.look (.word (r.1.getD .border) s.ascii), r.2)
        | 'B' => some (.look (.word .inside s.ascii), cs)
        | '<' => some (.look (.word .start s.ascii), cs)
        | '>' => some (.look (.word .stop s.ascii), cs)
        | _ => none

/-! ### Classes in brackets -/

/-- A named class such as `[:alpha:]`, after its bracket, and whether it is negated. -/
def readPosix? : List Char → Option (Bool × Ranges × List Char)
  | ':' :: cs => do
    let (negated, cs) := match cs with
      | '^' :: cs => (true, cs)
      | cs => (false, cs)
    let r ← Class.ofPosix? (cs.takeWhile (· != ':'))
    match cs.dropWhile (· != ':') with
    | ':' :: ']' :: rest => some (negated, r, rest)
    | _ => none
  | _ => none

def readClassAtom? (s : Settings) : List Char → Option (Atom × List Char)
  | '\\' :: cs => readEscape? s cs
  | c :: cs => some (.char c false, cs)
  | [] => none

/-- A character of a class; an ASCII class has ASCII characters. -/
def Atom.classChar? (s : Settings) : Atom → Option Nat
  | .char c _ => if s.ascii && 0x80 ≤ c.toNat then none else some c.toNat
  | _ => none

/-- What decides whether a dash begins a range: the character after it. Where that is a
comment, its first character that is no blank decides. -/
def afterDash (s : Settings) (cs : List Char) : Option Char :=
  if !s.spaced then cs.head?
  else match cs.dropWhile isBlank with
    | '#' :: comment => (comment.dropWhile isBlank).head?
    | cs => cs.head?

/-- Reads one character, range or escaped set of a class. -/
def readClassItem? (s : Settings) (cs : List Char) : Option (Ranges × List Char) := do
  let (first, cs) ← readClassAtom? s cs
  let cs := s.skip cs
  let single : Option (Ranges × List Char) :=
    match first with
    | .set r => some (r, cs)
    | a => (a.classChar? s).map fun n => ([(n, n)], cs)
  match cs with
  | [] => none
  | '-' :: rest =>
    if afterDash s rest = some ']' ∨ afterDash s rest = some '-' then single else do
      let (last, rest) ← readClassAtom? s (s.skip rest)
      let low ← first.classChar? s
      let high ← last.classChar? s
      if low ≤ high then some ([(low, high)], rest) else none
  | _ => single

/-- How two sets of a class are joined. -/
inductive SetOp where
  | intersection | difference | symmetric

def SetOp.apply (op : SetOp) (r t : Ranges) : Ranges :=
  let top := 0x10FFFF
  match op with
  | .intersection => r.intersect top t
  | .difference => r.intersect top (t.complement top)
  | .symmetric => (r ++ t).intersect top ((r.intersect top t).complement top)

/-- The members of a class that have been read since its last operator. -/
structure Members where
  set : Ranges
  count : Nat
  /-- How deep classes nest in the members. -/
  inner : Nat

def Members.empty : Members := ⟨[], 0, 0⟩

def Members.insert (u : Members) (r : Ranges) (depth : Nat) : Members :=
  ⟨u.set ++ r, u.count + 1, max u.inner depth⟩

/-- How deep classes nest in the members; several members are one level more. -/
def Members.depth (u : Members) : Nat := if 2 ≤ u.count then u.inner + 1 else u.inner

/-- An operator that waits for its right operand: its left one, and how deep that nests. -/
structure Pending where
  op : SetOp
  left : Ranges
  depth : Nat

/-- The set of a class up to where reading stands, and how deep it nests. -/
def join (s : Settings) (pending : Option Pending) (u : Members) : Ranges × Nat :=
  match pending with
  | none => (Class.fold s u.set, u.depth)
  | some p => (p.op.apply p.left (Class.fold s u.set), max p.depth u.depth + 1)

def defer (s : Settings) (pending : Option Pending) (u : Members) (op : SetOp) : Pending :=
  ⟨op, (join s pending u).1, (join s pending u).2⟩

/-- The dashes at the start of a class, which stand for themselves. -/
def takeDashes (s : Settings) (u : Members) (cs : List Char) : Members × List Char :=
  match _h : s.skip cs with
  | '-' :: rest => takeDashes s (u.insert [(45, 45)] 0) rest
  | cs => (u, cs)
termination_by cs.length
decreasing_by
  have := s.length_skip_le cs
  rw [_h] at this
  exact this

/-- What stands for itself at the start of a class: dashes, or else a closing bracket. -/
def takeClassStart (s : Settings) (cs : List Char) : Members × List Char :=
  match takeDashes s .empty cs with
  | (⟨[], 0, 0⟩, ']' :: rest) => (Members.empty.insert [(93, 93)] 0, rest)
  | r => r

/-- Reads a class after its opening bracket. The first argument bounds the number of steps. It
answers the set, how deep classes nest in it, and the text after it. -/
def readClass? (s : Settings) : Nat → List Char → Option (Ranges × Nat × List Char)
  | 0, _ => none
  | n + 1, cs => do
    let (negated, cs) := match s.skip cs with
      | '^' :: cs => (true, cs)
      | cs => (false, cs)
    let (u, cs) := takeClassStart s cs
    let (r, depth, cs) ← body n none u cs
    return (← Class.closed? s negated r, depth + 1, cs)
where
  body : Nat → Option Pending → Members → List Char → Option (Ranges × Nat × List Char)
    | 0, _, _, _ => none
    | n + 1, pending, u, cs =>
      match s.skip cs with
      | [] => none
      | '[' :: rest =>
        match readPosix? rest with
        | some (negated, r, rest) => do
          body n pending (u.insert (← Class.closed? s negated r) 0) rest
        | none => do
          let (r, depth, rest) ← readClass? s n rest
          body n pending (u.insert r depth) rest
      | ']' :: rest => some ((join s pending u).1, (join s pending u).2, rest)
      | '&' :: '&' :: rest => body n (some (defer s pending u .intersection)) .empty rest
      | '-' :: '-' :: rest => body n (some (defer s pending u .difference)) .empty rest
      | '~' :: '~' :: rest => body n (some (defer s pending u .symmetric)) .empty rest
      | cs => do
        let (r, rest) ← readClassItem? s cs
        body n pending (u.insert r 0) rest

/-! ### Loops, groups and sequences -/

/-- A part of a sequence: its pattern, whether a loop may follow it, and how deep it nests. -/
structure Part where
  pattern : Pattern
  loopable : Bool
  depth : Nat

/-- Where reading stands. -/
structure Cursor where
  rest : List Char
  settings : Settings
  groups : Nat
  names : List (String × Nat)

/-- The pattern of one character. -/
def charPattern (s : Settings) (c : Char) : Pattern :=
  ofSet (Class.fold s [(c.toNat, c.toNat)])

def Atom.pattern? (s : Settings) : Atom → Option Pattern
  | .char c isByte => if s.ascii && isByte && 0x80 ≤ c.toNat then none else some (charPattern s c)
  | .set r => (Class.checked s (Class.fold s r)).map ofSet
  | .look l => some (.look l)

/-- The pattern of a point: any character but the end of a line. -/
def dot? (s : Settings) : Option Pattern :=
  if s.ascii then none
  else if s.dotAll then some (.set Property.any)
  else if s.crlf then some (.set (.ofText "0-9 b-c e-10ffff"))
  else some (.set (.ofText "0-9 b-10ffff"))

/-- The pattern of a character outside classes. -/
def readAtom? (s : Settings) : List Char → Option (Pattern × List Char)
  | '\\' :: cs => do
    let (a, cs) ← readEscape? s cs
    return (← a.pattern? s, cs)
  | '.' :: cs => (dot? s).map fun p => (p, cs)
  | '^' :: cs => some (.look (if s.multiLine then .lineStart s.crlf else .textStart), cs)
  | '$' :: cs => some (.look (if s.multiLine then .lineEnd s.crlf else .textEnd), cs)
  | c :: cs => some (charPattern s c, cs)
  | [] => none

/-- The digits at the front of a text. -/
def takeDigits (s : Settings) : List Char → List Char × List Char
  | [] => ([], [])
  | c :: cs =>
    if c.isDigit then
      let (ds, rest) := takeDigits s (s.skip cs)
      (c :: ds, rest)
    else ([], c :: cs)
termination_by cs => cs.length
decreasing_by exact Nat.lt_succ_of_le (s.length_skip_le cs)

/-- Reads a count within braces. -/
def readCount? (s : Settings) (cs : List Char) : Option (Nat × List Char) := do
  let (digits, rest) := takeDigits s ((s.skip cs).dropWhile isBlank)
  let n ← readDigits? 10 digits
  if n < 2 ^ 32 then some (n, s.skip (rest.dropWhile isBlank)) else none

/-- The bounds of a loop after its opening brace. -/
def readBounds? (s : Settings) (cs : List Char) : Option (Nat × Option Nat × List Char) := do
  let (low, cs) ← readCount? s cs
  match cs with
  | '}' :: rest => return (low, some low, s.skip rest)
  | ',' :: rest =>
    match s.skip rest with
    | '}' :: rest => return (low, none, s.skip rest)
    | rest =>
      let (high, rest) ← readCount? s rest
      match rest with
      | '}' :: rest => if low ≤ high then return (low, some high, s.skip rest) else none
      | _ => none
  | _ => none

/-- Makes a loop of the last part. -/
def loopLast? (s : Settings) (min : Nat) (max : Option Nat) (parts : List Part)
    (cs : List Char) : Option (List Part × List Char) :=
  match parts with
  | [] => none
  | p :: ps =>
    if !p.loopable then none else
      let (lazy, cs) := match cs with
        | '?' :: cs => (true, cs)
        | cs => (false, cs)
      some (⟨p.pattern.repeated min max (lazy == s.swapGreed), true, p.depth + 1⟩ :: ps, cs)

/-- Reads letters that change the settings, up to a colon or closing parenthesis. -/
def readSettings? (seen : List Char) (negated : Bool) (s : Settings) :
    List Char → Option (Settings × List Char)
  | [] => none
  | c :: cs =>
    if c = ':' ∨ c = ')' then
      if seen.head? = some '-' then none else some (s, c :: cs)
    else if seen.contains c then none
    else if c = '-' then readSettings? (c :: seen) true s cs
    else
      let on := !negated
      match c with
      | 'i' => readSettings? (c :: seen) negated { s with ignoreCase := on } cs
      | 'm' => readSettings? (c :: seen) negated { s with multiLine := on } cs
      | 's' => readSettings? (c :: seen) negated { s with dotAll := on } cs
      | 'U' => readSettings? (c :: seen) negated { s with swapGreed := on } cs
      | 'u' => readSettings? (c :: seen) negated { s with ascii := !on } cs
      | 'R' => readSettings? (c :: seen) negated { s with crlf := on } cs
      | 'x' => readSettings? (c :: seen) negated { s with spaced := on } cs
      | _ => none

def isNamePart (first : Bool) (c : Char) : Bool :=
  let n := c.toNat
  c == '_' || Property.alphabetic.contains n || Newer.alphabetic.contains n
    || (!first && (c == '.' || c == '[' || c == ']' || (Category.starting 'n').contains n
      || Newer.number.contains n))

/-- Reads the name of a group up to its closing angle bracket. -/
def readName? (names : List (String × Nat)) (cs : List Char) : Option (String × List Char) :=
  let name := cs.takeWhile (· != '>')
  match name, cs.dropWhile (· != '>') with
  | c :: more, _ :: rest =>
    let text := String.ofList name
    if isNamePart true c && more.all (isNamePart false) && (names.lookup text).isNone then
      some (text, rest)
    else none
  | _, _ => none

/-- What an opening parenthesis begins. -/
inductive Opening where
  | group (index : Nat)
  | plain
  /-- No group at all, but a change of settings. -/
  | settings

/-- Reads the start of a group after its parenthesis. -/
def readOpening? (c : Cursor) : Option (Opening × Cursor) :=
  let numbered (name : Option String) (rest : List Char) : Opening × Cursor :=
    (.group (c.groups + 1),
      { c with
        rest
        groups := c.groups + 1
        names := (name.map fun n => (n, c.groups + 1)).toList ++ c.names })
  let named (rest : List Char) : Option (Opening × Cursor) :=
    (readName? c.names rest).map fun r => numbered (some r.1) r.2
  match c.settings.skip c.rest with
  | '?' :: '=' :: _ => none
  | '?' :: '!' :: _ => none
  | '?' :: '<' :: '=' :: _ => none
  | '?' :: '<' :: '!' :: _ => none
  | '?' :: 'P' :: '<' :: rest => named rest
  | '?' :: '<' :: rest => named rest
  | '?' :: rest => do
    let (s, after) ← readSettings? [] false c.settings rest
    match after with
    | ')' :: after =>
      if rest.head? = some ')' then none
      else some (.settings, { c with rest := after, settings := s })
    | _ :: after => some (.plain, { c with rest := after, settings := s })
    | [] => none
  | rest => some (numbered none rest)

/-- The parts of a sequence, the last one first, as one part. -/
def sequencePart : List Part → Part
  | [] => ⟨.empty, false, 0⟩
  | [p] => p
  | ps =>
    ⟨.sequence (ps.reverse.map (·.pattern)), true, (ps.map (·.depth)).foldl max 0 + 1⟩

/-- Alternatives, the last one first, as one part. -/
def choicePart : List Part → Part
  | [p] => p
  | ps => ⟨.choice (ps.reverse.map (·.pattern)), true, (ps.map (·.depth)).foldl max 0 + 1⟩

/-- Reads alternatives up to the end of their group. `earlier` are the alternatives before,
`parts` the parts of the current one; both have the last one first. The first argument bounds
the number of steps. -/
def readBody? : Nat → List Part → List Part → Cursor → Option (Part × Cursor)
  | 0, _, _, _ => none
  | n + 1, earlier, parts, c =>
    let s := c.settings
    let looped (min : Nat) (max : Option Nat) (rest : List Char) : Option (Part × Cursor) := do
      let (parts, rest) ← loopLast? s min max parts rest
      readBody? n earlier parts { c with rest }
    match s.skip c.rest with
    | [] => some (choicePart (sequencePart parts :: earlier), { c with rest := [] })
    | ')' :: rest =>
      some (choicePart (sequencePart parts :: earlier), { c with rest := ')' :: rest })
    | '|' :: rest => readBody? n (sequencePart parts :: earlier) [] { c with rest }
    | '*' :: rest => looped 0 none rest
    | '+' :: rest => looped 1 none rest
    | '?' :: rest => looped 0 (some 1) rest
    | '{' :: rest => do
      if parts.isEmpty then none
      let (low, high, rest) ← readBounds? s rest
      looped low high rest
    | '[' :: rest => do
      let (r, depth, rest) ← readClass? s (rest.length + 1) rest
      readBody? n earlier (⟨ofSet r, true, depth⟩ :: parts) { c with rest }
    | '(' :: rest => do
      let (opening, inner) ← readOpening? { c with rest }
      match opening with
      | .settings => readBody? n earlier (⟨.empty, false, 0⟩ :: parts) inner
      | opening =>
        let (body, inner) ← readBody? n [] [] inner
        match inner.rest with
        | ')' :: rest =>
          let pattern := match opening with
            | .group i => .group i body.pattern
            | _ => body.pattern
          readBody? n earlier (⟨pattern, true, body.depth + 1⟩ :: parts)
            { inner with rest, settings := s }
        | _ => none
    | rest => do
      let (p, rest) ← readAtom? s rest
      readBody? n earlier (⟨p, true, 0⟩ :: parts) { c with rest }

/-- The deepest nesting that is accepted. -/
def maxDepth : Nat := 250

/-- The regular expression that a text writes, unless it is refused. -/
def parse? (text : String) : Option Regex := do
  let cs := text.toList
  let (part, c) ← readBody? (cs.length + 1) [] [] ⟨cs, .initial, 0, []⟩
  if c.rest.isEmpty && part.depth ≤ maxDepth && part.pattern.fits then
    some ⟨part.pattern, c.groups, c.names⟩
  else none

end RuleCatalog.Pattern
