import RuleCatalog.Text.Ascii
import RuleCatalog.Yaml.Cursor

/-! # YAML scalars

The texts of scalars in their five styles: plain, in single or double quotes, and as literal or
folded blocks. In the first three a single line break stands for a space, and further ones for
line breaks. -/
namespace RuleCatalog.Yaml

/-- What separates two words of a scalar. -/
structure Gap where
  blanks : List Char
  breaks : Nat
  deriving DecidableEq, Repr

namespace Gap

def empty : Gap := ⟨[], 0⟩

/-- The text that a gap stands for. -/
def text (g : Gap) : List Char :=
  match g.breaks with
  | 0 => g.blanks
  | 1 => [' ']
  | n + 2 => List.replicate (n + 1) '\n'

def addBlank (c : Char) (g : Gap) : Gap := { g with blanks := c :: g.blanks }

def addBreak (g : Gap) : Gap := { g with breaks := g.breaks + 1 }

/-- The gap at the front of a text, and the text after it. After a line break no tab may stand
left of the column `limit`. -/
def take? (limit : Nat) : (broken : Bool) → (column : Nat) → List Char →
    Option (Gap × List Char)
  | _, _, '\r' :: '\n' :: cs => (take? limit true 0 cs).map fun p => (p.1.addBreak, p.2)
  | broken, column, c :: cs =>
    if c == '\n' then (take? limit true 0 cs).map fun p => (p.1.addBreak, p.2)
    else if c == '\r' then
      (take? limit true (column + 1) cs).map fun p => (p.1.addBreak, p.2)
    else if !isBlank c then some (empty, c :: cs)
    else if broken && c == '\t' && column < limit then none
    else (take? limit broken (column + 1) cs).map fun p => (p.1.addBlank c, p.2)
  | _, _, [] => some (empty, [])

end Gap

/-! ## Plain scalars -/

/-- The characters of a plain scalar up to the next blank or line break, or up to what ends the
scalar: a colon at the end of a word, and in flow collections also their own characters. -/
def takePlain (inFlow : Bool) : List Char → List Char × List Char
  | [] => ([], [])
  | c :: cs =>
    if isBlank c || isBreak c then ([], c :: cs)
    else if c == ':' && (endsWord cs || (inFlow && (cs.head?.any isFlow))) then ([], c :: cs)
    else if inFlow && isFlow c then ([], c :: cs)
    else
      let (word, rest) := takePlain inFlow cs
      (c :: word, rest)

/-- A scalar's text, the place after it, and whether a line break is the last thing before that
place. -/
structure Scanned where
  text : List Char
  cursor : Cursor
  broken : Bool

/-- The rest of a plain scalar after some text and a gap. In block context it ends where a line
begins left of the column `limit`. The fuel bounds the number of words. -/
def plainFrom (inFlow : Bool) (limit : Nat) :
    Nat → List Char → Gap → Cursor → Option Scanned
  | 0, _, _, _ => none
  | fuel + 1, text, gap, c =>
    let broken := gap.breaks != 0
    match takePlain inFlow c.rest with
    | ([], _) => some ⟨text, c, broken⟩
    | (word, rest) =>
      if c.atMarker || word.head? == some '#' then some ⟨text, c, broken⟩ else
        let text := text ++ gap.text ++ word
        let c := c.skip word.length
        if !rest.head?.any (fun d => isBlank d || isBreak d) then some ⟨text, c, false⟩ else
          (Gap.take? limit false c.column rest).bind fun (gap, rest) =>
            let c := c.upTo rest
            if !inFlow && c.column < limit then some ⟨text, c, gap.breaks != 0⟩
            else plainFrom inFlow limit fuel text gap c

def plain? (inFlow : Bool) (limit : Nat) (c : Cursor) : Option Scanned :=
  plainFrom inFlow limit (c.rest.length + 1) [] .empty c

/-! ## Quoted scalars -/

/-- What a character after a backslash stands for by itself. -/
def escapes : List (Char × Char) :=
  [('0', '\x00'), ('a', '\x07'), ('b', '\x08'), ('t', '\t'), ('\t', '\t'), ('n', '\n'),
    ('v', '\x0b'), ('f', '\x0c'), ('r', '\r'), ('e', '\x1b'), (' ', ' '), ('"', '"'),
    ('\'', '\''), ('\\', '\\'), ('N', '\u0085'), ('_', '\u00a0'), ('L', '\u2028'),
    ('P', '\u2029')]

/-- How many hexadecimal digits follow a letter after a backslash. -/
def escapeLength? (c : Char) : Option Nat :=
  if c == 'x' then some 2 else if c == 'u' then some 4 else if c == 'U' then some 8 else none

/-- The character of a code point. -/
def charOf? (n : Nat) : Option Char := if n.isValidChar then some (.ofNat n) else none

/-- The character that an escape stands for, and the text after it. -/
def takeEscape? (c : Char) (cs : List Char) : Option (Char × List Char) :=
  match escapes.lookup c with
  | some d => some (d, cs)
  | none => (escapeLength? c).bind fun n =>
    let digits := cs.take n
    if digits.length = n && digits.all Text.isHexDigit then
      (charOf? (Text.ofDigits 16 digits)).map fun d => (d, cs.drop n)
    else none

theorem length_takeEscape?_le {c d : Char} {cs rest : List Char}
    (h : takeEscape? c cs = some (d, rest)) : rest.length ≤ cs.length := by
  unfold takeEscape? at h
  split at h
  · simp_all
  · simp only [Option.bind_eq_some_iff] at h
    obtain ⟨n, _, h⟩ := h
    split at h
    · simp only [Option.map_eq_some_iff, Prod.mk.injEq] at h
      obtain ⟨_, _, _, rfl⟩ := h
      simp
    · simp at h

/-- A word of a quoted scalar, up to a blank, a line break or the closing quote. -/
structure QuotedWord where
  text : List Char
  /-- Whether the word ended at a line break after a backslash, which joins the lines. -/
  joined : Bool
  rest : List Char

def QuotedWord.cons (c : Char) (w : QuotedWord) : QuotedWord := { w with text := c :: w.text }

/-- A word in single quotes, where two quotes stand for one. -/
def takeSingle : List Char → QuotedWord
  | '\'' :: '\'' :: cs => (takeSingle cs).cons '\''
  | c :: cs =>
    if isBlank c || isBreak c || c == '\'' then ⟨[], false, c :: cs⟩ else (takeSingle cs).cons c
  | [] => ⟨[], false, []⟩

/-- A word in double quotes; nothing where an escape is not known. -/
def takeDouble? : List Char → Option QuotedWord
  | '\\' :: '\r' :: '\n' :: cs => some ⟨[], true, cs⟩
  | '\\' :: c :: cs =>
    if isBreak c then some ⟨[], true, cs⟩
    else match _h : takeEscape? c cs with
      | some (d, rest) => (takeDouble? rest).map (·.cons d)
      | none => none
  | c :: cs =>
    if c == '\\' then none
    else if isBlank c || isBreak c || c == '"' then some ⟨[], false, c :: cs⟩
    else (takeDouble? cs).map (·.cons c)
  | [] => some ⟨[], false, []⟩
termination_by cs => cs.length
decreasing_by
  · have := length_takeEscape?_le _h
    simp; omega
  · simp

/-- The rest of a quoted scalar after some text. The fuel bounds the number of words. -/
def quotedFrom (quote : Char) : Nat → List Char → Cursor → Option Scanned
  | 0, _, _ => none
  | fuel + 1, text, c =>
    if c.atMarker || c.rest.isEmpty then none else
      (if quote == '"' then takeDouble? c.rest else some (takeSingle c.rest)).bind fun word =>
        let text := text ++ word.text
        let c := c.upTo word.rest
        if word.rest.head? == some quote then some ⟨text, c.next, false⟩ else
          (Gap.take? 0 false c.column word.rest).bind fun (gap, rest) =>
            let between := if word.joined then List.replicate gap.breaks '\n' else gap.text
            quotedFrom quote fuel (text ++ between) (c.upTo rest)

/-- A quoted scalar; the cursor is at its first quote. -/
def quoted? (quote : Char) (c : Cursor) : Option Scanned :=
  quotedFrom quote (c.rest.length + 1) [] c.next

/-! ## Block scalars -/

/-- What becomes of the line breaks at the end of a block scalar. -/
inductive Chomping where
  | strip | clip | keep
  deriving DecidableEq, Repr

/-- What stands after the first character of a block scalar: its chomping, and the indentation
of its lines if it is given. -/
def takeHeader? : List Char → Option (Chomping × Nat × List Char)
  | c :: cs =>
    match chomping? c with
    | some k =>
      match cs with
      | d :: ds => if !d.isDigit then some (k, 0, cs) else (indentation? d).map fun n => (k, n, ds)
      | [] => some (k, 0, [])
    | none =>
      if !c.isDigit then some (.clip, 0, c :: cs)
      else (indentation? c).map fun n =>
        match cs with
        | d :: ds => match chomping? d with
          | some k => (k, n, ds)
          | none => (.clip, n, cs)
        | [] => (.clip, n, [])
  | [] => some (.clip, 0, [])
where
  chomping? (c : Char) : Option Chomping :=
    if c == '+' then some .keep else if c == '-' then some .strip else none
  indentation? (c : Char) : Option Nat := if c == '0' then none else some (Text.digitValue c)

/-- What lies before the first character of a line of a block scalar. -/
structure Margin where
  breaks : Nat
  /-- The largest column that was reached. -/
  widest : Nat
  rest : List Char

/-- Skips empty lines and indentation up to a column, or any indentation if `indent` is zero. A
tab may not stand in its place. -/
def takeMargin? (indent : Nat) : (column widest breaks : Nat) → List Char → Option Margin
  | _, widest, breaks, '\r' :: '\n' :: cs => takeMargin? indent 0 widest (breaks + 1) cs
  | column, widest, breaks, c :: cs =>
    let within := indent = 0 || column < indent
    if c == '\n' then takeMargin? indent 0 widest (breaks + 1) cs
    else if c == '\r' then takeMargin? indent (column + 1) (max widest (column + 1)) (breaks + 1) cs
    else if c == ' ' && within then
      takeMargin? indent (column + 1) (max widest (column + 1)) breaks cs
    else if c == '\t' && within then none
    else some ⟨breaks, widest, c :: cs⟩
  | _, widest, breaks, [] => some ⟨breaks, widest, []⟩

/-- The rest of a block scalar. `broken` says that a line break is due before the next line,
`breaks` how many empty lines lie before it, and `spaced` whether the line before it began with
a blank. The fuel bounds the number of lines. -/
def blockFrom (folded : Bool) (chomping : Chomping) (indent : Nat) :
    Nat → (text : List Char) → (broken spaced : Bool) → (breaks : Nat) → Cursor → Option Scanned
  | 0, _, _, _, _, _ => none
  | fuel + 1, text, broken, spaced, breaks, c =>
    match c.rest with
    | [] => finish text broken breaks c
    | d :: _ =>
      if c.column ≠ indent then finish text broken breaks c else
        let between :=
          if folded && broken && !spaced && !isBlank d then
            if breaks = 0 then [' '] else List.replicate breaks '\n'
          else (if broken then ['\n'] else []) ++ List.replicate breaks '\n'
        let text := text ++ between ++ c.rest.takeWhile (!isBreak ·)
        let c := c.toLineEnd
        if c.rest.isEmpty then some ⟨text, c, false⟩ else
          let c := c.skipBreak
          (takeMargin? indent c.column 0 0 c.rest).bind fun m =>
            blockFrom folded chomping indent fuel text true (isBlank d) m.breaks (c.upTo m.rest)
where
  finish (text : List Char) (broken : Bool) (breaks : Nat) (c : Cursor) : Option Scanned :=
    let last := if broken && chomping != .strip then ['\n'] else []
    let kept := if chomping == .keep then List.replicate breaks '\n' else []
    some ⟨text ++ last ++ kept, c, false⟩

/-- A block scalar; the cursor is at its first character, and `limit` is the least column of its
lines. -/
def block? (folded : Bool) (limit : Nat) (c : Cursor) : Option Scanned :=
  (takeHeader? c.next.rest).bind fun (chomping, given, rest) =>
    let c := (c.upTo rest).skipWhile isBlank
    let c := if c.rest.head? == some '#' then c.toLineEnd else c
    if !c.rest.head?.all isBreak then none else
      let c := c.skipBreak
      let fixed := if given = 0 then 0 else if limit = 0 then given else limit - 1 + given
      (takeMargin? fixed c.column c.column 0 c.rest).bind fun m =>
        let indent := if fixed = 0 then max (max m.widest limit) 1 else fixed
        blockFrom folded chomping indent (c.rest.length + 1) [] false false m.breaks
          (c.upTo m.rest)

end RuleCatalog.Yaml
