import RuleCatalog.Yaml.Scalar
import RuleCatalog.Yaml.Token

/-! # Scanning YAML tokens

Text is cut into tokens from left to right. Two things are decided late or by position: a node
turns out to be a key when a colon follows it on its line, so that a place is kept for the
tokens of a key before it; and block collections begin and end with the columns of their lines.
Main statement: `insertAt` adds tokens and keeps those that are there. -/
namespace RuleCatalog.Yaml

/-- A node that a colon may yet turn into a key. -/
structure PendingKey where
  /-- Whether it has to be a key. -/
  required : Bool
  /-- How many tokens lie before it. -/
  position : Nat
  start : Cursor

/-- The furthest that a key may lie before its colon. -/
def PendingKey.reach : Nat := 1024

/-- Whether a key is out of reach for a colon at a place. -/
def PendingKey.isStale (k : PendingKey) (c : Cursor) : Bool :=
  k.start.line < c.line || k.start.index + reach < c.index

structure Scanner where
  cursor : Cursor
  /-- The tokens so far, the last one first. -/
  tokens : List Token
  count : Nat
  /-- Whether a key may begin here. -/
  keyAllowed : Bool
  pending : Option PendingKey
  /-- The pending keys around the open flow collections, innermost first. -/
  outer : List (Option PendingKey)
  /-- The columns of the open block collections, innermost first. -/
  columns : List Nat
  /-- The end of a quoted scalar, which a colon may follow directly. -/
  quotedEnd : Option Nat

namespace Scanner

def start (cs : List Char) : Scanner := ⟨.start cs, [], 0, true, none, [], [], none⟩

def inFlow (s : Scanner) : Bool := !s.outer.isEmpty

/-- The least column of what belongs to the innermost block collection. -/
def limit (s : Scanner) : Nat :=
  match s.columns with
  | [] => 0
  | n :: _ => n + 1

def emit (t : Token) (s : Scanner) : Scanner :=
  { s with tokens := t :: s.tokens, count := s.count + 1 }

/-- Puts tokens before the one at a position. -/
def insertAt (position : Nat) (ts : List Token) (s : Scanner) : Scanner :=
  let later := s.count - position
  { s with
    tokens := s.tokens.take later ++ ts.reverse ++ s.tokens.drop later
    count := s.count + ts.length }

def skip (n : Nat) (s : Scanner) : Scanner := { s with cursor := s.cursor.skip n }

def moveTo (c : Cursor) (s : Scanner) : Scanner := { s with cursor := c }

def allowKey (allowed : Bool) (s : Scanner) : Scanner := { s with keyAllowed := allowed }

/-! ## Pending keys -/

/-- Gives up the pending key, which may not be a required one. -/
def dropKey? (s : Scanner) : Option Scanner :=
  if s.pending.any (·.required) then none else some { s with pending := none }

/-- Keeps a place for a key here, where one is allowed. In a flow collection, what stands right
below the innermost block collection has to be a key. -/
def saveKey? (s : Scanner) : Option Scanner :=
  if s.keyAllowed then
    s.dropKey?.map fun s =>
      { s with
        pending := some ⟨s.inFlow && s.columns.head? == some s.cursor.column, s.count, s.cursor⟩ }
  else some s

/-- Gives up the keys that are out of reach, which may not be required ones. -/
def dropStaleKeys? (s : Scanner) : Option Scanner := do
  let keep (k : Option PendingKey) : Option (Option PendingKey) :=
    match k with
    | some k =>
      if !k.isStale s.cursor then some (some k) else if k.required then none else some none
    | none => some none
  return { s with pending := ← keep s.pending, outer := ← s.outer.mapM keep }

/-! ## Block collections -/

/-- Opens a block collection where a line is indented further than the innermost one. -/
def indent (column : Nat) (t : Token) (s : Scanner) : Scanner :=
  if s.inFlow || column < s.limit then s else { s.emit t with columns := column :: s.columns }

/-- The open columns without those to the right of a limit, and the scanner that has closed
their collections. -/
def closeTo (limit : Nat) (s : Scanner) : List Nat → Scanner
  | [] => { s with columns := [] }
  | n :: ns =>
    if limit ≤ n then closeTo limit (s.emit .blockEnd) ns else { s with columns := n :: ns }

/-- Closes the block collections at columns from `limit` on. -/
def dedent (limit : Nat) (s : Scanner) : Scanner :=
  if s.inFlow then s else s.closeTo limit s.columns

/-! ## Between tokens -/

/-- Skips blanks, line breaks and comments. Where a key is allowed in block context, a tab is not
skipped. The fuel bounds the number of characters. -/
def skipGap : Nat → Scanner → Scanner
  | 0, s => s
  | fuel + 1, s =>
    match s.cursor.rest with
    | [] => s
    | c :: _ =>
      if c == ' ' || (c == '\t' && (s.inFlow || !s.keyAllowed)) then skipGap fuel (s.skip 1)
      else if isBreak c then
        skipGap fuel { s with
          cursor := s.cursor.skipBreak
          keyAllowed := s.keyAllowed || !s.inFlow }
      else if c == '#' then skipGap fuel (s.moveTo s.cursor.toLineEnd)
      else s

/-! ## Names, tags and directives -/

/-- An anchor or alias: its name, after which only some characters may follow. -/
def takeName? (c : Cursor) : Option (String × Cursor) :=
  let name := c.next.rest.takeWhile isNameChar
  let c := c.next.skip name.length
  let follows := endsWord c.rest
    || c.rest.head?.any (['?', ':', ',', ']', '\x7d', '%', '@', '\x60'].contains ·)
  if name.isEmpty || !follows then none else some (.ofList name, c)

/-- Whether a character may stand in the suffix of a tag as it is. -/
def isTagChar (c : Char) : Bool := isNameChar c || ";/?:@&=+$,.!~*'()[]".toList.contains c

/-- The byte of a percent sign and two hexadecimal digits. -/
def takeOctet? : List Char → Option (Nat × List Char)
  | '%' :: a :: b :: cs =>
    if Text.isHexDigit a && Text.isHexDigit b then some (Text.ofDigits 16 [a, b], cs) else none
  | _ => none

/-- How many bytes follow a first byte. -/
def octetsAfter? (n : Nat) : Option Nat :=
  if n < 0x80 then some 0
  else if 0xC0 ≤ n && n < 0xE0 then some 1
  else if 0xE0 ≤ n && n < 0xF0 then some 2
  else if 0xF0 ≤ n && n < 0xF8 then some 3
  else none

def takeOctets? (code : Nat) : Nat → List Char → Option (Nat × List Char)
  | 0, cs => some (code, cs)
  | n + 1, cs => (takeOctet? cs).bind fun (octet, cs) =>
    if 0x80 ≤ octet && octet < 0xC0 then takeOctets? (code * 256 + octet) n cs else none

/-- The characters of a tag's suffix. The fuel bounds their number. -/
def takeSuffix? : Nat → List Char → Option (List Char × List Char)
  | 0, _ => none
  | fuel + 1, cs =>
    match cs with
    | '%' :: _ => do
      let (octet, rest) ← takeOctet? cs
      let (code, rest) ← takeOctets? octet (← octetsAfter? octet) rest
      let c ← charOf? code
      (takeSuffix? fuel rest).map fun p => (c :: p.1, p.2)
    | c :: rest =>
      if isTagChar c then (takeSuffix? fuel rest).map fun p => (c :: p.1, p.2)
      else some ([], cs)
    | [] => some ([], [])

/-- A suffix of which at least one character is needed. -/
def suffix? (cs : List Char) : Option (List Char × List Char) :=
  (takeSuffix? (cs.length + 1) cs).filter fun p => !p.1.isEmpty

/-- A tag: verbatim between `!<` and `>`, or a handle and a suffix, where a single exclamation
mark is a handle of its own. -/
def takeTag? (c : Cursor) : Option (Tag × Cursor) := do
  let (tag, rest) ← match c.rest with
    | '!' :: '<' :: cs => do
      let (suffix, rest) ← suffix? cs
      if rest.head? == some '>' then pure (⟨"", .ofList suffix⟩, rest.drop 1) else none
    | _ =>
      let name := c.next.rest.takeWhile isNameChar
      match c.next.rest.drop name.length with
      | '!' :: cs => do
        let (suffix, rest) ← suffix? cs
        pure (⟨.ofList ('!' :: name ++ ['!']), .ofList suffix⟩, rest)
      | cs => do
        let (more, rest) ← takeSuffix? (cs.length + 1) cs
        match name ++ more with
        | [] => pure (⟨"", "!"⟩, rest)
        | suffix => pure (⟨"!", .ofList suffix⟩, rest)
  if endsWord rest then some (tag, c.upTo rest) else none

/-- The digits of one part of a version, of which there are one to nine. -/
def takeVersionPart? (cs : List Char) : Option (List Char) :=
  let digits := cs.takeWhile Char.isDigit
  if digits.isEmpty || 9 < digits.length then none else some (cs.drop digits.length)

/-- The text after a version such as `1.2`. -/
def takeVersion? (cs : List Char) : Option (List Char) := do
  match ← takeVersionPart? (cs.dropWhile isBlank) with
  | '.' :: rest => takeVersionPart? rest
  | _ => none

/-- The text after a tag handle and the text it stands for. -/
def takeHandle? (cs : List Char) : Option (List Char) := do
  match cs.dropWhile isBlank with
  | '!' :: rest =>
    let rest ← match rest.dropWhile isNameChar with
      | '!' :: r => some r
      | r => if r.length = rest.length then some r else none
    let (_, rest) ← suffix? (rest.dropWhile isBlank)
    if endsWord rest then some rest else none
  | _ => none

/-- The place after a directive, which takes a line; one of unknown name is skipped. -/
def skipDirective? (c : Cursor) : Option Cursor := do
  let name := c.next.rest.takeWhile isNameChar
  let rest := c.next.rest.drop name.length
  if name.isEmpty || !endsWord rest then none else
    let rest ← if name = "YAML".toList then takeVersion? rest
      else if name = "TAG".toList then takeHandle? rest
      else some (rest.dropWhile (!isBreak ·))
    let c := (c.upTo rest).skipWhile isBlank
    let c := if c.rest.head? == some '#' then c.toLineEnd else c
    if c.rest.head?.all isBreak then some c.skipBreak else none

/-! ## Tokens -/

def openFlow? (t : Token) (s : Scanner) : Option Scanner :=
  s.saveKey?.bind fun s =>
    if s.outer.length < 255 then
      some ({ s with outer := s.pending :: s.outer, pending := none, keyAllowed := true }.skip 1
        |>.emit t)
    else none

def closeFlow? (t : Token) (s : Scanner) : Option Scanner :=
  s.dropKey?.map fun s =>
    let s := match s.outer with
      | [] => s
      | k :: ks => { s with pending := k, outer := ks }
    ((s.allowKey false).skip 1).emit t

def flowEntry? (s : Scanner) : Option Scanner :=
  s.dropKey?.map fun s => ((s.allowKey true).skip 1).emit .flowEntry

def blockEntry? (s : Scanner) : Option Scanner :=
  if s.inFlow || !s.keyAllowed then none else
    (s.indent s.cursor.column .blockSequenceStart).dropKey?.map fun s =>
      ((s.allowKey true).skip 1).emit .blockEntry

def key? (s : Scanner) : Option Scanner :=
  if !s.inFlow && !s.keyAllowed then none else
    (s.indent s.cursor.column .blockMappingStart).dropKey?.map fun s =>
      ((s.allowKey !s.inFlow).skip 1).emit .key

/-- A colon makes a key of the pending node, or stands for itself after a key of its own. -/
def value? (s : Scanner) : Option Scanner :=
  match s.pending with
  | some k =>
    let opens := !s.inFlow && s.limit ≤ k.start.column
    let s := s.insertAt k.position (if opens then [.blockMappingStart, .key] else [.key])
    let columns := if opens then k.start.column :: s.columns else s.columns
    some ({ s with pending := none, keyAllowed := false, columns }.skip 1 |>.emit .value)
  | none =>
    if s.inFlow then some (((s.allowKey false).skip 1).emit .value)
    else if !s.keyAllowed then none
    else some ((((s.indent s.cursor.column .blockMappingStart).allowKey true).skip 1).emit .value)

def documentMark? (t : Token) (s : Scanner) : Option Scanner :=
  (s.dedent 0).dropKey?.map fun s => ((s.allowKey false).skip 3).emit t

def directive? (s : Scanner) : Option Scanner := do
  let s ← (s.dedent 0).dropKey?
  let c ← skipDirective? s.cursor
  return ((s.allowKey false).moveTo c).emit .directive

def name? (make : String → Token) (s : Scanner) : Option Scanner := do
  let s ← s.saveKey?
  let (name, c) ← takeName? s.cursor
  return ((s.allowKey false).moveTo c).emit (make name)

def tag? (s : Scanner) : Option Scanner := do
  let s ← s.saveKey?
  let (tag, c) ← takeTag? s.cursor
  return ((s.allowKey false).moveTo c).emit (.tag tag)

def scalar (isPlain : Bool) (t : Scanned) (s : Scanner) : Scanner :=
  (s.moveTo t.cursor).emit (.scalar ⟨.ofList t.text, isPlain⟩)

def plainScalar? (s : Scanner) : Option Scanner := do
  let s ← s.saveKey?
  let t ← plain? s.inFlow s.limit s.cursor
  return (s.allowKey t.broken).scalar true t

def quotedScalar? (quote : Char) (s : Scanner) : Option Scanner := do
  let s ← s.saveKey?
  let t ← quoted? quote s.cursor
  return { (s.allowKey false).scalar false t with quotedEnd := some t.cursor.index }

def blockScalar? (folded : Bool) (s : Scanner) : Option Scanner := do
  let s ← s.saveKey?
  let t ← block? folded s.limit s.cursor
  return (s.allowKey true).scalar false t

/-- Whether a colon before the given text is an indicator. -/
def isValueMark (s : Scanner) (rest : List Char) : Bool :=
  endsWord rest || (s.inFlow && (rest.head?.any isFlow || s.quotedEnd == some s.cursor.index))

/-- Reads the token that begins with a character. -/
def token? (c : Char) (cs : List Char) (s : Scanner) : Option Scanner :=
  if s.cursor.column = 0 && c == '%' then s.directive?
  else if s.cursor.atMarker then s.documentMark? (if c == '-' then .documentStart else .documentEnd)
  else if c == '[' then s.openFlow? .flowSequenceStart
  else if c == '\x7b' then s.openFlow? .flowMappingStart
  else if c == ']' then s.closeFlow? .flowSequenceEnd
  else if c == '\x7d' then s.closeFlow? .flowMappingEnd
  else if c == ',' then s.flowEntry?
  else if c == '-' && endsWord cs then s.blockEntry?
  else if c == '?' && endsWord cs then s.key?
  else if c == ':' && s.isValueMark cs then s.value?
  else if c == '*' then s.name? .alias
  else if c == '&' then s.name? .anchor
  else if c == '!' then s.tag?
  else if (c == '|' || c == '>') && !s.inFlow then s.blockScalar? (c == '>')
  else if c == '\'' || c == '"' then s.quotedScalar? c
  else if c == '%' || c == '@' || c == '\x60' then none
  else s.plainScalar?

/-- Reads the tokens up to the end of the text. Every token takes at least one character, and
the fuel bounds their number. -/
def run? : Nat → Scanner → Option (List Token)
  | 0, _ => none
  | fuel + 1, s => do
    let s ← (s.skipGap (s.cursor.rest.length + 1)).dropStaleKeys?
    let s := s.dedent (s.cursor.column + 1)
    match s.cursor.rest with
    | [] => ((s.dedent 0).dropKey?).map (·.tokens.reverse)
    | c :: cs => run? fuel (← s.token? c cs)

theorem count_insertAt (position : Nat) (ts : List Token) (s : Scanner)
    (h : s.tokens.length = s.count) :
    (s.insertAt position ts).tokens.length = (s.insertAt position ts).count := by
  simp only [insertAt, List.length_append, List.length_take, List.length_reverse,
    List.length_drop, h]
  omega

end Scanner

/-- The tokens of a text, which ends before its first null character. -/
def Token.scan? (text : String) : Option (List Token) :=
  let cs := text.toList.takeWhile (· != '\x00')
  Scanner.run? (cs.length + 1) (.start cs)

end RuleCatalog.Yaml
