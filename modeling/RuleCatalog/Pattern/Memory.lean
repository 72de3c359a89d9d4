import RuleCatalog.Pattern.Syntax
import RuleCatalog.Text.ByteRows
import RuleCatalog.Text.Utf8

/-! # The memory of patterns

A pattern is refused if an automaton over the bytes of texts that searches for it would grow
too large: the one that reads forwards, or the one that reads backwards. This module says how
large they are without building them. The automaton of a loop holds the one of its body as
often as the loop may have to go round, and the automaton of a set shares the ends of its rows
of bytes, as far as a table of fixed size remembers them. -/
namespace RuleCatalog.Pattern
open Text

/-- What an automaton holds: its states, and the bytes for links beside the one or none that
every state has room for. -/
structure Memory where
  states : Nat
  links : Nat
  deriving DecidableEq, Repr

namespace Memory

/-- The bytes of a state. -/
def stateBytes : Nat := 32

/-- The bytes of a link from a fork to one of its ways. -/
def wayBytes : Nat := 4

/-- The bytes of a link for a range of bytes. -/
def rangeBytes : Nat := 8

/-- The bytes that an automaton may take. -/
def limit : Nat := 10 * 2 ^ 20

def zero : Memory := ⟨0, 0⟩

/-- Single states, each with one link at most. -/
def single (n : Nat) : Memory := ⟨n, 0⟩

/-- A fork with some ways on. -/
def fork (ways : Nat) : Memory := ⟨1, wayBytes * ways⟩

/-- A state with links for some ranges of bytes. -/
def ranges (n : Nat) : Memory := ⟨1, rangeBytes * n⟩

def add (m n : Memory) : Memory := ⟨m.states + n.states, m.links + n.links⟩

instance : Add Memory := ⟨add⟩

def bytes (m : Memory) : Nat := stateBytes * m.states + m.links

/-- Adds to what an automaton holds, unless it grows too large. -/
def grow? (m n : Memory) : Option Memory := if (m + n).bytes ≤ limit then some (m + n) else none

end Memory

/-! ### Alternatives of texts -/

/-- Texts that are divided at the empty ones among them. -/
structure Division where
  /-- The parts before the last one, the latest first. -/
  closed : List (List (List UInt8))
  /-- The texts of the last part, the latest first. -/
  current : List (List UInt8)
  /-- Whether any text is not empty. -/
  nonempty : Bool

/-- Takes one more text. Empty texts in front of all others divide once. -/
def Division.push (d : Division) (t : List UInt8) : Division :=
  if !t.isEmpty then ⟨d.closed, t :: d.current, true⟩
  else if !d.nonempty && !d.closed.isEmpty then d
  else ⟨d.current.reverse :: d.closed, [], d.nonempty⟩

/-- The parts into which empty texts divide texts. -/
def divided (texts : List (List UInt8)) : List (List (List UInt8)) :=
  let d := texts.foldl Division.push ⟨[], [], false⟩
  (d.current.reverse :: d.closed).reverse

/-- The first bytes of texts, each once, with the rests of the texts. -/
def heads (texts : List (List UInt8)) : List (UInt8 × List (List UInt8)) :=
  let firsts := (texts.filterMap (·.head?)).eraseDups
  firsts.map fun b => (b, (texts.filter (·.head? = some b)).map (·.drop 1))

/-- What a tree of texts holds that share their fronts. The first argument bounds the lengths
of the texts. -/
def treeMemory : Nat → List (List UInt8) → Memory
  | 0, _ => .zero
  | n + 1, texts =>
    let parts := divided texts
    let full := parts.filter (!·.isEmpty)
    let held (part : List (List UInt8)) : Memory :=
      let next := heads part
      let below := (next.filter fun h => !h.2.all (·.isEmpty)).map fun h => treeMemory n h.2
      below.foldl (· + ·) (if next.length = 1 then .single 1 else .ranges next.length)
    (full.map held).foldl (· + ·) (.fork (full.length + (parts.length - 1)))

/-- What alternatives hold that are texts: a tree and the state behind it. -/
def textsMemory (texts : List (List UInt8)) : Memory :=
  treeMemory ((texts.map (·.length)).foldl max 0 + 1) texts + .single 1

/-! ### Sets -/

/-- A table that remembers the number of a state by what it is made of. A slot holds one entry,
and a later one takes the place of an earlier one. -/
abbrev Known := Array (Option (List Nat × Nat))

/-- The slot for a key in a table of some size. -/
def slot (size : Nat) (key : List Nat) : Nat :=
  let mix (h : UInt64) (n : Nat) : UInt64 := (h ^^^ n.toUInt64) * 1099511628211
  (key.foldl mix 14695981039346656037).toNat % size

/-- How far the states of a set have been laid out. -/
structure Sharing where
  /-- The number of the next state. -/
  next : Nat
  /-- The bytes for links of ranges. -/
  links : Nat
  known : Known

/-- The state for a key: the one that is remembered, or else a new one with some links. -/
def Sharing.intern (s : Sharing) (key : List Nat) (links : Nat) : Nat × Sharing :=
  let i := slot s.known.size key
  match (s.known.getD i none).filter (·.1 = key) with
  | some e => (e.2, s)
  | none =>
    (s.next, ⟨s.next + 1, s.links + links, s.known.setIfInBounds i (some (key, s.next))⟩)

/-- What a set holds that is read backwards, with its states numbered from `first` on: a fork to
the last bytes of its rows, from which states lead to the byte before. Rows share the states of
the bytes that they begin with. -/
def backwardMemory (first : Nat) (rows : List ByteRow) : Memory :=
  let place (s : Sharing) (row : ByteRow) : Sharing :=
    (row.foldl (fun c b => c.2.intern [c.1, b.1, b.2] 0) (first + 1, s)).2
  let s := rows.foldl place ⟨first + 2, 0, Array.replicate 1000 none⟩
  ⟨s.next - first, Memory.wayBytes * rows.length⟩

/-- Rows put together that stand side by side and begin with the same range, without it. -/
def rowGroups : List ByteRow → List ((Nat × Nat) × List ByteRow)
  | [] => []
  | [] :: rows => rowGroups rows
  | (b :: row) :: rows =>
    match rowGroups rows with
    | (c, rest) :: groups =>
      if b = c then (c, row :: rest) :: groups else (b, [row]) :: (c, rest) :: groups
    | [] => [(b, [row])]

/-- Lays out the states that read rows forwards and then go to `leave`, the last bytes first. The
first argument is the length of the longest row. -/
def forwardState (leave : Nat) : Nat → List ByteRow → Sharing → Nat × Sharing
  | 0, _, s => (leave, s)
  | n + 1, rows, s =>
    let (key, s) := (rowGroups rows).foldl (fun (c : List Nat × Sharing) g =>
      if g.2.all (·.isEmpty) then (leave :: g.1.2 :: g.1.1 :: c.1, c.2)
      else
        let (next, s) := forwardState leave n g.2 c.2
        (next :: g.1.2 :: g.1.1 :: c.1, s)) ([], s)
    s.intern key.reverse (Memory.rangeBytes * (key.length / 3))

/-- What a set holds that is read forwards, with its states numbered from `first` on. -/
def forwardMemory (first : Nat) (rows : List ByteRow) : Memory :=
  let s := (forwardState first 4 rows ⟨first + 1, 0, Array.replicate 10000 none⟩).2
  ⟨s.next - first, s.links⟩

/-! ### Patterns -/

/-- A pattern as what matters for its memory. -/
inductive Outline where
  /-- What holds the same wherever it stands, read forwards and backwards. -/
  | fixed (forward backward : Memory)
  | rows (rows : List ByteRow)
  | cat (p q : Outline)
  | alt (p q : Outline)
  /-- A loop; `sure` if every turn takes a character. -/
  | loop (p : Outline) (min : Nat) (max : Option Nat) (sure : Bool)
  | group (p : Outline)

/-- The bytes of a text that is an alternative. -/
def asBytes? : Pattern → Option (List UInt8)
  | text cs => some (Utf8.bytes (.ofList cs))
  | _ => none

/-- The texts of alternatives that are all texts. -/
def asTexts? : Pattern → Option (List (List UInt8))
  | alt p q => do
    let t ← asBytes? p
    let ts ← (asTexts? q).or ((asBytes? q).map fun t => [t])
    return t :: ts
  | _ => none

/-- The outline of a pattern; `rest` if it is what is left of alternatives. -/
def outline (rest : Bool) : Pattern → Outline
  | empty => .fixed (.single 1) (.single 1)
  | text cs =>
    let n := (Utf8.bytes (.ofList cs)).length
    .fixed (.single n) (.single n)
  | set r =>
    if r.all (·.2 < 0x80) then
      .fixed (.single 1 + .ranges r.length) (.single 1 + .ranges r.length)
    else .rows (ByteRow.ofRanges r)
  | look _ => .fixed (.single 1) (.single 1)
  | cat p q => .cat (outline false p) (outline false q)
  | alt p q =>
    match if rest then none else asTexts? (alt p q) with
    | some ts => .fixed (textsMemory ts) (textsMemory (ts.map List.reverse))
    | none => .alt (outline false p) (outline true q)
  | loop p min max _ => .loop (outline false p) min max (!p.isNullable && !p.hasEmptySet)
  | group _ p => .group (outline false p)

/-- Where an outline stands among alternatives. -/
inductive Branch where
  | alone | second | later

/-- What an alternative adds beside its own states: the second one the fork of both and the
state behind them, a later one its way. -/
def Branch.memory : Branch → Memory
  | .alone => .zero
  | .second => .fork 2 + .single 1
  | .later => ⟨0, Memory.wayBytes⟩

/-- The place of the alternatives after the next one. -/
def Branch.next : Branch → Branch
  | .alone => .second
  | _ => .later

namespace Outline

/-- Adds a number of times. -/
def times (add : Memory → Option Memory) : Nat → Memory → Option Memory
  | 0, m => some m
  | n + 1, m => (add m).bind (times add n)

/-- Adds what an outline holds to an automaton, unless it grows too large. -/
def addTo (backward : Bool) : Outline → Branch → Memory → Option Memory
  | fixed f b, place, m => (m.grow? (if backward then b else f)).bind (·.grow? place.memory)
  | rows rs, place, m =>
    (m.grow? (if backward then backwardMemory m.states rs else forwardMemory m.states rs)).bind
      (·.grow? place.memory)
  | cat p q, place, m =>
    let both := if backward then (addTo backward q .alone m).bind (addTo backward p .alone)
      else (addTo backward p .alone m).bind (addTo backward q .alone)
    both.bind (·.grow? place.memory)
  | alt p q, place, m => do
    let m ← addTo backward p .alone m
    addTo backward q place.next (← m.grow? place.memory)
  | group p, place, m => do
    let edge := Memory.single (if backward then 0 else 1)
    (← (← addTo backward p .alone (← m.grow? edge)).grow? edge).grow? place.memory
  | loop p min max sure, place, m => do
    let body := addTo backward p .alone
    let m ← match min, max with
      | 0, some 1 => (← body (← m.grow? (.fork 2))).grow? (.single 1)
      | 0, none =>
        if sure then body (← m.grow? (.fork 2))
        else (← body m).grow? (.fork 2 + .fork 2 + .single 1)
      | min, none => (← times body min m).grow? (.fork 2)
      | min, some max => do
        let m ← if min = 0 then m.grow? (.single 1) else times body min m
        if min = max then pure m
        else times (fun m => (m.grow? (.fork 2)).bind body) (max - min) (← m.grow? (.single 1))
    m.grow? place.memory

end Outline

/-- What an automaton begins with: a single state, or a loop that skips any bytes if matches
may begin anywhere. -/
def skipMemory (anchored : Bool) : Memory :=
  if anchored then .single 1 else .fork 2 + .single 1 + .ranges 1

/-- Whether the automata of a pattern do not grow too large. -/
def fits (p : Pattern) : Bool :=
  let o := outline false p
  let backward := o.addTo true .alone (skipMemory p.endsAtEnd)
  let forward := o.group.addTo false .alone (skipMemory p.startsAtStart)
  (backward.bind (·.grow? (.single 1))).isSome && (forward.bind (·.grow? (.single 1))).isSome

end RuleCatalog.Pattern
