import RuleCatalog.Yaml.Node

/-! # Reading YAML nodes

What a node holds when a text, a number, a list or a record is expected. Any scalar reads as
the text that it is written with. A record is a mapping with its fields, or a sequence with them
in order. Aliases let a short text hold much, so that only so many of them are followed.
Main statement: a record from a sequence has no more fields than names. -/
namespace RuleCatalog.Yaml

/-- Reading with a number of aliases that may still be followed. -/
abbrev Reading := StateT Nat Option

/-- Fields by name. -/
abbrev Record := List (String × Node)

/-- The value of a field, or a default one where the field is not there. -/
def Record.field {α : Type} (r : Record) (name : String) (default : α)
    (read : Node → Reading α) : Reading α :=
  match r.lookup name with
  | some n => read n
  | none => return default

namespace Document

/-- How often aliases may be followed for each part that a document is made of. -/
def repetition : Nat := 100

/-- What a document holds, unless its aliases repeat too much. -/
def decode? {α : Type} (d : Document) (read : Node → Reading α) : Option α :=
  (read d.root).run' (repetition * d.root.size)

/-- The node that a node stands for. -/
def resolve (d : Document) (n : Node) : Reading Node := do
  match n with
  | .alias k =>
    let left ← get
    if left = 0 then failure
    set (left - 1)
    d.anchored.lookup k
  | n => return n

def string (d : Document) (n : Node) : Reading String := do
  match ← d.resolve n with
  | .scalar s _ => return s.text
  | _ => failure

def list {α : Type} (d : Document) (read : Node → Reading α) (n : Node) : Reading (List α) := do
  match ← d.resolve n with
  | .sequence items => items.mapM read
  | _ => failure

/-- Whether a text is how nothing is written. -/
def isNullText (s : String) : Bool := s == "~" || s == "null"

/-- Reads a node, or nothing where the node says that nothing is there. A tag that says so of
other text is refused. -/
def optional {α : Type} (d : Document) (read : Node → Reading α) (n : Node) :
    Reading (Option α) := do
  let n ← d.resolve n
  match n with
  | .scalar s none => if s.isPlain && isNullText s.text then return none
  | .scalar s (some t) =>
    if t = ⟨"!!", "null"⟩ && s.isPlain then
      if isNullText s.text then return none else failure
  | _ => pure ()
  return some (← read n)

/-- A node of no content, in the place of a value without fields. -/
def unit (d : Document) (n : Node) : Reading Unit := do
  match ← d.resolve n with
  | .scalar s none => guard (s.isPlain && isNullText s.text)
  | .scalar s (some t) => guard (t == ⟨"!!", "null"⟩ && isNullText s.text)
  | _ => failure

/-- The number that decimal digits write, of which the first is no needless zero. -/
def decimal? (cs : List Char) : Option Nat :=
  if 1 < cs.length && cs.head? == some '0' then none else Text.readDigits? 10 cs

/-- The whole number that plain text writes: in decimal digits with an optional sign, or in base
sixteen, eight or two after `0x`, `0o` or `0b`. -/
def wholeText? (cs : List Char) : Option Nat :=
  match cs with
  | '0' :: 'x' :: ds => Text.readSigned? 16 ds
  | '0' :: 'o' :: ds => Text.readSigned? 8 ds
  | '0' :: 'b' :: ds => Text.readSigned? 2 ds
  | '-' :: '0' :: 'x' :: ds => zero? 16 ds
  | '-' :: '0' :: 'o' :: ds => zero? 8 ds
  | '-' :: '0' :: 'b' :: ds => zero? 2 ds
  | '+' :: ds => decimal? ds
  | '-' :: ds => (decimal? ds).filter (· == 0)
  | ds => decimal? ds
where
  zero? (base : Nat) (ds : List Char) : Option Nat := (Text.readDigits? base ds).filter (· == 0)

/-- The whole number of a text that a tag declares to be one. -/
def declaredText? (cs : List Char) : Option Nat :=
  match cs with
  | '-' :: ds => (Text.readDigits? 10 ds).filter (· == 0)
  | ds => (Text.readSigned? 10 ds).filter (· < 2 ^ 63)

/-- A whole number below a bound. -/
def nat (d : Document) (bound : Nat) (n : Node) : Reading Nat := do
  let number ← match ← d.resolve n with
    | .scalar s none => if s.isPlain then wholeText? s.text.toList else none
    | .scalar s (some t) => if t = ⟨"!!", "int"⟩ then declaredText? s.text.toList else none
    | _ => none
  if number < bound then return number else failure

/-- The fields of a record by name. Fields of other names do not count, and none of the names
may come twice. -/
def record (d : Document) (names : List String) (n : Node) : Reading Record := do
  match ← d.resolve n with
  | .mapping pairs =>
    let fields ← pairs.mapM fun p => (·, p.2) <$> d.string p.1
    let known := fields.filter fun f => names.contains f.1
    if (known.map (·.1)).Nodup then return known else failure
  | .sequence items =>
    if items.length ≤ names.length then return names.zip items else failure
  | _ => failure

theorem length_record_le {d : Document} {names : List String} {items : List Node}
    {fields : Record} {left rest : Nat}
    (h : d.record names (.sequence items) left = some (fields, rest)) :
    fields.length ≤ names.length := by
  simp only [record, resolve, pure_bind] at h
  split at h
  · cases h
    simp only [List.length_zip]
    omega
  · cases h

end Document

end RuleCatalog.Yaml
