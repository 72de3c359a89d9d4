import RuleCatalog.Json.Text

/-! # JSON values

Values as a JSON text holds them, and the compact texts of lists and records. Members of an
object keep their order, and a name may occur more than once.
Main statement: `read?_recordText`, that a compact record of texts is read back. -/
namespace RuleCatalog.Json
open Text

/-- A text is missing where its surrogates do not pair up. -/
inductive Value where
  | null
  | bool (b : Bool)
  | number (text : List Char)
  | string (text : Option String)
  | array (items : List Value)
  | object (members : List (Option String × Value))
  deriving Repr

instance : Inhabited Value := ⟨.null⟩

def isBlank (c : Char) : Bool := c == ' ' || c == '\n' || c == '\t' || c == '\r'

def skipBlanks (cs : List Char) : List Char := cs.dropWhile isBlank

/-! ## Numbers -/

/-- The digits at the front of a text, at least one, and the text after them. -/
def takeDigits? (cs : List Char) : Option (List Char × List Char) :=
  match cs.span Char.isDigit with
  | ([], _) => none
  | p => some p

/-- Whole digits, without a zero in front of others. -/
def takeWhole? (cs : List Char) : Option (List Char × List Char) := do
  let (ds, cs) ← takeDigits? cs
  if 1 < ds.length && ds.head? == some '0' then none else some (ds, cs)

/-- Digits after a point, if there is one. -/
def takeFraction? : List Char → Option (List Char × List Char)
  | '.' :: cs => (takeDigits? cs).map fun p => ('.' :: p.1, p.2)
  | cs => some ([], cs)

/-- A power of ten, if there is one. -/
def takeExponent? : List Char → Option (List Char × List Char)
  | c :: cs =>
    if c == 'e' || c == 'E' then
      match cs with
      | '+' :: ds => (takeDigits? ds).map fun p => (c :: '+' :: p.1, p.2)
      | '-' :: ds => (takeDigits? ds).map fun p => (c :: '-' :: p.1, p.2)
      | ds => (takeDigits? ds).map fun p => (c :: p.1, p.2)
    else some ([], c :: cs)
  | [] => some ([], [])

def takeUnsigned? (cs : List Char) : Option (List Char × List Char) := do
  let (whole, cs) ← takeWhole? cs
  let (fraction, cs) ← takeFraction? cs
  let (exponent, cs) ← takeExponent? cs
  some (whole ++ fraction ++ exponent, cs)

def takeNumber? : List Char → Option (List Char × List Char)
  | '-' :: cs => (takeUnsigned? cs).map fun p => ('-' :: p.1, p.2)
  | cs => takeUnsigned? cs

/-! ## Values

The first argument of each reader bounds how often it and the others are called. -/

mutual

/-- A value at the front of a text, and the text after it. -/
def takeValue? : Nat → List Char → Option (Value × List Char)
  | 0, _ => none
  | n + 1, cs =>
    match skipBlanks cs with
    | 'n' :: 'u' :: 'l' :: 'l' :: cs => some (.null, cs)
    | 't' :: 'r' :: 'u' :: 'e' :: cs => some (.bool true, cs)
    | 'f' :: 'a' :: 'l' :: 's' :: 'e' :: cs => some (.bool false, cs)
    | '"' :: cs => (takeText? cs).map fun p => (.string p.1, p.2)
    | '[' :: cs =>
      match skipBlanks cs with
      | ']' :: cs => some (.array [], cs)
      | _ => (takeItems? n cs).map fun p => (.array p.1, p.2)
    | '\x7b' :: cs =>
      match skipBlanks cs with
      | '\x7d' :: cs => some (.object [], cs)
      | _ => (takeMembers? n cs).map fun p => (.object p.1, p.2)
    | cs => (takeNumber? cs).map fun p => (.number p.1, p.2)

/-- One value or more up to the end of an array. -/
def takeItems? : Nat → List Char → Option (List Value × List Char)
  | 0, _ => none
  | n + 1, cs =>
    (takeValue? n cs).bind fun p =>
      match skipBlanks p.2 with
      | ',' :: cs => (takeItems? n cs).map fun q => (p.1 :: q.1, q.2)
      | ']' :: cs => some ([p.1], cs)
      | _ => none

/-- One member or more up to the end of an object. -/
def takeMembers? : Nat → List Char → Option (List (Option String × Value) × List Char)
  | 0, _ => none
  | n + 1, cs =>
    match skipBlanks cs with
    | '"' :: cs =>
      (takeText? cs).bind fun name =>
        match skipBlanks name.2 with
        | ':' :: cs =>
          (takeValue? n cs).bind fun p =>
            match skipBlanks p.2 with
            | ',' :: cs => (takeMembers? n cs).map fun q => ((name.1, p.1) :: q.1, q.2)
            | '\x7d' :: cs => some ([(name.1, p.1)], cs)
            | _ => none
        | _ => none
    | _ => none

end

/-- The value that a text holds, with nothing but blanks around it. -/
def Value.read? (text : String) : Option Value :=
  let cs := text.toList
  (takeValue? (2 * cs.length + 1) cs).bind fun p =>
    if (skipBlanks p.2).isEmpty then some p.1 else none

/-! ## Compact texts -/

/-- Texts with commas between them. -/
def join : List (List Char) → List Char
  | [] => []
  | [t] => t
  | t :: ts => t ++ ',' :: join ts

def listText (items : List (List Char)) : List Char := '[' :: join items ++ [']']

/-- A record with the texts of its values. -/
def recordText (members : List (String × List Char)) : List Char :=
  '\x7b' :: join (members.map fun m => quoted m.1 ++ ':' :: m.2) ++ ['\x7d']

/-! ## Reading compact records of texts -/

theorem skipBlanks_of_isBlank {c : Char} (h : isBlank c = false) (cs : List Char) :
    skipBlanks (c :: cs) = c :: cs := by simp [skipBlanks, h]

theorem takeText?_tail_quoted (s : String) (rest : List Char) :
    takeText? ((quoted s).tail ++ rest) = some (some s, rest) := takeText?_quoted s rest

theorem quoted_eq (s : String) : quoted s = '"' :: (quoted s).tail := rfl

theorem takeValue?_quoted (n : Nat) (s : String) (rest : List Char) :
    takeValue? (n + 1) (quoted s ++ rest) = some (.string (some s), rest) := by
  rw [quoted_eq, List.cons_append, takeValue?, skipBlanks_of_isBlank (by decide)]
  simp [takeText?_tail_quoted]

theorem takeMembers?_join {ms : List (String × String)} (hne : ms ≠ []) {n : Nat}
    (hn : ms.length < n) (rest : List Char) :
    takeMembers? n (join (ms.map fun m => quoted m.1 ++ ':' :: quoted m.2) ++ '\x7d' :: rest)
      = some (ms.map fun m => (some m.1, .string (some m.2)), rest) := by
  induction ms generalizing n with
  | nil => exact absurd rfl hne
  | cons m ms ih =>
    obtain ⟨n, rfl⟩ : ∃ k, n = k + 2 := ⟨n - 2, by simp at hn; omega⟩
    have key : ∀ tail, takeMembers? (n + 2) (quoted m.1 ++ ':' :: quoted m.2 ++ tail)
        = match skipBlanks tail with
          | ',' :: cs => (takeMembers? (n + 1) cs).map fun q =>
              ((some m.1, Value.string (some m.2)) :: q.1, q.2)
          | '\x7d' :: cs => some ([(some m.1, .string (some m.2))], cs)
          | _ => none := fun tail => by
      rw [quoted_eq m.1]
      simp only [List.cons_append, List.append_assoc, takeMembers?]
      rw [skipBlanks_of_isBlank (by decide)]
      simp only [takeText?_tail_quoted, Option.bind_some]
      rw [skipBlanks_of_isBlank (by decide)]
      simp only [takeValue?_quoted, Option.bind_some]
    cases ms with
    | nil =>
      simpa [join] using (key ('\x7d' :: rest)).trans
        (by rw [skipBlanks_of_isBlank (by decide)]; rfl)
    | cons m' ms =>
      simp only [List.map_cons, join] at ih ⊢
      rw [List.append_assoc, List.cons_append, key, skipBlanks_of_isBlank (by decide)]
      simp only
      rw [ih (by simp) (by simp at hn ⊢; omega)]
      simp

theorem length_le_join (ts : List (List Char)) (h : ∀ t ∈ ts, t ≠ []) :
    ts.length ≤ (join ts).length := by
  induction ts with
  | nil => simp
  | cons t ts ih =>
    have ht := List.length_pos_iff.2 (h t (by simp))
    have := ih fun u hu => h u (List.mem_cons_of_mem _ hu)
    cases ts with
    | nil => simp only [join]; exact ht
    | cons u us => simp [join] at this ⊢; omega

/-- Reading undoes the writing of a record of texts. -/
theorem read?_recordText (ms : List (String × String)) :
    Value.read? (.ofList (recordText (ms.map fun m => (m.1, quoted m.2))))
      = some (.object (ms.map fun m => (some m.1, .string (some m.2)))) := by
  have hlen := length_le_join (ms.map fun m => quoted m.1 ++ ':' :: quoted m.2)
    (by simp only [List.mem_map]; rintro _ ⟨m, -, rfl⟩; simp [quoted])
  simp only [Value.read?, recordText, String.toList_ofList, List.map_map, Function.comp_def]
  rw [takeValue?, List.cons_append, skipBlanks_of_isBlank (by decide)]
  cases ms with
  | nil => rfl
  | cons m ms =>
    have hm := @takeMembers?_join (m :: ms) (by simp)
      (2 * ('\x7b' :: (join ((m :: ms).map fun m => quoted m.1 ++ ':' :: quoted m.2)
        ++ ['\x7d'])).length) (by simp at hlen ⊢; omega) []
    obtain ⟨tail, ht⟩ : ∃ tail, join ((m :: ms).map fun m => quoted m.1 ++ ':' :: quoted m.2)
        = '"' :: tail := by
      cases ms <;> exact ⟨_, rfl⟩
    simp only [ht, List.cons_append] at hm ⊢
    rw [skipBlanks_of_isBlank (by decide)]
    simp only [hm]
    rfl

end RuleCatalog.Json
