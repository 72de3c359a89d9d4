import RuleCatalog.Text.Quoted

/-! # Tokens of a query

The lexical elements of a PromQL query, what they look like in a message, and the reasons why
a text is no query. -/
namespace RuleCatalog.Query

/-- The operator symbols. -/
inductive Symbol where
  | equal | notEqual | matches | notMatches | greaterEqual | lessEqual
  | assign | greater | less | plus | minus | times | divide | modulo | power
  deriving DecidableEq, Repr

def Symbol.text : Symbol → String
  | .equal => "==" | .notEqual => "!=" | .matches => "=~" | .notMatches => "!~"
  | .greaterEqual => ">=" | .lessEqual => "<=" | .assign => "=" | .greater => ">"
  | .less => "<" | .plus => "+" | .minus => "-" | .times => "*" | .divide => "/"
  | .modulo => "%" | .power => "^"

/-- A lexical element; a string holds its value and not its spelling. -/
inductive Token where
  | ident (name : String)
  | number (text : String)
  | duration (text : String)
  | string (value : String)
  | leftParen | rightParen | leftBrace | rightBrace | leftBracket | rightBracket
  | comma | colon | «at»
  | symbol (s : Symbol)
  deriving DecidableEq, Repr

/-- A token as a message shows it. -/
def Token.shown : Token → String
  | .ident n => s!"Ident({Text.quote n})"
  | .number t => s!"Number({Text.quote t})"
  | .duration t => s!"Duration({Text.quote t})"
  | .string v => s!"Str({Text.quote v})"
  | .leftParen => "LParen"
  | .rightParen => "RParen"
  | .leftBrace => "LBrace"
  | .rightBrace => "RBrace"
  | .leftBracket => "LBracket"
  | .rightBracket => "RBracket"
  | .comma => "Comma"
  | .colon => "Colon"
  | .at => "At"
  | .symbol s => s!"Op({Text.quote s.text})"

/-- Why a text is no query. -/
inductive ParseError where
  | unterminatedRawString
  | unterminatedEscape
  | unterminatedString
  | unexpectedCharacter (c : Char)
  | invalidDuration (text : String)
  | invalidEscape (kind : Char) (digits : String)
  | emptyExpression
  | tooManyTokens (count : Nat)
  | nestedTooDeep
  | trailingToken (found : Token)
  | unexpectedEnd
  | expectedToken (expected found : Token)
  | expectedDuration (found : Token)
  | expectedLabelListEnd (found : Token)
  | expectedLabelName (found : Token)
  | rangeOnNonSelector
  | modifierOnNonSelector
  | invalidTime (found : Token)
  | emptySelector
  | unexpectedToken (found : Token)
  | expectedArgumentEnd (func : String) (found : Token)
  | expectedMatchOperator (found : Token)
  | expectedMatchValue (found : Token)
  | expectedSelectorEnd (found : Token)
  deriving DecidableEq, Repr

/-- The most tokens that an expression may have. -/
def maxTokens : Nat := 4096

/-- The most expressions that may contain one another. -/
def maxNesting : Nat := 256

def ParseError.detail : ParseError → String
  | .unterminatedRawString => "unterminated raw string"
  | .unterminatedEscape => "unterminated escape sequence"
  | .unterminatedString => "unterminated string literal"
  | .unexpectedCharacter c => s!"unexpected character {Text.quoteChar c}"
  | .invalidDuration t => s!"invalid duration {Text.quote t}"
  | .invalidEscape k ds => "invalid escape \\" ++ k.toString ++ ds
  | .emptyExpression => "empty expression"
  | .tooManyTokens n => s!"expression has {n} tokens, more than the {maxTokens} allowed"
  | .nestedTooDeep => s!"expression nested deeper than {maxNesting} levels"
  | .trailingToken t => s!"unexpected trailing token {t.shown}"
  | .unexpectedEnd => "unexpected end of expression"
  | .expectedToken e t => s!"expected {e.shown}, found {t.shown}"
  | .expectedDuration t => s!"expected duration, found {t.shown}"
  | .expectedLabelListEnd t => s!"expected ',' or ')' in label list, found {t.shown}"
  | .expectedLabelName t => s!"expected label name, found {t.shown}"
  | .rangeOnNonSelector => "range selection is only allowed on instant vector selectors"
  | .modifierOnNonSelector =>
    "offset and @ modifiers are only allowed on selectors and subqueries"
  | .invalidTime t => s!"invalid @ modifier {t.shown}"
  | .emptySelector => "vector selector must contain a matcher"
  | .unexpectedToken t => s!"unexpected token {t.shown}"
  | .expectedArgumentEnd f t => s!"expected ',' or ')' in call to {f}, found {t.shown}"
  | .expectedMatchOperator t => s!"expected label matching operator, found {t.shown}"
  | .expectedMatchValue t => s!"expected label value string, found {t.shown}"
  | .expectedSelectorEnd t => s!"expected ',' or '\x7d' in selector, found {t.shown}"

def ParseError.message (e : ParseError) : String := "PromQL parse error: " ++ e.detail

end RuleCatalog.Query
