import RuleCatalog.Text.Property.Case
import RuleCatalog.Text.Property.Emoji
import RuleCatalog.Text.Property.Identifier
import RuleCatalog.Text.Property.Letter
import RuleCatalog.Text.Property.Mark
import RuleCatalog.Text.Property.Punctuation

/-! # Properties by name

The properties that a character has or has not, by their long and short names. -/
namespace RuleCatalog.Text.Property

/-- The short names of properties with the long ones. -/
def shortNames : List (String × String) :=
  [("ahex", "asciihexdigit"), ("alpha", "alphabetic"), ("bidic", "bidicontrol"),
   ("bidim", "bidimirrored"), ("ci", "caseignorable"), ("cwcf", "changeswhencasefolded"),
   ("cwcm", "changeswhencasemapped"), ("cwl", "changeswhenlowercased"),
   ("cwt", "changeswhentitlecased"), ("cwu", "changeswhenuppercased"),
   ("di", "defaultignorablecodepoint"), ("dep", "deprecated"), ("dia", "diacritic"),
   ("ecomp", "emojicomponent"), ("emod", "emojimodifier"), ("ebase", "emojimodifierbase"),
   ("epres", "emojipresentation"), ("extpict", "extendedpictographic"), ("ext", "extender"),
   ("grbase", "graphemebase"), ("grext", "graphemeextend"), ("grlink", "graphemelink"),
   ("hex", "hexdigit"), ("idsb", "idsbinaryoperator"), ("idst", "idstrinaryoperator"),
   ("idsu", "idsunaryoperator"), ("idc", "idcontinue"), ("ids", "idstart"),
   ("ideo", "ideographic"), ("joinc", "joincontrol"), ("loe", "logicalorderexception"),
   ("lower", "lowercase"), ("mcm", "modifiercombiningmark"),
   ("nchar", "noncharactercodepoint"), ("oalpha", "otheralphabetic"),
   ("odi", "otherdefaultignorablecodepoint"), ("ogrext", "othergraphemeextend"),
   ("oidc", "otheridcontinue"), ("oids", "otheridstart"), ("olower", "otherlowercase"),
   ("omath", "othermath"), ("oupper", "otheruppercase"), ("patsyn", "patternsyntax"),
   ("patws", "patternwhitespace"), ("pcm", "prependedconcatenationmark"),
   ("qmark", "quotationmark"), ("ri", "regionalindicator"), ("sterm", "sentenceterminal"),
   ("sd", "softdotted"), ("term", "terminalpunctuation"), ("uideo", "unifiedideograph"),
   ("upper", "uppercase"), ("vs", "variationselector"), ("space", "whitespace"),
   ("wspace", "whitespace"), ("xidc", "xidcontinue"), ("xids", "xidstart")]

/-- The characters that have a property, by one of its names in plain form: lower case, without
spaces, dashes and underscores. -/
def binary? (name : String) : Option Ranges :=
  let long := (shortNames.lookup name).getD name
  (letter? long).or <| (case? long).or <| (identifier? long).or <| (mark? long).or <|
    (punctuation? long).or (emoji? long)

end RuleCatalog.Text.Property
