import CaseSuite.Regex.Basic
import CaseSuite.Text.AgeTable
import CaseSuite.Text.CategoryTable
import CaseSuite.Text.PropertyTable
import CaseSuite.Text.ScriptTable
/-!
Named sets of characters: the classes that patterns name between colons, and the properties of
characters they may ask for.
-/
set_option autoImplicit false

namespace CaseSuite.CharSet

def word : CharSet := .union (.ranges asciiWord) (.ranges Text.wordRanges)
where
  asciiWord : List (Nat × Nat) := [(0x30, 0x39), (0x41, 0x5a), (0x5f, 0x5f), (0x61, 0x7a)]

def blank : CharSet := .ranges ([(0x9, 0xd), (0x20, 0x20)] ++ Text.blankRanges)

def digit : CharSet := .union (.ranges [(0x30, 0x39)]) (.ranges Text.digitRanges)

def ascii? (name : String) : Option CharSet :=
  match name with
  | "alnum" => some (.ranges [(0x30, 0x39), (0x41, 0x5a), (0x61, 0x7a)])
  | "alpha" => some (.ranges [(0x41, 0x5a), (0x61, 0x7a)])
  | "ascii" => some (.ranges [(0, 0x7f)])
  | "blank" => some (.ranges [(0x9, 0x9), (0x20, 0x20)])
  | "cntrl" => some (.ranges [(0, 0x1f), (0x7f, 0x7f)])
  | "digit" => some (.ranges [(0x30, 0x39)])
  | "graph" => some (.ranges [(0x21, 0x7e)])
  | "lower" => some (.ranges [(0x61, 0x7a)])
  | "print" => some (.ranges [(0x20, 0x7e)])
  | "punct" => some (.ranges [(0x21, 0x2f), (0x3a, 0x40), (0x5b, 0x60), (0x7b, 0x7e)])
  | "space" => some (.ranges [(0x9, 0xd), (0x20, 0x20)])
  | "upper" => some (.ranges [(0x41, 0x5a)])
  | "word" => some (.ranges [(0x30, 0x39), (0x41, 0x5a), (0x5f, 0x5f), (0x61, 0x7a)])
  | "xdigit" => some (.ranges [(0x30, 0x39), (0x41, 0x46), (0x61, 0x66)])
  | _ => Option.none

/-- The name of a property without what does not count in it: case, blanks, dashes, underscores and
a leading "is". -/
def propertyName (name : List Char) : String :=
  let plain (cs : List Char) : List Char :=
    (cs.filter fun c => c != ' ' && c != '_' && c != '-' && c.toNat < 0x80).map Char.toLower
  match name with
  | i :: s :: rest =>
    if i.toLower == 'i' && s.toLower == 's' then
      if plain rest == ['c'] then "isc" else String.ofList (plain rest)
    else String.ofList (plain name)
  | _ => String.ofList (plain name)

def ofTables (tables : List (List (Nat × Nat))) : CharSet := .ranges tables.flatten

/-- The set of a name in a table of sets with their names. -/
def find? (table : List (List String × CharSet)) (name : String) : Option CharSet :=
  (table.find? fun entry => entry.1.contains name).map Prod.snd

section Categories

open Text.Category

def assigned : CharSet := ofTables (categories.flatMap Prod.snd)

def category? (name : String) : Option CharSet :=
  match name with
  | "any" => some (.compl CharSet.none)
  | "ascii" => some (.ranges [(0, 0x7f)])
  | "assigned" => some assigned
  | "cn" | "unassigned" => some (.compl assigned)
  | "c" | "other" => some (.union (.compl assigned) (ofTables [control, format, privateUse]))
  | name => find? (categories.map fun c => (c.1, ofTables c.2)) name

end Categories

def script? (name : String) : Option CharSet :=
  find? (Text.Script.scripts.map fun s => (s.1, .ranges s.2)) name

/-- The characters that a script uses: its own ones that are not shared, and the shared ones. -/
def scriptExtension? (name : String) : Option CharSet :=
  (Text.Script.scripts.find? fun s => s.1.contains name).map fun s =>
    let sharedWith := Text.Script.shared.filter fun e => e.1.any s.1.contains
    .union (.diff (.ranges s.2) (ofTables (Text.Script.shared.map Prod.snd)))
      (ofTables (sharedWith.map Prod.snd))

/-- The characters of a version and of all versions before it. -/
def age? (name : String) : Option CharSet :=
  (Text.Age.ages.findIdx? fun a => a.1.contains name).map fun i =>
    ofTables ((Text.Age.ages.take (i + 1)).map Prod.snd)

/-! Properties, from the tables as the annexes of the database define them. -/

section Properties

open Text.Category Text.Property

def lowercase : CharSet := ofTables [lowercaseLetter, otherLowercase]

def uppercase : CharSet := ofTables [uppercaseLetter, otherUppercase]

def alphabetic : CharSet :=
  ofTables [uppercaseLetter, lowercaseLetter, titlecaseLetter, modifierLetter, otherLetter,
    letterNumber, otherAlphabetic]

def cased : CharSet := .union lowercase (.union uppercase (.ranges titlecaseLetter))

def caseIgnorable : CharSet :=
  ofTables [nonspacingMark, enclosingMark, format, modifierLetter, modifierSymbol, midLetter,
    midNumLet, [(0x27, 0x27)]]

def changesWhenLowercased : CharSet :=
  .diff (.union uppercase (.ranges titlecaseLetter)) (.ranges notLowercased)

def changesWhenUppercased : CharSet :=
  .diff (.union lowercase (.ranges titlecaseLetter)) (.ranges notUppercased)

/-- The uppercase letters here are those of two letters in one. -/
def changesWhenTitlecased : CharSet :=
  .union (.diff changesWhenUppercased (ofTables [titlecaseLetter, georgian]))
    (.ranges [(0x1c4, 0x1c4), (0x1c7, 0x1c7), (0x1ca, 0x1ca), (0x1f1, 0x1f1)])

/-- All but the uppercase letters of Cherokee, which fold to themselves. -/
def changesWhenCasefolded : CharSet :=
  .diff (.union changesWhenLowercased (.ranges foldedOtherwise)) (.ranges [(0x13a0, 0x13f5)])

def defaultIgnorable : CharSet :=
  .diff (ofTables [otherDefaultIgnorable, format, variationSelector])
    (ofTables [prependedConcatenationMark, [(0xfff9, 0xfffb), (0x13430, 0x1343f)]])

def graphemeExtend : CharSet := ofTables [nonspacingMark, enclosingMark, otherGraphemeExtend]

def graphemeBase : CharSet :=
  .diff assigned (.union graphemeExtend
    (ofTables [control, format, privateUse, lineSeparator, paragraphSeparator]))

def idStart : CharSet :=
  .diff (ofTables [uppercaseLetter, lowercaseLetter, titlecaseLetter, modifierLetter, otherLetter,
    letterNumber, otherIdStart]) (.ranges patternSyntax)

def idContinue : CharSet :=
  .union idStart (ofTables [nonspacingMark, spacingMark, decimalNumber, connectorPunctuation,
    otherIdContinue])

def properties : List (List String × CharSet) :=
  [(["ahex", "asciihexdigit"], .ranges [(0x30, 0x39), (0x41, 0x46), (0x61, 0x66)]),
   (["alpha", "alphabetic"], alphabetic),
   (["bidic", "bidicontrol"], .ranges bidiControl),
   (["bidim", "bidimirrored"], .ranges bidiMirrored),
   (["ci", "caseignorable"], caseIgnorable),
   (["cased"], cased),
   (["cwcf", "changeswhencasefolded"], changesWhenCasefolded),
   (["cwcm", "changeswhencasemapped"], .union changesWhenLowercased changesWhenUppercased),
   (["cwl", "changeswhenlowercased"], changesWhenLowercased),
   (["cwt", "changeswhentitlecased"], changesWhenTitlecased),
   (["cwu", "changeswhenuppercased"], changesWhenUppercased),
   (["dash"], .ranges dash),
   (["di", "defaultignorablecodepoint"], defaultIgnorable),
   (["dep", "deprecated"], .ranges deprecated),
   (["dia", "diacritic"], .ranges diacritic),
   (["emoji"], .ranges emoji),
   (["ecomp", "emojicomponent"], .ranges emojiComponent),
   (["emod", "emojimodifier"], .ranges emojiModifier),
   (["ebase", "emojimodifierbase"], .ranges emojiModifierBase),
   (["epres", "emojipresentation"], .ranges emojiPresentation),
   (["extpict", "extendedpictographic"], .ranges extendedPictographic),
   (["ext", "extender"], .ranges extender),
   (["grbase", "graphemebase"], graphemeBase),
   (["grext", "graphemeextend"], graphemeExtend),
   (["grlink", "graphemelink"], .ranges graphemeLink),
   (["hex", "hexdigit"], .ranges hexDigit),
   (["hyphen"], .ranges hyphen),
   (["idsb", "idsbinaryoperator"], .ranges idsBinaryOperator),
   (["idst", "idstrinaryoperator"], .ranges idsTrinaryOperator),
   (["idc", "idcontinue"], idContinue),
   (["ids", "idstart"], idStart),
   (["ideo", "ideographic"], .ranges ideographic),
   (["joinc", "joincontrol"], .ranges joinControl),
   (["loe", "logicalorderexception"], .ranges logicalOrderException),
   (["lower", "lowercase"], lowercase),
   (["math"], ofTables [mathSymbol, otherMath]),
   (["nchar", "noncharactercodepoint"], .ranges noncharacter),
   (["oalpha", "otheralphabetic"], .ranges otherAlphabetic),
   (["odi", "otherdefaultignorablecodepoint"], .ranges otherDefaultIgnorable),
   (["ogrext", "othergraphemeextend"], .ranges otherGraphemeExtend),
   (["oidc", "otheridcontinue"], .ranges otherIdContinue),
   (["oids", "otheridstart"], .ranges otherIdStart),
   (["olower", "otherlowercase"], .ranges otherLowercase),
   (["omath", "othermath"], .ranges otherMath),
   (["oupper", "otheruppercase"], .ranges otherUppercase),
   (["patsyn", "patternsyntax"], .ranges patternSyntax),
   (["patws", "patternwhitespace"], .ranges patternWhiteSpace),
   (["pcm", "prependedconcatenationmark"], .ranges prependedConcatenationMark),
   (["qmark", "quotationmark"], .ranges quotationMark),
   (["radical"], .ranges radical),
   (["ri", "regionalindicator"], .ranges regionalIndicator),
   (["sterm", "sentenceterminal"], .ranges sentenceTerminal),
   (["sd", "softdotted"], .ranges softDotted),
   (["term", "terminalpunctuation"], .ranges terminalPunctuation),
   (["uideo", "unifiedideograph"], .ranges unifiedIdeograph),
   (["upper", "uppercase"], uppercase),
   (["vs", "variationselector"], .ranges variationSelector),
   (["wspace", "whitespace", "space"], blank),
   (["xidc", "xidcontinue"], .diff idContinue (.ranges notXidContinue)),
   (["xids", "xidstart"], .diff idStart (.ranges notXidStart))]

def property? (name : String) : Option CharSet := find? properties name

end Properties

/-! Where texts break into characters, words and sentences. -/

section Breaks

open Text.Category Text.Property

def graphemeBreakExtend : CharSet := .union graphemeExtend (.ranges emojiModifier)

def graphemeBreakControl : CharSet :=
  .union (.inter (.compl assigned) defaultIgnorable)
    (.diff (ofTables [lineSeparator, paragraphSeparator, control, format])
      (ofTables [[(0xa, 0xa), (0xd, 0xd)], joinControl, prependedConcatenationMark, tag]))

/-- How many Hangul syllables begin with the same two letters, the one without a third among
them. -/
def syllableRun : Nat := 28

def syllableRuns : Nat := 399

def graphemeBreaks : List (List String × CharSet) :=
  [(["cr"], .ranges [(0xd, 0xd)]),
   (["lf"], .ranges [(0xa, 0xa)]),
   (["cn", "control"], graphemeBreakControl),
   (["ex", "extend"], graphemeBreakExtend),
   (["zwj"], .ranges [(0x200d, 0x200d)]),
   (["ri", "regionalindicator"], .ranges regionalIndicator),
   (["pp", "prepend"], ofTables [prependedConcatenationMark, prependLetter]),
   (["sm", "spacingmark"],
     .union (.ranges [(0xe33, 0xe33), (0xeb3, 0xeb3)])
       (.diff (.ranges spacingMark) (.union graphemeBreakExtend (.ranges notSpacing)))),
   (["l"], .ranges [(0x1100, 0x115f), (0xa960, 0xa97c)]),
   (["v"], .ranges [(0x1160, 0x11a7), (0xd7b0, 0xd7c6)]),
   (["t"], .ranges [(0x11a8, 0x11ff), (0xd7cb, 0xd7fb)]),
   (["lv"], .ranges ((List.range syllableRuns).map fun i =>
     (0xac00 + syllableRun * i, 0xac00 + syllableRun * i))),
   (["lvt"], .ranges ((List.range syllableRuns).map fun i =>
     (0xac00 + syllableRun * i + 1, 0xac00 + syllableRun * (i + 1) - 1)))]

def wordBreakExtend : CharSet :=
  .diff (.union graphemeBreakExtend (.ranges spacingMark)) (.ranges [(0x200d, 0x200d)])

def wordBreakLetter : CharSet :=
  .union (.ranges otherWordLetter)
    (.diff alphabetic (.union wordBreakExtend
      (ofTables [ideographic, katakana, hebrewLetter, complexContext, Text.Script.hiragana])))

def numeric : CharSet := ofTables [decimalNumber, [(0x66b, 0x66b)]]

def wordBreaks : List (List String × CharSet) :=
  [(["cr"], .ranges [(0xd, 0xd)]),
   (["lf"], .ranges [(0xa, 0xa)]),
   (["nl", "newline"], .ranges [(0xb, 0xc), (0x85, 0x85), (0x2028, 0x2029)]),
   (["extend"], wordBreakExtend),
   (["zwj"], .ranges [(0x200d, 0x200d)]),
   (["fo", "format"], .diff (.ranges format) (ofTables [[(0x200b, 0x200d)], tag])),
   (["ri", "regionalindicator"], .ranges regionalIndicator),
   (["ka", "katakana"], .ranges katakana),
   (["hl", "hebrewletter"], .ranges hebrewLetter),
   (["le", "aletter"], wordBreakLetter),
   (["sq", "singlequote"], .ranges [(0x27, 0x27)]),
   (["dq", "doublequote"], .ranges [(0x22, 0x22)]),
   (["mb", "midnumlet"], .ranges midNumLet),
   (["ml", "midletter"], .ranges midLetter),
   (["mn", "midnum"], .ranges midNum),
   (["nu", "numeric"], numeric),
   (["ex", "extendnumlet"], ofTables [connectorPunctuation, [(0x202f, 0x202f)]]),
   (["wsegspace"],
     .diff (.ranges spaceSeparator) (.ranges [(0xa0, 0xa0), (0x2007, 0x2007), (0x202f, 0x202f)]))]

def sentenceBreakExtend : CharSet :=
  .union graphemeExtend (ofTables [spacingMark, [(0x200d, 0x200d)]])

def sentenceBreakLower : CharSet := .diff lowercase (.union graphemeExtend (.ranges georgian))

def sentenceBreakUpper : CharSet :=
  .diff (.union uppercase (.ranges titlecaseLetter)) (.ranges [(0x1c90, 0x1cba), (0x1cbd, 0x1cbf)])

def sentenceBreakLetter : CharSet :=
  .union (.ranges [(0x5f3, 0x5f3)])
    (.diff alphabetic (.union sentenceBreakLower (.union sentenceBreakUpper sentenceBreakExtend)))

def sentenceBreaks : List (List String × CharSet) :=
  [(["cr"], .ranges [(0xd, 0xd)]),
   (["lf"], .ranges [(0xa, 0xa)]),
   (["ex", "extend"], sentenceBreakExtend),
   (["se", "sep"], .ranges [(0x85, 0x85), (0x2028, 0x2029)]),
   (["fo", "format"], .diff (.ranges format) (ofTables [[(0x200c, 0x200d)], tag])),
   (["sp"], .diff blank (.ranges [(0xa, 0xa), (0xd, 0xd), (0x85, 0x85), (0x2028, 0x2029)])),
   (["lo", "lower"], sentenceBreakLower),
   (["up", "upper"], sentenceBreakUpper),
   (["le", "oletter"], sentenceBreakLetter),
   (["nu", "numeric"], .union numeric (.ranges [(0x66c, 0x66c)])),
   (["at", "aterm"], .ranges aTerm),
   (["sc", "scontinue"], .ranges sContinue),
   (["st", "sterm"], .diff (.ranges sentenceTerminal) (.ranges aTerm)),
   (["cl", "close"],
     .diff (ofTables [openPunctuation, closePunctuation, initialPunctuation, finalPunctuation,
       quotationMark, otherClose]) (.ranges [(0xff02, 0xff02), (0xff07, 0xff07)]))]

end Breaks

/-- The set of a name that stands alone: a property, a category or a script. -/
def named? (name : List Char) : Option CharSet :=
  let name := propertyName name
  (property? name).or ((category? name).or (script? name))

/-- The set of a name that is asked for as one of a kind. -/
def ofKind? (kind name : List Char) : Option CharSet :=
  let name := propertyName name
  match propertyName kind with
  | "gc" | "generalcategory" => category? name
  | "sc" | "script" => script? name
  | "scx" | "scriptextensions" => scriptExtension? name
  | "age" => age? name
  | "gcb" | "graphemeclusterbreak" => find? graphemeBreaks name
  | "wb" | "wordbreak" => find? wordBreaks name
  | "sb" | "sentencebreak" => find? sentenceBreaks name
  | _ => Option.none

end CaseSuite.CharSet
