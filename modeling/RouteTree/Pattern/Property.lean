import RouteTree.Pattern
import RouteTree.Unicode.Blank
import RouteTree.Unicode.Category
import RouteTree.Unicode.Script
import RouteTree.Unicode.Word

namespace RouteTree.Pattern

open Unicode

namespace Named

def ascii : CharSet := .ranges [(0, 0x7F)]

def any : CharSet := .complement .empty

private def unionOf (tables : List Ranges) : CharSet :=
  tables.foldl (fun set table => .union set (.ranges table)) .empty

private def letters : List Ranges :=
  [uppercaseLetters, lowercaseLetters, titlecaseLetters, modifierLetters, otherLetters]

private def marks : List Ranges := [nonspacingMarks, spacingMarks, enclosingMarks]

private def numbers : List Ranges := [digits, letterNumbers, otherNumbers]

private def punctuation : List Ranges :=
  [connectorPunctuation, dashPunctuation, openPunctuation, closePunctuation, initialPunctuation,
    finalPunctuation, otherPunctuation]

private def symbols : List Ranges := [mathSymbols, currencySymbols, modifierSymbols, otherSymbols]

private def separators : List Ranges := [spaceSeparators, lineSeparators, paragraphSeparators]

private def assignedOthers : List Ranges := [controls, formats, privateUse]

private def assigned : CharSet :=
  unionOf (letters ++ marks ++ numbers ++ punctuation ++ symbols ++ separators ++ assignedOthers)

private def categories : List (List String × CharSet) :=
  [(["lu", "uppercaseletter"], .ranges uppercaseLetters),
    (["ll", "lowercaseletter"], .ranges lowercaseLetters),
    (["lt", "titlecaseletter"], .ranges titlecaseLetters),
    (["lc", "casedletter"], unionOf [uppercaseLetters, lowercaseLetters, titlecaseLetters]),
    (["lm", "modifierletter"], .ranges modifierLetters),
    (["lo", "otherletter"], .ranges otherLetters),
    (["l", "letter"], unionOf letters),
    (["mn", "nonspacingmark"], .ranges nonspacingMarks),
    (["mc", "spacingmark"], .ranges spacingMarks),
    (["me", "enclosingmark"], .ranges enclosingMarks),
    (["m", "mark", "combiningmark"], unionOf marks),
    (["nd", "decimalnumber", "digit"], .ranges digits),
    (["nl", "letternumber"], .ranges letterNumbers),
    (["no", "othernumber"], .ranges otherNumbers),
    (["n", "number"], unionOf numbers),
    (["pc", "connectorpunctuation"], .ranges connectorPunctuation),
    (["pd", "dashpunctuation"], .ranges dashPunctuation),
    (["ps", "openpunctuation"], .ranges openPunctuation),
    (["pe", "closepunctuation"], .ranges closePunctuation),
    (["pi", "initialpunctuation"], .ranges initialPunctuation),
    (["pf", "finalpunctuation"], .ranges finalPunctuation),
    (["po", "otherpunctuation"], .ranges otherPunctuation),
    (["p", "punctuation", "punct"], unionOf punctuation),
    (["sm", "mathsymbol"], .ranges mathSymbols),
    (["sc", "currencysymbol"], .ranges currencySymbols),
    (["sk", "modifiersymbol"], .ranges modifierSymbols),
    (["so", "othersymbol"], .ranges otherSymbols),
    (["s", "symbol"], unionOf symbols),
    (["zs", "spaceseparator"], .ranges spaceSeparators),
    (["zl", "lineseparator"], .ranges lineSeparators),
    (["zp", "paragraphseparator"], .ranges paragraphSeparators),
    (["z", "separator"], unionOf separators),
    (["cc", "control", "cntrl"], .ranges controls),
    (["cf", "format"], .ranges formats),
    (["co", "privateuse"], .ranges privateUse),
    (["cn", "unassigned"], .complement assigned),
    (["c", "other"], .union (unionOf assignedOthers) (.complement assigned)),
    (["any"], any),
    (["assigned"], assigned),
    (["ascii"], ascii)]

private def binaryProperties : List (List String × CharSet) :=
  [(["alphabetic", "alpha"], .ranges alphabetic),
    (["lowercase", "lower"], .ranges lowercase),
    (["uppercase", "upper"], .ranges uppercase),
    (["whitespace", "wspace", "space"], .ranges blankRanges),
    (["emoji"], .ranges emoji)]

private def find? (name : String) (table : List (List String × CharSet)) : Option CharSet :=
  (table.find? fun entry => entry.1.contains name).map Prod.snd

private def script? (name : String) : Option CharSet :=
  (scripts.find? fun entry => entry.1.contains name).map fun entry => .ranges entry.2

/-- Names are compared without regard to case, separators and a leading `is`. -/
def normalized (name : Text) : String :=
  let letters := (name.filter fun c => c != ' ' && c != '_' && c != '-').map Char.toLower
  String.ofList ((Text.after? ['i', 's'] letters).getD letters)

def property? (name : Text) : Option CharSet :=
  let name := normalized name
  (find? name binaryProperties).or ((find? name categories).or (script? name))

def propertyValue? (property value : Text) : Option CharSet :=
  let property := normalized property
  let value := normalized value
  if property = "gc" ∨ property = "generalcategory" then find? value categories
  else if property = "sc" ∨ property = "script" ∨ property = "scx" ∨
      property = "scriptextensions" then script? value
  else none

def digitSet (unicode : Bool) : CharSet :=
  if unicode then .ranges digits else .ranges [(0x30, 0x39)]

def blankSet (unicode : Bool) : CharSet :=
  if unicode then .ranges blankRanges else .ranges [(0x9, 0xD), (0x20, 0x20)]

def wordSet (unicode : Bool) : CharSet :=
  if unicode then .ranges wordCharacters
  else .ranges [(0x30, 0x39), (0x41, 0x5A), (0x5F, 0x5F), (0x61, 0x7A)]

/-- The classes written between colons; they hold ASCII characters alone. -/
def asciiClass? (name : Text) : Option CharSet :=
  find? (String.ofList name)
    [(["alnum"], .ranges [(0x30, 0x39), (0x41, 0x5A), (0x61, 0x7A)]),
      (["alpha"], .ranges [(0x41, 0x5A), (0x61, 0x7A)]),
      (["ascii"], ascii),
      (["blank"], .ranges [(0x9, 0x9), (0x20, 0x20)]),
      (["cntrl"], .ranges [(0, 0x1F), (0x7F, 0x7F)]),
      (["digit"], digitSet false),
      (["graph"], .ranges [(0x21, 0x7E)]),
      (["lower"], .ranges [(0x61, 0x7A)]),
      (["print"], .ranges [(0x20, 0x7E)]),
      (["punct"], .ranges [(0x21, 0x2F), (0x3A, 0x40), (0x5B, 0x60), (0x7B, 0x7E)]),
      (["space"], blankSet false),
      (["upper"], .ranges [(0x41, 0x5A)]),
      (["word"], wordSet false),
      (["xdigit"], .ranges [(0x30, 0x39), (0x41, 0x46), (0x61, 0x66)])]

def startsName (c : Char) : Bool := c == '_' || alphabetic.contains c

def continuesName (c : Char) : Bool :=
  startsName c || numbers.any (Ranges.contains · c) || ['.', '[', ']'].contains c

end Named

end RouteTree.Pattern
