import RouteTree.Options
import RouteTree.Pattern.Reader
import RouteTree.RouteError

namespace RouteTree

inductive UrlRule
  | off
  | pattern (p : Pattern)

namespace UrlRule

/-! The standard pattern admits a path, then perhaps a query of pairs with one equals sign each. -/

/-- Letters, digits, and the characters `- . _ ~ %`. -/
def keyCharacter : CharSet :=
  .ranges [(0x25, 0x25), (0x2D, 0x2E), (0x30, 0x39), (0x41, 0x5A), (0x5F, 0x5F), (0x61, 0x7A),
    (0x7E, 0x7E)]

def segmentCharacter : CharSet := .union keyCharacter (.single ':')

/-- All but blanks and the characters that delimit or that a shell would read. -/
def valueCharacter : CharSet :=
  .complement (.union (.ranges Unicode.blankRanges)
    (.ranges ("&=?#<>\\^\x60|*()$;'!".toList.map fun c => (c.toNat, c.toNat))))

def one (c : Char) : Pattern := .char (.single c)

def many (p : Pattern) : Pattern := .repeated p 0 none

def pathPattern : Pattern :=
  many (.sequence (one '/') (many (.char segmentCharacter)))

def pairPattern : Pattern :=
  .sequence (.repeated (.char keyCharacter) 1 none)
    (.sequence (one '=') (many (.char valueCharacter)))

def queryPattern : Pattern :=
  .sequence (one '?') (.sequence pairPattern (many (.sequence (one '&') pairPattern)))

def standard : Pattern :=
  .sequence (.anchor .textStart)
    (.sequence pathPattern
      (.sequence (.repeated queryPattern 0 (some 1)) (.anchor .textEnd)))

def ofCheck : UrlCheck → Except RouteError UrlRule
  | .off => .ok .off
  | .standard => .ok (.pattern standard)
  | .pattern source =>
      match Pattern.ofText? source with
      | some p => .ok (.pattern p)
      | none => .error (.badPattern source)

def accepts : UrlRule → Text → Bool
  | .off, _ => true
  | .pattern p, url => p.matchesSomewhere url

def check (rule : UrlRule) (url : Text) : Except RouteError Unit :=
  if rule.accepts url then .ok () else .error (.refusedUrl url)

end UrlRule

end RouteTree
