import SchemaIntents.Text.Utf8
import SchemaIntents.Yaml.Text

/-!
Tokens of YAML, and scanners for directives, anchors and tags.
-/
namespace SchemaIntents.Yaml

/-- The pieces of which a document consists. -/
inductive Token where
  | versionDirective (major : Nat)
  | tagDirective (handle start : String)
  | otherDirective
  | documentStart
  | documentEnd
  | blockSequenceStart
  | blockMappingStart
  | blockEnd
  | flowSequenceStart
  | flowSequenceEnd
  | flowMappingStart
  | flowMappingEnd
  | blockEntry
  | flowEntry
  | key
  | value
  | alias (name : String)
  | anchor (name : String)
  | tag (handle : Option String) (suffix : String)
  | scalar (text : String) (isPlain : Bool)
  deriving DecidableEq, Repr

namespace Scan

/-- A character of a name. -/
def isNameChar (c : Char) : Bool :=
  c.isAlphanum || c == '-' || c == '_'

/-- A character of a tag; other characters are escaped. -/
def isTagChar (c : Char) : Bool :=
  c.isAlphanum || "-;/?:@&=+$,_.!~*'()[]".toList.contains c

/-- The name after the sign of an anchor or alias. -/
def anchorName : Scan String := do
  forward 1
  let name ← run isNameChar
  if name.isEmpty then malformed
  let next ← peek
  if !(endsWord next || next.any fun c => "?:,]\x7d%@`".toList.contains c) then malformed
  return String.ofList name

/-- The handle at the front of a tag: a name between exclamation marks, or a single mark. -/
def tagHandle : Scan String := do
  if (← peek) != some '!' then malformed
  forward 1
  if (← peek) == some ' ' then return "!"
  let name ← run isNameChar
  if (← peek) == some '!' then
    forward 1
    return String.ofList ('!' :: name ++ ['!'])
  else malformed

/-- The bytes of consecutive escapes. -/
def escapedBytes : Nat → Scan (List UInt8)
  | 0 => return []
  | fuel + 1 => do
    if (← peek) != some '%' then return []
    forward 1
    let ds := (← get).rest.take 2
    if ds.length < 2 || !ds.all isHex then malformed
    forward 2
    return UInt8.ofNat (Numeral.ofDigits 16 ds) :: (← escapedBytes fuel)

/-- The characters of a tag, escapes decoded. -/
def tagChars : Nat → Scan (List Char)
  | 0 => return []
  | fuel + 1 => do
    let cs ← run isTagChar
    if (← peek) == some '%' then
      match Text.Utf8.decode (← escapedBytes (← bound)) with
      | .ok ds => return cs ++ ds ++ (← tagChars fuel)
      | .error _ => malformed
    else return cs

/-- The characters of a tag; there has to be one. -/
def tagText : Scan String := do
  let start := (← get).index
  let cs ← tagChars (← bound)
  if (← get).index == start then malformed
  return String.ofList cs

/-- Whether a tag starts with a handle that has a name: another mark stands before its end. -/
def hasNamedHandle (cs : List Char) : Bool :=
  (cs.takeWhile fun c => !(c == ' ' || isBreak c)).contains '!'

/-- A tag: verbatim in angle brackets, a lone mark, or a handle with a suffix. -/
def tag : Scan Token := do
  let after := (← get).rest.drop 1
  let token ← if after.head? == some '<' then do
      forward 2
      let text ← tagText
      if (← peek) != some '>' then malformed
      forward 1
      pure (.tag none text)
    else if endsWord after.head? then do
      forward 1
      pure (.tag none "!")
    else do
      let handle ← if hasNamedHandle after then tagHandle else do
        forward 1
        pure "!"
      pure (.tag (some handle) (← tagText))
  if !endsItem (← peek) then malformed
  return token

/-- The number of a version. -/
def versionNumber : Scan Nat := do
  let ds ← run Char.isDigit
  if ds.isEmpty then malformed
  return Numeral.ofDigits 10 ds

def versionDirective : Scan Token := do
  skipSpaces
  let major ← versionNumber
  if (← peek) != some '.' then malformed
  forward 1
  discard versionNumber
  if !endsItem (← peek) then malformed
  return .versionDirective major

def tagDirective : Scan Token := do
  skipSpaces
  let handle ← tagHandle
  if (← peek) != some ' ' then malformed
  skipSpaces
  let start ← tagText
  if !endsItem (← peek) then malformed
  return .tagDirective handle start

/-- A directive, up to the end of its line. -/
def directive : Scan Token := do
  forward 1
  let name ← run isNameChar
  if name.isEmpty || !endsItem (← peek) then malformed
  let token ← match String.ofList name with
    | "YAML" => versionDirective
    | "TAG" => tagDirective
    | _ => do
      skip fun c => !isBreak c
      pure .otherDirective
  restOfLine
  return token

end Scan
end SchemaIntents.Yaml
