import SpanEdit.Text.CharSet
import SpanEdit.Text.Utf8
import SpanEdit.Yaml.Cursor
import SpanEdit.Yaml.Token

/-!
What is written beside the nodes of a document: anchors and aliases, tags, and directives.
-/

namespace SpanEdit.Yaml

def malformed {α : Type} : Except Fault α := .error .malformed

def readName (cursor : Cursor) : Except Fault (List Char × Cursor) :=
  let (name, after) := cursor.next.span isNameChar
  if name.isEmpty then malformed
  else if isGap after.peek || "?:,]\x7d%@\x60".toList.contains after.peek then .ok (name, after)
  else malformed

namespace TagName

def isUriChar (char : Char) : Bool :=
  isLetter char || isDigit char || "-;/?:@&=+$,_.!~*'()[]%".toList.contains char

def escapes : List Char → Option (List UInt8 × Nat)
  | '%' :: high :: low :: rest =>
      if isHexDigit high && isHexDigit low then do
        let value (digit : Char) : Nat :=
          Text.CharSet.digitValue (if isDigit digit then digit else digit.toUpper)
        let (bytes, count) ← escapes rest
        return (UInt8.ofNat (value high * 16 + value low) :: bytes, count + 3)
      else none
  | '%' :: _ => none
  | _ => some ([], 0)

def uriFrom : (fuel : Nat) → Cursor → Except Fault (List Char × Cursor)
  | 0, cursor => .ok ([], cursor)
  | fuel + 1, cursor =>
      if cursor.peek == '%' then
        match escapes cursor.rest with
        | none => malformed
        | some (bytes, count) =>
            match Text.Utf8.decode bytes with
            | .error _ => malformed
            | .ok chars => do
                let (more, cursor) ← uriFrom fuel (cursor.advance count)
                return (chars ++ more, cursor)
      else if isUriChar cursor.peek then do
        let (more, after) ← uriFrom fuel cursor.next
        return (cursor.peek :: more, after)
      else .ok ([], cursor)

def readUri (cursor : Cursor) : Except Fault (List Char × Cursor) := do
  let (text, after) ← uriFrom (cursor.rest.length + 1) cursor
  if after.index = cursor.index then malformed else return (text, after)

def readHandle (cursor : Cursor) : Except Fault (List Char × Cursor) :=
  if cursor.peek != '!' then malformed
  else if cursor.ahead 1 == ' ' then .ok (['!'], cursor.next)
  else
    let (name, after) := cursor.next.span isNameChar
    if after.peek == '!' then .ok ('!' :: name ++ ['!'], after.next) else malformed

def hasHandle (cursor : Cursor) : Bool :=
  (cursor.next.rest.takeWhile (!endsWord ·)).contains '!'

def body (cursor : Cursor) : Except Fault (TagName × Cursor) :=
  let first := cursor.ahead 1
  if first == '<' then do
    let (suffix, cursor) ← readUri (cursor.advance 2)
    if cursor.peek == '>' then return (⟨none, suffix⟩, cursor.next) else malformed
  else if isGap first then .ok (⟨none, ['!']⟩, cursor.next)
  else do
    let (handle, cursor) ← if hasHandle cursor then readHandle cursor else .ok (['!'], cursor.next)
    let (suffix, cursor) ← readUri cursor
    return (⟨some handle, suffix⟩, cursor)

def read (cursor : Cursor) : Except Fault (TagName × Cursor) := do
  let (name, cursor) ← body cursor
  if endsWord cursor.peek then return (name, cursor) else malformed

end TagName

namespace Directive

def number (cursor : Cursor) : Except Fault (Nat × Cursor) :=
  let (digits, after) := cursor.span isDigit
  if digits.isEmpty then malformed
  else do
    let value ← (Text.Numeral.integer 10 digits).mapError (.notInteger 10 digits)
    return (value.toNat, after)

def skipSpaces (cursor : Cursor) : Cursor := cursor.skip (· == ' ')

def readVersion (cursor : Cursor) : Except Fault (Directive × Cursor) := do
  let (major, cursor) ← number (skipSpaces cursor)
  if cursor.peek != '.' then malformed
  else
    let (minor, cursor) ← number cursor.next
    if endsWord cursor.peek then return (.version major minor, cursor) else malformed

def readHandle (cursor : Cursor) : Except Fault (Directive × Cursor) := do
  let (name, cursor) ← TagName.readHandle (skipSpaces cursor)
  if cursor.peek != ' ' then malformed
  else
    let (expansion, cursor) ← TagName.readUri (skipSpaces cursor)
    if endsWord cursor.peek then return (.handle name expansion, cursor) else malformed

def content (name : List Char) (cursor : Cursor) : Except Fault (Directive × Cursor) :=
  if name = "YAML".toList then readVersion cursor
  else if name = "TAG".toList then readHandle cursor
  else .ok (.reserved, cursor.skip (!endsLine ·))

def read (cursor : Cursor) : Except Fault (Directive × Cursor) := do
  let (name, cursor) := cursor.next.span isNameChar
  if name.isEmpty || !endsWord cursor.peek then malformed
  else
    let (directive, cursor) ← content name cursor
    match cursor.restOfLine? with
    | some cursor => return (directive, cursor)
    | none => malformed

end Directive

end SpanEdit.Yaml
