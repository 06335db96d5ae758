import SpanEdit.Tokens
import SpanEdit.Text.Utf8
import SpanEdit.Yaml.Fault

/-!
The characters of a document: those that show, line ends, and tabs. Bytes are UTF-16 if they begin
with its byte order mark, and UTF-8 otherwise. The mark remains the first character.
-/

namespace SpanEdit.Yaml

def isAllowed (char : Char) : Bool :=
  let code := char.toNat
  code == 0x9 || code == 0xA || code == 0xD || (0x20 ≤ code && code ≤ 0x7E) || code == 0x85 ||
    (0xA0 ≤ code && code ≤ 0xD7FF) || (0xE000 ≤ code && code ≤ 0xFFFD) || 0x10000 ≤ code

def units (unit : UInt8 → UInt8 → Nat) : List UInt8 → Option (List Nat)
  | [] => some []
  | [_] => none
  | first :: second :: rest => (units unit rest).map (unit first second :: ·)

def ofUnits : List Nat → Option (List Char)
  | [] => some []
  | unit :: rest =>
      if unit < 0xD800 || 0xE000 ≤ unit then (ofUnits rest).map (Char.ofNat unit :: ·)
      else
        match rest with
        | low :: rest =>
            if unit < 0xDC00 && 0xDC00 ≤ low && low < 0xE000 then
              let char := Char.ofNat (0x10000 + (unit - 0xD800) * 0x400 + (low - 0xDC00))
              (ofUnits rest).map (char :: ·)
            else none
        | [] => none

def decode (data : List UInt8) : Option (List Char) :=
  match data with
  | 0xFF :: 0xFE :: _ =>
      (units (fun low high => high.toNat * 0x100 + low.toNat) data).bind ofUnits
  | 0xFE :: 0xFF :: _ =>
      (units (fun high low => high.toNat * 0x100 + low.toNat) data).bind ofUnits
  | data => (Text.Utf8.decode data).toOption

def source (tokens : Tokens) : Except Fault (List Char) :=
  let chars? := match tokens with
    | .text chars => some chars.toList
    | .bytes data => decode data.toList
  match chars? with
  | some chars => if chars.all isAllowed then .ok chars else .error .malformed
  | none => .error .malformed

end SpanEdit.Yaml
