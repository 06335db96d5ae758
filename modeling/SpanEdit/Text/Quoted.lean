import SpanEdit.Text.Class
import SpanEdit.Text.Utf8

/-!
Quoted text: a literal between quotes in which everything that does not show is escaped. Single
quotes are used unless the text holds one and no double quote.
-/

namespace SpanEdit.Text.Quoted

def quoteFor (text : List Char) : Char :=
  if text.contains '\'' && !text.contains '"' then '"' else '\''

def hexDigits (width value : Nat) : List Char :=
  let digits := Nat.toDigits 16 value
  List.replicate (width - digits.length) '0' ++ digits

def escapeCommon (quote char : Char) : Option (List Char) :=
  if char = quote || char = '\\' then some ['\\', char]
  else if char = '\n' then some ['\\', 'n']
  else if char = '\r' then some ['\\', 'r']
  else if char = '\t' then some ['\\', 't']
  else none

def escapeChar (quote char : Char) : List Char :=
  match escapeCommon quote char with
  | some escaped => escaped
  | none =>
      if isPrintable char then [char]
      else if char.toNat < 0x100 then '\\' :: 'x' :: hexDigits 2 char.toNat
      else if char.toNat < 0x10000 then '\\' :: 'u' :: hexDigits 4 char.toNat
      else '\\' :: 'U' :: hexDigits 8 char.toNat

def escapeByte (quote : Char) (byte : UInt8) : List Char :=
  match escapeCommon quote (Char.ofNat byte.toNat) with
  | some escaped => escaped
  | none =>
      if 0x20 ≤ byte && byte < 0x7F then [Char.ofNat byte.toNat]
      else '\\' :: 'x' :: hexDigits 2 byte.toNat

def text (content : List Char) : String :=
  let quote := quoteFor content
  String.ofList (quote :: content.flatMap (escapeChar quote) ++ [quote])

def bytes (content : List UInt8) : String :=
  let quote := quoteFor (content.map fun byte => Char.ofNat byte.toNat)
  String.ofList ('b' :: quote :: content.flatMap (escapeByte quote) ++ [quote])

def string (content : String) : String := text content.toList

end SpanEdit.Text.Quoted
