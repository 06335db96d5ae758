import SpanEdit.Eff
import SpanEdit.Text.Class

/-!
Predicates on single tokens, by name.
-/

namespace SpanEdit.Testing

inductive Predicate where
  | digit
  | letter
  | capital
  | small
  | blank
  | alphanumeric
  | always
  | never
  | fails
  | among (tokens : Tokens)

namespace Predicate

def name : Predicate → String
  | .digit => "digit"
  | .letter => "alpha"
  | .capital => "upper"
  | .small => "lower"
  | .blank => "space"
  | .alphanumeric => "alnum"
  | .always => "any"
  | .never => "none"
  | .fails => "boom"
  | .among _ => "in"

def isAll (chars : Char → Bool) (bytes : Nat → Bool) : Tokens → Bool
  | .text content => !content.isEmpty && content.all chars
  | .bytes content => !content.isEmpty && content.all fun byte => bytes byte.toNat

def test (predicate : Predicate) (token : Tokens) : Except Fault Bool :=
  match predicate with
  | .digit => .ok (isAll Text.isDigit Text.Ascii.isDigit token)
  | .letter => .ok (isAll Text.isLetter Text.Ascii.isLetter token)
  | .capital => .ok (isAll Text.isCapital Text.Ascii.isCapital token)
  | .small => .ok (isAll Text.isSmall Text.Ascii.isSmall token)
  | .blank => .ok (isAll Text.isBlank Text.Ascii.isBlank token)
  | .alphanumeric => .ok (isAll Text.isAlphanumeric Text.Ascii.isAlphanumeric token)
  | .always => .ok true
  | .never => .ok false
  | .fails => .error (.raised "predicate")
  | .among tokens =>
      match tokens.kind, token.kind with
      | .text, .bytes =>
          .error (.wrongType (some "'in <string>' requires string as left operand, not bytes"))
      | .bytes, .text =>
          .error (.wrongType (some "a bytes-like object is required, not 'str'"))
      | _, _ => .ok (tokens.find? token 0).isSome

end Predicate

end SpanEdit.Testing
