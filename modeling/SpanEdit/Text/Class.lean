import SpanEdit.Text.Category

/-!
Classes of single characters. They know the characters that Unicode 14 assigned: what version 15
added belongs to none of them.
-/

namespace SpanEdit.Text

namespace CharSet

def settled (set : CharSet) : CharSet :=
  (set.complement.union Category.newest).complement

end CharSet

def letters : CharSet := Category.letter.settled

def decimals : CharSet := Category.decimalNumber.settled

def digits : CharSet :=
  decimals.union (.parse
    "B2-B3 B9 1369-1371 19DA 2070 2074-2079 2080-2089 2460-2468 2474-247C 2488-2490 24EA
    24F5-24FD 24FF 2776-277E 2780-2788 278A-2792 10A40-10A43 10E60-10E68 11052-1105A
    1F100-1F10A")

def alphanumerics : CharSet := (Category.letter.union Category.number).settled

def blanks : CharSet := .parse "9-D 1C-20 85 A0 1680 2000-200A 2028-2029 202F 205F 3000"

def capitals : CharSet :=
  Category.uppercaseLetter.settled.union
    (.parse "2160-216F 24B6-24CF 1F130-1F149 1F150-1F169 1F170-1F189")

def smallLetters : CharSet :=
  Category.lowercaseLetter.settled.union (.parse
    "AA BA 2B0-2B8 2C0-2C1 2E0-2E4 345 37A 1D2C-1D6A 1D78 1D9B-1DBF 2071 207F 2090-209C
    2170-217F 24D0-24E9 2C7C-2C7D A69C-A69D A770 A7F8-A7F9 AB5C-AB5F 10780 10783-10785
    10787-107B0 107B2-107BA")

def printables : CharSet :=
  (CharSet.unions [Category.letter, Category.mark, Category.number, Category.punctuation,
    Category.symbol, .parse "20"]).settled

def casedLetters : CharSet :=
  .unions [capitals, smallLetters, Category.titlecaseLetter.settled]

/-- Characters that the search for a neighbouring letter steps over: marks, format characters,
modifiers, and the punctuation found inside words. -/
def caseIgnorables : CharSet :=
  (CharSet.unions [Category.nonspacingMark, Category.enclosingMark, Category.format,
    Category.modifierLetter, Category.modifierSymbol]).settled.union
    (.parse "27 2E 3A B7 387 55F 5F4 2018-2019 2024 2027 FE13 FE52 FE55 FF07 FF0E FF1A")

def isLetter (char : Char) : Bool := letters.contains char.toNat
def isDecimal (char : Char) : Bool := decimals.contains char.toNat
def isDigit (char : Char) : Bool := digits.contains char.toNat
def isAlphanumeric (char : Char) : Bool := alphanumerics.contains char.toNat
def isBlank (char : Char) : Bool := blanks.contains char.toNat
def isCapital (char : Char) : Bool := capitals.contains char.toNat
def isSmall (char : Char) : Bool := smallLetters.contains char.toNat
def isPrintable (char : Char) : Bool := printables.contains char.toNat
def isCased (char : Char) : Bool := casedLetters.contains char.toNat
def isCaseIgnorable (char : Char) : Bool := caseIgnorables.contains char.toNat

def decimalValue? (char : Char) : Option Nat :=
  (decimals.ranges.find? fun range => range.1 ≤ char.toNat && char.toNat ≤ range.2).map
    fun range => (char.toNat - range.1) % 10

/-! ASCII classes, which are those of a byte. -/

namespace Ascii

def isDigit (code : Nat) : Bool := 0x30 ≤ code && code ≤ 0x39
def isCapital (code : Nat) : Bool := 0x41 ≤ code && code ≤ 0x5A
def isSmall (code : Nat) : Bool := 0x61 ≤ code && code ≤ 0x7A
def isLetter (code : Nat) : Bool := isCapital code || isSmall code
def isAlphanumeric (code : Nat) : Bool := isLetter code || isDigit code
def isBlank (code : Nat) : Bool := (9 ≤ code && code ≤ 13) || code == 0x20

def isWord (code : Nat) : Bool := isAlphanumeric code || code == 0x5F

def lower (code : Nat) : Nat := if isCapital code then code + 0x20 else code
def raise (code : Nat) : Nat := if isSmall code then code - 0x20 else code

end Ascii

end SpanEdit.Text
