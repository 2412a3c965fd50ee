import SkillHost.Json.Number

/-! Tokens of JSON text, read one character after the other. -/
namespace SkillHost.Json

inductive Token where
  | openArray
  | closeArray
  | openObject
  | closeObject
  | colon
  | comma
  | null
  | bool (value : Bool)
  /-- Nothing stands for a number out of range. -/
  | number (value : Option Number)
  /-- Nothing stands for a string with half a surrogate pair. -/
  | string (text : Option Text)
  deriving DecidableEq

def isHighSurrogate (n : Nat) : Bool := 0xd800 ≤ n && n ≤ 0xdbff

def isLowSurrogate (n : Nat) : Bool := 0xdc00 ≤ n && n ≤ 0xdfff

def textOfCodes? : List Nat → Option Text
  | [] => some []
  | [n] => if isHighSurrogate n || isLowSurrogate n then none else some [Char.ofNat n]
  | n :: m :: rest =>
    if isHighSurrogate n then
      if isLowSurrogate m then
        (textOfCodes? rest).map
          (Char.ofNat (0x10000 + (n - 0xd800) * 0x400 + (m - 0xdc00)) :: ·)
      else none
    else if isLowSurrogate n then none
    else (textOfCodes? (m :: rest)).map (Char.ofNat n :: ·)

inductive TokenScan where
  | between
  | word (letters : Text)
  | number (characters : Text)
  | string (codes : List Nat)
  | escape (codes : List Nat)
  | hex (codes : List Nat) (count value : Nat)

def isSpace (c : Char) : Bool := c = ' ' || c = '\n' || c = '\t' || c = '\r'

def isNumberChar (c : Char) : Bool :=
  c.isDigit || c = '+' || c = '-' || c = '.' || c = 'e' || c = 'E'

def hexValue? (c : Char) : Option Nat :=
  if c.isDigit then some (c.toNat - '0'.toNat)
  else if 'a' ≤ c ∧ c ≤ 'f' then some (c.toNat - 'a'.toNat + 10)
  else if 'A' ≤ c ∧ c ≤ 'F' then some (c.toNat - 'A'.toNat + 10)
  else none

def escapeCode? (c : Char) : Option Nat :=
  if c = '"' ∨ c = '\\' ∨ c = '/' then some c.toNat
  else if c = 'b' then some 0x08
  else if c = 'f' then some 0x0c
  else if c = 'n' then some 0x0a
  else if c = 'r' then some 0x0d
  else if c = 't' then some 0x09
  else none

def beginToken (c : Char) : Option (List Token × TokenScan) :=
  if isSpace c then some ([], .between)
  else if c = '"' then some ([], .string [])
  else if c = ',' then some ([.comma], .between)
  else if c = ':' then some ([.colon], .between)
  else if c = '{' then some ([.openObject], .between)
  else if c = '}' then some ([.closeObject], .between)
  else if c = '[' then some ([.openArray], .between)
  else if c = ']' then some ([.closeArray], .between)
  else if c = '-' ∨ c.isDigit then some ([], .number [c])
  else if c.isLower then some ([], .word [c])
  else none

def wordToken? (letters : Text) : Option Token :=
  if letters = ['n', 'u', 'l', 'l'] then some .null
  else if letters = ['t', 'r', 'u', 'e'] then some (.bool true)
  else if letters = ['f', 'a', 'l', 's', 'e'] then some (.bool false)
  else none

def numberToken? (characters : Text) : Option Token :=
  (NumberParts.ofText? characters).map fun parts => .number parts.value?

def tokensFrom : TokenScan → Text → Option (List Token)
  | .between, [] => some []
  | .word letters, [] => (wordToken? letters.reverse).map ([·])
  | .number characters, [] => (numberToken? characters.reverse).map ([·])
  | .string _, [] | .escape _, [] | .hex _ _ _, [] => none
  | .between, c :: rest =>
    (beginToken c).bind fun (tokens, scan) => (tokensFrom scan rest).map (tokens ++ ·)
  | .word letters, c :: rest =>
    if c.isLower then tokensFrom (.word (c :: letters)) rest
    else (wordToken? letters.reverse).bind fun token =>
      (beginToken c).bind fun (tokens, scan) =>
        (tokensFrom scan rest).map (token :: tokens ++ ·)
  | .number characters, c :: rest =>
    if isNumberChar c then tokensFrom (.number (c :: characters)) rest
    else (numberToken? characters.reverse).bind fun token =>
      (beginToken c).bind fun (tokens, scan) =>
        (tokensFrom scan rest).map (token :: tokens ++ ·)
  | .string codes, c :: rest =>
    if c = '"' then
      (tokensFrom .between rest).map (.string (textOfCodes? codes.reverse) :: ·)
    else if c = '\\' then tokensFrom (.escape codes) rest
    else if c.toNat < 0x20 then none
    else tokensFrom (.string (c.toNat :: codes)) rest
  | .escape codes, c :: rest =>
    if c = 'u' then tokensFrom (.hex codes 0 0) rest
    else (escapeCode? c).bind fun code => tokensFrom (.string (code :: codes)) rest
  | .hex codes count value, c :: rest =>
    (hexValue? c).bind fun digit =>
      if count = 3 then tokensFrom (.string ((value * 16 + digit) :: codes)) rest
      else tokensFrom (.hex codes (count + 1) (value * 16 + digit)) rest

def tokens? (t : Text) : Option (List Token) := tokensFrom .between t

end SkillHost.Json
