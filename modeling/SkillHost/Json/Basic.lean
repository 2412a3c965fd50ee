import SkillHost.Json.Number

/-! JSON values and their text. -/
namespace SkillHost

inductive Json where
  | null
  | bool (value : Bool)
  | number (value : Json.Number)
  | string (text : Text)
  | array (items : List Json)
  | object (members : List (Text × Json))
  /-- Text of the right form that denotes no value: a string with half a surrogate pair, a number
  out of range, or an object with such a name. -/
  | undefined

namespace Json

def hexDigits (n : Nat) : Text :=
  let digits := Nat.toDigits 16 n
  List.replicate (4 - digits.length) '0' ++ digits

def escapedChar (c : Char) : Text :=
  if c = '"' ∨ c = '\\' then ['\\', c]
  else if c = '\x08' then ['\\', 'b']
  else if c = '\x0c' then ['\\', 'f']
  else if c = '\n' then ['\\', 'n']
  else if c = '\r' then ['\\', 'r']
  else if c = '\t' then ['\\', 't']
  else if c.toNat < 0x20 then ['\\', 'u'] ++ hexDigits c.toNat
  else [c]

def stringText (t : Text) : Text := ['"'] ++ t.flatMap escapedChar ++ ['"']

mutual

def text : Json → Text
  | null | undefined => ['n', 'u', 'l', 'l']
  | bool true => ['t', 'r', 'u', 'e']
  | bool false => ['f', 'a', 'l', 's', 'e']
  | number n => n.text
  | string t => stringText t
  | array items => '[' :: itemsText items ++ [']']
  | object members => '{' :: membersText members ++ ['}']

def itemsText : List Json → Text
  | [] => []
  | [item] => item.text
  | item :: next :: rest => item.text ++ ',' :: itemsText (next :: rest)

def membersText : List (Text × Json) → Text
  | [] => []
  | [(name, value)] => stringText name ++ ':' :: value.text
  | (name, value) :: next :: rest =>
    stringText name ++ ':' :: value.text ++ ',' :: membersText (next :: rest)

end

mutual

def depth : Json → Nat
  | array items => itemsDepth items + 1
  | object members => membersDepth members + 1
  | _ => 0

def itemsDepth : List Json → Nat
  | [] => 0
  | item :: rest => max item.depth (itemsDepth rest)

def membersDepth : List (Text × Json) → Nat
  | [] => 0
  | (_, value) :: rest => max value.depth (membersDepth rest)

end

mutual

/-- The value with one member for each name of an object, the last one, or nothing where a part
is undefined. -/
def settle? : Json → Option Json
  | undefined => none
  | array items => (settleItems? items).map array
  | object members => (settleMembers? members).map object
  | other => some other

def settleItems? : List Json → Option (List Json)
  | [] => some []
  | item :: rest => item.settle?.bind fun i => (settleItems? rest).map (i :: ·)

def settleMembers? : List (Text × Json) → Option (List (Text × Json))
  | [] => some []
  | (name, value) :: rest =>
    value.settle?.bind fun v => (settleMembers? rest).map fun more =>
      if more.any (·.1 = name) then more else (name, v) :: more

end

end Json

end SkillHost
