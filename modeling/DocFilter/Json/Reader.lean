import DocFilter.Json.Numeral
import DocFilter.Text.Hex

/-! # Reading JSON

`Json.read?` reads a whole text, with blanks around its parts and nothing behind.  Texts between
quotes are read in two steps: into characters and 16-bit units first, then the units are joined to
code points.

Control characters have to be escaped.  A value may break this rule, which leaves nothing but its
bytes; a name may not.  `escapesControls` says whether a text keeps the rule everywhere. -/

namespace DocFilter.Json

/-! ### Texts between quotes -/

/-- A piece of a text: one character, or half of one. -/
inductive Part where
  | char (c : Char)
  /-- A control character that stands as it is. -/
  | control (c : Char)
  /-- A 16-bit unit written as an escape. -/
  | unit (n : Nat)
deriving DecidableEq, Repr

/-- The character that a letter behind a backslash stands for. -/
def escaped? : Char → Option Char
  | '"' => some '"'
  | '\\' => some '\\'
  | '/' => some '/'
  | 'b' => some '\x08'
  | 'f' => some '\x0c'
  | 'n' => some '\n'
  | 'r' => some '\r'
  | 't' => some '\t'
  | _ => none

/-- The unit with four hexadecimal digits. -/
def unit? (a b c d : Char) : Option Nat := do
  let digits ← [a, b, c, d].mapM Text.Hex.value?
  return digits.foldl (fun n d => 16 * n + d) 0

/-- The part that a character is which is not escaped. -/
def bare (c : Char) : Part := if c.toNat < 0x20 then .control c else .char c

/-- The parts of a text up to the closing quote, and what follows it. -/
def parts? : List Char → Option (List Part × List Char)
  | [] => none
  | '"' :: rest => some ([], rest)
  | '\\' :: 'u' :: a :: b :: c :: d :: rest => do
    let n ← unit? a b c d
    let (parts, rest) ← parts? rest
    return (.unit n :: parts, rest)
  | '\\' :: e :: rest => do
    let c ← escaped? e
    let (parts, rest) ← parts? rest
    return (.char c :: parts, rest)
  | c :: rest => do
    let (parts, rest) ← parts? rest
    return (bare c :: parts, rest)

def isHighSurrogate (n : Nat) : Bool := 0xd800 ≤ n && n < 0xdc00

def isLowSurrogate (n : Nat) : Bool := 0xdc00 ≤ n && n < 0xe000

/-- The code points that parts denote, with a surrogate only where it has no partner. -/
def codePoints : List Part → List Nat
  | [] => []
  | .char c :: rest | .control c :: rest => c.toNat :: codePoints rest
  | .unit high :: .unit low :: rest =>
    if isHighSurrogate high && isLowSurrogate low then
      (0x10000 + (high - 0xd800) * 0x400 + (low - 0xdc00)) :: codePoints rest
    else high :: codePoints (.unit low :: rest)
  | .unit n :: rest => n :: codePoints rest

def isSurrogate (n : Nat) : Bool := isHighSurrogate n || isLowSurrogate n

/-- The bytes of a code point, those of a surrogate by the rule for its neighbours. -/
def pointBytes (n : Nat) : List UInt8 :=
  if isSurrogate n then
    [UInt8.ofNat (0xe0 + n / 0x1000), UInt8.ofNat (0x80 + n / 0x40 % 0x40),
      UInt8.ofNat (0x80 + n % 0x40)]
  else String.utf8EncodeChar (Char.ofNat n)

/-- The text of code points that are all characters. -/
def textOf? (points : List Nat) : Option String :=
  if points.any isSurrogate then none else some (String.ofList (points.map Char.ofNat))

def isControl : Part → Bool
  | .control _ => true
  | _ => false

def ofParts (parts : List Part) : Json :=
  let points := codePoints parts
  match if parts.any isControl then none else textOf? points with
  | some s => .string s
  | none => .rawText (points.flatMap pointBytes)

/-- The name of a member up to the closing quote, if it has characters, and what follows it. -/
def name? (cs : List Char) : Option (Option String × List Char) := do
  let (parts, rest) ← parts? cs
  if parts.any isControl then none else some (textOf? (codePoints parts), rest)

/-- An object, unless one of the names denotes nothing. -/
def ofMembers (members : List (Option String × Json)) : Json :=
  match members.mapM fun (name, value) => name.map (·, value) with
  | some members => .object members
  | none => .noValue

/-! ### Values -/

def isBlank (c : Char) : Bool := c == ' ' || c == '\n' || c == '\t' || c == '\r'

def skipBlanks (cs : List Char) : List Char := cs.dropWhile isBlank

mutual
/-- The value at the front and what follows it.  Every step takes at least one character, so that
twice the length of the text is enough fuel. -/
def value? : Nat → List Char → Option (Json × List Char)
  | 0, _ => none
  | fuel + 1, cs =>
    match skipBlanks cs with
    | '"' :: rest => do
      let (parts, rest) ← parts? rest
      return (ofParts parts, rest)
    | '[' :: rest =>
      match skipBlanks rest with
      | ']' :: rest => some (.list [], rest)
      | rest => do
        let (items, rest) ← items? fuel rest
        return (.list items, rest)
    | '\x7b' :: rest =>
      match skipBlanks rest with
      | '\x7d' :: rest => some (.object [], rest)
      | rest => do
        let (members, rest) ← members? fuel rest
        return (ofMembers members, rest)
    | 'n' :: 'u' :: 'l' :: 'l' :: rest => some (.null, rest)
    | 't' :: 'r' :: 'u' :: 'e' :: rest => some (.bool true, rest)
    | 'f' :: 'a' :: 'l' :: 's' :: 'e' :: rest => some (.bool false, rest)
    | cs => do
      let (numeral, rest) ← Numeral.read? cs
      return (numeral.value, rest)

/-- At least one item, up to the closing bracket. -/
def items? : Nat → List Char → Option (List Json × List Char)
  | 0, _ => none
  | fuel + 1, cs => do
    let (item, rest) ← value? fuel cs
    match skipBlanks rest with
    | ']' :: rest => some ([item], rest)
    | ',' :: rest => do
      let (items, rest) ← items? fuel rest
      return (item :: items, rest)
    | _ => none

/-- At least one member, up to the closing brace. -/
def members? : Nat → List Char → Option (List (Option String × Json) × List Char)
  | 0, _ => none
  | fuel + 1, cs =>
    match skipBlanks cs with
    | '"' :: rest => do
      let (name, rest) ← name? rest
      match skipBlanks rest with
      | ':' :: rest => do
        let (value, rest) ← value? fuel rest
        match skipBlanks rest with
        | '\x7d' :: rest => some ([(name, value)], rest)
        | ',' :: rest => do
          let (members, rest) ← members? fuel rest
          return ((name, value) :: members, rest)
        | _ => none
      | _ => none
    | _ => none
end

/-- Whether no control character stands between quotes. -/
def escapesControls : (inQuotes : Bool) → List Char → Bool
  | _, [] => true
  | false, c :: rest => escapesControls (c == '"') rest
  | true, '\\' :: _ :: rest => escapesControls true rest
  | true, c :: rest => 0x20 ≤ c.toNat && escapesControls (c != '"') rest

/-- The value of a whole text. -/
def read? (s : String) : Option Json := do
  let cs := s.toList
  let (value, rest) ← value? (2 * cs.length + 2) cs
  if (skipBlanks rest).isEmpty then some value else none

end DocFilter.Json
