import Scorebook.Json.Numeral
/-!
# The tokens of a JSON text

The lexer reads one character at a time and keeps the tokens it has completed.  Blanks separate tokens,
a run of letters, digits, signs and points is one word, and a word is a token if it is a number or one of
the three constants.
-/
namespace Scorebook.Json

inductive Token where
  | openList
  | closeList
  | openObject
  | closeObject
  | comma
  | colon
  /-- A quoted text, or nothing when it holds half of a surrogate pair. -/
  | quoted (s : Option String)
  | scalar (v : Json)

/-- A piece of a quoted text: a character, or a 16-bit unit written as an escape. -/
inductive Piece where
  | char (c : Char)
  | unit (n : Nat)

def surrogatePair (high low : Nat) : Char :=
  Char.ofNat (0x10000 + (high - 0xD800) * 0x400 + (low - 0xDC00))

/-- The characters that pieces stand for, unless one is a surrogate without its partner. -/
def joinPieces : List Piece → Option (List Char)
  | [] => some []
  | .char c :: rest => (joinPieces rest).map (c :: ·)
  | .unit high :: .unit low :: rest =>
    if 0xD800 ≤ high && high < 0xDC00 then
      if 0xDC00 ≤ low && low < 0xE000 then (joinPieces rest).map (surrogatePair high low :: ·)
      else none
    else if 0xDC00 ≤ high && high < 0xE000 then none
    else (joinPieces (.unit low :: rest)).map (Char.ofNat high :: ·)
  | .unit n :: rest =>
    if 0xD800 ≤ n && n < 0xE000 then none
    else (joinPieces rest).map (Char.ofNat n :: ·)

/-- What the lexer is inside of.  Texts and words are kept in reverse. -/
inductive Mode where
  | between
  | word (cs : List Char)
  | quoted (pieces : List Piece)
  | escape (pieces : List Piece)
  | unicode (pieces : List Piece) (digits : List Nat)

structure Lexer where
  mode : Mode
  /-- The completed tokens, the latest first. -/
  tokens : List Token

namespace Lexer

def isBlank (c : Char) : Bool := c = ' ' || c = '\t' || c = '\n' || c = '\r'

def isWordChar (c : Char) : Bool := c.isAlphanum || c = '+' || c = '-' || c = '.'

def hexDigit? (c : Char) : Option Nat :=
  if c.isDigit then some (c.toNat - '0'.toNat)
  else if 'a' ≤ c && c ≤ 'f' then some (c.toNat - 'a'.toNat + 10)
  else if 'A' ≤ c && c ≤ 'F' then some (c.toNat - 'A'.toNat + 10)
  else none

def wordValue? (cs : List Char) : Option Json :=
  if cs = ['n', 'u', 'l', 'l'] then some .null
  else if cs = ['t', 'r', 'u', 'e'] then some (.bool true)
  else if cs = ['f', 'a', 'l', 's', 'e'] then some (.bool false)
  else (Numeral.parse? cs).map Numeral.value

def escaped? (c : Char) : Option Char :=
  match c with
  | '"' => some '"'
  | '\\' => some '\\'
  | '/' => some '/'
  | 'b' => some '\x08'
  | 'f' => some '\x0c'
  | 'n' => some '\n'
  | 'r' => some '\r'
  | 't' => some '\t'
  | _ => none

def start? (tokens : List Token) (c : Char) : Option Lexer :=
  if isBlank c then some ⟨.between, tokens⟩
  else if isWordChar c then some ⟨.word [c], tokens⟩
  else
    match c with
    | '"' => some ⟨.quoted [], tokens⟩
    | '[' => some ⟨.between, .openList :: tokens⟩
    | ']' => some ⟨.between, .closeList :: tokens⟩
    | '\x7b' => some ⟨.between, .openObject :: tokens⟩
    | '\x7d' => some ⟨.between, .closeObject :: tokens⟩
    | ',' => some ⟨.between, .comma :: tokens⟩
    | ':' => some ⟨.between, .colon :: tokens⟩
    | _ => none

def step (l : Lexer) (c : Char) : Option Lexer :=
  match l.mode with
  | .between => start? l.tokens c
  | .word cs =>
    if isWordChar c then some ⟨.word (c :: cs), l.tokens⟩
    else
      match wordValue? cs.reverse with
      | some v => start? (.scalar v :: l.tokens) c
      | none => none
  | .quoted pieces =>
    if c = '"' then
      some ⟨.between, .quoted ((joinPieces pieces.reverse).map String.ofList) :: l.tokens⟩
    else if c = '\\' then some ⟨.escape pieces, l.tokens⟩
    else if c.toNat < 32 then none
    else some ⟨.quoted (.char c :: pieces), l.tokens⟩
  | .escape pieces =>
    if c = 'u' then some ⟨.unicode pieces [], l.tokens⟩
    else (escaped? c).map (fun e => ⟨.quoted (.char e :: pieces), l.tokens⟩)
  | .unicode pieces digits =>
    match hexDigit? c with
    | none => none
    | some d =>
      let digits := digits ++ [d]
      if digits.length = 4 then
        some ⟨.quoted (.unit (digits.foldl (fun n d => 16 * n + d) 0) :: pieces), l.tokens⟩
      else some ⟨.unicode pieces digits, l.tokens⟩

def finish? (l : Lexer) : Option (List Token) :=
  match l.mode with
  | .between => some l.tokens.reverse
  | .word cs => (wordValue? cs.reverse).map (fun v => (Token.scalar v :: l.tokens).reverse)
  | _ => none

end Lexer

def tokens? (cs : List Char) : Option (List Token) :=
  (cs.foldlM Lexer.step ⟨.between, []⟩).bind Lexer.finish?

end Scorebook.Json
