import Meteogram.Json.Literal

/-!
# The tokens of a JSON text

`Token.ofChars` runs an automaton over a text. A text that breaks off or goes wrong inside a token
ends with a broken token, which says how a reader that uses the value and a reader that skips it
each report that: a skipped number that ends too early is malformed, and a skipped string may hold
unpaired surrogates.
-/

namespace Meteogram.Json

/-- Why a text is no JSON: it ends too early, or something else stands where it should go on. -/
inductive Fault where
  | eof
  | malformed
deriving DecidableEq, Repr

/-- The fault that a reader of the value meets, and the one that a reader skipping it meets. -/
structure Break where
  used : Fault
  skipped : Fault
deriving DecidableEq, Repr

/-- The same fault for every reader. -/
def Break.plain (f : Fault) : Break := ⟨f, f⟩

/-- A string token; `none` if it holds a surrogate without its partner. -/
abbrev Quoted := Option String

inductive Token where
  | openArray
  | closeArray
  | openObject
  | closeObject
  | comma
  | colon
  | null
  | bool (b : Bool)
  | number (l : Literal)
  | text (s : Quoted)
  /-- The text goes wrong inside a string. -/
  | brokenText (b : Break)
  /-- The text goes wrong at or inside anything else. -/
  | broken (b : Break)
deriving DecidableEq, Repr

namespace Token

/-- The part of a number that the automaton is in. -/
inductive NumberPart where
  | sign
  | zero
  | whole
  | point
  | fraction
  | exponent
  | exponentSign
  | exponentDigits
deriving DecidableEq, Repr

/-- A string under way: its characters in reverse, a high surrogate that waits for its partner, and
whether some surrogate had none. -/
structure TextState where
  done : List Char
  high : Option Nat
  unpaired : Bool
deriving DecidableEq, Repr

/-- Where the automaton is. -/
inductive State where
  | between
  /-- Inside `null`, `true` or `false`: the character due now and those after it. -/
  | word (due : Char) (rest : List Char) (token : Token)
  | number (part : NumberPart) (l : Literal)
  | text (s : TextState)
  /-- After a reverse solidus. -/
  | escape (s : TextState)
  /-- In the four bytes of an escaped code unit: how many were seen, and their value if all are
  hexadecimal digits. -/
  | unit (s : TextState) (seen : Nat) (value : Option Nat)
deriving DecidableEq, Repr

/-- One step of the automaton: tokens that are complete now, and either the next state or the broken
token that ends the text. -/
structure Step where
  tokens : List Token
  next : State ⊕ Token

def isSpace (c : Char) : Bool := c == ' ' || c == '\n' || c == '\t' || c == '\r'

def emptyLiteral : Literal := ⟨false, [], [], none, false⟩

/-- The step at a character that begins a token. -/
def start (c : Char) : Step :=
  if isSpace c then ⟨[], .inl .between⟩
  else if Text.isDigit c then
    ⟨[], .inl (.number (if c = '0' then .zero else .whole) { emptyLiteral with whole := [c] })⟩
  else match c with
    | '[' => ⟨[.openArray], .inl .between⟩
    | ']' => ⟨[.closeArray], .inl .between⟩
    | '{' => ⟨[.openObject], .inl .between⟩
    | '}' => ⟨[.closeObject], .inl .between⟩
    | ',' => ⟨[.comma], .inl .between⟩
    | ':' => ⟨[.colon], .inl .between⟩
    | '"' => ⟨[], .inl (.text ⟨[], none, false⟩)⟩
    | '-' => ⟨[], .inl (.number .sign { emptyLiteral with negative := true })⟩
    | 'n' => ⟨[], .inl (.word 'u' ['l', 'l'] .null)⟩
    | 't' => ⟨[], .inl (.word 'r' ['u', 'e'] (.bool true))⟩
    | 'f' => ⟨[], .inl (.word 'a' ['l', 's', 'e'] (.bool false))⟩
    | _ => ⟨[], .inr (.broken (.plain .malformed))⟩

def malformed : Step := ⟨[], .inr (.broken (.plain .malformed))⟩

def malformedText : Step := ⟨[], .inr (.brokenText (.plain .malformed))⟩

/-- A number is complete at a character that cannot continue it, which then begins a token. -/
def finishNumber (l : Literal) (c : Char) : Step :=
  let after := start c
  { after with tokens := .number l :: after.tokens }

def isExponentMark (c : Char) : Bool := c == 'e' || c == 'E'

/-- The step inside a number. -/
def numberStep (part : NumberPart) (l : Literal) (c : Char) : Step :=
  let into (part : NumberPart) (l : Literal) : Step := ⟨[], .inl (.number part l)⟩
  let exponentDigit : Step :=
    let (negative, ds) := l.exponent.getD (false, [])
    into .exponentDigits { l with exponent := some (negative, ds ++ [c]) }
  match part with
  | .sign =>
    if c = '0' then into .zero { l with whole := [c] }
    else if Text.isDigit c then into .whole { l with whole := [c] }
    else malformed
  | .zero =>
    if Text.isDigit c then malformed
    else if c = '.' then into .point { l with hasPoint := true }
    else if isExponentMark c then into .exponent l
    else finishNumber l c
  | .whole =>
    if Text.isDigit c then into .whole { l with whole := l.whole ++ [c] }
    else if c = '.' then into .point { l with hasPoint := true }
    else if isExponentMark c then into .exponent l
    else finishNumber l c
  | .point =>
    if Text.isDigit c then into .fraction { l with fraction := l.fraction ++ [c] }
    else malformed
  | .fraction =>
    if Text.isDigit c then into .fraction { l with fraction := l.fraction ++ [c] }
    else if isExponentMark c then into .exponent l
    else finishNumber l c
  | .exponent =>
    if Text.isDigit c then exponentDigit
    else if c = '+' then into .exponentSign { l with exponent := some (false, []) }
    else if c = '-' then into .exponentSign { l with exponent := some (true, []) }
    else malformed
  | .exponentSign => if Text.isDigit c then exponentDigit else malformed
  | .exponentDigits => if Text.isDigit c then exponentDigit else finishNumber l c

/-- A character that is no surrogate follows; one that waits now has no partner. -/
def TextState.push (s : TextState) (c : Char) : TextState :=
  ⟨c :: s.done, none, s.unpaired || s.high.isSome⟩

/-- An escaped UTF-16 code unit follows. -/
def TextState.pushUnit (s : TextState) (n : Nat) : TextState :=
  if 0xDC00 ≤ n ∧ n ≤ 0xDFFF then
    match s.high with
    | some h => ⟨Char.ofNat ((h - 0xD800) * 0x400 + (n - 0xDC00) + 0x10000) :: s.done, none, s.unpaired⟩
    | none => { s with unpaired := true }
  else if 0xD800 ≤ n ∧ n ≤ 0xDBFF then ⟨s.done, some n, s.unpaired || s.high.isSome⟩
  else s.push (Char.ofNat n)

/-- The text of a complete string. -/
def TextState.quoted (s : TextState) : Quoted :=
  if s.unpaired || s.high.isSome then none else some (String.ofList s.done.reverse)

/-- The character that a one-letter escape stands for. -/
def escaped? : Char → Option Char
  | '"' => some '"'
  | '\\' => some '\\'
  | '/' => some '/'
  | 'b' => some '\x08'
  | 'f' => some '\x0c'
  | 'n' => some '\n'
  | 'r' => some '\r'
  | 't' => some '\t'
  | _ => none

def hexValue? (c : Char) : Option Nat :=
  if '0' ≤ c ∧ c ≤ '9' then some (c.toNat - '0'.toNat)
  else if 'a' ≤ c ∧ c ≤ 'f' then some (c.toNat - 'a'.toNat + 10)
  else if 'A' ≤ c ∧ c ≤ 'F' then some (c.toNat - 'A'.toNat + 10)
  else none

/-- One step of the automaton. -/
def step : State → Char → Step
  | .between, c => start c
  | .word due rest t, c =>
    if c ≠ due then malformed
    else match rest with
      | [] => ⟨[t], .inl .between⟩
      | next :: rest => ⟨[], .inl (.word next rest t)⟩
  | .number part l, c => numberStep part l c
  | .text s, c =>
    if c = '"' then ⟨[.text s.quoted], .inl .between⟩
    else if c = '\\' then ⟨[], .inl (.escape s)⟩
    else if c.toNat < 0x20 then malformedText
    else ⟨[], .inl (.text (s.push c))⟩
  | .escape s, c =>
    if c = 'u' then ⟨[], .inl (.unit s 0 (some 0))⟩
    else match escaped? c with
      | some e => ⟨[], .inl (.text (s.push e))⟩
      | none => malformedText
  | .unit s seen value, c =>
    let seen := seen + c.utf8Size
    let value := (hexValue? c).bind fun d => value.map fun n => 16 * n + d
    if seen < 4 then ⟨[], .inl (.unit s seen value)⟩
    else match value with
      | some n => ⟨[], .inl (.text (s.pushUnit n))⟩
      | none => malformedText

/-- What the end of the text makes of a string under way. -/
def cutText (s : TextState) : Token :=
  .brokenText ⟨if s.unpaired then .malformed else .eof, .eof⟩

/-- The tokens that the end of the text completes. -/
def finish : State → List Token
  | .between => []
  | .word .. => [.broken (.plain .eof)]
  | .number part l =>
    match part with
    | .zero | .whole | .fraction | .exponentDigits => [.number l]
    | _ => [.broken ⟨.eof, .malformed⟩]
  | .text s => [cutText s]
  | .escape s => [cutText s]
  | .unit s _ _ => [cutText s]

/-- Runs the automaton over a text. -/
def run : State → List Char → List Token
  | s, [] => finish s
  | s, c :: cs =>
    let r := step s c
    match r.next with
    | .inl next => r.tokens ++ run next cs
    | .inr last => r.tokens ++ [last]

/-- The tokens of a text, up to the first that is broken. -/
def ofChars (cs : List Char) : List Token := run .between cs

end Token

end Meteogram.Json
