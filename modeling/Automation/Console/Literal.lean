import Automation.Number.Power
import Automation.Text.Numeral

/-!
This module contains the literal values that the parameters of a handler may be: numbers, texts,
constants, and tuples, sets and dictionaries of them. Only whether a text is a literal matters, so a
value is no more than what decides that. A text is cut into tokens, and a machine that keeps the
brackets that are open is fed with them.
-/

namespace Automation.Console.Literal

inductive Number where
  | integer (n : Nat)
  | real
  | imaginary
  deriving Repr, DecidableEq

inductive Token where
  | openBracket
  | closeBracket
  | openBrace
  | closeBrace
  | comma
  | colon
  | sign
  | number (n : Number)
  | text (bytes : Bool)
  | constant
  | setWord
  | newLine
  | malformed
  deriving Repr, DecidableEq

/-! Numbers -/

def takeRun (isDigit : Char → Bool) : List Char → List Char × List Char
  | [] => ([], [])
  | c :: '_' :: d :: cs =>
    if isDigit c && isDigit d then (takeRun isDigit (d :: cs)).map (c :: ·) id
    else if isDigit c then ([c], '_' :: d :: cs)
    else ([], c :: '_' :: d :: cs)
  | c :: cs => if isDigit c then (takeRun isDigit cs).map (c :: ·) id else ([], c :: cs)

def isDecimal (c : Char) : Bool :=
  c.isDigit

def isWordPart (c : Char) : Bool :=
  c.isAlphanum || c == '_' || 0x80 ≤ c.toNat

def digitValue (c : Char) : Nat :=
  if c.isDigit then c.toNat - 0x30 else c.toLower.toNat - 0x57

def isDigitOf (base : Nat) (c : Char) : Bool :=
  (c.isDigit || ('a' ≤ c.toLower && c.toLower ≤ 'f')) && digitValue c < base

def base? (c : Char) : Option Nat :=
  match c.toLower with
  | 'x' => some 16
  | 'o' => some 8
  | 'b' => some 2
  | _ => none

def takeBased (base : Nat) (cs : List Char) : Option (Number × List Char) :=
  -- A low line may come first.
  let (digits, rest) := takeRun (isDigitOf base) (if cs.head? == some '_' then cs.drop 1 else cs)
  if digits.isEmpty then none
  else some (.integer (digits.foldl (fun n c => base * n + digitValue c) 0), rest)

def takePower : List Char → Bool × List Char
  | [] => (false, [])
  | e :: cs =>
    if e == 'e' || e == 'E' then
      let digits := if cs.head? == some '+' || cs.head? == some '-' then cs.drop 1 else cs
      match takeRun isDecimal digits with
      | ([], _) => (false, e :: cs)
      | (_, rest) => (true, rest)
    else (false, e :: cs)

def wholeNumber? (digits : List Char) : Option Number :=
  if digits.all (· == '0') then some (.integer 0)
  else if digits.head? == some '0' || digits.length > Text.maxDigits then none
  else some (.integer (Text.digitsValue digits))

def takeDecimal (cs : List Char) : Option (Number × List Char) := do
  let (whole, rest) := takeRun isDecimal cs
  let (hasPoint, fraction, rest) :=
    match rest with
    | '.' :: rest =>
      let (fraction, rest) := takeRun isDecimal rest
      (true, fraction, rest)
    | rest => (false, [], rest)
  if whole.isEmpty && fraction.isEmpty then none
  else
    let (hasPower, rest) := takePower rest
    match rest with
    | c :: after =>
      if c == 'j' || c == 'J' then return (.imaginary, after)
      else if hasPoint || hasPower then return (.real, rest)
      else return (← wholeNumber? whole, rest)
    | [] => if hasPoint || hasPower then return (.real, []) else return (← wholeNumber? whole, [])

def takeNumber (cs : List Char) : Option (Number × List Char) := do
  let (n, rest) ←
    match cs with
    | '0' :: c :: rest =>
      match base? c with
      | some base => takeBased base rest
      | none => takeDecimal cs
    | cs => takeDecimal cs
  if rest.head?.any isWordPart then none else return (n, rest)

/-! Texts -/

def isQuote (c : Char) : Bool :=
  c == '\'' || c == '"'

def textKind? (letters : List Char) : Option (Bool × Bool) :=
  match letters.map (·.toLower) with
  | [] => some (false, false)
  | ['u'] => some (false, false)
  | ['r'] => some (true, false)
  | ['b'] => some (false, true)
  | ['r', 'b'] => some (true, true)
  | ['b', 'r'] => some (true, true)
  | _ => none

def takeBody (quote : Char) (triple : Bool) : List Char → Option (List Char × List Char)
  | [] => none
  | '\\' :: c :: cs => (takeBody quote triple cs).map fun (body, rest) => ('\\' :: c :: body, rest)
  | c :: cs =>
    if c = quote && (!triple || [quote, quote].isPrefixOf cs) then
      some ([], if triple then cs.drop 2 else cs)
    else if c = '\n' && !triple then none
    else (takeBody quote triple cs).map fun (body, rest) => (c :: body, rest)

def hexDigits? (count : Nat) (cs : List Char) : Option Nat :=
  let digits := cs.take count
  if digits.length = count && digits.all (isDigitOf 16) then
    some (digits.foldl (fun n c => 16 * n + digitValue c) 0)
  else none

def escapesFit (bytes : Bool) : List Char → Bool
  | [] => true
  | '\\' :: c :: cs =>
    (if c = 'x' then (hexDigits? 2 cs).isSome
      else if bytes then true
      else if c = 'u' then (hexDigits? 4 cs).isSome
      else if c = 'U' then (hexDigits? 8 cs).any (· ≤ 0x10FFFF)
      else if c = 'N' then cs.head? == some '\x7b' && (cs.drop 1).takeWhile (· != '\x7d') != []
        && cs.contains '\x7d'
      else true) && escapesFit bytes cs
  | _ :: cs => escapesFit bytes cs

def takeText (raw bytes : Bool) : List Char → Option (Token × List Char)
  | [] => none
  | quote :: cs => do
    let triple := [quote, quote].isPrefixOf cs
    let (body, rest) ← takeBody quote triple (if triple then cs.drop 2 else cs)
    if (raw || escapesFit bytes body) && (!bytes || body.all fun c => c.toNat < 0x80) then
      return (.text bytes, rest)
    else none

/-! Tokens -/

def wordToken (word : List Char) : Token :=
  if ["True", "False", "None"].contains (String.ofList word) then .constant
  else if word = "set".toList then .setWord
  else .malformed

def markToken? (c : Char) : Option Token :=
  match c with
  | '(' => some .openBracket
  | ')' => some .closeBracket
  | '\x7b' => some .openBrace
  | '\x7d' => some .closeBrace
  | ',' => some .comma
  | ':' => some .colon
  | '+' => some .sign
  | '-' => some .sign
  | '\n' => some .newLine
  | _ => none

def takeToken (cs : List Char) : List Token × List Char :=
  let letters := cs.takeWhile isWordPart
  let rest := cs.drop letters.length
  let (first, after) := (cs.head?.getD ' ', cs.drop 1)
  if rest.head?.any isQuote then
    match (textKind? letters).bind fun (raw, bytes) => takeText raw bytes rest with
    | some (token, rest) => ([token], rest)
    | none => ([.malformed], [])
  else if first.isDigit || (first == '.' && after.head?.any (·.isDigit)) then
    match takeNumber cs with
    | some (n, rest) => ([.number n], rest)
    | none => ([.malformed], [])
  else if !letters.isEmpty then ([wordToken letters], rest)
  else if ['.', '.', '.'].isPrefixOf cs then ([.constant], cs.drop 3)
  else if first == ' ' || first == '\t' || first == '\x0c' then ([], after)
  else if first == '#' then ([], after.dropWhile (· != '\n'))
  else if ['\\', '\n'].isPrefixOf cs then ([], cs.drop 2)
  else
    match markToken? first with
    | some token => ([token], after)
    | none => ([.malformed], [])

def tokens (cs : List Char) : List Token :=
  go 0 cs
where
  -- The next `skip` characters belong to the last token.
  go (skip : Nat) : List Char → List Token
    | [] => []
    | c :: cs =>
      match skip with
      | skip + 1 => go skip cs
      | 0 =>
        let (found, rest) := takeToken (c :: cs)
        found ++ go (cs.length - rest.length) cs

/-! Values -/

inductive Value where
  | number (n : Number)
  | signed (n : Number)
  | other (hashable : Bool)
  deriving Repr, DecidableEq

def Value.isHashable : Value → Bool
  | other hashable => hashable
  | _ => true

inductive Part where
  | nothing
  | sign
  | value (v : Value)
  | texts (bytes : Bool)
  | sum
  | setWord
  | setCall
  deriving Repr, DecidableEq

def realBound : Nat := twoTo 1024 - twoTo 970

def Number.isSummand : Number → Bool
  | integer n => n < realBound
  | real => true
  | imaginary => false

def Part.supply : Part → Value → Option Part
  | nothing, v => some (.value v)
  | sign, .number n => some (.value (.signed n))
  | sum, .number .imaginary => some (.value (.other true))
  | _, _ => none

def Part.addSign : Part → Option Part
  | nothing => some sign
  | value (.number n) => if n.isSummand then some sum else none
  | value (.signed n) => if n.isSummand then some sum else none
  | _ => none

def Part.addText (bytes : Bool) : Part → Option Part
  | nothing => some (texts bytes)
  | texts others => if others = bytes then some (texts bytes) else none
  | _ => none

def Part.toValue? : Part → Option Value
  | value v => some v
  | texts _ => some (.other true)
  | _ => none

inductive Content where
  | items (count : Nat) (hashable : Bool)
  | entries (keyed : Bool)
  deriving Repr, DecidableEq

structure Frame where
  isBrace : Bool
  content : Content
  before : Part
  deriving Repr, DecidableEq

/-- The state of the machine: what was read last, within the content of a frame, and the frames
that are open, the innermost first. -/
structure Reader where
  last : Part := .nothing
  isBrace : Bool := false
  content : Content := .items 0 true
  outer : List Frame := []
  ended : Bool := false
  deriving Repr, DecidableEq

def maxDepth : Nat := 200

namespace Reader

def isFresh (r : Reader) : Bool :=
  r.content = .items 0 true && r.last = .nothing

def openFrame (r : Reader) (isBrace : Bool) : Option Reader :=
  match r.last with
  | .setWord => if isBrace then none else some { r with last := .setCall }
  | .nothing | .sign | .sum =>
    if r.outer.length < maxDepth then
      some {
        isBrace
        outer := ⟨r.isBrace, r.content, r.last⟩ :: r.outer }
    else none
  | _ => none

def endItem (r : Reader) : Option Reader := do
  let v ← r.last.toValue?
  match r.content with
  | .items count hashable =>
    if r.isBrace && !v.isHashable then none
    else
      return { r with
        last := .nothing
        content := .items (count + 1) (hashable && v.isHashable) }
  | .entries keyed =>
    if keyed then return { r with last := .nothing, content := .entries false } else none

def endKey (r : Reader) : Option Reader := do
  let v ← r.last.toValue?
  let fresh := r.content = .items 0 true || r.content = .entries false
  if r.isBrace && fresh && v.isHashable then
    return { r with last := .nothing, content := .entries true }
  else none

def toValue? (r : Reader) : Option Value :=
  match r.content, r.last with
  | .items 0 _, .nothing => some (.other (!r.isBrace))
  | .items _ hashable, .nothing => some (.other (hashable && !r.isBrace))
  | .entries false, .nothing => some (.other false)
  | .items 0 _, last =>
    if r.isBrace then
      last.toValue?.bind fun v => if v.isHashable then some (.other false) else none
    else last.toValue?
  | _, _ =>
    r.endItem.map fun r =>
      match r.content with
      | .items _ hashable => .other (hashable && !r.isBrace)
      | .entries _ => .other false

def closeFrame (r : Reader) (isBrace : Bool) : Option Reader :=
  if r.last = .setCall then
    if isBrace then none else some { r with last := .value (.other false) }
  else
    match r.outer with
    | [] => none
    | frame :: outer => do
      if r.isBrace != isBrace then none
      else
        let v ← r.toValue?
        return {
          last := ← frame.before.supply v
          isBrace := frame.isBrace
          content := frame.content
          outer }

def step (r : Reader) (token : Token) : Option Reader :=
  if r.last = .setCall && token != .closeBracket && token != .newLine then none
  else if r.ended && token != .newLine then none
  else
    match token with
    | .openBracket => r.openFrame false
    | .closeBracket => r.closeFrame false
    | .openBrace => r.openFrame true
    | .closeBrace => r.closeFrame true
    | .comma => r.endItem
    | .colon => r.endKey
    | .sign => (r.last.addSign).map fun last => { r with last }
    | .number n => (r.last.supply (.number n)).map fun last => { r with last }
    | .text bytes => (r.last.addText bytes).map fun last => { r with last }
    | .constant => (r.last.supply (.other true)).map fun last => { r with last }
    | .setWord => if r.last = .nothing then some { r with last := .setWord } else none
    | .newLine =>
      if r.outer.isEmpty && r.last != .setCall && !r.isFresh then some { r with ended := true }
      else some r
    | .malformed => none

def isComplete (r : Reader) : Bool :=
  r.outer.isEmpty && r.last != .setCall && !r.isFresh && r.toValue?.isSome

end Reader

def unifyLines : List Char → List Char
  | [] => []
  | '\r' :: '\n' :: cs => '\n' :: unifyLines cs
  | '\r' :: cs => '\n' :: unifyLines cs
  | c :: cs => c :: unifyLines cs

def isIndented (cs : List Char) : Bool :=
  go false false cs
where
  -- `indented` and `comment` tell what came before on the line.
  go (indented comment : Bool) : List Char → Bool
    | [] => false
    | c :: cs =>
      if c = '\n' then go false false cs
      else if comment then go indented true cs
      else if c = ' ' || c = '\t' then go true false cs
      else if c = '\x0c' then go false false cs
      else if c = '#' then go indented true cs
      else indented

end Automation.Console.Literal

namespace Automation.Console

def isLiteral (cs : List Char) : Bool :=
  let cs := Literal.unifyLines cs
  !cs.contains '\x00' && !Literal.isIndented cs &&
    ((Literal.tokens cs).foldlM Literal.Reader.step {}).any Literal.Reader.isComplete

end Automation.Console
