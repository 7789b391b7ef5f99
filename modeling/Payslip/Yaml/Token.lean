/-
# The tokens of YAML

Nesting by indentation is made explicit: a block list or map begins with a token of its own where
its first line is indented more than what surrounds it, and ends with one where a line is indented
less. A scalar turns out to be a key only when a colon follows on its line, so the tokens for a
key are put in front of it afterwards.
-/

import Payslip.Yaml.Cursor

namespace Payslip.Yaml

/-- A token. -/
inductive Token
  | documentStart
  | documentEnd
  | blockListStart
  | blockMapStart
  | blockEnd
  | flowListStart
  | flowListEnd
  | flowMapStart
  | flowMapEnd
  | entry
  | comma
  | key
  | value
  | plain (text : String)
  | quoted (text : String)
  | broken
  deriving DecidableEq, Repr

/-- The start of what may turn out to be a key: how many tokens come before it, where it is, and how
much of the text was left there. -/
structure KeyCandidate where
  tokensBefore : Nat
  line : Nat
  column : Nat
  left : Nat
  /-- Nothing but a key may stand here. -/
  required : Bool

/-- The state of cutting a text into tokens. -/
structure Scanner where
  cursor : Cursor
  /-- The tokens so far, latest first. -/
  tokens : List Token
  /-- The indentation of the innermost block, and of those around it. -/
  indent : Int
  outer : List Int
  keyAllowed : Bool
  /-- The candidate outside of all flow lists and maps. -/
  candidate : Option KeyCandidate
  /-- The candidates of the flow lists and maps that are open, innermost first. -/
  flow : List (Option KeyCandidate)

namespace Scanner

/-- Nothing has been read yet. -/
def start (text : List Char) : Scanner :=
  ⟨⟨text, 0, 0⟩, [], -1, [], true, none, []⟩

/-- The scanner is inside of a flow list or map. -/
def inFlow (s : Scanner) : Bool := !s.flow.isEmpty

/-- The candidate that a colon would make a key now. -/
def current (s : Scanner) : Option KeyCandidate :=
  match s.flow with
  | candidate :: _ => candidate
  | [] => s.candidate

/-- Replaces the current candidate. -/
def setCurrent (s : Scanner) (candidate : Option KeyCandidate) : Scanner :=
  match s.flow with
  | _ :: flow => { s with flow := candidate :: flow }
  | [] => { s with candidate }

/-- Adds a token. -/
def push (s : Scanner) (token : Token) : Scanner := { s with tokens := token :: s.tokens }

/-- Moves on by so many characters. -/
def skip (s : Scanner) (n : Nat) : Scanner := { s with cursor := s.cursor.skip n }

/-- Puts a token in front of those behind the first `tokensBefore`. -/
def insert (s : Scanner) (tokensBefore : Nat) (token : Token) : Scanner :=
  let behind := s.tokens.length - tokensBefore
  { s with tokens := s.tokens.take behind ++ token :: s.tokens.drop behind }

/-- Gives the current candidate up, unless it has to be a key. -/
def dropCandidate (s : Scanner) : Option Scanner :=
  if s.current.any (·.required) then none else some (s.setCurrent none)

/-- Makes a candidate of what comes next, where a key is allowed. -/
def saveCandidate (s : Scanner) : Option Scanner :=
  if s.keyAllowed then do
    let s ← s.dropCandidate
    return s.setCurrent (some {
      tokensBefore := s.tokens.length
      line := s.cursor.line
      column := s.cursor.column
      left := s.cursor.rest.length
      required := !s.inFlow && s.indent == s.cursor.column })
  else some s

/-- Keys may have so many characters. -/
def keyLimit : Nat := 1024

/-- Gives candidates up that a colon would come too late for: behind their line, or too far away.
One that had to be a key is an error. -/
def expireCandidates (s : Scanner) : Option Scanner :=
  let left := s.cursor.rest.length
  let expired (candidate : Option KeyCandidate) : Bool :=
    candidate.any fun key => key.line < s.cursor.line || left + keyLimit < key.left
  let keep (candidate : Option KeyCandidate) : Option KeyCandidate :=
    if expired candidate then none else candidate
  if (s.candidate :: s.flow).any fun candidate => expired candidate && candidate.any (·.required)
  then none
  else some { s with candidate := keep s.candidate, flow := s.flow.map keep }

/-- Ends the blocks that are indented more than the column. -/
def unroll (s : Scanner) (column : Int) : Scanner :=
  if s.inFlow then s else go s.outer s
where
  /-- Ends one block after the other. -/
  go : List Int → Scanner → Scanner
    | [], s =>
      if column < s.indent then { s with tokens := .blockEnd :: s.tokens, indent := -1 } else s
    | indent :: outer, s =>
      if column < s.indent then
        go outer { s with tokens := .blockEnd :: s.tokens, indent, outer }
      else s

/-- Begins a block at a column that is indented more than the block around it. -/
def roll (s : Scanner) (column : Nat) (tokensBefore : Nat) (token : Token) : Scanner :=
  if !s.inFlow && s.indent < column then
    { s.insert tokensBefore token with indent := column, outer := s.indent :: s.outer }
  else s

/-- Reads a line that begins or ends a document. -/
def documentMark (s : Scanner) (token : Token) : Option Scanner := do
  let s ← (s.unroll (-1)).dropCandidate
  return { (s.skip 3).push token with keyAllowed := false }

/-- Opens a flow list or map. -/
def openFlow (s : Scanner) (token : Token) : Option Scanner := do
  let s ← s.saveCandidate
  return { (s.skip 1).push token with flow := none :: s.flow, keyAllowed := true }

/-- Closes a flow list or map. -/
def closeFlow (s : Scanner) (token : Token) : Option Scanner := do
  let s ← s.dropCandidate
  return { (s.skip 1).push token with flow := s.flow.drop 1, keyAllowed := false }

/-- Reads the comma between the items of a flow list or map. -/
def comma (s : Scanner) : Option Scanner := do
  let s ← s.dropCandidate
  return { (s.skip 1).push .comma with keyAllowed := true }

/-- Reads the dash in front of an item of a block list. -/
def entry (s : Scanner) : Option Scanner := do
  if !s.inFlow && !s.keyAllowed then none
  let s := s.roll s.cursor.column s.tokens.length .blockListStart
  let s ← s.dropCandidate
  return { (s.skip 1).push .entry with keyAllowed := true }

/-- Reads the question mark in front of a key. -/
def explicitKey (s : Scanner) : Option Scanner := do
  if !s.inFlow && !s.keyAllowed then none
  let s := s.roll s.cursor.column s.tokens.length .blockMapStart
  let s ← s.dropCandidate
  return { (s.skip 1).push .key with keyAllowed := !s.inFlow }

/-- Reads the colon in front of a value, and makes the candidate in front of it a key. -/
def value (s : Scanner) : Option Scanner :=
  match s.current with
  | some candidate =>
    let s := s.insert candidate.tokensBefore .key
    let s := s.roll candidate.column candidate.tokensBefore .blockMapStart
    some { ((s.setCurrent none).skip 1).push .value with keyAllowed := false }
  | none =>
    if !s.inFlow && !s.keyAllowed then none
    else
      let s := s.roll s.cursor.column s.tokens.length .blockMapStart
      some { (s.skip 1).push .value with keyAllowed := !s.inFlow }

/-- Reads a scalar. -/
def scalar (s : Scanner) (token : String → Token) (scan : Cursor → Option Scanned) :
    Option Scanner := do
  let s ← s.saveCandidate
  let scanned ← scan s.cursor
  return { s.push (token scanned.text) with
    cursor := scanned.cursor, keyAllowed := scanned.lineEnded }

/-- The character begins a scalar without quotes. -/
def beginsPlain (inFlow : Bool) (c : Char) (rest : List Char) : Bool :=
  if c == '-' then !startsBlank rest
  else if c == '?' || c == ':' then !inFlow && !startsBlank rest
  else !(isFlowMark c || "#&*!|>'\"%@".toList.contains c || c == '\x60' || isBlank c)

/-- Reads the next token, when the scanner stands at its first character. -/
def token (s : Scanner) (c : Char) (rest : List Char) : Option Scanner :=
  if atDocumentMark s.cursor.column (c :: rest) then
    s.documentMark (if c == '-' then .documentStart else .documentEnd)
  else if c == '[' then s.openFlow .flowListStart
  else if c == '\x7b' then s.openFlow .flowMapStart
  else if c == ']' then s.closeFlow .flowListEnd
  else if c == '\x7d' then s.closeFlow .flowMapEnd
  else if c == ',' then s.comma
  else if c == '-' && startsBlank rest then s.entry
  else if c == '?' && (s.inFlow || startsBlank rest) then s.explicitKey
  else if c == ':' && (s.inFlow || startsBlank rest) then s.value
  else if c == '\'' then s.scalar .quoted fun cursor => (cursor.skip 1).singleQuoted
  else if c == '"' then s.scalar .quoted fun cursor => (cursor.skip 1).doubleQuoted
  else if beginsPlain s.inFlow c rest then s.scalar .plain (·.plain s.inFlow (s.indent + 1))
  else none

/-- Ends all blocks at the end of the text. -/
def finish (s : Scanner) : Option Scanner := (s.unroll (-1)).dropCandidate

/-- The tokens that are known to be in their place: those in front of all candidates. -/
def settled (s : Scanner) : List Token :=
  let places := (s.candidate :: s.flow).filterMap fun key => key.map (·.tokensBefore)
  let count := places.foldl min s.tokens.length
  s.tokens.drop (s.tokens.length - count)

/-- The tokens of a text that breaks off here. What could still turn out to be a key is not
reported any more. -/
def breakOff (s : Scanner) : List Token := (.broken :: s.settled).reverse

/-- Reads the next token or finds the end of the text. -/
def step (s : Scanner) : Option (Scanner × Bool) := do
  let (cursor, keyAllowed) := s.cursor.skipGap s.inFlow s.keyAllowed
  let ready ← expireCandidates { s with cursor, keyAllowed }
  match cursor.rest with
  | [] => return (← ready.finish, true)
  | c :: rest => return (← (ready.unroll cursor.column).token c rest, false)

/-- Cuts a text into tokens. Every token takes at least one character, so `room` for as many as
there are characters is enough. -/
def run : (room : Nat) → Scanner → List Token
  | 0, s => s.breakOff
  | room + 1, s =>
    match s.step with
    | none => s.breakOff
    | some (done, true) => done.tokens.reverse
    | some (next, false) => run room next

end Scanner

/-- The tokens of a text. -/
def tokens (text : List Char) : List Token := (Scanner.start text).run (text.length + 1)

end Payslip.Yaml
