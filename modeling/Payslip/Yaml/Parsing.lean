/-
# The document of a YAML text

Block and flow lists and maps, and scalars with or without quotes. Where the tokens do not fit
together the document ends, and the lists and maps around that place are left open. Block scalars,
anchors, aliases, tags and directives are not taken up: a text ends at one of them as it does at a
mistake. Configurations that use them need another parser.
-/

import Payslip.Reading.Document
import Payslip.Yaml.Token

namespace Payslip.Yaml

open Payslip.Reading

/-- A part of a document, the tokens behind it, and whether it goes to its end. -/
structure Piece where
  document : Document
  rest : List Token
  whole : Bool

namespace Piece

/-- A part that goes to its end. -/
def done (document : Document) (rest : List Token) : Piece := ⟨document, rest, true⟩

/-- A part that breaks off. -/
def cut (document : Document) : Piece := ⟨document, [], false⟩

end Piece

/-- The value that nothing stands for. -/
def absent : Document := .plain ""

/-- A list, given its items latest first. -/
def listOf (items : List Document) (closed : Bool) : Document := .list .yaml items.reverse closed

/-- A map, given its entries latest first. -/
def mapOf (entries : List (Option String × Document)) (closed : Bool) : Document :=
  .map .yaml entries.reverse closed none

/-- Nothing stands for a key or value in front of this token. -/
def endsBlockItem : List Token → Bool
  | .entry :: _ | .key :: _ | .value :: _ | .blockEnd :: _ | [] => true
  | _ => false

mutual

/-- The part that begins with the first token. A list whose dashes are not indented may stand only
as a key or value of a block map. -/
def node (entriesAllowed : Bool) : (fuel : Nat) → List Token → Piece
  | 0, _ => .cut .broken
  | fuel + 1, tokens =>
    match tokens with
    | .plain text :: rest => .done (.plain text) rest
    | .quoted text :: rest => .done (.ofText text) rest
    | .blockListStart :: rest => blockList [] fuel rest
    | .blockMapStart :: rest => blockMap [] fuel rest
    | .flowListStart :: rest => flowList true [] fuel rest
    | .flowMapStart :: rest => flowMap true [] fuel rest
    | .entry :: _ => if entriesAllowed then bareList [] fuel tokens else .cut .broken
    | _ => .cut .broken

/-- The rest of a block list. -/
def blockList (items : List Document) : (fuel : Nat) → List Token → Piece
  | 0, _ => .cut (listOf items false)
  | fuel + 1, tokens =>
    match tokens with
    | .blockEnd :: rest => .done (listOf items true) rest
    | .entry :: rest =>
      match rest with
      | .entry :: _ | .blockEnd :: _ => blockList (absent :: items) fuel rest
      | _ =>
        let item := node false fuel rest
        if item.whole then blockList (item.document :: items) fuel item.rest
        else .cut (listOf (item.document :: items) false)
    | _ => .cut (listOf items false)

/-- The rest of a list whose dashes are not indented. -/
def bareList (items : List Document) : (fuel : Nat) → List Token → Piece
  | 0, _ => .cut (listOf items false)
  | fuel + 1, tokens =>
    match tokens with
    | .entry :: rest =>
      if endsBlockItem rest then bareList (absent :: items) fuel rest
      else
        let item := node false fuel rest
        if item.whole then bareList (item.document :: items) fuel item.rest
        else .cut (listOf (item.document :: items) false)
    | _ => .done (listOf items true) tokens

/-- The rest of a block map. -/
def blockMap (entries : List (Option String × Document)) : (fuel : Nat) → List Token → Piece
  | 0, _ => .cut (mapOf entries false)
  | fuel + 1, tokens =>
    match tokens with
    | .blockEnd :: rest => .done (mapOf entries true) rest
    | .key :: rest =>
      let key := blockItem fuel rest
      if !key.whole then .cut (mapOf ((none, key.document) :: entries) false)
      else
        match key.rest with
        | .value :: rest =>
          let value := blockItem fuel rest
          let entries := Document.entry key.document value.document :: entries
          if value.whole then blockMap entries fuel value.rest else .cut (mapOf entries false)
        | rest => blockMap (Document.entry key.document absent :: entries) fuel rest
    | _ => .cut (mapOf entries false)

/-- A key or value of a block map, which may be missing. -/
def blockItem : (fuel : Nat) → List Token → Piece
  | 0, _ => .cut .broken
  | fuel + 1, tokens =>
    match tokens with
    | .key :: _ | .value :: _ | .blockEnd :: _ => .done absent tokens
    | _ => node true fuel tokens

/-- The rest of a flow list. -/
def flowList (first : Bool) (items : List Document) : (fuel : Nat) → List Token → Piece
  | 0, _ => .cut (listOf items false)
  | fuel + 1, tokens =>
    match tokens with
    | .flowListEnd :: rest => .done (listOf items true) rest
    | .comma :: .flowListEnd :: rest =>
      if first then .cut (listOf items false) else .done (listOf items true) rest
    | .comma :: rest =>
      if first then .cut (listOf items false)
      else
        let item := flowItem fuel rest
        if item.whole then flowList false (item.document :: items) fuel item.rest
        else .cut (listOf (item.document :: items) false)
    | _ =>
      if !first then .cut (listOf items false)
      else
        let item := flowItem fuel tokens
        if item.whole then flowList false (item.document :: items) fuel item.rest
        else .cut (listOf (item.document :: items) false)

/-- An item of a flow list: a part, or one key with its value. -/
def flowItem : (fuel : Nat) → List Token → Piece
  | 0, _ => .cut .broken
  | fuel + 1, tokens =>
    match tokens with
    | .key :: rest =>
      let (key, value) := keyAndValue .flowListEnd fuel rest
      ⟨mapOf [Document.entry key value.document] value.whole, value.rest, value.whole⟩
    | _ => node false fuel tokens

/-- A key of a flow list or map and its value, each of which may be missing. -/
def keyAndValue (closing : Token) : (fuel : Nat) → List Token → Document × Piece
  | 0, _ => (.broken, .cut .broken)
  | fuel + 1, tokens =>
    let key := flowPart [.value, .comma, closing] fuel tokens
    if !key.whole then (key.document, .cut .broken)
    else
      match key.rest with
      | .value :: rest => (key.document, flowPart [.comma, closing] fuel rest)
      | rest => (key.document, .done absent rest)

/-- A key or a value in a flow list or map, which is missing in front of some tokens. -/
def flowPart (missingBefore : List Token) : (fuel : Nat) → List Token → Piece
  | 0, _ => .cut .broken
  | fuel + 1, tokens =>
    if tokens.head?.any missingBefore.contains then .done absent tokens
    else node false fuel tokens

/-- An entry of a flow map: a key with its value, or a part that stands for a key alone. -/
def flowEntry : (fuel : Nat) → List Token → Document × Piece
  | 0, _ => (.broken, .cut .broken)
  | fuel + 1, tokens =>
    match tokens with
    | .key :: rest => keyAndValue .flowMapEnd fuel rest
    | _ =>
      let key := node false fuel tokens
      (key.document, if key.whole then .done absent key.rest else .cut .broken)

/-- The rest of a flow map. -/
def flowMap (first : Bool) (entries : List (Option String × Document)) :
    (fuel : Nat) → List Token → Piece
  | 0, _ => .cut (mapOf entries false)
  | fuel + 1, tokens =>
    match tokens with
    | .flowMapEnd :: rest => .done (mapOf entries true) rest
    | .comma :: .flowMapEnd :: rest =>
      if first then .cut (mapOf entries false) else .done (mapOf entries true) rest
    | .comma :: rest =>
      if first then .cut (mapOf entries false)
      else
        let (key, value) := flowEntry fuel rest
        let entries := Document.entry key value.document :: entries
        if value.whole then flowMap false entries fuel value.rest else .cut (mapOf entries false)
    | _ =>
      if !first then .cut (mapOf entries false)
      else
        let (key, value) := flowEntry fuel tokens
        let entries := Document.entry key value.document :: entries
        if value.whole then flowMap false entries fuel value.rest else .cut (mapOf entries false)

end

/-- The character may stand in a text. -/
def isPrintable (c : Char) : Bool :=
  let n := c.toNat
  n == 0x09 || n == 0x0A || n == 0x0D || (0x20 ≤ n && n ≤ 0x7E) || n == 0x85 ||
    (0xA0 ≤ n && n ≤ 0xD7FF) || (0xE000 ≤ n && n ≤ 0xFFFD && n != 0xFEFF) || 0x10000 ≤ n

/-- The text with every line end written as one line feed. -/
def withLineFeeds : List Char → List Char
  | '\r' :: '\n' :: rest => '\n' :: withLineFeeds rest
  | '\r' :: rest | '\u0085' :: rest => '\n' :: withLineFeeds rest
  | c :: rest => c :: withLineFeeds rest
  | [] => []

/-- The tokens are those of a text that ends here. -/
def endsText (tokens : List Token) : Bool := tokens.all (· == .documentEnd)

/-- The document that the tokens begin with. -/
def parseNode (tokens : List Token) : Parsed :=
  let piece := node false (4 * tokens.length + 4) tokens
  ⟨piece.document, piece.whole && endsText piece.rest⟩

/-- The document of a text, which is nothing when the text is empty. A text with a character that
may not stand in it holds no document at all. -/
def parse (text : String) : Parsed :=
  let chars := match text.toList with
    | '\ufeff' :: rest => rest
    | chars => chars
  if !chars.all isPrintable then ⟨.broken, false⟩
  else
    match tokens (withLineFeeds chars) with
    | [] => ⟨absent, true⟩
    | .documentStart :: rest =>
      match rest with
      | [] | .documentStart :: _ | .documentEnd :: _ => ⟨absent, endsText rest⟩
      | _ => parseNode rest
    | tokens => parseNode tokens

end Payslip.Yaml
