/-
# The document of a JSON text

Tokens are put together to a document with a stack of the containers that are open, so that
depth costs nothing. Where a token does not fit, the document ends: what has been read stays in
its containers, which are left open.
-/

import Payslip.Json.Token

namespace Payslip.Json

open Payslip.Text Payslip.Reading

/-- A container that is open: what it holds so far, latest first, and for a map the key whose
value comes next. -/
inductive Frame
  | list (items : List Document)
  | map (entries : List (Option String × Document)) (key : Option String)

/-- An entry of a map whose key is a text in the document. -/
def entry (key : Option String) (value : Document) : Option String × Document :=
  Document.entry (.text key) value

/-- Leaves all open containers as they are, around what has been read last. -/
def leaveOpen (inner : Document) : List Frame → Document
  | [] => inner
  | .list items :: outer => leaveOpen (.list .json (inner :: items).reverse false) outer
  | .map entries key :: outer =>
    leaveOpen (.map .json (entry key inner :: entries).reverse false none) outer

/-- What a token that stands in the place of a key begins. -/
def strayKey : Token → Document
  | .null => .null
  | .bool value => .bool value
  | .number number => .number number
  | .openList => .list .json [] false
  | .openMap => .map .json [] false none
  | _ => .broken

/-- What comes next: a value, or what follows the given one. -/
inductive Awaited
  | value
  | sequel (value : Document)

/-- Puts tokens together, inside of the given open containers. The result is the document and the
tokens behind it. -/
def assemble : Awaited → List Frame → List Token → Document × List Token
  | .value, outer, .null :: rest => assemble (.sequel .null) outer rest
  | .value, outer, .bool value :: rest => assemble (.sequel (.bool value)) outer rest
  | .value, outer, .number number :: rest => assemble (.sequel (.number number)) outer rest
  | .value, outer, .text content :: rest => assemble (.sequel (.text content)) outer rest
  | .value, outer, .openList :: .closeList :: rest =>
    assemble (.sequel (.list .json [] true)) outer rest
  | .value, outer, .openList :: rest => assemble .value (.list [] :: outer) rest
  | .value, outer, .openMap :: .closeMap :: rest =>
    assemble (.sequel (.map .json [] true none)) outer rest
  | .value, outer, .openMap :: .text key :: .colon :: rest =>
    assemble .value (.map [] key :: outer) rest
  | .value, outer, .openMap :: .text key :: _ =>
    (leaveOpen (.map .json [entry key .broken] false none) outer, [])
  | .value, outer, .openMap :: stray :: _ =>
    (leaveOpen (.map .json [] false (some (strayKey stray))) outer, [])
  | .value, outer, .openMap :: [] =>
    (leaveOpen (.map .json [] false (some .broken)) outer, [])
  | .value, outer, _ => (leaveOpen .broken outer, [])
  | .sequel value, [], rest => (value, rest)
  | .sequel value, .list items :: outer, .comma :: rest =>
    assemble .value (.list (value :: items) :: outer) rest
  | .sequel value, .list items :: outer, .closeList :: rest =>
    assemble (.sequel (.list .json (value :: items).reverse true)) outer rest
  | .sequel value, .list items :: outer, _ =>
    (leaveOpen (.list .json (value :: items).reverse false) outer, [])
  | .sequel value, .map entries key :: outer, .comma :: .text next :: .colon :: rest =>
    assemble .value (.map (entry key value :: entries) next :: outer) rest
  | .sequel value, .map entries key :: outer, .comma :: .text next :: _ =>
    (leaveOpen
      (.map .json (entry next .broken :: entry key value :: entries).reverse false none) outer, [])
  | .sequel value, .map entries key :: outer, .closeMap :: rest =>
    assemble (.sequel (.map .json (entry key value :: entries).reverse true none)) outer rest
  | .sequel value, .map entries key :: outer, _ =>
    (leaveOpen (.map .json (entry key value :: entries).reverse false none) outer, [])

/-- The document at the start of a text, and whether nothing stands behind it. -/
def parse (source : Source) : Parsed :=
  let (document, rest) := assemble .value [] (tokens source)
  ⟨document, rest.isEmpty⟩

end Payslip.Json
