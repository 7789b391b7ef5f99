/-
# Parsing what has been written

The documents that the library writes are read back as they are: `parse_render`. It holds of
`Writable` documents, which break off nowhere, have only texts for keys, and hold no other
numbers than whole ones.

`Spells` is what carries the induction over a document. The parser keeps the containers that
are open on a stack, so a value is spelled by tokens that lead from awaiting a value to
having it, whatever the stack. The items of a list and the entries of a map do so one after
the other, up to the bracket that takes the container off the stack.
-/

import Payslip.Json.Parsing
import Payslip.Proofs.Json.Token

namespace Payslip.Json

open Payslip.Text Payslip.Reading

/-- Documents as the library writes them. -/
inductive Writable : Document → Prop
  | null : Writable .null
  | bool (value : Bool) : Writable (.bool value)
  | ofInt (n : Int) : Writable (.ofInt n)
  | ofText (text : String) : Writable (.ofText text)
  | ofList {items : List Document} (each : ∀ item ∈ items, Writable item) :
      Writable (.ofList items)
  | ofFields {fields : List (String × Document)} (each : ∀ field ∈ fields, Writable field.2) :
      Writable (.ofFields fields)

/-- The tokens lead from awaiting a value to having the document. -/
structure Assembles (found : List Token) (document : Document) : Prop where
  starts : ∃ first others, found = first :: others ∧ first ≠ .closeList
  assemble_eq : ∀ outer rest,
    assemble .value outer (found ++ rest) = assemble (.sequel document) outer rest

theorem Assembles.single {first : Token} {document : Document} (opens : first ≠ .closeList)
    (made : ∀ outer rest,
      assemble .value outer (first :: rest) = assemble (.sequel document) outer rest) :
    Assembles [first] document :=
  ⟨⟨first, [], rfl, opens⟩, made⟩

/-- The characters are cut into tokens that are put together to the document. -/
def Spells (chars : List Char) (document : Document) : Prop :=
  ∃ found, Cuts chars found ∧ Assembles found document

namespace Spells

/-! ## Values of a single token -/

theorem single {c : Char} {chars : List Char} {document : Document} (first : Token)
    (visible : isSpace (some c) = false) (known : first ≠ .broken) (opens : first ≠ .closeList)
    (cut : ∀ rest, Closes rest → token ((c :: chars).map some ++ rest) = (first, rest))
    (made : ∀ outer rest,
      assemble .value outer (first :: rest) = assemble (.sequel document) outer rest) :
    Spells (c :: chars) document := by
  have cuts : Cuts (c :: chars ++ []) [first] := .prepend chars visible known cut .nil
  rw [List.append_nil] at cuts
  exact ⟨[first], cuts, .single opens made⟩

theorem null : Spells ['n', 'u', 'l', 'l'] .null :=
  single .null rfl (by decide) (by decide) (fun _ _ => rfl) fun _ _ => rfl

theorem bool (value : Bool) : Spells (renderChars (.bool value)) (.bool value) := by
  cases value with
  | false =>
      exact single (.bool false) rfl (by decide) (by decide) (fun _ _ => rfl)
        fun _ _ => rfl
  | true =>
      exact single (.bool true) rfl (by decide) (by decide) (fun _ _ => rfl)
        fun _ _ => rfl

theorem ofText (text : String) : Spells (renderText text) (.ofText text) :=
  single (.text (some text)) rfl (by simp) (by simp)
    (fun rest _ => token_renderText text rest) fun _ _ => rfl

theorem ofInt (n : Int) : Spells (renderChars (.ofInt n)) (.ofInt n) := by
  have read := fun rest (closes : Closes rest) => token_renderNumber n closes
  obtain ⟨c, others, spelled, start⟩ := exists_cons_renderNumber n
  rw [spelled] at read
  show Spells (renderNumber _) _
  rw [spelled]
  exact single _ (isSpace_of_start start) (by simp) (by simp) read fun _ _ => rfl

/-! ## Lists -/

/-- Items that follow each other up to the closing bracket are added to those that are there. -/
theorem items {document : Document} {others : List Document}
    (each : ∀ item ∈ document :: others, Spells (renderChars item) item) :
    ∃ found, Cuts (renderItems (document :: others) ++ [']']) found ∧
      (∃ first later, found = first :: later ∧ first ≠ .closeList) ∧
      ∀ done outer rest, assemble .value (.list done :: outer) (found ++ rest) =
        assemble (.sequel (.list .json (done.reverse ++ document :: others) true)) outer rest := by
  induction others generalizing document with
  | nil =>
      obtain ⟨front, cuts, spelled⟩ := each document List.mem_cons_self
      obtain ⟨first, later, rfl, opens⟩ := spelled.starts
      refine ⟨first :: later ++ [.closeList], ?_, ⟨first, later ++ [.closeList], rfl, opens⟩, ?_⟩
      · exact cuts.append_closer ']' .closeList (by decide) (by decide) rfl fun _ => rfl
      · intro done outer rest
        rw [List.append_assoc, spelled.assemble_eq, List.singleton_append, assemble,
          List.reverse_cons]
  | cons next others ih =>
      obtain ⟨front, cuts, spelled⟩ := each document List.mem_cons_self
      obtain ⟨first, later, rfl, opens⟩ := spelled.starts
      obtain ⟨found, behind, -, onward⟩ :=
        ih fun item listed => each item (List.mem_cons_of_mem document listed)
      refine ⟨first :: later ++ .comma :: found, ?_, ⟨first, _, rfl, opens⟩, ?_⟩
      · rw [renderItems, List.append_assoc, List.cons_append]
        · exact cuts.append (behind.mark ',' .comma rfl (by decide) fun _ => rfl)
            fun _ => .cons (by decide) _
        · simp
      · intro done outer rest
        rw [List.append_assoc, spelled.assemble_eq, List.cons_append, assemble, onward]
        simp

theorem ofList {contents : List Document}
    (each : ∀ item ∈ contents, Spells (renderChars item) item) :
    Spells (renderChars (.ofList contents)) (.ofList contents) := by
  rw [Document.ofList, renderChars, List.cons_append]
  cases contents with
  | nil =>
      refine ⟨[.openList, .closeList], ?_, ⟨_, _, rfl, by decide⟩, fun _ _ => rfl⟩
      have closed := Cuts.nil.mark ']' .closeList rfl (by decide) fun _ => rfl
      exact closed.mark '[' .openList rfl (by decide) fun _ => rfl
  | cons document others =>
      obtain ⟨found, cuts, ⟨first, later, rfl, opens⟩, made⟩ := items each
      refine ⟨.openList :: first :: later, ?_, ⟨_, _, rfl, by decide⟩, ?_⟩
      · exact cuts.mark '[' .openList rfl (by decide) fun _ => rfl
      · intro outer rest
        rw [List.cons_append, List.cons_append, assemble]
        · exact made [] outer rest
        · intro beyond same
          cases same
          exact opens rfl

/-! ## Maps -/

/-- The fields as entries of a map. -/
def entries (fields : List (String × Document)) : List (Option String × Document) :=
  fields.map fun field => (some field.1, field.2)

/-- Entries that follow each other up to the closing brace are added to those that are there. The
key of the first one has been read. -/
theorem fields {field : String × Document} {others : List (String × Document)}
    (each : ∀ listed ∈ field :: others, Spells (renderChars listed.2) listed.2) :
    ∃ found, Cuts (renderEntries (entries (field :: others)) ++ ['\x7d'])
        (.text (some field.1) :: .colon :: found) ∧
      ∀ done outer rest, assemble .value (.map done (some field.1) :: outer) (found ++ rest) =
        assemble (.sequel (.map .json (done.reverse ++ entries (field :: others)) true none))
          outer rest := by
  induction others generalizing field with
  | nil =>
      obtain ⟨front, cuts, spelled⟩ := each field List.mem_cons_self
      refine ⟨front ++ [.closeMap], ?_, ?_⟩
      · exact (cuts.key field.1).append_closer '\x7d' .closeMap (by decide) (by decide) rfl
          fun _ => rfl
      · intro done outer rest
        rw [List.append_assoc, spelled.assemble_eq, List.singleton_append, assemble,
          List.reverse_cons]
        rfl
  | cons next others ih =>
      obtain ⟨front, cuts, spelled⟩ := each field List.mem_cons_self
      obtain ⟨found, behind, onward⟩ :=
        ih fun later listed => each later (List.mem_cons_of_mem field listed)
      refine ⟨front ++ .comma :: .text (some next.1) :: .colon :: found, ?_, ?_⟩
      · have more := (cuts.key field.1).append
          (behind.mark ',' .comma rfl (by decide) fun _ => rfl) fun _ => .cons (by decide) _
        simpa [entries, renderEntries] using more
      · intro done outer rest
        rw [List.append_assoc, spelled.assemble_eq, List.cons_append, List.cons_append,
          List.cons_append, assemble, onward]
        simp [entries, entry, Document.entry]

theorem ofFields {contents : List (String × Document)}
    (each : ∀ field ∈ contents, Spells (renderChars field.2) field.2) :
    Spells (renderChars (.ofFields contents)) (.ofFields contents) := by
  rw [Document.ofFields, renderChars, List.cons_append]
  cases contents with
  | nil =>
      refine ⟨[.openMap, .closeMap], ?_, ⟨_, _, rfl, by decide⟩, fun _ _ => rfl⟩
      have closed := Cuts.nil.mark '\x7d' .closeMap rfl (by decide) fun _ => rfl
      exact closed.mark '\x7b' .openMap rfl (by decide) fun _ => rfl
  | cons field others =>
      obtain ⟨found, cuts, made⟩ := fields each
      refine ⟨.openMap :: .text (some field.1) :: .colon :: found, ?_, ⟨_, _, rfl, by decide⟩, ?_⟩
      · exact cuts.mark '\x7b' .openMap rfl (by decide) fun _ => rfl
      · intro outer rest
        rw [List.cons_append, List.cons_append, List.cons_append, assemble]
        exact made [] outer rest

end Spells

/-! ## Documents -/

theorem spells_of_writable {document : Document} (writable : Writable document) :
    Spells (renderChars document) document := by
  induction writable with
  | null => exact .null
  | bool value => exact .bool value
  | ofInt n => exact .ofInt n
  | ofText text => exact .ofText text
  | ofList _ ih => exact .ofList ih
  | ofFields _ ih => exact .ofFields ih

/-- Parsing what has been written gives the document that was written, and leaves nothing over. -/
theorem parse_render {document : Document} (writable : Writable document) :
    parse (Source.ofString (render document)) = ⟨document, true⟩ := by
  obtain ⟨found, cuts, spelled⟩ := spells_of_writable writable
  have source : Source.ofString (render document) = (renderChars document).map some := by
    simp [Source.ofString, render]
  have cut : tokens ((renderChars document).map some) = found := by
    have room : ((renderChars document).map some).length + 1 =
        ((renderChars document).length - found.length + 1) + found.length := by
      have shorter := cuts.length_le
      rw [List.length_map]
      omega
    have all := cuts.cut [] ((renderChars document).length - found.length + 1) [] .nil
    rw [List.append_nil, List.append_nil] at all
    rw [tokens, room, all, tokensFrom, List.dropWhile_nil]
    exact List.reverse_reverse found
  have made : assemble .value [] found = (document, []) := by
    have all := spelled.assemble_eq [] []
    rwa [List.append_nil] at all
  rw [parse, source, cut, made]
  rfl

end Payslip.Json
