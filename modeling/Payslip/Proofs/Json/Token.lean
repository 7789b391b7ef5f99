/-
# Cutting what has been written

Writing a document leaves no space between its tokens, so a reader has to find their ends
by itself. This module says that it finds them: `Cuts` relates the characters that are
written to the tokens that a reader cuts them into, whatever it has cut before.

Only a number does not know its own end. Behind a value stands a comma, a closing
bracket or nothing, and `Closes` is what a number needs to know of it.
-/

import Payslip.Json.Printing
import Payslip.Json.Token
import Payslip.Proofs.Decimal.Text

namespace Payslip.Json

open Payslip.Text Payslip.Reading

/-! ## Texts -/

/-- A control character is spelled by its number. -/
theorem hexWord?_of_lt : ∀ n < 0x20,
    hexWord? (some '0') (some '0') (some (hexDigit (n / 16))) (some (hexDigit (n % 16))) =
      some n := by
  decide

theorem quoted_escaped {letter c : Char} (taken : List Char) (rest : Source)
    (known : escaped? letter = some c) (notNumber : letter ≠ 'u') :
    quoted (some taken) (some '\\' :: some letter :: rest) = quoted (some (c :: taken)) rest := by
  rw [quoted, known]
  · rfl
  · intro _ _ _ _ _ _ same
    exact notNumber same

/-- A character is read back from between quotes, escaped or not. -/
theorem quoted_escape (c : Char) (taken : List Char) (rest : Source) :
    quoted (some taken) ((escape c).map some ++ rest) = quoted (some (c :: taken)) rest := by
  unfold escape
  split
  · next quote => subst quote; exact quoted_escaped taken rest rfl (by decide)
  split
  · next backslash => subst backslash; exact quoted_escaped taken rest rfl (by decide)
  split
  · next backspace => subst backspace; exact quoted_escaped taken rest rfl (by decide)
  split
  · next feed => subst feed; exact quoted_escaped taken rest rfl (by decide)
  split
  · next newline => subst newline; exact quoted_escaped taken rest rfl (by decide)
  split
  · next carriage => subst carriage; exact quoted_escaped taken rest rfl (by decide)
  split
  · next tab => subst tab; exact quoted_escaped taken rest rfl (by decide)
  split
  · next control =>
    have high : isHighSurrogate c.toNat = false := by
      rw [isHighSurrogate, Bool.and_eq_false_iff]
      exact .inl (by simp only [decide_eq_false_iff_not]; omega)
    have low : isLowSurrogate c.toNat = false := by
      rw [isLowSurrogate, Bool.and_eq_false_iff]
      exact .inl (by simp only [decide_eq_false_iff_not]; omega)
    simp only [List.map_cons, List.map_nil, List.cons_append, List.nil_append]
    rw [quoted, hexWord?_of_lt _ control]
    simp [high, low, Char.ofNat_toNat]
  · next quote backslash _ _ _ _ _ control =>
    simp only [List.map_cons, List.map_nil, List.cons_append, List.nil_append]
    rw [quoted, if_neg control]
    · rfl
    · exact quote
    · intro _ _ _ _ _ _ same
      exact backslash same
    · intro _ _ _ same
      exact backslash same
    · exact backslash

theorem quoted_flatMap_escape (text taken : List Char) (rest : Source) :
    quoted (some taken) ((text.flatMap escape).map some ++ some '"' :: rest) =
      some (some (String.ofList (taken.reverse ++ text)), rest) := by
  induction text generalizing taken with
  | nil => simp [quoted]
  | cons c text ih =>
      rw [List.flatMap_cons, List.map_append, List.append_assoc, quoted_escape, ih]
      simp

theorem token_renderText (text : String) (rest : Source) :
    token ((renderText text).map some ++ rest) = (.text (some text), rest) := by
  have read := quoted_flatMap_escape text.toList [] rest
  simp only [renderText, List.cons_append, List.map_cons, List.map_append, List.map_nil,
    List.append_assoc, List.nil_append]
  rw [token, read]
  simp

/-! ## Whole numbers -/

/-- What may stand behind a value. -/
def closers : List Char := [',', ']', '\x7d']

/-- The source ends, or goes on with what may stand behind a value. -/
def Closes (rest : Source) : Prop := ∀ c ∈ rest.head?, ∃ closer ∈ closers, c = some closer

theorem not_isDigit_of_mem_closers : ∀ closer ∈ closers, isDigit closer = false := by
  simp [closers, isDigit, digit?]

theorem Closes.nil : Closes [] := by
  intro c first
  cases first

theorem Closes.cons {closer : Char} (closes : closer ∈ closers) (rest : Source) :
    Closes (some closer :: rest) := by
  intro c first
  cases first
  exact ⟨closer, closes, rfl⟩

variable {rest : Source}

/-- What closes a value is no part of a number. -/
theorem Closes.ne (closes : Closes rest) {c : Char} (inNumber : c ∉ closers) (beyond : Source) :
    rest ≠ some c :: beyond := by
  rintro rfl
  obtain ⟨closer, listed, same⟩ := closes (some c) rfl
  cases same
  exact inNumber listed

theorem digits_append {run : List Char} (each : ∀ c ∈ run, c.isDigit = true)
    (closes : Closes rest) : digits (run.map some ++ rest) = (run, rest) := by
  have inside : ∀ c ∈ run.map some, (c : Option Char).any isDigit = true := by
    intro c listed
    obtain ⟨d, digit, rfl⟩ := List.mem_map.mp listed
    exact isDigit_of_isDigit (each d digit)
  have stops : ∀ c ∈ rest.head?, ¬ Option.any isDigit c = true := by
    intro c first
    obtain ⟨closer, listed, rfl⟩ := closes c first
    simpa using not_isDigit_of_mem_closers closer listed
  have takes : rest.takeWhile (Option.any isDigit) = [] := by
    cases rest with
    | nil => rfl
    | cons c beyond => exact List.takeWhile_cons_of_neg (stops c rfl)
  have drops : rest.dropWhile (Option.any isDigit) = rest := by
    cases rest with
    | nil => rfl
    | cons c beyond => exact List.dropWhile_cons_of_neg (stops c rfl)
  rw [digits, List.takeWhile_append_of_pos inside, List.dropWhile_append_of_pos inside]
  simp [takes, drops, List.filterMap_map]

/-- The digits of a whole number do not start with a zero, unless there is nothing else. -/
theorem not_leadingZero_toDigits (n : Nat) :
    ((Nat.toDigits 10 n).isEmpty ||
      ((Nat.toDigits 10 n).head? == some '0' && Nat.toDigits 10 n != ['0'])) = false := by
  by_cases zero : n = 0
  · simp [zero]
  · have leading := head?_toDigits_ne_zero (Nat.pos_of_ne_zero zero)
    simp [leading]

theorem fraction_of_closes (closes : Closes rest) : fraction rest = some (none, rest) := by
  rw [fraction]
  intro beyond
  exact closes.ne (by decide) beyond

theorem exponent_of_closes (closes : Closes rest) : exponent rest = some (none, rest) := by
  rw [exponent]
  · intro beyond
    exact closes.ne (by decide) beyond
  · intro beyond
    exact closes.ne (by decide) beyond

/-- A whole number is read up to what may stand behind a value. -/
theorem number_renderNumber (n : Int) (closes : Closes rest) :
    number ((renderNumber ⟨n < 0, Nat.toDigits 10 n.natAbs, none, none⟩).map some ++ rest) =
      some (⟨n < 0, Nat.toDigits 10 n.natAbs, none, none⟩, rest) := by
  have each : ∀ c ∈ Nat.toDigits 10 n.natAbs, c.isDigit = true := fun c =>
    Nat.isDigit_of_mem_toDigits (by decide) (by decide)
  have cut := digits_append each closes
  have plain := not_leadingZero_toDigits n.natAbs
  by_cases negative : n < 0
  · simp only [negative, decide_true, renderNumber, if_true, List.append_nil, List.cons_append,
      List.nil_append, List.map_cons]
    rw [number, cut]
    simp only [plain, Bool.false_eq_true, if_false, fraction_of_closes closes,
      Option.bind_eq_bind, Option.bind_some, exponent_of_closes closes]
    rfl
  · simp only [negative, decide_false, renderNumber, Bool.false_eq_true, if_false,
      List.append_nil, List.nil_append]
    cases run : Nat.toDigits 10 n.natAbs with
    | nil => exact absurd run Nat.toDigits_ne_nil
    | cons c others =>
        rw [run] at cut plain
        have digit : c.isDigit = true := each c (by simp [run])
        rw [List.map_cons, List.cons_append] at cut ⊢
        rw [number, cut]
        · simp only [plain, Bool.false_eq_true, if_false, fraction_of_closes closes,
            Option.bind_eq_bind, Option.bind_some, exponent_of_closes closes]
          rfl
        · intro beyond same
          cases same
          cases digit

/-- A number starts with a minus or with a digit. -/
theorem exists_cons_renderNumber (n : Int) :
    ∃ c others, renderNumber ⟨n < 0, Nat.toDigits 10 n.natAbs, none, none⟩ = c :: others ∧
      (c = '-' ∨ c.isDigit = true) := by
  by_cases negative : n < 0
  · exact ⟨'-', Nat.toDigits 10 n.natAbs, by simp [negative, renderNumber], .inl rfl⟩
  · cases run : Nat.toDigits 10 n.natAbs with
    | nil => exact absurd run Nat.toDigits_ne_nil
    | cons c others =>
        refine ⟨c, others, by simp [negative, renderNumber], .inr ?_⟩
        exact Nat.isDigit_of_mem_toDigits (by decide) (by decide)
          (run ▸ List.mem_cons_self : c ∈ Nat.toDigits 10 n.natAbs)

theorem token_renderNumber (n : Int) (closes : Closes rest) :
    token ((renderNumber ⟨n < 0, Nat.toDigits 10 n.natAbs, none, none⟩).map some ++ rest) =
      (.number ⟨n < 0, Nat.toDigits 10 n.natAbs, none, none⟩, rest) := by
  have read := number_renderNumber n closes
  obtain ⟨c, others, spelled, start⟩ := exists_cons_renderNumber n
  rw [spelled, List.map_cons, List.cons_append] at read ⊢
  have notOther : ∀ d : Char, d ≠ '-' → d.isDigit = false → ∀ beyond,
      some c :: (others.map some ++ rest) ≠ some d :: beyond := by
    intro d noSign noDigit beyond same
    cases same
    rcases start with sign | digit
    · exact noSign sign
    · rw [noDigit] at digit
      cases digit
  rw [token, read]
  all_goals exact notOther _ (by decide) (by decide)

/-- A character that starts a number is no space. -/
theorem isSpace_of_start {c : Char} (start : c = '-' ∨ c.isDigit = true) :
    isSpace (some c) = false := by
  have visible : ∀ space : Char, space ≠ '-' → space.isDigit = false → c ≠ space := by
    rintro space noSign noDigit rfl
    rcases start with sign | digit
    · exact noSign sign
    · rw [noDigit] at digit
      cases digit
  simp [isSpace, visible ' ', visible '\n', visible '\t', visible '\r']

/-! ## Tokens one after the other -/

theorem tokensFrom_of_token {c : Char} {source behind : Source} {found : Token}
    (visible : isSpace (some c) = false) (cut : token (some c :: source) = (found, behind))
    (known : found ≠ .broken) (taken : List Token) (room : Nat) :
    tokensFrom taken (room + 1) (some c :: source) = tokensFrom (found :: taken) room behind := by
  have noSpace : (some c :: source).dropWhile isSpace = some c :: source :=
    List.dropWhile_cons_of_neg (by simp [visible])
  rw [tokensFrom, noSpace]
  simp only [cut]

/-- The characters are cut into the tokens, whatever has been cut before and whatever closes the
value behind them. -/
structure Cuts (chars : List Char) (found : List Token) : Prop where
  length_le : found.length ≤ chars.length
  cut : ∀ taken room rest, Closes rest →
    tokensFrom taken (room + found.length) (chars.map some ++ rest) =
      tokensFrom (found.reverse ++ taken) room rest

namespace Cuts

variable {chars others : List Char} {found later : List Token}

theorem nil : Cuts [] [] := ⟨Nat.le_refl 0, fun _ _ _ _ => rfl⟩

/-- A single token in front of others. -/
theorem prepend {c : Char} (chars : List Char) {first : Token} (visible : isSpace (some c) = false)
    (known : first ≠ .broken)
    (cut : ∀ rest, Closes rest →
      token ((c :: chars).map some ++ (others.map some ++ rest)) =
        (first, others.map some ++ rest))
    (behind : Cuts others later) : Cuts (c :: chars ++ others) (first :: later) := by
  constructor
  · have shorter := behind.length_le
    simp only [List.length_cons, List.length_append]
    omega
  · intro taken room rest closes
    have here := cut rest closes
    rw [List.map_cons, List.cons_append] at here
    rw [List.map_append, List.append_assoc, List.length_cons, ← Nat.add_assoc, List.map_cons,
      List.cons_append, tokensFrom_of_token visible here known, behind.cut _ _ _ closes]
    simp

/-- A bracket, a comma or a colon in front of others. -/
theorem mark (c : Char) (first : Token) (visible : isSpace (some c) = false)
    (known : first ≠ .broken) (cut : ∀ rest, token (some c :: rest) = (first, rest))
    (behind : Cuts others later) : Cuts (c :: others) (first :: later) :=
  prepend [] visible known (fun _ _ => cut _) behind

/-- A value in front of what closes it. -/
theorem append (first : Cuts chars found) (behind : Cuts others later)
    (closed : ∀ rest, Closes (others.map some ++ rest)) :
    Cuts (chars ++ others) (found ++ later) := by
  constructor
  · have shorter := first.length_le
    have shorterBehind := behind.length_le
    simp only [List.length_append]
    omega
  · intro taken room rest closes
    rw [List.map_append, List.append_assoc, List.length_append, Nat.add_comm found.length,
      ← Nat.add_assoc, first.cut _ _ _ (closed rest), behind.cut _ _ _ closes]
    simp

/-- A closing bracket behind a value. -/
theorem append_closer (closer : Char) (last : Token) (listed : closer ∈ closers)
    (known : last ≠ .broken) (visible : isSpace (some closer) = false)
    (cut : ∀ rest, token (some closer :: rest) = (last, rest))
    (value : Cuts chars found) : Cuts (chars ++ [closer]) (found ++ [last]) :=
  value.append (mark closer last visible known cut .nil) fun _ => .cons listed _

/-- A text and a colon in front of a value. -/
theorem key (name : String) (value : Cuts chars found) :
    Cuts (renderText name ++ ':' :: chars) (.text (some name) :: .colon :: found) :=
  prepend _ rfl (by simp) (fun _ _ => token_renderText name _)
    (mark ':' .colon rfl (by decide) (fun _ => rfl) value)

end Cuts

end Payslip.Json
