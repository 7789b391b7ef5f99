/-
# Bytes that are text

`Source.ofBytes` takes bytes apart by the ranges in which the bytes of a character lie. Here the
ranges are compared with the way in which characters are encoded: a character is found at the front
of bytes exactly if its encoding stands there, and so bytes are a text exactly if they are the
encoding of it (`Source.text?_ofBytes_eq_some_iff`).
-/

import Payslip.Text.Utf8

namespace Payslip.Text

namespace Utf8

variable {a b c d : UInt8} {letter : Char}

/-! ## How characters are encoded -/

theorem utf8EncodeChar_eq_single_iff :
    String.utf8EncodeChar letter = [a] ↔ letter.toNat ≤ 0x7F ∧ a.toNat = letter.toNat := by
  simp only [String.utf8EncodeChar, Char.toNat_val]
  split
  · simp only [List.cons.injEq, and_true, ← UInt8.toNat_inj, UInt8.toNat_ofNat']
    omega
  · split
    · simp; omega
    · split <;> simp <;> omega

theorem utf8EncodeChar_eq_pair_iff :
    String.utf8EncodeChar letter = [a, b] ↔ 0x80 ≤ letter.toNat ∧ letter.toNat ≤ 0x7FF ∧
      a.toNat = 0xC0 + letter.toNat / 64 ∧ b.toNat = 0x80 + letter.toNat % 64 := by
  simp only [String.utf8EncodeChar, Char.toNat_val]
  split
  · simp; omega
  · split
    · simp only [List.cons.injEq, and_true, ← UInt8.toNat_inj, UInt8.toNat_ofNat']
      omega
    · split <;> simp <;> omega

theorem utf8EncodeChar_eq_triple_iff :
    String.utf8EncodeChar letter = [a, b, c] ↔ 0x800 ≤ letter.toNat ∧ letter.toNat ≤ 0xFFFF ∧
      a.toNat = 0xE0 + letter.toNat / 4096 ∧ b.toNat = 0x80 + letter.toNat / 64 % 64 ∧
      c.toNat = 0x80 + letter.toNat % 64 := by
  simp only [String.utf8EncodeChar, Char.toNat_val]
  split
  · simp; omega
  · split
    · simp; omega
    · split
      · simp only [List.cons.injEq, and_true, ← UInt8.toNat_inj, UInt8.toNat_ofNat']
        omega
      · simp; omega

theorem utf8EncodeChar_eq_quadruple_iff :
    String.utf8EncodeChar letter = [a, b, c, d] ↔ 0x10000 ≤ letter.toNat ∧
      a.toNat = 0xF0 + letter.toNat / 262144 ∧ b.toNat = 0x80 + letter.toNat / 4096 % 64 ∧
      c.toNat = 0x80 + letter.toNat / 64 % 64 ∧ d.toNat = 0x80 + letter.toNat % 64 := by
  have valid : letter.toNat.isValidChar := letter.valid
  simp only [String.utf8EncodeChar, Char.toNat_val]
  split
  · simp; omega
  · split
    · simp; omega
    · split
      · simp; omega
      · simp only [List.cons.injEq, and_true, ← UInt8.toNat_inj, UInt8.toNat_ofNat']
        omega

/-! ## How they are read -/

theorem toNat_ofNat_of_isValidChar {n : Nat} (valid : n.isValidChar) :
    (Char.ofNat n).toNat = n := by
  rw [Char.ofNat, dif_pos valid]
  rfl

theorem ofNat_eq_of_toNat_eq {n : Nat} (value : letter.toNat = n) : Char.ofNat n = letter := by
  rw [← value, Char.ofNat_toNat]

theorem lt_iff : a < 0x80 ↔ a.toNat < 0x80 := UInt8.lt_iff_toNat_lt

theorem isTail_iff : isTail b = true ↔ 0x80 ≤ b.toNat ∧ b.toNat ≤ 0xBF := by
  simp [isTail, UInt8.le_iff_toNat_le]

theorem pair?_eq_some_iff : pair? a b = some letter ↔ String.utf8EncodeChar letter = [a, b] := by
  rw [pair?, Option.ite_none_right_eq_some, utf8EncodeChar_eq_pair_iff]
  simp only [Bool.and_eq_true, decide_eq_true_eq, isTail_iff, UInt8.le_iff_toNat_le,
    UInt8.toNat_ofNat, tailBits, Option.some.injEq]
  constructor
  · rintro ⟨ranges, rfl⟩
    rw [toNat_ofNat_of_isValidChar (.inl (by omega))]
    omega
  · intro written
    exact ⟨by omega, ofNat_eq_of_toNat_eq (by omega)⟩

theorem triple?_eq_some_iff :
    triple? a b c = some letter ↔ String.utf8EncodeChar letter = [a, b, c] := by
  have valid : letter.toNat.isValidChar := letter.valid
  rw [triple?, Option.ite_none_right_eq_some, utf8EncodeChar_eq_triple_iff]
  simp only [Bool.and_eq_true, Bool.or_eq_true, decide_eq_true_eq, beq_iff_eq, isTail_iff,
    UInt8.le_iff_toNat_le, ← UInt8.toNat_inj, UInt8.toNat_ofNat, tailBits, Option.some.injEq]
  constructor
  · rintro ⟨ranges, rfl⟩
    rw [toNat_ofNat_of_isValidChar (by unfold Nat.isValidChar; omega)]
    omega
  · intro written
    unfold Nat.isValidChar at valid
    exact ⟨by omega, ofNat_eq_of_toNat_eq (by omega)⟩

theorem quadruple?_eq_some_iff :
    quadruple? a b c d = some letter ↔ String.utf8EncodeChar letter = [a, b, c, d] := by
  have valid : letter.toNat.isValidChar := letter.valid
  rw [quadruple?, Option.ite_none_right_eq_some, utf8EncodeChar_eq_quadruple_iff]
  simp only [Bool.and_eq_true, Bool.or_eq_true, decide_eq_true_eq, beq_iff_eq, isTail_iff,
    UInt8.le_iff_toNat_le, ← UInt8.toNat_inj, UInt8.toNat_ofNat, tailBits, Option.some.injEq]
  constructor
  · rintro ⟨ranges, rfl⟩
    rw [toNat_ofNat_of_isValidChar (by unfold Nat.isValidChar; omega)]
    omega
  · intro written
    unfold Nat.isValidChar at valid
    exact ⟨by omega, ofNat_eq_of_toNat_eq (by omega)⟩

theorem pair?_eq_none (lead : 0xE0 ≤ a.toNat) : pair? a b = none := by
  refine Option.eq_none_iff_forall_ne_some.mpr fun letter read => ?_
  have written := utf8EncodeChar_eq_pair_iff.mp (pair?_eq_some_iff.mp read)
  omega

theorem triple?_eq_none (lead : 0xF0 ≤ a.toNat) : triple? a b c = none := by
  refine Option.eq_none_iff_forall_ne_some.mpr fun letter read => ?_
  have written := utf8EncodeChar_eq_triple_iff.mp (triple?_eq_some_iff.mp read)
  omega

/-- A character is found at the front when its encoding stands there, -/
theorem first?_utf8EncodeChar_append (letter : Char) (rest : List UInt8) :
    first? (String.utf8EncodeChar letter ++ rest) =
      some (letter, (String.utf8EncodeChar letter).length - 1) := by
  match written : String.utf8EncodeChar letter with
  | [a] =>
      have value := utf8EncodeChar_eq_single_iff.mp written
      have low : a < 0x80 := lt_iff.mpr (by omega)
      simp [first?, low, value.2]
  | [a, b] =>
      have value := utf8EncodeChar_eq_pair_iff.mp written
      have high : ¬ a < 0x80 := mt lt_iff.mp (by omega)
      have read := pair?_eq_some_iff.mpr written
      match rest with
      | [] | [_] | _ :: _ :: _ => simp [first?, high, read]
  | [a, b, c] =>
      have value := utf8EncodeChar_eq_triple_iff.mp written
      have high : ¬ a < 0x80 := mt lt_iff.mp (by omega)
      have read := triple?_eq_some_iff.mpr written
      have longer : pair? a b = none := pair?_eq_none (by omega)
      match rest with
      | [] | _ :: _ => simp [first?, high, read, longer]
  | [a, b, c, d] =>
      have value := utf8EncodeChar_eq_quadruple_iff.mp written
      have high : ¬ a < 0x80 := mt lt_iff.mp (by omega)
      have read := quadruple?_eq_some_iff.mpr written
      have longer : pair? a b = none := pair?_eq_none (by omega)
      have longest : triple? a b c = none := triple?_eq_none (by omega)
      simp [first?, high, read, longer, longest]
  | [] => exact absurd written String.utf8EncodeChar_ne_nil
  | _ :: _ :: _ :: _ :: _ :: _ =>
      have size := congrArg List.length written
      have atMost := letter.utf8Size_le_four
      simp only [String.length_utf8EncodeChar, List.length_cons] at size
      omega

/-- and only then. -/
theorem exists_eq_append_of_first? {bytes : List UInt8} {more : Nat}
    (found : first? bytes = some (letter, more)) :
    ∃ rest, bytes = String.utf8EncodeChar letter ++ rest := by
  have starts : ∀ {spelled}, String.utf8EncodeChar letter = spelled → ∀ rest, ∃ others,
      spelled ++ rest = String.utf8EncodeChar letter ++ others := fun written rest =>
    ⟨rest, by rw [written]⟩
  revert found
  fun_cases first? bytes with
  | case1 => exact nofun
  | case2 a rest low =>
      rintro ⟨⟩
      have byte := lt_iff.mp low
      have value := toNat_ofNat_of_isValidChar (n := a.toNat) (.inl (by omega))
      exact starts (utf8EncodeChar_eq_single_iff.mpr (by omega)) rest
  | case3 a high b c d rest =>
      simp only [Option.orElse_eq_orElse, Option.orElse_eq_or, Option.or_eq_some_iff,
        Option.map_eq_some_iff, Prod.mk.injEq, pair?_eq_some_iff, triple?_eq_some_iff,
        quadruple?_eq_some_iff]
      rintro (⟨_, written, rfl, -⟩ | ⟨-, ⟨_, written, rfl, -⟩ | ⟨-, _, written, rfl, -⟩⟩)
      · exact starts written (c :: d :: rest)
      · exact starts written (d :: rest)
      · exact starts written rest
  | case4 a high b c rest =>
      simp only [Option.orElse_eq_orElse, Option.orElse_eq_or, Option.or_eq_some_iff,
        Option.map_eq_some_iff, Prod.mk.injEq, pair?_eq_some_iff, triple?_eq_some_iff]
      rintro (⟨_, written, rfl, -⟩ | ⟨-, _, written, rfl, -⟩)
      · exact starts written (c :: rest)
      · exact starts written rest
  | case5 a high b rest =>
      simp only [Option.map_eq_some_iff, Prod.mk.injEq, pair?_eq_some_iff]
      rintro ⟨_, written, rfl, -⟩
      exact starts written rest
  | case6 a high => exact nofun

/-! ## One after the other -/

variable {bytes rest : List UInt8}

theorem run_eq_append (taken : Source) (skip : Nat) (bytes : List UInt8) :
    run taken skip bytes = taken.reverse ++ run [] skip bytes := by
  induction bytes generalizing taken skip with
  | nil => simp [run]
  | cons byte rest ih =>
      cases skip with
      | succ skip =>
          rw [run, run]
          exact ih taken skip
      | zero =>
          rw [run, run]
          split
          · next c more _ =>
            rw [ih (some c :: taken) more, ih [some c] more]
            simp
          · rw [ih (none :: taken) 0, ih [none] 0]
            simp

theorem run_append_of_length {skipped : List UInt8} (taken : Source) (rest : List UInt8) :
    run taken skipped.length (skipped ++ rest) = run taken 0 rest := by
  induction skipped with
  | nil => rfl
  | cons byte others ih => exact ih

end Utf8

namespace Source

open Utf8

variable {bytes : List UInt8}

/-- A character at the front is taken off with its bytes, -/
theorem ofBytes_utf8EncodeChar_append (letter : Char) (rest : List UInt8) :
    ofBytes (String.utf8EncodeChar letter ++ rest) = some letter :: ofBytes rest := by
  have found := first?_utf8EncodeChar_append letter rest
  cases written : String.utf8EncodeChar letter with
  | nil => exact absurd written String.utf8EncodeChar_ne_nil
  | cons byte others =>
      rw [written, List.cons_append] at found
      rw [ofBytes, ofBytes, List.cons_append, run, found]
      dsimp only
      rw [List.length_cons, Nat.add_sub_cancel, run_append_of_length, run_eq_append]
      rfl

/-- and a byte that starts no character on its own. -/
theorem ofBytes_cons_of_first?_eq_none {byte : UInt8} {rest : List UInt8}
    (odd : first? (byte :: rest) = none) : ofBytes (byte :: rest) = none :: ofBytes rest := by
  rw [ofBytes, ofBytes, run, odd]
  dsimp only
  rw [run_eq_append]
  rfl

theorem exists_ofBytes_cons (byte : UInt8) (others : List UInt8) :
    (∃ letter rest, byte :: others = String.utf8EncodeChar letter ++ rest ∧
      ofBytes (byte :: others) = some letter :: ofBytes rest) ∨
    ofBytes (byte :: others) = none :: ofBytes others := by
  match found : first? (byte :: others) with
  | none => exact .inr (ofBytes_cons_of_first?_eq_none found)
  | some (letter, more) =>
      obtain ⟨rest, split⟩ := exists_eq_append_of_first? found
      exact .inl ⟨letter, rest, split, by rw [split, ofBytes_utf8EncodeChar_append]⟩

/-- Bytes that are taken apart into characters are the encodings of these, one behind the other. -/
theorem ofBytes_eq_map_some_iff {letters : List Char} :
    ofBytes bytes = letters.map some ↔ bytes = letters.flatMap String.utf8EncodeChar := by
  constructor
  · intro whole
    induction letters generalizing bytes with
    | nil =>
        cases bytes with
        | nil => rfl
        | cons byte others =>
            rcases exists_ofBytes_cons byte others with ⟨_, _, -, taken⟩ | taken
            · rw [taken] at whole
              cases whole
            · rw [taken] at whole
              cases whole
    | cons letter letters ih =>
        cases bytes with
        | nil => cases whole
        | cons byte others =>
            rcases exists_ofBytes_cons byte others with ⟨_, rest, split, taken⟩ | taken
            · rw [taken, List.map_cons, List.cons.injEq, Option.some.injEq] at whole
              obtain ⟨rfl, whole⟩ := whole
              rw [split, List.flatMap_cons, ih whole]
            · rw [taken] at whole
              cases whole
  · rintro rfl
    induction letters with
    | nil => rfl
    | cons letter others ih =>
        rw [List.flatMap_cons, ofBytes_utf8EncodeChar_append, ih, List.map_cons]

theorem mapM_id_eq_some_iff {source : Source} {letters : List Char} :
    source.mapM id = some letters ↔ source = letters.map some := by
  induction source generalizing letters with
  | nil => cases letters <;> simp
  | cons character rest ih =>
      cases character with
      | none => cases letters <;> simp
      | some letter =>
          cases letters with
          | nil => simp [Option.bind_eq_some_iff]
          | cons first others => simpa [Option.bind_eq_some_iff, ih] using and_comm

theorem text?_eq_some_iff {source : Source} {text : String} :
    source.text? = some text ↔ source = ofString text := by
  rw [text?, Option.map_eq_some_iff, ofString]
  simp only [mapM_id_eq_some_iff]
  constructor
  · rintro ⟨letters, whole, rfl⟩
    rw [whole, String.toList_ofList]
  · intro whole
    exact ⟨text.toList, whole, String.ofList_toList⟩

/-- Bytes are a text exactly if they are its encoding. -/
theorem text?_ofBytes_eq_some_iff {text : String} :
    (ofBytes bytes).text? = some text ↔ bytes.toByteArray = text.toUTF8 := by
  have encoded : (text.toList.flatMap String.utf8EncodeChar).toByteArray = text.toUTF8 :=
    String.utf8Encode_toList
  rw [text?_eq_some_iff, ofString, ofBytes_eq_map_some_iff, ← encoded, List.toByteArray_inj]

end Source

end Payslip.Text
