import Mathlib.Algebra.Order.Ring.Int
import Mathlib.Data.List.DropRight
import RoleLookup.Json.Reader
import RoleLookup.Proofs.Text.Lexical
import RoleLookup.Proofs.Text.Numerals

/-!
# The tokens of a JSON text

What is written as a token is read as it was.

* `IsGap`, blanks, which do not matter before a value;
* `stringBody?_quoted`, strings;
* `number?_toString`, integers of 64 bits.
-/

namespace RoleLookup.Json

open Text

variable {b cs rest : List Char} {fuel : Nat}

/-! ### Blanks -/

/-- Nothing but blanks. -/
def IsGap (cs : List Char) : Prop := ∀ c ∈ cs, c = ' ' ∨ c = '\t' ∨ c = '\n' ∨ c = '\r'

theorem isGap_nil : IsGap [] := nofun

theorem skipBlanks_gap (hb : IsGap b) (cs : List Char) : skipBlanks (b ++ cs) = skipBlanks cs := by
  refine List.dropWhile_append_of_pos fun c hc => ?_
  rcases hb c hc with rfl | rfl | rfl | rfl <;> rfl

theorem skipBlanks_cons {c : Char} (h : c ≠ ' ' ∧ c ≠ '\t' ∧ c ≠ '\n' ∧ c ≠ '\r')
    (cs : List Char) : skipBlanks (c :: cs) = c :: cs :=
  List.dropWhile_cons_of_neg (by simpa [and_assoc] using h)

@[simp] theorem skipBlanks_skipBlanks (cs : List Char) :
    skipBlanks (skipBlanks cs) = skipBlanks cs :=
  List.dropWhile_idempotent ..

/-- Blanks before a value do not matter. -/
theorem value?_skipBlanks (fuel : Nat) (cs : List Char) :
    value? fuel (skipBlanks cs) = value? fuel cs := by
  cases fuel with
  | zero => rfl
  | succ fuel => simp only [value?, skipBlanks_skipBlanks]

theorem value?_gap (hb : IsGap b) (fuel : Nat) (cs : List Char) :
    value? fuel (b ++ cs) = value? fuel cs := by
  rw [← value?_skipBlanks, skipBlanks_gap hb, value?_skipBlanks]

theorem elements?_skipBlanks (fuel : Nat) (cs : List Char) :
    elements? fuel (skipBlanks cs) = elements? fuel cs := by
  cases fuel with
  | zero => rfl
  | succ fuel => simp only [elements?, value?_skipBlanks]

theorem members?_skipBlanks (fuel : Nat) (cs : List Char) :
    members? fuel (skipBlanks cs) = members? fuel cs := by
  cases fuel with
  | zero => rfl
  | succ fuel => simp only [members?, skipBlanks_skipBlanks]

/-! ### Strings -/

/-- A control character is read from its number. -/
theorem unicodeEscape?_twoHex {c : Char} (hc : c.toNat < 0x20) (cs : List Char) :
    unicodeEscape? ('0' :: '0' :: ((twoHex c.toNat).toList ++ cs)) = some (c, cs) := by
  have hread : fourHex? ('0' :: '0' :: ((twoHex c.toNat).toList ++ cs)) = some (c.toNat, cs) := by
    have hzero : hexDigit? '0' = some 0 := rfl
    have hdigit {n : Nat} (hn : n < 16) : hexDigit? (Nat.digitChar n) = some n :=
      (isHexDigit_digitChar hn).hexDigit?_eq_some
    simp only [twoHex, String.toList_ofList, List.cons_append, List.nil_append, fourHex?, hzero,
      hdigit (show c.toNat / 16 < 16 by omega), hdigit (show c.toNat % 16 < 16 by omega)]
    refine congrArg (fun n => some (n, cs)) ?_
    omega
  have hlow : ¬(0xdc00 ≤ c.toNat ∧ c.toNat ≤ 0xdfff) := by omega
  have hhigh : ¬(0xd800 ≤ c.toNat ∧ c.toNat ≤ 0xdbff) := by omega
  simp [unicodeEscape?, hread, hlow, hhigh]

theorem stringBody?_simple {c d e : Char} (hc : (c == d) = true) (he : simpleEscape? e = some d)
    (fuel : Nat) (cs : List Char) :
    stringBody? (fuel + 1) ('\\' :: e :: cs) =
      (stringBody? fuel cs).bind fun r => some (c :: r.1, r.2) := by
  obtain rfl := beq_iff_eq.1 hc
  have hu : e ≠ 'u' := by
    rintro rfl
    cases he
  simp [stringBody?, he]

/-- A character is read from its spelling. -/
theorem stringBody?_escapedChar (c : Char) (fuel : Nat) (cs : List Char) :
    stringBody? (fuel + 1) ((escapedChar c).toList ++ cs) =
      (stringBody? fuel cs).bind fun r => some (c :: r.1, r.2) := by
  unfold escapedChar
  split_ifs with hquote hbackslash hb ht hn hf hr hcontrol
  · exact stringBody?_simple hquote rfl fuel cs
  · exact stringBody?_simple hbackslash rfl fuel cs
  · exact stringBody?_simple hb rfl fuel cs
  · exact stringBody?_simple ht rfl fuel cs
  · exact stringBody?_simple hn rfl fuel cs
  · exact stringBody?_simple hf rfl fuel cs
  · exact stringBody?_simple hr rfl fuel cs
  · simp [stringBody?, unicodeEscape?_twoHex hcontrol]
  · simp [stringBody?, hquote, hbackslash, hcontrol]

theorem length_le_escaped (s : List Char) :
    s.length ≤ (s.flatMap fun c => (escapedChar c).toList).length := by
  induction s with
  | nil => exact Nat.le_refl 0
  | cons c s ih =>
    have hpos : 0 < (escapedChar c).toList.length := by
      unfold escapedChar
      split_ifs <;> simp
    rw [List.flatMap_cons, List.length_append, List.length_cons]
    omega

/-- A string is read as itself. -/
theorem stringBody?_escaped (s : List Char) (hfuel : s.length < fuel) (rest : List Char) :
    stringBody? fuel (s.flatMap (fun c => (escapedChar c).toList) ++ '"' :: rest) =
      some (s, rest) := by
  induction s generalizing fuel with
  | nil =>
    obtain ⟨fuel, rfl⟩ := Nat.exists_eq_succ_of_ne_zero (by omega : fuel ≠ 0)
    simp [stringBody?]
  | cons c s ih =>
    obtain ⟨fuel, rfl⟩ := Nat.exists_eq_succ_of_ne_zero (by omega : fuel ≠ 0)
    rw [List.flatMap_cons, List.append_assoc, stringBody?_escapedChar,
      ih (by simpa using hfuel)]
    rfl

theorem toList_string (s : String) :
    (string s).toList = '"' :: (s.toList.flatMap (fun c => (escapedChar c).toList) ++ ['"']) := by
  simp [string, List.flatMap_map]

/-- A string is read behind its opening quote. -/
theorem stringBody?_quoted (s : String) (rest : List Char) :
    ∃ body, (string s).toList ++ rest = '"' :: body ∧
      stringBody? (body.length + 1) body = some (s.toList, rest) := by
  refine ⟨s.toList.flatMap (fun c => (escapedChar c).toList) ++ '"' :: rest, ?_, ?_⟩
  · simp [toList_string]
  · have hlength := length_le_escaped s.toList
    refine stringBody?_escaped _ ?_ _
    rw [List.length_append]
    omega

/-! ### Integers -/

/-- A text that does not go on with a numeral. -/
def Stops (rest : List Char) : Prop :=
  ∀ c ∈ rest.head?, c.isDigit = false ∧ c ≠ '.' ∧ c ≠ 'e' ∧ c ≠ 'E'

theorem stops_nil : Stops [] := nofun

theorem stops_cons {c : Char} (hc : c.isDigit = false ∧ c ≠ '.' ∧ c ≠ 'e' ∧ c ≠ 'E')
    (rest : List Char) : Stops (c :: rest) := by
  rintro _ ⟨⟩
  exact hc

theorem Stops.gap (h : Stops rest) (hb : IsGap b) : Stops (b ++ rest) := by
  cases b with
  | nil => exact h
  | cons c b =>
    refine stops_cons ?_ _
    rcases hb c List.mem_cons_self with rfl | rfl | rfl | rfl <;> decide

theorem le_ofDigitChars (ds : List Char) (n : Nat) : n ≤ Nat.ofDigitChars 10 ds n := by
  induction ds generalizing n with
  | nil => exact Nat.le_refl n
  | cons c ds ih =>
    rw [Nat.ofDigitChars_cons]
    exact Nat.le_trans (by omega) (ih _)

/-- Digits are all read if their value is not too great. -/
theorem significand_eq {ds : List Char} {start : Nat}
    (h : Nat.ofDigitChars 10 ds start ≤ greatestSignificand) :
    significand start ds = (Nat.ofDigitChars 10 ds start, ds.length) := by
  induction ds generalizing start with
  | nil => rfl
  | cons c ds ih =>
    have hnext : start * 10 + (c.toNat - 48) = 10 * start + (c.toNat - '0'.toNat) := by
      rw [Nat.mul_comm]
      rfl
    rw [Nat.ofDigitChars_cons, ← hnext] at h ⊢
    have hle := Nat.le_trans (le_ofDigitChars ds _) h
    simp [significand, Nat.not_lt.2 hle, ih h]

theorem significand_toString {n : Nat} (h : n ≤ greatestSignificand) :
    significand 0 (toString n).toList = (n, (toString n).toList.length) := by
  have hvalue : Nat.ofDigitChars 10 (toString n).toList 0 = n := by
    rw [toList_toString]
    exact Nat.ofDigitChars_toDigits (by decide) (by decide)
  rw [significand_eq (by rw [hvalue]; exact h), hvalue]

theorem exponent?_of_stops (h : Stops rest) : exponent? rest = some (none, rest) := by
  cases rest with
  | nil => rfl
  | cons c rest =>
    obtain ⟨-, -, he, hE⟩ := h c rfl
    simp [exponent?, he, hE]

/-- A sign, if there is one, and digits are read as a numeral. -/
theorem number?_whole {whole : List Char} (hdigits : ∀ c ∈ whole, c.isDigit = true)
    (hne : whole ≠ []) (hlead : 1 < whole.length → whole.head? ≠ some '0') (hrest : Stops rest)
    (negative : Bool) :
    number? ((if negative then ['-'] else []) ++ (whole ++ rest)) =
      (numeral negative whole none none).bind fun v => some (v, rest) := by
  have htake : (whole ++ rest).takeWhile Char.isDigit = whole :=
    takeWhile_run hdigits fun c hc => (hrest c hc).1
  have hexponent := exponent?_of_stops hrest
  have hpoint : ∀ ds, rest ≠ '.' :: ds := by
    rintro ds rfl
    exact (hrest '.' rfl).2.1 rfl
  have hsign : ∀ ds, whole ++ rest ≠ '-' :: ds := by
    obtain ⟨c, whole, rfl⟩ := List.exists_cons_of_ne_nil hne
    rintro ds hds
    obtain rfl : c = '-' := by simpa using congrArg List.head? hds
    exact absurd (hdigits '-' List.mem_cons_self) (by decide)
  have hwhole : ¬(1 < whole.length ∧ whole.head? = some '0') := fun h => hlead h.1 h.2
  cases negative <;>
    simp [number?, htake, hne, hexponent, hwhole]

/-- The sign of an integer. -/
theorem toList_toString_int (n : Int) :
    (toString n).toList = (if n < 0 then ['-'] else []) ++ (toString n.natAbs).toList := by
  cases n with
  | ofNat m => rfl
  | negSucc m =>
    change ("-" ++ toString (m + 1)).toList = _
    simp

theorem numeral_toString {n : Int} (hlow : -2 ^ 63 ≤ n) (hhigh : n < 2 ^ 64) :
    numeral (decide (n < 0)) (toString n.natAbs).toList none none = some (.integer n) := by
  have hvalue := significand_toString (n := n.natAbs) (by
    simp only [greatestSignificand, UInt64.size]
    omega)
  generalize hm : n.natAbs = m at hvalue ⊢
  simp only [numeral, hvalue]
  by_cases hn : n < 0
  · have hself : -(m : Int) = n := by omega
    have hsize : m ≤ 9223372036854775808 := by omega
    have hzero : m ≠ 0 := by omega
    simp [hn, hself, hsize, hzero]
  · have hself : (m : Int) = n := by omega
    simp [hn, hself]

/-- An integer of 64 bits is read as itself. -/
theorem number?_toString {n : Int} (hlow : -2 ^ 63 ≤ n) (hhigh : n < 2 ^ 64) (hrest : Stops rest) :
    number? ((toString n).toList ++ rest) = some (.integer n, rest) := by
  have hlead : 1 < (toString n.natAbs).toList.length →
      (toString n.natAbs).toList.head? ≠ some '0' := by
    intro h
    refine head?_toString_ne (Nat.pos_of_ne_zero fun hzero => ?_)
    rw [hzero] at h
    exact absurd h (by decide)
  have hread := number?_whole (fun _ => isDigit_of_mem_toString) (toString_ne_nil _) hlead hrest
    (decide (n < 0))
  rw [numeral_toString hlow hhigh] at hread
  rw [toList_toString_int, List.append_assoc]
  simpa only [decide_eq_true_eq, Option.bind_some] using hread

theorem opens_integer (n : Int) :
    ∃ c ds, (toString n).toList = c :: ds ∧ (c = '-' ∨ c.isDigit = true) := by
  rw [toList_toString_int]
  split
  · exact ⟨_, _, rfl, .inl rfl⟩
  · obtain ⟨c, ds, hds⟩ := List.exists_cons_of_ne_nil (toString_ne_nil n.natAbs)
    exact ⟨c, ds, hds, .inr (isDigit_of_mem_toString (n := n.natAbs) (hds ▸ List.mem_cons_self))⟩

theorem skipBlanks_numeral {c : Char} (hc : c = '-' ∨ c.isDigit = true) (rest : List Char) :
    skipBlanks (c :: rest) = c :: rest := by
  refine skipBlanks_cons ⟨?_, ?_, ?_, ?_⟩ rest <;> rintro rfl <;> revert hc <;> decide

theorem value?_numeral {c : Char} (hc : c = '-' ∨ c.isDigit = true) (fuel : Nat)
    (rest : List Char) : value? (fuel + 1) (c :: rest) = number? (c :: rest) := by
  simp only [value?, skipBlanks_numeral hc]
  split
  all_goals first
    | rfl
    | rename_i heq
      cases heq
      exact absurd hc (by decide)

end RoleLookup.Json
