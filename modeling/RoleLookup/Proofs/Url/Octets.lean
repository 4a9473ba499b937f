import RoleLookup.Proofs.Text.Lexical
import RoleLookup.Proofs.Text.Utf8
import RoleLookup.Url.Basic

/-!
# Escaped bytes

Two texts are the same up to escapes if they stand for the same bytes.

* `octets`, the bytes that a text stands for;
* `octets_append_cons`, a character that belongs to no escape cuts a text in two;
* `length_octets_filter`, a text from which such characters are taken stands for fewer bytes;
* `octets_escape`, escaping changes nothing.
-/

namespace RoleLookup.Url

open Text

/-- The byte that a percent sign and two hexadecimal digits write. -/
def escaped? (c a b : Char) : Option UInt8 :=
  if c = '%' then (hexDigit? a).bind fun x => (hexDigit? b).map fun y => UInt8.ofNat (16 * x + y)
  else none

/-- The bytes that a text stands for: those of its characters, and those that are escaped. -/
def octets : List Char → List UInt8
  | c :: a :: b :: cs =>
    match escaped? c a b with
    | some byte => byte :: octets cs
    | none => String.utf8EncodeChar c ++ octets (a :: b :: cs)
  | c :: cs => String.utf8EncodeChar c ++ octets cs
  | [] => []

variable {c d a b : Char} {cs xs ys : List Char} {which : Char → Bool}

/-! ### Escapes -/

theorem escaped?_of_ne (h : c ≠ '%') (a b : Char) : escaped? c a b = none := if_neg h

theorem escaped?_eq_some {byte : UInt8} (h : escaped? c a b = some byte) :
    c = '%' ∧ isHexDigit a = true ∧ isHexDigit b = true := by
  unfold escaped? at h
  split at h
  · rename_i hc
    obtain ⟨x, hx, hrest⟩ := Option.bind_eq_some_iff.1 h
    obtain ⟨y, hy, -⟩ := Option.map_eq_some_iff.1 hrest
    exact ⟨hc, by simp [isHexDigit, hx], by simp [isHexDigit, hy]⟩
  · cases h

/-- A character that is no percent sign, or that no two hexadecimal digits follow. -/
def Plain (c : Char) (cs : List Char) : Prop :=
  ∀ a b rest, cs = a :: b :: rest → escaped? c a b = none

theorem plain_of_ne (h : c ≠ '%') (cs : List Char) : Plain c cs :=
  fun a b _ _ => escaped?_of_ne h a b

theorem escaped?_eq_none (h : isHexDigit a = false ∨ isHexDigit b = false) (c : Char) :
    escaped? c a b = none := by
  cases hescaped : escaped? c a b with
  | none => rfl
  | some byte =>
    obtain ⟨-, ha, hb⟩ := escaped?_eq_some hescaped
    simp [ha, hb] at h

theorem octets_of_plain (h : Plain c cs) :
    octets (c :: cs) = String.utf8EncodeChar c ++ octets cs := by
  match cs, h with
  | [], _ => rfl
  | [_], _ => rfl
  | a :: b :: rest, h => rw [octets, h a b rest rfl]

theorem octets_cons (h : c ≠ '%') (cs : List Char) :
    octets (c :: cs) = String.utf8EncodeChar c ++ octets cs :=
  octets_of_plain (plain_of_ne h cs)

theorem isHexDigit_percent : isHexDigit '%' = false := by decide

theorem ne_percent_of_isHexDigit (h : isHexDigit c = true) : c ≠ '%' := by
  rintro rfl
  rw [isHexDigit_percent] at h
  cases h

/-! ### Texts in two parts -/

/-- A character that belongs to no escape cuts a text in two. -/
theorem octets_append_cons (digit : isHexDigit c = false) (percent : c ≠ '%') (xs ys : List Char) :
    octets (xs ++ c :: ys) = octets xs ++ (String.utf8EncodeChar c ++ octets ys) := by
  fun_induction octets xs with
  | case1 d a b cs byte h ih => simp [octets, h, ih]
  | case2 d a b cs h ih =>
    rw [List.append_assoc, ← ih]
    simp [octets, h]
  | case3 d cs short ih =>
    rw [List.append_assoc, ← ih, List.cons_append]
    -- Too short for an escape, unless the character that cuts were one of its digits.
    refine octets_of_plain fun a b rest heq => ?_
    match cs, short with
    | [], _ =>
      cases heq
      exact escaped?_eq_none (.inl digit) d
    | [_], _ =>
      cases heq
      exact escaped?_eq_none (.inr digit) d
    | a' :: b' :: rest', short => exact absurd rfl (short a' b' rest')
  | case4 => exact octets_cons percent ys

theorem length_utf8EncodeChar_pos (c : Char) : 0 < (String.utf8EncodeChar c).length := by
  rw [String.length_utf8EncodeChar]
  exact c.utf8Size_pos

theorem length_octets_cons_le (c : Char) (cs : List Char) :
    (octets (c :: cs)).length ≤ (String.utf8EncodeChar c).length + (octets cs).length := by
  match cs with
  | [] => simp [octets]
  | [_] => simp [octets]
  | a :: b :: rest =>
    cases h : escaped? c a b with
    | none => simp [octets, h]
    | some byte =>
      obtain ⟨-, ha, hb⟩ := escaped?_eq_some h
      have hpos := length_utf8EncodeChar_pos c
      rw [octets_cons (ne_percent_of_isHexDigit ha), octets_cons (ne_percent_of_isHexDigit hb)]
      simp only [octets, h, List.length_cons, List.length_append]
      omega

theorem length_octets_append_le (xs ys : List Char) :
    (octets (xs ++ ys)).length ≤ (octets xs).length + (octets ys).length := by
  fun_induction octets xs with
  | case1 d a b cs byte h ih =>
    simp [octets, h]
    omega
  | case2 d a b cs h ih =>
    simp [octets, h] at ih ⊢
    omega
  | case3 d cs short ih =>
    have := length_octets_cons_le d (cs ++ ys)
    simp only [List.cons_append, List.length_append]
    omega
  | case4 => simp

/-- A text from which characters that belong to no escape are taken stands for fewer bytes. -/
theorem length_octets_filter (keeps : Char → Bool)
    (digits : ∀ c, keeps c = false → isHexDigit c = false) (percent : keeps '%' = true)
    (xs cs : List Char) :
    (octets (xs ++ cs.filter keeps)).length + cs.countP (!keeps ·) ≤
      (octets (xs ++ cs)).length := by
  -- What is kept goes to the front, where it may be part of an escape with what follows.
  induction cs generalizing xs with
  | nil => simp
  | cons c cs ih =>
    cases hc : keeps c with
    | true => simpa [hc] using ih (xs ++ [c])
    | false =>
      have hne : c ≠ '%' := by
        rintro rfl
        rw [percent] at hc
        cases hc
      have hsplit := congrArg List.length (octets_append_cons (digits c hc) hne xs cs)
      have hjoined := length_octets_append_le xs cs
      have hpos := length_utf8EncodeChar_pos c
      have hrest := ih xs
      simp only [List.length_append] at hsplit
      simp only [List.filter_cons, hc, List.countP_cons, Bool.not_false, if_true,
        Bool.false_eq_true, if_false]
      omega

/-! ### Escaping -/

theorem octets_percent (b : UInt8) (cs : List Char) :
    octets (percent b ++ cs) = b :: octets cs := by
  have hdigit : ∀ n < 16, hexDigit? (Nat.digitChar n).toUpper = some n := by decide
  have hlt := b.toNat_lt
  have hescaped : escaped? '%' (Nat.digitChar (b.toNat / 16)).toUpper
      (Nat.digitChar (b.toNat % 16)).toUpper = some b := by
    simp only [escaped?, if_true, hdigit _ (show b.toNat / 16 < 16 by omega),
      hdigit _ (show b.toNat % 16 < 16 by omega), Option.bind_some, Option.map_some]
    rw [Nat.div_add_mod, UInt8.ofNat_toNat]
  simp [percent, octets, hescaped]

theorem octets_percents (bs : List UInt8) (cs : List Char) :
    octets (bs.flatMap percent ++ cs) = bs ++ octets cs := by
  induction bs with
  | nil => rfl
  | cons b bs ih => rw [List.flatMap_cons, List.append_assoc, octets_percent, ih, List.cons_append]

/-- A character as it is written when some are escaped. -/
def spelled (which : Char → Bool) (c : Char) : List Char :=
  if which c then (String.utf8EncodeChar c).flatMap percent else [c]

theorem toList_escape (which : Char → Bool) (cs : List Char) :
    (escape which cs).toList = cs.flatMap (spelled which) := by
  simp only [escape, String.toList_ofList]
  rfl

/-- Where no two hexadecimal digits follow, none do when some characters are escaped. -/
theorem Plain.spelled (h : Plain c cs) : Plain c (cs.flatMap (spelled which)) := by
  -- What is escaped begins with a percent sign, and that is no digit.
  have head (d : Char) : Url.spelled which d = [d] ∨
      ∃ rest, Url.spelled which d = '%' :: rest := by
    unfold Url.spelled
    split
    · obtain ⟨byte, bytes, hbytes⟩ :=
        List.exists_cons_of_length_pos (length_utf8EncodeChar_pos d)
      exact .inr ⟨_, by rw [hbytes, List.flatMap_cons, percent, List.cons_append]⟩
    · exact .inl rfl
  intro a b rest heq
  match cs, h with
  | [], _ => cases heq
  | d :: ds, h =>
    rw [List.flatMap_cons] at heq
    rcases head d with hd | ⟨tail, hd⟩
    · match ds, h with
      | [], _ => simp [hd] at heq
      | e :: es, h =>
        rw [List.flatMap_cons, hd] at heq
        rcases head e with he | ⟨tail, he⟩
        · rw [he] at heq
          simp only [List.cons_append, List.nil_append, List.cons.injEq] at heq
          obtain ⟨rfl, rfl, -⟩ := heq
          exact h _ _ _ rfl
        · rw [he] at heq
          simp only [List.cons_append, List.nil_append, List.cons.injEq] at heq
          obtain ⟨rfl, rfl, -⟩ := heq
          exact escaped?_eq_none (.inr isHexDigit_percent) c
    · rw [hd, List.cons_append, List.cons.injEq] at heq
      obtain ⟨rfl, -⟩ := heq
      exact escaped?_eq_none (.inl isHexDigit_percent) c

theorem octets_spelled (h : Plain c cs) :
    octets ((c :: cs).flatMap (spelled which)) =
      String.utf8EncodeChar c ++ octets (cs.flatMap (spelled which)) := by
  rw [List.flatMap_cons]
  by_cases hc : which c = true
  · rw [show spelled which c = (String.utf8EncodeChar c).flatMap percent from if_pos hc]
    exact octets_percents ..
  · rw [show spelled which c = [c] from if_neg hc]
    exact octets_of_plain h.spelled

/-- Escaping changes nothing, if no part of an escape is escaped. -/
theorem octets_escape (percent : which '%' = false)
    (digits : ∀ c, isHexDigit c = true → which c = false) (cs : List Char) :
    octets (escape which cs).toList = octets cs := by
  rw [toList_escape]
  fun_induction octets cs with
  | case1 c a b cs byte h ih =>
    obtain ⟨rfl, ha, hb⟩ := escaped?_eq_some h
    simp [spelled, percent, digits a ha, digits b hb, octets, h, ih]
  | case2 c a b cs h ih =>
    rw [octets_spelled, ih]
    rintro a b rest ⟨⟩
    exact h
  | case3 c cs short ih =>
    rw [octets_spelled, ih]
    rintro a b rest rfl
    exact absurd rfl (short a b rest)
  | case4 => rfl

end RoleLookup.Url
