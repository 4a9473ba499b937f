import Mathlib.Data.List.Basic
import RoleLookup.Text.Utf8

/-!
# Encoded texts

* `bytes_eq`, `bytes_append`, `bytes_inj`, the encoding of a text, character by character;
* `decode?_eq_some`, a list of bytes is read as the text that it encodes;
* `utf8EncodeChar_of_ascii`, `le_of_mem_utf8EncodeChar`, which bytes a character has: an ASCII
  character is one byte below `0x80`, and the bytes of any other character are not below it;
* `eq_of_mem_utf8EncodeChar`, an ASCII byte stands for its character and no other;
* `bytes_split`, `exists_bytes_tail`, before and behind an ASCII byte an encoded text can be cut;
* `Cut`, an ASCII byte on one side of a place, and `Cut.exists_texts`, both parts are texts there;
* `bytes_lt_bytes`, texts are in the order of their bytes.
-/

namespace RoleLookup.Text

/-! ### Bytes of a text -/

theorem toList_byteArray (b : ByteArray) : b.toList = b.data.toList := by
  have loop (i : Nat) (r : List UInt8) :
      ByteArray.toList.loop b i r = r.reverse ++ b.data.toList.drop i := by
    fun_induction ByteArray.toList.loop b i r with
    | case1 i r hi ih =>
      have hdrop : b.data.toList.drop i = b.get! i :: b.data.toList.drop (i + 1) := by
        simpa [ByteArray.get!, hi] using
          List.drop_eq_getElem_cons (l := b.data.toList) (i := i) hi
      rw [ih, hdrop, List.reverse_cons, List.append_assoc, List.singleton_append]
    | case2 i r hi =>
      have hdrop : b.data.toList.drop i = [] :=
        List.drop_eq_nil_iff.2 (by simpa using Nat.le_of_not_gt hi)
      rw [hdrop, List.append_nil]
  simpa [ByteArray.toList] using loop 0 []

/-- The encoding of characters. -/
def encode (cs : List Char) : List UInt8 := cs.flatMap String.utf8EncodeChar

@[simp] theorem encode_nil : encode [] = [] := rfl

theorem encode_cons (c : Char) (cs : List Char) :
    encode (c :: cs) = String.utf8EncodeChar c ++ encode cs := rfl

@[simp] theorem encode_append (cs ds : List Char) : encode (cs ++ ds) = encode cs ++ encode ds :=
  List.flatMap_append

@[simp] theorem bytes_ofList (cs : List Char) : bytes (String.ofList cs) = encode cs := by
  simp [bytes, encode, toList_byteArray, String.toByteArray_ofList, List.utf8Encode, String.toUTF8]

theorem bytes_eq (s : String) : bytes s = encode s.toList := by
  rw [← bytes_ofList, String.ofList_toList]

@[simp] theorem bytes_append (s t : String) : bytes (s ++ t) = bytes s ++ bytes t := by
  simp [bytes_eq]

theorem toByteArray_bytes (s : String) : (bytes s).toByteArray = s.toByteArray := by
  rw [bytes_eq, ← String.utf8Encode_toList, List.utf8Encode, encode]

theorem bytes_inj {s t : String} : bytes s = bytes t ↔ s = t := by
  constructor
  · intro h
    rw [← String.toByteArray_inj, ← toByteArray_bytes, h, toByteArray_bytes]
  · exact congrArg bytes

theorem decode?_eq_some {bs : List UInt8} {s : String} : decode? bs = some s ↔ bytes s = bs := by
  unfold decode? String.fromUTF8?
  constructor
  · intro h
    split at h
    · rename_i hvalid
      cases h
      rw [bytes, toList_byteArray]
      exact List.toList_data_toByteArray
    · cases h
  · rintro rfl
    rw [dif_pos (by rw [toByteArray_bytes]; exact s.isValidUTF8)]
    rw [Option.some_inj, ← String.toByteArray_inj]
    exact toByteArray_bytes s

/-! ### Bytes of a character -/

theorem utf8EncodeChar_of_ascii {c : Char} (h : c.val < 0x80) :
    String.utf8EncodeChar c = [c.toUInt8] := by
  apply String.utf8EncodeChar_eq_singleton
  have h : c.val.toNat < 0x80 := h
  rw [Char.utf8Size, if_pos]
  exact Nat.le_of_lt_succ h

theorem encode_cons_of_ascii {c : Char} (h : c.val < 0x80) (cs : List Char) :
    encode (c :: cs) = c.toUInt8 :: encode cs := by
  rw [encode_cons, utf8EncodeChar_of_ascii h, List.singleton_append]

theorem toNat_toUInt8_of_ascii {c : Char} (h : c.val < 0x80) : c.toUInt8.toNat = c.toNat := by
  have h : c.toNat < 0x80 := h
  exact (UInt32.toNat_toUInt8 c.val).trans (Nat.mod_eq_of_lt (by change c.toNat < 256; omega))

theorem le_of_mem_utf8EncodeChar {c : Char} (h : 0x80 ≤ c.val) {b : UInt8}
    (hb : b ∈ String.utf8EncodeChar c) : 0x80 ≤ b := by
  have h : 0x80 ≤ c.val.toNat := h
  rw [UInt8.le_iff_toNat_le]
  unfold String.utf8EncodeChar at hb
  simp only at hb
  split at hb
  · omega
  · split at hb
    · simp at hb
      rcases hb with rfl | rfl <;> simp <;> omega
    · split at hb
      · simp at hb
        rcases hb with rfl | rfl | rfl <;> simp <;> omega
      · simp at hb
        rcases hb with rfl | rfl | rfl | rfl <;> simp <;> omega

/-- After its first byte, a character has no ASCII bytes. -/
theorem le_of_mem_tail_utf8EncodeChar {c : Char} {a b : UInt8} {bs : List UInt8}
    (h : String.utf8EncodeChar c = a :: bs) (hb : b ∈ bs) : 0x80 ≤ b := by
  by_cases hc : c.val < 0x80
  · rw [utf8EncodeChar_of_ascii hc, List.cons.injEq] at h
    rw [← h.2] at hb
    exact absurd hb List.not_mem_nil
  · exact le_of_mem_utf8EncodeChar (UInt32.not_lt.1 hc) (h ▸ List.mem_cons_of_mem a hb)

/-- An ASCII byte is in the encoding of no other character. -/
theorem eq_of_mem_utf8EncodeChar {c d : Char} (hd : d.val < 0x80)
    (h : d.toUInt8 ∈ String.utf8EncodeChar c) : c = d := by
  by_cases hc : c.val < 0x80
  · rw [utf8EncodeChar_of_ascii hc, List.mem_singleton] at h
    rw [← Char.toNat_inj, ← toNat_toUInt8_of_ascii hc, ← h, toNat_toUInt8_of_ascii hd]
  · have hle := UInt8.le_iff_toNat_le.1 (le_of_mem_utf8EncodeChar (UInt32.not_lt.1 hc) h)
    rw [toNat_toUInt8_of_ascii hd] at hle
    exact absurd hd (Nat.not_lt.2 hle)

theorem mem_toList_of_mem_bytes {s : String} {d : Char} (hd : d.val < 0x80)
    (h : d.toUInt8 ∈ bytes s) : d ∈ s.toList := by
  rw [bytes_eq] at h
  obtain ⟨c, hc, hmem⟩ := List.mem_flatMap.1 h
  exact eq_of_mem_utf8EncodeChar hd hmem ▸ hc

/-! ### Cutting a text -/

theorem encode_split {cs : List Char} {as bs : List UInt8} (h : encode cs = as ++ bs)
    (hbs : ∀ b ∈ bs.head?, b < 0x80) : ∃ ds es, encode ds = as ∧ encode es = bs := by
  induction cs generalizing as with
  | nil =>
    obtain ⟨rfl, rfl⟩ := List.append_eq_nil_iff.1 h.symm
    exact ⟨[], [], rfl, rfl⟩
  | cons c cs ih =>
    rw [encode_cons, List.append_eq_append_iff] at h
    rcases h with ⟨xs, rfl, hrest⟩ | ⟨xs, hc, rfl⟩
    · obtain ⟨ds, es, rfl, rfl⟩ := ih hrest
      exact ⟨c :: ds, es, rfl, rfl⟩
    · cases as with
      | nil => exact ⟨[], c :: cs, rfl, by rw [encode_cons, hc, List.nil_append]⟩
      | cons a as =>
        cases xs with
        | nil => exact ⟨[c], cs, by simp [encode_cons, hc], rfl⟩
        -- The cut is not within the character: what follows would be no ASCII byte.
        | cons x xs =>
          have hle := le_of_mem_tail_utf8EncodeChar hc (b := x) (by simp)
          exact absurd (hbs x rfl) (UInt8.not_lt.2 hle)

/-- Before an ASCII byte, and at its end, a text can be cut. -/
theorem bytes_split {s : String} {as bs : List UInt8} (h : bytes s = as ++ bs)
    (hbs : ∀ b ∈ bs.head?, b < 0x80) : ∃ t u, bytes t = as ∧ bytes u = bs := by
  rw [bytes_eq] at h
  obtain ⟨ds, es, hds, hes⟩ := encode_split h hbs
  exact ⟨String.ofList ds, String.ofList es, by rw [bytes_ofList, hds], by rw [bytes_ofList, hes]⟩

/-- Behind an ASCII byte at its start, a text can be cut. -/
theorem exists_bytes_tail {s : String} {b : UInt8} {bs : List UInt8} (h : bytes s = b :: bs)
    (hb : b < 0x80) : ∃ t, bytes t = bs := by
  rw [bytes_eq] at h
  cases hs : s.toList with
  | nil => simp [hs] at h
  | cons c cs =>
    rw [hs, encode_cons] at h
    have hc : c.val < 0x80 := by
      refine UInt32.not_le.1 fun hle => UInt8.not_lt.2 (le_of_mem_utf8EncodeChar hle ?_) hb
      cases henc : String.utf8EncodeChar c with
      | nil => exact absurd henc String.utf8EncodeChar_ne_nil
      | cons a as =>
        rw [henc, List.cons_append, List.cons.injEq] at h
        exact h.1 ▸ List.mem_cons_self
    rw [utf8EncodeChar_of_ascii hc, List.singleton_append, List.cons.injEq] at h
    exact ⟨String.ofList cs, (bytes_ofList cs).trans h.2⟩

/-- An ASCII byte encodes a character. -/
theorem exists_encode_of_ascii {b : UInt8} (hb : b < 0x80) : ∃ c, encode [c] = [b] := by
  have hval : (Char.ofUInt8 b).toNat = b.toNat := UInt8.toNat_toUInt32 b
  have hlt : (Char.ofUInt8 b).val < 0x80 := by
    rw [UInt32.lt_iff_toNat_lt]
    exact Nat.lt_of_le_of_lt (Nat.le_of_eq hval) (UInt8.lt_iff_toNat_lt.1 hb)
  have hbyte : (Char.ofUInt8 b).toUInt8 = b :=
    UInt8.toNat_inj.1 ((toNat_toUInt8_of_ascii hlt).trans hval)
  exact ⟨_, by rw [encode_cons_of_ascii hlt, hbyte, encode_nil]⟩

/-- The last byte of a run or the first byte behind it is an ASCII byte, if there is one. -/
def Cut (as bs : List UInt8) : Prop := (∀ b ∈ as.getLast?, b < 0x80) ∨ ∀ b ∈ bs.head?, b < 0x80

theorem Cut.of_forall {as bs : List UInt8} (h : ∀ b ∈ as, b < 0x80) : Cut as bs :=
  .inl fun b hb => h b (List.mem_of_getLast? hb)

theorem Cut.cons {b : UInt8} (hb : b < 0x80) (as bs : List UInt8) : Cut as (b :: bs) := by
  refine .inr ?_
  rintro _ ⟨⟩
  exact hb

theorem Cut.singleton {b : UInt8} (hb : b < 0x80) (bs : List UInt8) : Cut [b] bs :=
  .of_forall fun c hc => by rwa [List.mem_singleton.1 hc]

theorem Cut.append_left {as bs : List UInt8} (h : Cut as bs) (hne : as ≠ []) (xs : List UInt8) :
    Cut (xs ++ as) bs := by
  rwa [Cut, List.getLast?_append_of_ne_nil xs hne]

/-- Beside an ASCII byte an encoded text can be cut. -/
theorem Cut.exists_texts {s : String} {as bs : List UInt8} (cut : Cut as bs)
    (h : bytes s = as ++ bs) : ∃ t u, s = t ++ u ∧ bytes t = as ∧ bytes u = bs := by
  suffices hparts : ∃ t u, bytes t = as ∧ bytes u = bs by
    obtain ⟨t, u, ht, hu⟩ := hparts
    exact ⟨t, u, bytes_inj.1 (by rw [h, bytes_append, ht, hu]), ht, hu⟩
  rcases cut with hlast | hhead
  · rcases List.eq_nil_or_concat' as with rfl | ⟨xs, b, rfl⟩
    · exact ⟨"", s, bytes_ofList [], h⟩
    · have hb : b < 0x80 := hlast b (by simp)
      rw [List.append_assoc, List.singleton_append] at h
      obtain ⟨t, u, ht, hu⟩ := bytes_split h (by rintro _ ⟨⟩; exact hb)
      obtain ⟨v, hv⟩ := exists_bytes_tail hu hb
      obtain ⟨c, hc⟩ := exists_encode_of_ascii hb
      exact ⟨t ++ String.ofList [c], v, by rw [bytes_append, bytes_ofList, ht, hc], hv⟩
  · exact bytes_split h hhead

/-! ### Order -/

theorem utf8EncodeChar_append_lt {c d : Char} (h : c < d) (xs ys : List UInt8) :
    String.utf8EncodeChar c ++ xs < String.utf8EncodeChar d ++ ys := by
  have h : c.val.toNat < d.val.toNat := h
  have hbound : d.val.toNat < 0x110000 := by
    have hvalid : d.val.toNat < 0xd800 ∨ 0xdfff < d.val.toNat ∧ d.val.toNat < 0x110000 := d.valid
    omega
  unfold String.utf8EncodeChar
  simp only
  generalize c.val.toNat = v at *
  generalize d.val.toNat = w at *
  -- The digits of a number to the base 64 are compared from the front.
  have digits (n : Nat) : n / 4096 = n / 64 / 64 ∧ n / 262144 = n / 64 / 64 / 64 := by omega
  split_ifs <;> simp [List.cons_lt_cons_iff, UInt8.lt_iff_toNat_lt, ← UInt8.toNat_inj, digits] <;>
    omega

/-- Characters are in the order of their bytes. -/
theorem encode_lt_encode {cs ds : List Char} (h : cs < ds) : encode cs < encode ds := by
  induction h with
  | @nil d ds =>
    rw [encode_cons]
    cases henc : String.utf8EncodeChar d with
    | nil => exact absurd henc String.utf8EncodeChar_ne_nil
    | cons b bs => exact .nil
  | rel h => exact utf8EncodeChar_append_lt h _ _
  | @cons c cs ds h ih => exact List.append_left_lt ih

/-- Texts are in the order of their bytes. -/
theorem bytes_lt_bytes {s t : String} (h : s < t) : bytes s < bytes t := by
  rw [bytes_eq, bytes_eq]
  exact encode_lt_encode (String.lt_iff.1 h)

end RoleLookup.Text
