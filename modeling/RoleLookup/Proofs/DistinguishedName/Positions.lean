import RoleLookup.Proofs.DistinguishedName.Acceptance

/-!
# Positions in a text

A scanner starts between two parts of the text that is read, and stops between two others.

* `Cursor.limit`, which no scanner changes, so that an offset counts the bytes that have been read;
* `Cursor.At`, the two parts of a text that a cursor stands between;
* `At.move`, a cursor that has moved on to a place beside an ASCII byte stands between two parts
  again, with `At.skipSpaces`, `At.attributeType`, `At.value`, `At.pair` and `At.separator` for the
  scanners.
-/

namespace RoleLookup.DistinguishedName

open Text

/-! ### Offsets -/

/-- Where the text ends. -/
def Cursor.limit (c : Cursor) : Nat := c.offset + c.rest.length

variable {c d : Cursor} {text : String}

theorem skipSpaces_limit (c : Cursor) : c.skipSpaces.limit = c.limit := by
  have hle := (List.takeWhile_prefix (p := (· == space)) (l := c.rest)).length_le
  simp only [Cursor.limit, Cursor.skipSpaces, Cursor.advance, List.length_drop]
  omega

theorem scan_limit {stops : UInt8 → Bool} {o : Nat} {bs : List UInt8} {vs : List ValueByte}
    (h : scan stops o bs = .ok (vs, d)) : d.limit = o + bs.length := by
  fun_induction scan stops o bs generalizing vs d with
  | case1 => cases h; rfl
  | case2 => cases h; rfl
  | case3 => cases h
  | case4 o b _ _ e rest _ ih =>
    obtain ⟨r, hr, heq⟩ := map_eq_ok.1 h
    cases heq
    rw [ih hr, List.length_cons, List.length_cons]
    omega
  | case5 => cases h
  | case6 => cases h
  | case7 o b _ _ e _ _ f rest _ _ ih =>
    obtain ⟨r, hr, heq⟩ := map_eq_ok.1 h
    cases heq
    rw [ih hr, List.length_cons, List.length_cons, List.length_cons]
    omega
  | case8 o b rest _ _ ih =>
    obtain ⟨r, hr, heq⟩ := map_eq_ok.1 h
    cases heq
    rw [ih hr, List.length_cons]
    omega

theorem value_limit (h : c.value = .ok (text, d)) : d.limit = c.limit := by
  rw [← skipSpaces_limit c]
  by_cases hquote : ∀ b ∈ c.skipSpaces.rest.head?, b ≠ quote
  · rw [value_of_not_quote hquote, plainValue_eq_ok] at h
    obtain ⟨vs, hscan, -⟩ := h
    exact scan_limit hscan
  · push Not at hquote
    obtain ⟨b, hb, rfl⟩ := hquote
    obtain ⟨rest, hrest⟩ := List.head?_eq_some_iff.1 hb
    rw [value_of_quote c.skipSpaces.offset rest (by rw [← hrest]), quotedValue_eq_ok] at h
    obtain ⟨vs, k, b, rest', hscan, -, rfl⟩ := h
    have hlimit := scan_limit hscan
    rw [skipSpaces_limit]
    simp only [Cursor.limit, hrest, List.length_cons] at hlimit ⊢
    omega

theorem attributeType_limit (h : c.attributeType = .ok (text, d)) : d.limit = c.limit := by
  obtain ⟨run, -, hsplit, hoffset, -⟩ := attributeType_eq_ok h
  rw [← skipSpaces_limit c, Cursor.limit, Cursor.limit, ← hsplit, List.length_append,
    List.length_cons]
  omega

/-! ### Parts of a text -/

theorem length_bytes (s : String) : (bytes s).length = s.utf8ByteSize := by
  rw [bytes, toList_byteArray]
  rfl

/-- A cursor stands between two parts of a text. -/
structure Cursor.At (s before after : String) (c : Cursor) : Prop where
  text : s = before ++ after
  offset : c.offset = (bytes before).length
  rest : c.rest = bytes after

namespace Cursor.At

variable {s before after : String}

theorem ofText (s : String) : (Cursor.ofText s).At s "" s where
  text := String.empty_append.symm
  offset := congrArg List.length (bytes_ofList []).symm
  rest := rfl

theorem offset_eq (h : c.At s before after) : c.offset = before.utf8ByteSize :=
  h.offset.trans (length_bytes before)

/-- A cursor stands on a boundary of characters. -/
theorem isValid (h : c.At s before after) : String.Pos.Raw.IsValid s ⟨c.offset⟩ := by
  rw [String.Pos.Raw.isValid_iff_exists_append, h.offset_eq]
  exact ⟨before, after, h.text, rfl⟩

/-- Beside an ASCII byte a cursor stands between two parts. -/
theorem move {as : List UInt8} (h : c.At s before after) (hrest : c.rest = as ++ d.rest)
    (hlimit : d.limit = c.limit) (cut : Cut as d.rest) :
    ∃ t u, after = t ++ u ∧ bytes t = as ∧ d.At s (before ++ t) u := by
  obtain ⟨t, u, rfl, ht, hu⟩ := cut.exists_texts (h.rest.symm.trans hrest)
  refine ⟨t, u, rfl, ht, by rw [h.text, String.append_assoc], ?_, hu.symm⟩
  have hoffset := h.offset
  simp only [Cursor.limit, hrest, List.length_append] at hlimit
  rw [bytes_append, List.length_append, ht]
  omega

theorem skipSpaces (h : c.At s before after) : ∃ n t u, after = t ++ u ∧
    bytes t = List.replicate n space ∧ c.skipSpaces.At s (before ++ t) u := by
  obtain ⟨n, hn⟩ := exists_replicate_skipSpaces c
  obtain ⟨t, u, hsplit, ht, hu⟩ := h.move hn (skipSpaces_limit c) (cut_spaces n _)
  exact ⟨n, t, u, hsplit, ht, hu⟩

theorem attributeType {name : String} (h : c.At s before after)
    (htype : c.attributeType = .ok (name, d)) : ∃ n type t u, IsType type ∧ trim type = name ∧
      bytes t = List.replicate n space ++ bytes type ++ [equals] ∧ d.At s (before ++ t) u := by
  obtain ⟨n, type, hrun, htrim, hyield⟩ := exists_run h.rest.symm htype
  have hsplit : c.rest = List.replicate n space ++ bytes type ++ [equals] ++ d.rest := by
    simp [← hyield]
  obtain ⟨t, u, -, ht, hu⟩ := h.move hsplit (attributeType_limit htype)
    ((Cut.singleton (by decide) _).append_left (by simp) _)
  exact ⟨n, type, t, u, hrun, htrim, ht, hu⟩

theorem value {value : String} (h : c.At s before after) (hvalue : c.value = .ok (value, d)) :
    ∃ (n : Nat) (v : ValueTree) (t u : String), v.WellFormed ∧ v.text = value ∧
      v.Ends d.rest ∧ bytes t = List.replicate n space ++ v.yield ∧ d.At s (before ++ t) u := by
  obtain ⟨n, v, hv, htext, hyield, hends⟩ := exists_valueTree hvalue
  have hspaces : Cut (List.replicate n space ++ v.yield) d.rest := by
    by_cases hne : v.yield = []
    · rw [hne, List.append_nil]
      exact cut_spaces n _
    · exact hends.cut.append_left hne _
  obtain ⟨t, u, -, ht, hu⟩ := h.move (by rw [List.append_assoc, hyield]) (value_limit hvalue)
    hspaces
  exact ⟨n, v, t, u, hv, htext, hends, ht, hu⟩

theorem pair {p : Pair} (h : c.At s before after) (hpair : c.pair = .ok (p, d)) :
    ∃ (tree : PairTree) (t u : String), tree.WellFormed ∧ tree.pair = p ∧ bytes t = tree.yield ∧
      d.At s (before ++ t) u := by
  obtain ⟨e, htype, hvalue⟩ := pair_eq_ok.1 hpair
  obtain ⟨n, type, t, u, hrun, htrim, ht, he⟩ := h.attributeType htype
  obtain ⟨m, v, w, x, hv, htext, -, hw, hd⟩ := he.value hvalue
  refine ⟨⟨n, type, m, v⟩, t ++ w, x, ⟨hrun, hv⟩, ?_, ?_, String.append_assoc.symm ▸ hd⟩
  · rw [PairTree.pair, htrim, htext]
  · rw [bytes_append, ht, hw, PairTree.yield]
    simp

theorem separator {b : UInt8} {rest : List UInt8} (h : c.At s before after)
    (hrest : c.rest = b :: rest) (hb : isSeparator b = true) :
    ∃ t u, bytes t = [b] ∧ (Cursor.mk (c.offset + 1) rest).At s (before ++ t) u := by
  have hsplit : c.rest = [b] ++ rest := hrest
  obtain ⟨t, u, -, ht, hu⟩ := h.move (d := ⟨c.offset + 1, rest⟩) hsplit
    (by simp only [Cursor.limit, hrest, List.length_cons]; omega)
    (.singleton (lt_of_isSeparator hb) rest)
  exact ⟨t, u, ht, hu⟩

end Cursor.At

end RoleLookup.DistinguishedName
