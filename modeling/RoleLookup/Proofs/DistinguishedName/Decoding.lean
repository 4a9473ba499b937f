import Mathlib
import RoleLookup.Proofs.Directory.AttributeType
import RoleLookup.Proofs.DistinguishedName.Acceptance
import RoleLookup.Proofs.DistinguishedName.Spelling

/-!
# Reading the texts of relative names

* `Writes`, pieces that write characters as a text, with `SpellsChar.exists_writes` and
  `SpellsRun.exists_writes`;
* `SpellsValue.exists_tree`, `SpellsPair.exists_tree`, `SpellsName.exists_tree` and
  `SpellsNames.exists_tree`, a text is what a well-formed tree yields;
* `parse_eq_ok_of_spells`, every text of relative names is read as these names.
-/

namespace RoleLookup.DistinguishedName

open Text Directory

/-! ### Bytes of texts -/

@[simp] theorem encode_spaces (n : Nat) : encode (spaces n) = List.replicate n space := by
  induction n with
  | zero => rfl
  | succ n ih => exact congrArg (space :: ·) ih

/-- The two halves of a byte. -/
theorem halves_eq (b : UInt8) :
    UInt8.ofNat (b.toNat / 16) <<< 4 ||| UInt8.ofNat (b.toNat % 16) = b := by
  have hb := b.toNat_lt
  apply UInt8.toNat.inj
  simp only [UInt8.toNat_or, UInt8.toNat_shiftLeft, UInt8.toNat_ofNat']
  rw [Nat.mod_eq_of_lt (by omega : b.toNat / 16 < 2 ^ 8),
    Nat.mod_eq_of_lt (by omega : b.toNat % 16 < 2 ^ 8)]
  change (b.toNat / 16) <<< 4 % 2 ^ 8 ||| b.toNat % 16 = b.toNat
  have hshift : (b.toNat / 16) <<< 4 = b.toNat / 16 * 2 ^ 4 := Nat.shiftLeft_eq ..
  rw [Nat.mod_eq_of_lt (by omega), ← Nat.shiftLeft_add_eq_or_of_lt (by omega), hshift]
  omega

theorem hexValue?_of_isHexDigit {c : Char} {n : Nat} (h : IsHexDigit c n) :
    hexValue? c.toUInt8 = some (UInt8.ofNat n) :=
  IsHexDigit.of_forall (P := fun c n => hexValue? c.toUInt8 = some (UInt8.ofNat n))
    (by decide) h

/-- An ASCII character that cannot stand for itself is not in the encoding of one that can. -/
theorem ne_of_keeps {keeps : Keeps} {first last : Bool} {c d : Char} {b : UInt8}
    (h : keeps first last c = true) (hb : b ∈ String.utf8EncodeChar c) (hd : d.val < 0x80)
    (hkeep : keeps first last d = false) : b ≠ d.toUInt8 := by
  rintro rfl
  rw [eq_of_mem_utf8EncodeChar hd hb, hkeep] at h
  cases h

/-! ### Pieces of texts -/

variable {stops : UInt8 → Bool} {ps qs : List Piece} {cs ds ws vs : List Char} {keeps : Keeps}

/-- Pieces that write the characters `cs` as `ws`. -/
structure Writes (stops : UInt8 → Bool) (ps : List Piece) (cs ws : List Char) : Prop where
  wellFormed : ∀ p ∈ ps, p.WellFormed stops
  byte : ps.map Piece.byte = encode cs
  yield : ps.flatMap Piece.yield = encode ws

theorem Writes.append (hps : Writes stops ps cs ws) (hqs : Writes stops qs ds vs) :
    Writes stops (ps ++ qs) (cs ++ ds) (ws ++ vs) where
  wellFormed := List.forall_mem_append.2 ⟨hps.wellFormed, hqs.wellFormed⟩
  byte := by rw [List.map_append, hps.byte, hqs.byte, encode_append]
  yield := by rw [List.flatMap_append, hps.yield, hqs.yield, encode_append]

/-- Bytes that are written as hexadecimal digits. -/
theorem HexPairs.exists_pieces {bs : List UInt8} (h : HexPairs bs ws) :
    ∃ ps : List Piece, (∀ p ∈ ps, p.WellFormed stops) ∧ ps.map Piece.byte = bs ∧
      ps.flatMap Piece.yield = encode ws ∧ ∀ b, .raw b ∉ ps := by
  induction h with
  | nil => exact ⟨[], by simp⟩
  | @cons b bs high low ws hhigh hlow _ ih =>
    obtain ⟨ps, hps, hbyte, hyield, hraw⟩ := ih
    have hh := hexValue?_of_isHexDigit hhigh
    have hl := hexValue?_of_isHexDigit hlow
    refine ⟨.hex high.toUInt8 low.toUInt8 :: ps, ?_, ?_, ?_, ?_⟩
    · exact List.forall_mem_cons.2
        ⟨⟨Option.isSome_of_eq_some hh, Option.isSome_of_eq_some hl⟩, hps⟩
    · rw [List.map_cons, hbyte]
      simp [Piece.byte, hh, hl, halves_eq]
    · rw [encode_cons_of_ascii (by decide), encode_cons_of_ascii hhigh.val_lt,
        encode_cons_of_ascii hlow.val_lt, ← hyield]
      rfl
    · simp [hraw]

theorem escapable_ascii : ∀ c ∈ escapable, c.val < 0x80 ∧ hexValue? c.toUInt8 = none :=
  List.all_iff_forall_prop.1 (by decide)

/-- A text of a character. A raw piece of it is a byte of a character that stands for itself. -/
theorem SpellsChar.exists_writes {keep : Bool} {c : Char} (h : SpellsChar keep c ws)
    (hstops : keep = true → ∀ b ∈ String.utf8EncodeChar c, stops b = false ∧ b ≠ backslash) :
    ∃ ps, Writes stops ps [c] ws ∧
      ∀ b, .raw b ∈ ps → keep = true ∧ b ∈ String.utf8EncodeChar c := by
  cases h with
  | kept hkeep =>
    refine ⟨(String.utf8EncodeChar c).map .raw, ⟨?_, ?_, ?_⟩, ?_⟩
    · exact List.forall_mem_map.2 (hstops hkeep)
    · simp [encode, Function.comp_def, Piece.byte]
    · simp [encode, List.flatMap_map, Piece.yield]
    · simp [hkeep]
  | escaped hc =>
    obtain ⟨hascii, hhex⟩ := escapable_ascii c hc
    refine ⟨[.escaped c.toUInt8], ⟨by simpa [Piece.WellFormed] using hhex, ?_, ?_⟩, by simp⟩
    · rw [encode_cons_of_ascii hascii]
      rfl
    · rw [encode_cons_of_ascii (by decide), encode_cons_of_ascii hascii]
      rfl
  | hex hpairs =>
    obtain ⟨ps, hps, hbyte, hyield, hraw⟩ := hpairs.exists_pieces
    refine ⟨ps, ⟨hps, by simpa [encode] using hbyte, hyield⟩, fun b hb => absurd hb (hraw b)⟩

theorem Writes.ne_nil {c : Char} (h : Writes stops ps (c :: cs) ws) : ps ≠ [] := by
  rintro rfl
  have hbyte := h.byte
  rw [encode_cons] at hbyte
  exact String.utf8EncodeChar_ne_nil (List.append_eq_nil_iff.1 hbyte.symm).1

/-- A text of a run. Its first and its last piece, if they are raw, are bytes of characters that
stand for themselves there. -/
theorem SpellsRun.exists_writes {first : Bool} (h : SpellsRun keeps first cs ws)
    (hstops : ∀ first last c, keeps first last c = true →
      ∀ b ∈ String.utf8EncodeChar c, stops b = false ∧ b ≠ backslash) :
    ∃ ps, Writes stops ps cs ws ∧
      (∀ b, ps.head? = some (.raw b) →
        ∃ last c, keeps first last c = true ∧ b ∈ String.utf8EncodeChar c) ∧
      ∀ b, ps.getLast? = some (.raw b) →
        ∃ first c, keeps first true c = true ∧ b ∈ String.utf8EncodeChar c := by
  induction h with
  | nil => exact ⟨[], ⟨by simp, rfl, rfl⟩, by simp, by simp⟩
  | @cons first c cs ws vs head _ ih =>
    obtain ⟨ps, hps, hraw⟩ := head.exists_writes (hstops first cs.isEmpty c)
    obtain ⟨qs, hqs, -, hlast⟩ := ih
    refine ⟨ps ++ qs, hps.append hqs, fun b hb => ?_, fun b hb => ?_⟩
    · rw [List.head?_append_of_ne_nil _ hps.ne_nil] at hb
      exact ⟨_, c, hraw b (List.mem_of_mem_head? hb)⟩
    · cases cs with
      | nil =>
        obtain rfl : qs = [] := List.map_eq_nil_iff.1 hqs.byte
        rw [List.append_nil] at hb
        exact ⟨_, c, hraw b (List.mem_of_getLast? hb)⟩
      | cons d cs =>
        rw [List.getLast?_append_of_ne_nil _ hqs.ne_nil] at hb
        exact hlast b hb

/-! ### Values -/

theorem isSeparator_eq_false {b : UInt8} :
    isSeparator b = false ↔ b ≠ ','.toUInt8 ∧ b ≠ '+'.toUInt8 ∧ b ≠ ';'.toUInt8 := by
  simp only [isSeparator, Bool.or_eq_false_iff, beq_eq_false_iff_ne, and_assoc]
  exact Iff.rfl

theorem keepsPlain_stops (first last : Bool) (c : Char) (h : keepsPlain first last c = true) :
    ∀ b ∈ String.utf8EncodeChar c, isSeparator b = false ∧ b ≠ backslash := by
  intro b hb
  have hne {d : Char} (hd : d.val < 0x80) (hkeep : keepsPlain first last d = false) :=
    ne_of_keeps h hb hd hkeep
  refine ⟨isSeparator_eq_false.2 ⟨hne (by decide) ?_, hne (by decide) ?_, hne (by decide) ?_⟩,
    hne (d := '\\') (by decide) ?_⟩ <;> simp [keepsPlain]

theorem keepsQuoted_stops (first last : Bool) (c : Char) (h : keepsQuoted first last c = true) :
    ∀ b ∈ String.utf8EncodeChar c, (b == quote) = false ∧ b ≠ backslash := by
  intro b hb
  have hquote : b ≠ quote := ne_of_keeps (d := '"') h hb (by decide) (by simp [keepsQuoted])
  exact ⟨by simpa using hquote,
    ne_of_keeps (d := '\\') h hb (by decide) (by simp [keepsQuoted])⟩

/-- Raw spaces behind other pieces do not count. -/
theorem significant_append_spaces (n : Nat) (h : ps.getLast? ≠ some (.raw space)) :
    ValueTree.significant (ps ++ List.replicate n (.raw space)) = ps := by
  rw [ValueTree.significant, List.reverse_append, List.reverse_replicate,
    dropWhile_run (p := (· == Piece.raw space)) (by simp), List.reverse_reverse]
  intro p hp
  rw [List.head?_reverse] at hp
  exact beq_eq_false_iff_ne.2 fun heq => h (heq ▸ hp)

/-- Spaces behind a plain value are raw pieces of its run. -/
theorem Writes.append_spaces (h : Writes isSeparator ps cs ws) (n : Nat) :
    (∀ p ∈ ps ++ List.replicate n (Piece.raw space), p.WellFormed isSeparator) ∧
      (ps ++ List.replicate n (Piece.raw space)).flatMap Piece.yield =
        encode ws ++ List.replicate n space := by
  constructor
  · refine List.forall_mem_append.2 ⟨h.wellFormed, fun p hp => ?_⟩
    rw [List.eq_of_mem_replicate hp]
    exact ⟨by decide, by decide⟩
  · rw [List.flatMap_append, h.yield, List.flatMap_replicate]
    simp [Piece.yield]

/-- A plain value starts with neither a space nor a quote. -/
theorem head_of_raw {p : Piece} (h : ∀ b, p = .raw b →
    ∃ last c, keepsPlain true last c = true ∧ b ∈ String.utf8EncodeChar c) :
    ∀ b ∈ p.yield.head?, b ≠ space ∧ b ≠ quote := by
  cases p with
  | raw b =>
    obtain ⟨last, c, hkeep, hc⟩ := h b rfl
    rintro _ ⟨⟩
    exact ⟨ne_of_keeps (d := ' ') hkeep hc (by decide) (by simp [keepsPlain]),
      ne_of_keeps (d := '"') hkeep hc (by decide) (by simp [keepsPlain])⟩
  | escaped b | hex high low =>
    rintro _ ⟨⟩
    decide

/-- A text of a value, between spaces. -/
theorem SpellsValue.exists_tree {value : String} (h : SpellsValue value.toList ws) (k l : Nat) :
    ∃ (n : Nat) (v : ValueTree), v.WellFormed ∧ v.text = value ∧
      List.replicate n space ++ v.yield = encode (spaces k ++ ws ++ spaces l) := by
  cases h with
  | @quoted ws hrun =>
    obtain ⟨ps, hps, -⟩ := hrun.exists_writes keepsQuoted_stops
    refine ⟨k, .quoted ps value l, ⟨hps.wellFormed, by rw [bytes_eq, hps.byte]⟩, rfl, ?_⟩
    have hquote : encode ('"' :: ws ++ ['"']) = quote :: encode ws ++ [quote] := by
      rw [List.cons_append, encode_cons_of_ascii (by decide), encode_append]
      rfl
    rw [encode_append, encode_append, encode_spaces, encode_spaces, hquote, ValueTree.yield,
      hps.yield]
    simp
  | plain hrun =>
    obtain ⟨ps, hps, hhead, hlast⟩ := hrun.exists_writes keepsPlain_stops
    cases ps with
    | nil =>
      -- Spaces on both sides of no value are all in front of it.
      have hempty : encode ws = [] := hps.yield.symm
      refine ⟨k + l, .plain [] value, ⟨by simp, by simp, ?_⟩, rfl, ?_⟩
      · rw [bytes_eq, ← hps.byte]
        rfl
      · simp [hempty, ValueTree.yield]
    | cons p ps =>
      obtain ⟨hwf, hyield⟩ := hps.append_spaces l
      refine ⟨k, .plain (p :: ps ++ List.replicate l (.raw space)) value, ⟨hwf, ?_, ?_⟩, rfl, ?_⟩
      · have hne : p.yield ≠ [] := by cases p <;> exact List.cons_ne_nil _ _
        rw [List.cons_append, List.flatMap_cons, List.head?_append_of_ne_nil _ hne]
        exact head_of_raw fun b hb => hhead b (by rw [List.head?_cons, hb])
      · rw [significant_append_spaces l fun hspace => ?_, hps.byte, bytes_eq]
        obtain ⟨first, c, hkeep, hc⟩ := hlast space hspace
        exact ne_of_keeps (d := ' ') hkeep hc (by decide) (by simp [keepsPlain]) rfl
      · rw [ValueTree.yield, hyield, encode_append, encode_append, encode_spaces, encode_spaces,
          List.append_assoc]

/-! ### Types -/

theorem trim_append_spaces {s : String} (h : ∀ c ∈ s.toList, isBlank c = false) (n : Nat) :
    trim (s ++ String.ofList (spaces n)) = s := by
  have hspaces {cs : List Char} (hcs : ∀ c ∈ cs, isBlank c = false) :
      (spaces n ++ cs).dropWhile isBlank = cs :=
    dropWhile_run (by simp [spaces]) fun c hc => hcs c (List.mem_of_mem_head? hc)
  rw [trim, trimBlanks, String.toList_append, String.toList_ofList]
  cases hs : s.toList with
  | nil =>
    rw [List.nil_append, ← List.append_nil (spaces n), hspaces (by simp)]
    exact (String.toList_eq_nil_iff.1 hs).symm
  | cons c cs =>
    have hc := h c (by simp [hs])
    rw [List.cons_append, List.dropWhile_cons_of_neg (by simp [hc]), ← List.cons_append, ← hs,
      List.reverse_append, spaces, List.reverse_replicate]
    rw [← spaces, hspaces fun d hd => h d (List.mem_reverse.1 hd), List.reverse_reverse,
      String.ofList_toList]

/-- A character of a type is no white space. -/
theorem isBlank_of_isTypeChar {c : Char} (h : IsTypeChar c) : isBlank c = false := by
  obtain (h | rfl) | rfl := h
  · simp only [Char.isAlphanum, Char.isAlpha, Char.isUpper, Char.isLower, Char.isDigit,
      Bool.or_eq_true, Bool.and_eq_true, decide_eq_true_eq, UInt32.le_iff_toNat_le, ge_iff_le] at h
    change (65 ≤ c.toNat ∧ c.toNat ≤ 90 ∨ 97 ≤ c.toNat ∧ c.toNat ≤ 122) ∨
      48 ≤ c.toNat ∧ c.toNat ≤ 57 at h
    simp only [isBlank, Bool.or_eq_false_iff, Bool.and_eq_false_iff, decide_eq_false_iff_not,
      beq_eq_false_iff_ne]
    omega
  all_goals decide

/-- A byte of a type is no ASCII character that is not of a type. -/
theorem ne_of_isTypeChar {c d : Char} {b : UInt8} (h : IsTypeChar c)
    (hb : b ∈ String.utf8EncodeChar c) (hd : d.val < 0x80) (hname : ¬ IsTypeChar d) :
    b ≠ d.toUInt8 := by
  rintro rfl
  exact hname (eq_of_mem_utf8EncodeChar hd hb ▸ h)

/-- An attribute type with spaces behind it. -/
theorem isType_append_spaces {type : String} (h : IsAttributeType type.toList) (n : Nat) :
    IsType (type ++ String.ofList (spaces n)) ∧ trim (type ++ String.ofList (spaces n)) = type := by
  have htrim := trim_append_spaces (fun c hc => isBlank_of_isTypeChar (h.chars c hc)) n
  have hbytes : bytes (type ++ String.ofList (spaces n)) =
      encode type.toList ++ List.replicate n space := by
    rw [bytes_append, bytes_ofList, encode_spaces, bytes_eq]
  refine ⟨⟨?_, ?_, ?_⟩, htrim⟩
  · rw [hbytes]
    refine List.forall_mem_append.2 ⟨fun b hb => ?_, fun b hb => ?_⟩
    · obtain ⟨c, hc, hb⟩ := List.mem_flatMap.1 hb
      have hne {d : Char} (hd : d.val < 0x80) (hname : ¬ IsTypeChar d) : b ≠ d.toUInt8 :=
        ne_of_isTypeChar (h.chars c hc) hb hd hname
      exact ⟨hne (d := '=') (by decide) (by decide), isSeparator_eq_false.2
        ⟨hne (by decide) (by decide), hne (by decide) (by decide), hne (by decide) (by decide)⟩⟩
    · rw [List.eq_of_mem_replicate hb]
      decide
  · obtain ⟨c, cs, hcs, hc⟩ := h.exists_cons
    rw [hbytes, hcs, encode_cons, List.append_assoc,
      List.head?_append_of_ne_nil _ String.utf8EncodeChar_ne_nil]
    exact fun b hb => ne_of_isTypeChar (d := ' ') (.inl (.inl hc)) (List.mem_of_mem_head? hb)
      (by decide) (by decide)
  · rw [htrim]
    obtain ⟨c, cs, hcs, -⟩ := h.exists_cons
    rintro rfl
    cases hcs

/-! ### Names -/

theorem SpellsPair.exists_tree {p : Pair} (h : SpellsPair p ws)
    (htype : IsAttributeType p.attributeType.toList) :
    ∃ t : PairTree, t.WellFormed ∧ t.pair = p ∧ t.yield = encode ws := by
  cases h with
  | @mk ws h i j k l =>
    obtain ⟨hrun, htrim⟩ := isType_append_spaces htype j
    obtain ⟨n, v, hv, htext, hyield⟩ := h.exists_tree k l
    refine ⟨⟨i, _, n, v⟩, ⟨hrun, hv⟩, by rw [PairTree.pair, htrim, htext], ?_⟩
    have hequals : '='.toUInt8 = equals := rfl
    rw [encode_append, encode_cons_of_ascii (by decide), PairTree.yield, hyield, hequals]
    simp [bytes_eq]

theorem SpellsName.exists_tree {name : RelativeName} (h : SpellsName name ws)
    (htypes : ∀ p ∈ name, IsAttributeType p.attributeType.toList) :
    ∃ t : NameTree, t.WellFormed ∧ t.name = name ∧ t.yield = encode ws := by
  induction h with
  | one h =>
    obtain ⟨t, ht, rfl, hyield⟩ := h.exists_tree (htypes _ List.mem_cons_self)
    exact ⟨.one t, ht, rfl, hyield⟩
  | more h _ ih =>
    obtain ⟨t, ht, rfl, hyield⟩ := h.exists_tree (htypes _ List.mem_cons_self)
    obtain ⟨rest, hrest, rfl, hyield'⟩ := ih fun p hp => htypes p (List.mem_cons_of_mem _ hp)
    refine ⟨.more t rest, ⟨ht, hrest⟩, rfl, ?_⟩
    rw [NameTree.yield, hyield, hyield', encode_append, encode_cons_of_ascii (by decide)]
    rfl

theorem exists_separator_text {c : Char} (h : c = ',' ∨ c = ';') :
    ∃ sep : Separator, ∀ cs, encode (c :: cs) = sep.byte :: encode cs := by
  obtain rfl | rfl := h
  · exact ⟨.comma, encode_cons_of_ascii (by decide)⟩
  · exact ⟨.semicolon, encode_cons_of_ascii (by decide)⟩

theorem SpellsNames.exists_tree {names : List RelativeName} (h : SpellsNames names ws)
    (htypes : ∀ name ∈ names, ∀ p ∈ name, IsAttributeType p.attributeType.toList) :
    ∃ t : Tree, t.WellFormed ∧ t.names = names ∧ t.yield = encode ws := by
  induction h with
  | one h =>
    obtain ⟨t, ht, rfl, hyield⟩ := h.exists_tree (htypes _ List.mem_cons_self)
    exact ⟨.one t, ht, rfl, hyield⟩
  | more h hs _ ih =>
    obtain ⟨t, ht, rfl, hyield⟩ := h.exists_tree (htypes _ List.mem_cons_self)
    obtain ⟨rest, hrest, rfl, hyield'⟩ := ih fun p hp => htypes p (List.mem_cons_of_mem _ hp)
    obtain ⟨sep, hsep⟩ := exists_separator_text hs
    refine ⟨.more t sep rest, ⟨ht, hrest⟩, rfl, ?_⟩
    rw [Tree.yield, hyield, hyield', encode_append, hsep]

theorem isBlankText_spaces {s : String} {n : Nat} (h : s.toList = spaces n) :
    isBlankText s = true := by
  rw [isBlankText, h, List.all_eq_true]
  intro c hc
  rw [List.eq_of_mem_replicate hc]
  rfl

/-- **Decoding undoes encoding.** Every text of relative names is read as these names. -/
theorem parse_eq_ok_of_spells {names : List RelativeName} {s : String}
    (htypes : ∀ name ∈ names, ∀ p ∈ name, IsAttributeType p.attributeType.toList)
    (h : Spells names s.toList) : parse s = .ok names := by
  generalize hws : s.toList = ws at h
  cases h with
  | none n => rw [parse, isBlankText_spaces hws, if_pos rfl]
  | some h =>
    obtain ⟨t, ht, rfl, hyield⟩ := h.exists_tree htypes
    exact (Derivation.mk t ht (by rw [hyield, bytes_eq, hws]) : Derivation s).parse

/-- Two relative names, of which the first has two pairs, with escapes of all kinds, quotes and
spaces. -/
theorem parse_eq_ok_of_spells_mixed :
    parse "cn = \\ \\C3\\a9\\,\\20 +2.5.4.11=\"\" ;O=\\#1" =
      .ok [[⟨"cn", " é, "⟩, ⟨"2.5.4.11", ""⟩], [⟨"O", "#1"⟩]] := by
  have hcn : SpellsValue " é, ".toList
      (['\\', ' '] ++ (['\\', 'C', '3', '\\', 'a', '9'] ++
        (['\\', ','] ++ (['\\', '2', '0'] ++ [])))) :=
    .plain (.cons (.escaped (by decide))
      (.cons (.hex (.cons (.inr rfl) (.inl rfl) (.cons (.inl rfl) (.inl rfl) .nil)))
        (.cons (.escaped (by decide)) (.cons (.hex (.cons (.inl rfl) (.inl rfl) .nil)) .nil))))
  have hou : SpellsValue "".toList ('"' :: [] ++ ['"']) := .quoted .nil
  have ho : SpellsValue "#1".toList (['\\', '#'] ++ (['1'] ++ [])) :=
    .plain (.cons (.escaped (by decide)) (.cons (.kept (by decide)) .nil))
  have hnumber {c : Char} (hc : c.isDigit = true) (h0 : c ≠ '0') : IsNumber [c] :=
    .mk hc h0 (by simp)
  have hcnType : IsAttributeType "cn".toList :=
    .inl (.mk (by decide) (List.all_iff_forall_prop.1 (by decide)))
  have houType : IsAttributeType "2.5.4.11".toList :=
    .inr (.more (hnumber (c := '2') (by decide) (by decide))
      (.more (hnumber (c := '5') (by decide) (by decide))
        (.two (hnumber (c := '4') (by decide) (by decide))
          (.mk (c := '1') (by decide) (by decide) (List.forall_mem_singleton.2 rfl)))))
  have hoType : IsAttributeType "O".toList := .inl (.mk (by decide) (by simp))
  refine parse_eq_ok_of_spells (by simpa using ⟨⟨hcnType, houType⟩, hoType⟩) (.some (.more
    (.more (.mk (p := ⟨"cn", _⟩) hcn 0 1 1 1) (.one (.mk (p := ⟨"2.5.4.11", _⟩) hou 0 0 0 1)))
    (.inr rfl) (.one (.one (.mk (p := ⟨"O", _⟩) ho 0 0 0 0)))))

end RoleLookup.DistinguishedName
