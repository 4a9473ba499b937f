import RoleLookup.Proofs.DistinguishedName.Walk

/-!
# What an error points at

* `Front`, `PairStart`, `ValueStart`, `RunStart`, the places of a text at which a pair, a value and
  the run of a value start, each with the two parts of the text that meet there;
* `Flaw`, what is wrong with a text, and which position an error then carries;
* `exists_broken`, a run fails where a backslash starts no escape;
* `exists_text_of_pieces`, a run of a text means a text, unless two hexadecimal digits in it write
  a byte that is not ASCII;
* `flaw_of_names`, an error of the parser is a flaw of its text;
* `parse_keeps_to_boundaries`, the parser keeps to its text, and so does every error.
-/

namespace RoleLookup.DistinguishedName

open Text

/-! ### Places -/

/-- What stands in front of a pair: nothing, or pairs with a separator behind each. -/
inductive Front : String → Prop
  | start : Front ""
  | next {before pair : String} {p : PairTree} {b : UInt8} (front : Front before)
      (wellFormed : p.WellFormed) (separator : isSeparator b = true)
      (yields : bytes pair = p.yield ++ [b]) : Front (before ++ pair)

/-- A pair starts between two parts of a text, behind the spaces in front of it. -/
structure PairStart (s before after : String) : Prop where
  text : s = before ++ after
  front : ∃ front spaces n, Front front ∧ bytes spaces = List.replicate n space ∧
    before = front ++ spaces
  head : ∀ b ∈ (bytes after).head?, b ≠ space

/-- A value starts between two parts of a text, behind a type, an `=` and the spaces behind that. -/
structure ValueStart (s before after : String) : Prop where
  text : s = before ++ after
  pair : ∃ front type spaces n, PairStart s front (type ++ spaces ++ after) ∧ IsType type ∧
    bytes spaces = equals :: List.replicate n space ∧ before = front ++ (type ++ spaces)
  head : ∀ b ∈ (bytes after).head?, b ≠ space

/-- The run of a value starts between two parts of a text. It is the value itself, or it starts
behind the opening quote, and `stops` are the bytes before which it ends. -/
inductive RunStart (s : String) : (stops : UInt8 → Bool) → (before after : String) → Prop
  | plain {before after : String} (value : ValueStart s before after)
      (head : ∀ b ∈ (bytes after).head?, b ≠ quote) : RunStart s isSeparator before after
  | quoted {before after mark : String} (value : ValueStart s before (mark ++ after))
      (hmark : bytes mark = [quote]) : RunStart s (· == quote) (before ++ mark) after

/-- Behind a backslash stands nothing, or a hexadecimal digit without another one. -/
inductive Broken : List UInt8 → Prop
  | bare : Broken []
  | half {d : UInt8} {rest : List UInt8} (digit : (hexValue? d).isSome)
      (none : ∀ e ∈ rest.head?, hexValue? e = none) : Broken (d :: rest)

/-! ### Flaws -/

/-- The position that an error carries. -/
def Error.offset? : Error → Option Nat
  | missingEquals n | emptyAttributeType n | invalidEscape n | unterminatedQuote n
  | unexpectedCharacter n => some n
  | invalidUtf8 => none

/-- What is wrong with a text. Where an error carries a position, it is the size of the part in
front of what is wrong. -/
inductive Flaw (s : String) : Error → Prop
  /-- A pair has no `=` before the next separator. -/
  | missingEquals {before after : String} {run rest : List UInt8} (pair : PairStart s before after)
      (split : bytes after = run ++ rest) (hrun : ∀ b ∈ run, endsType b = false)
      (hrest : Stopped isSeparator rest) : Flaw s (.missingEquals before.utf8ByteSize)
  /-- There is nothing but white space in front of the `=` of a pair. -/
  | emptyAttributeType {before type after : String} (pair : PairStart s before (type ++ after))
      (blank : trim type = "") (hequals : (bytes after).head? = some equals) :
      Flaw s (.emptyAttributeType before.utf8ByteSize)
  /-- A backslash in a value starts no escape. -/
  | invalidEscape {stops : UInt8 → Bool} {before run after : String} {ps : List Piece}
      {rest : List UInt8} (start : RunStart s stops before (run ++ after))
      (wellFormed : ∀ p ∈ ps, p.WellFormed stops) (yields : bytes run = ps.flatMap Piece.yield)
      (split : bytes after = backslash :: rest) (broken : Broken rest) :
      Flaw s (.invalidEscape (before ++ run).utf8ByteSize)
  /-- A value is quoted, and there is no closing quote. -/
  | unterminatedQuote {before after : String} {ps : List Piece} (value : ValueStart s before after)
      (wellFormed : ∀ p ∈ ps, p.WellFormed (· == quote))
      (split : bytes after = quote :: ps.flatMap Piece.yield) :
      Flaw s (.unterminatedQuote before.utf8ByteSize)
  /-- Behind the closing quote and spaces stands something that is no separator. -/
  | unexpectedCharacter {before value after text : String} {ps : List Piece} {n : Nat} {b : UInt8}
      {rest : List UInt8} (start : ValueStart s before (value ++ after))
      (wellFormed : (ValueTree.quoted ps text n).WellFormed)
      (yields : bytes value = (ValueTree.quoted ps text n).yield)
      (split : bytes after = b :: rest) (notSpace : b ≠ space)
      (notSeparator : isSeparator b = false) :
      Flaw s (.unexpectedCharacter (before ++ value).utf8ByteSize)
  /-- In a value two hexadecimal digits write a byte that is not ASCII. -/
  | invalidUtf8 {stops : UInt8 → Bool} {before after : String} {ps : List Piece}
      {rest : List UInt8} {high low : UInt8} (start : RunStart s stops before after)
      (wellFormed : ∀ p ∈ ps, p.WellFormed stops)
      (split : bytes after = ps.flatMap Piece.yield ++ rest) (stopped : Stopped stops rest)
      (mem : Piece.hex high low ∈ ps) (high : 0x80 ≤ (Piece.hex high low).byte) :
      Flaw s .invalidUtf8

variable {s before after : String} {c d : Cursor} {e : Error} {stops : UInt8 → Bool}
  {ps : List Piece} {bs rest : List UInt8} {o : Nat}

/-! ### Runs that fail -/

/-- After `n` bytes of a run, a backslash starts no escape. -/
def BreaksAt (stops : UInt8 → Bool) (bs : List UInt8) (n : Nat) : Prop :=
  ∃ (ps : List Piece) (rest : List UInt8), (∀ p ∈ ps, p.WellFormed stops) ∧
    ps.flatMap Piece.yield ++ backslash :: rest = bs ∧ Broken rest ∧
    (ps.flatMap Piece.yield).length = n

theorem Broken.breaksAt (h : Broken rest) : BreaksAt stops (backslash :: rest) 0 :=
  ⟨[], rest, by simp, rfl, h, rfl⟩

theorem BreaksAt.cons {n : Nat} (p : Piece) (hp : p.WellFormed stops) (h : BreaksAt stops bs n) :
    BreaksAt stops (p.yield ++ bs) (p.yield.length + n) := by
  obtain ⟨ps, rest, hps, rfl, hbroken, rfl⟩ := h
  exact ⟨p :: ps, rest, List.forall_mem_cons.2 ⟨hp, hps⟩, by simp, hbroken, by simp⟩

/-- A run fails where a backslash starts no escape, and nowhere else. -/
theorem exists_broken (h : scan stops o bs = .error e) :
    ∃ n, BreaksAt stops bs n ∧ e = .invalidEscape (o + n) := by
  fun_induction scan stops o bs with
  | case1 => cases h
  | case2 => cases h
  | case3 o b _ hslash =>
    obtain rfl := eq_of_beq hslash
    cases h
    exact ⟨0, Broken.bare.breaksAt, rfl⟩
  | case4 o b _ hslash d rest hd ih =>
    obtain rfl := eq_of_beq hslash
    obtain ⟨n, hn, rfl⟩ := ih (map_eq_error.1 h)
    exact ⟨_, hn.cons (.escaped d) hd, by rw [← Nat.add_assoc]; rfl⟩
  | case5 o b _ hslash d high hd =>
    obtain rfl := eq_of_beq hslash
    cases h
    exact ⟨0, (Broken.half (Option.isSome_of_eq_some hd) (by simp)).breaksAt, rfl⟩
  | case6 o b _ hslash d high hd e rest he =>
    obtain rfl := eq_of_beq hslash
    cases h
    exact ⟨0, (Broken.half (Option.isSome_of_eq_some hd) (by simpa using he)).breaksAt, rfl⟩
  | case7 o b _ hslash d high hd e rest low he ih =>
    obtain rfl := eq_of_beq hslash
    obtain ⟨n, hn, rfl⟩ := ih (map_eq_error.1 h)
    exact ⟨_, hn.cons (.hex d e) ⟨Option.isSome_of_eq_some hd, Option.isSome_of_eq_some he⟩,
      by rw [← Nat.add_assoc]; rfl⟩
  | case8 o b rest hb hslash ih =>
    obtain ⟨n, hn, rfl⟩ := ih (map_eq_error.1 h)
    exact ⟨_, hn.cons (.raw b) ⟨by simpa using hb, by simpa using hslash⟩,
      by rw [← Nat.add_assoc]; rfl⟩

theorem plainValue_eq_error (h : c.plainValue = .error e) :
    scan isSeparator c.offset c.rest = .error e ∨ ∃ vs d,
      scan isSeparator c.offset c.rest = .ok (vs, d) ∧
      valueText (dropTrailingSpaces vs) = .error e := by
  unfold Cursor.plainValue at h
  cases hscan : scan isSeparator c.offset c.rest with
  | error e' =>
    simp only [hscan, bind, Except.bind, Except.error.injEq] at h
    exact .inl (by rw [h])
  | ok r =>
    refine .inr ⟨r.1, r.2, rfl, ?_⟩
    cases ht : valueText (dropTrailingSpaces r.1) with
    | error e' => simpa [hscan, ht, bind, Except.bind] using h
    | ok t => simp [hscan, ht, bind, Except.bind, pure, Except.pure] at h

theorem quotedValue_eq_error {start : Nat} (h : c.quotedValue start = .error e) :
    scan (· == quote) c.offset c.rest = .error e ∨
    (∃ vs d, scan (· == quote) c.offset c.rest = .ok (vs, d) ∧ d.rest = [] ∧
      e = .unterminatedQuote start) ∨
    ∃ vs d, scan (· == quote) c.offset c.rest = .ok (vs, d) ∧ valueText vs = .error e := by
  unfold Cursor.quotedValue at h
  cases hscan : scan (· == quote) c.offset c.rest with
  | error e' =>
    simp only [hscan, bind, Except.bind, Except.error.injEq] at h
    exact .inl (by rw [h])
  | ok r =>
    obtain ⟨vs, d⟩ := r
    simp only [hscan, bind, Except.bind] at h
    split at h
    · rename_i hnil
      cases h
      exact .inr (.inl ⟨vs, d, rfl, hnil, rfl⟩)
    · refine .inr (.inr ⟨vs, d, rfl, ?_⟩)
      cases ht : valueText vs with
      | error e' => simpa [ht] using h
      | ok t => simp [ht, pure, Except.pure] at h

theorem valueText_eq_error {vs : List ValueByte} (h : valueText vs = .error e) :
    e = .invalidUtf8 ∧ ∀ t, bytes t ≠ vs.map (·.byte) := by
  refine ⟨?_, fun t ht => ?_⟩
  · unfold valueText at h
    split at h
    · cases h
    · cases h
      rfl
  · rw [valueText_eq_ok.2 ht] at h
    cases h

/-! ### Texts that runs mean -/

theorem lt_of_hexValue? {b : UInt8} (h : (hexValue? b).isSome) : b < 0x80 := by
  rw [hexValue?] at h
  grind

/-- What a run of a text means is a text, if the bytes that hexadecimal digits write are ASCII. A
backslash is ASCII itself, so that the text can be cut on both sides of it, and a byte behind it
keeps the bytes of its character behind itself. -/
theorem exists_text_of_pieces {as : List UInt8} (hs : bytes s = as ++ ps.flatMap Piece.yield)
    (hps : ∀ p ∈ ps, p.WellFormed stops)
    (hascii : ∀ high low, Piece.hex high low ∈ ps → (Piece.hex high low).byte < 0x80) :
    ∃ t, bytes t = as ++ ps.map Piece.byte := by
  induction ps generalizing s as with
  | nil => exact ⟨s, hs⟩
  | cons p ps ih =>
    obtain ⟨hp, hps⟩ := List.forall_mem_cons.1 hps
    have hascii' := fun high low hmem => hascii high low (List.mem_cons_of_mem p hmem)
    -- The text with the byte that is meant in the place of the piece that writes it.
    suffices hmeant : ∃ t, bytes t = (as ++ [p.byte]) ++ ps.flatMap Piece.yield by
      obtain ⟨t, ht⟩ := hmeant
      obtain ⟨u, hu⟩ := ih ht hps hascii'
      exact ⟨u, by rw [hu]; simp⟩
    cases p with
    | raw b => exact ⟨s, by rw [hs]; simp [Piece.yield, Piece.byte]⟩
    | escaped b =>
      simp only [List.flatMap_cons, Piece.yield, List.cons_append, List.nil_append] at hs
      obtain ⟨front, t, -, hfront, ht⟩ := (Cut.cons (by decide) _ _).exists_texts hs
      obtain ⟨u, hu⟩ := exists_bytes_tail ht (by decide)
      exact ⟨front ++ u, by rw [bytes_append, hfront, hu]; simp [Piece.byte]⟩
    | hex high low =>
      simp only [List.flatMap_cons, Piece.yield, List.cons_append, List.nil_append] at hs
      obtain ⟨front, t, -, hfront, ht⟩ := (Cut.cons (by decide) _ _).exists_texts hs
      obtain ⟨u, hu⟩ := exists_bytes_tail ht (by decide)
      obtain ⟨v, hv⟩ := exists_bytes_tail hu (lt_of_hexValue? hp.1)
      obtain ⟨w, hw⟩ := exists_bytes_tail hv (lt_of_hexValue? hp.2)
      obtain ⟨char, hchar⟩ := exists_encode_of_ascii (hascii high low List.mem_cons_self)
      exact ⟨front ++ String.ofList [char] ++ w, by
        rw [bytes_append, bytes_append, hfront, bytes_ofList, hchar, hw]⟩

/-- The spaces at the end of a plain value can be cut off. -/
theorem exists_text_of_significant {t : String} (h : bytes t = ps.map Piece.byte) :
    ∃ u, bytes u = (ValueTree.significant ps).map Piece.byte := by
  obtain ⟨n, hn⟩ : ∃ n, ps = ValueTree.significant ps ++ List.replicate n (.raw space) := by
    refine ⟨(ps.reverse.takeWhile (· == .raw space)).length, ?_⟩
    have hspaces : ∀ p ∈ ps.reverse.takeWhile (· == .raw space), p = .raw space := fun p hp => by
      simpa using List.mem_takeWhile_imp hp
    have hsplit := congrArg List.reverse
      (List.takeWhile_append_dropWhile (p := (· == Piece.raw space)) (l := ps.reverse))
    rw [List.reverse_append, List.reverse_reverse] at hsplit
    conv_lhs => rw [← hsplit, List.eq_replicate_of_mem hspaces, List.reverse_replicate]
    rfl
  rw [hn, List.map_append, List.map_replicate] at h
  obtain ⟨u, -, -, hu, -⟩ := Cut.exists_texts (.inr fun b hb => by
    rw [List.eq_of_mem_replicate (List.mem_of_mem_head? hb)]
    decide) h
  exact ⟨u, hu⟩

/-! ### Errors are flaws -/

theorem Cursor.At.pairStart (h : c.At s before after) (hfront : Front before) :
    ∃ t u, PairStart s (before ++ t) u ∧ c.skipSpaces.At s (before ++ t) u := by
  obtain ⟨n, t, u, -, ht, hc⟩ := h.skipSpaces
  exact ⟨t, u, ⟨hc.text, ⟨before, t, n, hfront, ht, rfl⟩, hc.rest ▸ skipSpaces_head c⟩, hc⟩

theorem flaw_of_attributeType (h : c.At s before after) (hfront : Front before)
    (he : c.attributeType = .error e) : Flaw s e := by
  obtain ⟨t, u, hpair, hc⟩ := h.pairStart hfront
  obtain ⟨run, rest, hsplit, hrun, hrest⟩ := exists_typeRun c
  have hbytes := hc.rest.symm.trans hsplit
  rcases endsType_cases hrest with ⟨rest, rfl⟩ | hseparator
  · rw [attributeType_of_equals hrun hsplit] at he
    split at he
    · rename_i hblank
      cases he
      obtain ⟨type, v, rfl, rfl, hv⟩ := (Cut.cons (by decide) _ _).exists_texts hbytes
      rw [decodeLossy_of_decode? (decode?_eq_some.2 (rfl : bytes type = bytes type))] at hblank
      exact hc.offset_eq ▸ .emptyAttributeType hpair (by simpa using hblank) (hv ▸ rfl)
    · cases he
  · rw [attributeType_of_separator hrun hseparator hsplit] at he
    cases he
    exact hc.offset_eq ▸ .missingEquals hpair hbytes hrun hseparator

theorem Cursor.At.valueStart {name : String} (h : c.At s before after) (hfront : Front before)
    (hname : c.attributeType = .ok (name, d)) :
    ∃ t u, ValueStart s (before ++ t) u ∧ d.skipSpaces.At s (before ++ t) u := by
  obtain ⟨n, type, t, u, htype, -, ht, hd⟩ := h.attributeType hname
  obtain ⟨m, v, w, rfl, hv, hskip⟩ := hd.skipSpaces
  rw [List.append_assoc] at ht
  obtain ⟨spaces, x, rfl, hspaces, hx⟩ := (cut_spaces n _).exists_texts ht
  obtain ⟨run, mark, rfl, hrun, hmark⟩ := (Cut.cons (by decide) _ _).exists_texts hx
  obtain rfl := bytes_inj.1 hrun
  have hpair : PairStart s (before ++ spaces) (run ++ (mark ++ v) ++ w) := by
    refine ⟨?_, ⟨before, spaces, n, hfront, hspaces, rfl⟩, ?_⟩
    · simpa only [String.append_assoc] using hd.text
    · rw [String.append_assoc, String.append_assoc, bytes_append, bytes_append, hmark]
      exact htype.head_ne_space _
  refine ⟨spaces ++ (run ++ mark) ++ v, w, ⟨?_, ⟨_, _, _, m, hpair, htype, ?_, ?_⟩, ?_⟩, ?_⟩
  · simpa only [String.append_assoc] using hskip.text
  · rw [bytes_append, hmark, hv, List.singleton_append]
  · simp only [String.append_assoc]
  · exact hskip.rest ▸ skipSpaces_head d
  · simpa only [String.append_assoc] using hskip

/-- Where the run of a value fails. -/
theorem flaw_of_scan (hstart : RunStart s stops before after) (h : c.At s before after)
    (he : scan stops c.offset c.rest = .error e) : Flaw s e := by
  obtain ⟨n, ⟨ps, rest, hps, hsplit, hbroken, rfl⟩, rfl⟩ := exists_broken he
  obtain ⟨run, u, rfl, hrun, hu⟩ := (Cut.cons (by decide) _ _).exists_texts
    (h.rest.symm.trans hsplit.symm)
  have hoffset : c.offset + (ps.flatMap Piece.yield).length = (before ++ run).utf8ByteSize := by
    rw [h.offset, ← hrun, ← List.length_append, ← bytes_append, length_bytes]
  exact hoffset ▸ .invalidEscape hstart hps hrun hu hbroken

/-- Where the run of a value means no text. -/
theorem flaw_of_garbled (hstart : RunStart s stops before after)
    (hps : ∀ p ∈ ps, p.WellFormed stops) (hsplit : bytes after = ps.flatMap Piece.yield ++ rest)
    (hrest : Stopped stops rest) (hstops : ∀ b, stops b = true → b < 0x80)
    (hnone : ∀ t, bytes t ≠ ps.map Piece.byte) : Flaw s .invalidUtf8 := by
  obtain ⟨run, -, -, hrun, -⟩ := Cut.exists_texts (.inr fun b hb => hstops b (hrest b hb)) hsplit
  rw [← List.nil_append (ps.flatMap _)] at hrun
  by_contra hflaw
  obtain ⟨t, ht⟩ := exists_text_of_pieces hrun hps fun high low hmem => by
    by_contra hle
    exact hflaw (.invalidUtf8 hstart hps hsplit hrest hmem (UInt8.not_lt.1 hle))
  exact hnone t ht

theorem flaw_of_plainValue (hvalue : ValueStart s before after) (h : c.At s before after)
    (hhead : ∀ b ∈ (bytes after).head?, b ≠ quote) (he : c.plainValue = .error e) : Flaw s e := by
  have hstart := RunStart.plain hvalue hhead
  rcases plainValue_eq_error he with hscan | ⟨vs, d, hscan, htext⟩
  · exact flaw_of_scan hstart h hscan
  · obtain ⟨ps, hps, rfl, hyield, hstop⟩ := run_of_scan hscan
    obtain ⟨rfl, hnone⟩ := valueText_eq_error htext
    refine flaw_of_garbled hstart hps (h.rest.symm.trans hyield.symm) hstop
      (fun b => lt_of_isSeparator) fun t ht => ?_
    obtain ⟨u, hu⟩ := exists_text_of_significant ht
    refine hnone u ?_
    rw [dropTrailingSpaces_map, List.map_map, hu]
    simp [Function.comp_def]

theorem flaw_of_quotedValue {o : Nat} (hvalue : ValueStart s before after)
    (h : (Cursor.mk o (quote :: bs)).At s before after)
    (he : Cursor.quotedValue o ⟨o + 1, bs⟩ = .error e) : Flaw s e := by
  have hsplit : quote :: bs = [quote] ++ bs := rfl
  obtain ⟨mark, u, rfl, hmark, hu⟩ := h.move (d := ⟨o + 1, bs⟩) hsplit
    (by simp only [Cursor.limit, List.length_cons]; omega) (.singleton (by decide) bs)
  have hstart := RunStart.quoted hvalue hmark
  rcases quotedValue_eq_error he with hscan | ⟨vs, d, hscan, hnil, rfl⟩ | ⟨vs, d, hscan, htext⟩
  · exact flaw_of_scan hstart hu hscan
  · obtain ⟨ps, hps, -, hyield, -⟩ := run_of_scan hscan
    rw [hnil, List.append_nil] at hyield
    have hoffset : o = before.utf8ByteSize := h.offset_eq
    exact hoffset ▸ .unterminatedQuote hvalue hps (by rw [hyield]; exact h.rest.symm)
  · obtain ⟨ps, hps, rfl, hyield, hstop⟩ := run_of_scan hscan
    obtain ⟨rfl, hnone⟩ := valueText_eq_error htext
    refine flaw_of_garbled hstart hps (hu.rest.symm.trans hyield.symm) hstop
      (fun b hb => eq_of_beq hb ▸ by decide) fun t ht => hnone t ?_
    rw [List.map_map, ht]
    simp [Function.comp_def]

theorem flaw_of_pair (h : c.At s before after) (hfront : Front before)
    (he : c.pair = .error e) : Flaw s e := by
  cases htype : c.attributeType with
  | error e' =>
    simp only [Cursor.pair, htype, bind, Except.bind, Except.error.injEq] at he
    exact he ▸ flaw_of_attributeType h hfront htype
  | ok r =>
    obtain ⟨name, d⟩ := r
    have hvalue : d.value = .error e := by
      cases hvalue : d.value with
      | error e' => simpa [Cursor.pair, htype, hvalue, bind, Except.bind] using he
      | ok v => simp [Cursor.pair, htype, hvalue, bind, Except.bind, pure, Except.pure] at he
    obtain ⟨t, u, hstart, hd⟩ := h.valueStart hfront htype
    by_cases hquote : ∀ b ∈ d.skipSpaces.rest.head?, b ≠ quote
    · rw [value_of_not_quote hquote] at hvalue
      exact flaw_of_plainValue hstart hd (hd.rest ▸ hquote) hvalue
    · push Not at hquote
      obtain ⟨b, hb, rfl⟩ := hquote
      obtain ⟨rest, hrest⟩ := List.head?_eq_some_iff.1 hb
      rw [value_of_quote d.skipSpaces.offset rest (by rw [← hrest])] at hvalue
      exact flaw_of_quotedValue hstart (hrest ▸ hd) hvalue

/-- What stands behind a pair where no separator does. -/
theorem flaw_of_behind {p : Pair} {b : UInt8} (h : c.At s before after) (hfront : Front before)
    (hpair : c.pair = .ok (p, d)) (hrest : d.rest = b :: rest) (hb : isSeparator b = false) :
    Flaw s (.unexpectedCharacter d.offset) := by
  obtain ⟨k, htype, hvalue⟩ := pair_eq_ok.1 hpair
  obtain ⟨t, u, hstart, hk⟩ := h.valueStart hfront htype
  obtain ⟨n, v, hv, -, hyield, hends⟩ := exists_valueTree hvalue
  obtain ⟨m, hm⟩ := exists_replicate_skipSpaces k
  cases v with
  | plain ps text => exact absurd (hends b (hrest ▸ rfl)) (by simp [hb])
  | quoted ps text a =>
    obtain ⟨-, hsplit⟩ := replicate_space_inj (by rintro _ ⟨⟩; decide) (skipSpaces_head k)
      (hyield.trans hm)
    obtain ⟨value, w, rfl, hvalue', hd⟩ := hk.move hsplit.symm
      (by rw [value_limit hvalue, skipSpaces_limit]) hends.cut
    exact hd.offset_eq ▸ .unexpectedCharacter hstart hv hvalue' (hd.rest.symm.trans hrest)
      (hends b (hrest ▸ rfl)) hb

theorem flaw_of_names (h : c.At s before after) (hfront : Front before)
    (he : c.names = .error e) : Flaw s e := by
  fun_induction Cursor.names c generalizing before after with
  | case1 c e' hpair =>
    cases he
    exact flaw_of_pair h hfront hpair
  | case2 => cases he
  | case3 c p d hpair b rest hrest hb ih =>
    obtain ⟨tree, t, u, htree, -, ht, hd⟩ := h.pair hpair
    obtain ⟨v, w, hv, hnext⟩ := hd.separator hrest hb
    rw [String.append_assoc] at hnext
    exact ih hnext (hfront.next htree hb (by rw [bytes_append, ht, hv])) (map_eq_error.1 he)
  | case4 c p d hpair b rest hrest hb =>
    cases he
    exact flaw_of_behind h hfront hpair hrest (Bool.not_eq_true _ ▸ hb)

/-! ### Positions of flaws -/

theorem RunStart.text (h : RunStart s stops before after) : s = before ++ after := by
  cases h with
  | plain value _ => exact value.text
  | quoted value _ => rw [String.append_assoc, ← value.text]

/-- A position is where two parts of the text meet. -/
theorem Flaw.exists_parts {n : Nat} (h : Flaw s e) (hn : e.offset? = some n) :
    ∃ before after, s = before ++ after ∧ before.utf8ByteSize = n := by
  cases h with
  | missingEquals pair => exact ⟨_, _, pair.text, Option.some_inj.1 hn⟩
  | emptyAttributeType pair => exact ⟨_, _, pair.text, Option.some_inj.1 hn⟩
  | invalidEscape start =>
    exact ⟨_, _, start.text.trans String.append_assoc.symm, Option.some_inj.1 hn⟩
  | unterminatedQuote value => exact ⟨_, _, value.text, Option.some_inj.1 hn⟩
  | unexpectedCharacter start =>
    exact ⟨_, _, start.text.trans String.append_assoc.symm, Option.some_inj.1 hn⟩
  | invalidUtf8 => cases hn

/-- **The parser keeps to its text.** Walking over the bytes by positions it comes to its result:
no byte is looked for behind the end, every type is cut out between boundaries of characters and
decoded as it is, and no loop is endless. An error tells a flaw of the text, and the position that
it carries is a boundary of characters, at the end at the latest. -/
theorem parse_keeps_to_boundaries (s : String) :
    Walk.parse s = Walk.ofResult (parse s) ∧
    ∀ e, parse s = .error e → Flaw s e ∧
      ∀ n, e.offset? = some n → String.Pos.Raw.IsValid s ⟨n⟩ ∧ n ≤ s.utf8ByteSize := by
  refine ⟨Walk.parse_eq s, fun e he => ?_⟩
  have hflaw : Flaw s e := by
    rw [parse] at he
    split at he
    · cases he
    · exact flaw_of_names (.ofText s) .start he
  refine ⟨hflaw, fun n hn => ?_⟩
  obtain ⟨before, after, rfl, rfl⟩ := hflaw.exists_parts hn
  exact ⟨String.Pos.Raw.isValid_iff_exists_append.2 ⟨before, after, rfl, rfl⟩, by
    rw [String.utf8ByteSize_append]
    exact Nat.le_add_right _ _⟩

/-- A backslash in front of a character of two bytes, and one in front of half an escape. -/
theorem parse_keeps_to_boundaries_half :
    Walk.parse "cn=\\é,ou=\\4" = Walk.ofResult (.error (.invalidEscape 10)) ∧
    Flaw "cn=\\é,ou=\\4" (.invalidEscape 10) ∧
    String.Pos.Raw.IsValid "cn=\\é,ou=\\4" ⟨10⟩ := by
  have herror : parse "cn=\\é,ou=\\4" = .error (.invalidEscape 10) := by
    decide +kernel
  obtain ⟨hwalk, hposition⟩ := parse_keeps_to_boundaries "cn=\\é,ou=\\4"
  obtain ⟨hflaw, hvalid⟩ := hposition _ herror
  exact ⟨herror ▸ hwalk, hflaw, (hvalid 10 rfl).1⟩

end RoleLookup.DistinguishedName
