import Mathlib.Data.List.TakeWhile
import RoleLookup.Proofs.DistinguishedName.Grammar
import RoleLookup.Proofs.Results
import RoleLookup.Proofs.Text.Lexical

/-!
# The scanners of one pair

Each scanner reads what a well-formed tree yields and answers with what the tree means, and what a
scanner has read is what a well-formed tree yields.

* `scan_pieces` and `run_of_scan`, for a run of raw bytes and escapes;
* `value_tree` and `exists_valueTree`, for a value;
* `attributeType_run` and `exists_run`, for a type;
* `pair_tree` and `exists_pairTree`, for a pair.

Offsets matter to errors only, so the statements leave them open, but for that of a type that is
read.
-/

namespace RoleLookup.DistinguishedName

open Text

variable {stops : UInt8 → Bool} {ps : List Piece} {bs : List UInt8} {o : Nat} {c d : Cursor}

/-! ### Spaces -/

theorem skipSpaces_rest (c : Cursor) : c.skipSpaces.rest = c.rest.dropWhile (· == space) := by
  have h := List.takeWhile_append_dropWhile (p := (· == space)) (l := c.rest)
  conv_lhs => rw [Cursor.skipSpaces, Cursor.advance, ← h]
  exact List.drop_left' (by rw [h])

theorem skipSpaces_replicate (n : Nat) (h : ∀ b ∈ bs.head?, b ≠ space) :
    (Cursor.mk o (List.replicate n space ++ bs)).skipSpaces = ⟨o + n, bs⟩ := by
  have hrun : (List.replicate n space ++ bs).takeWhile (· == space) = List.replicate n space :=
    takeWhile_run (by simp) fun b hb => by simpa using h b hb
  simp [Cursor.skipSpaces, Cursor.advance, hrun]

/-- What is skipped are spaces. -/
theorem exists_replicate_skipSpaces (c : Cursor) :
    ∃ n, c.rest = List.replicate n space ++ c.skipSpaces.rest := by
  have hspaces : ∀ b ∈ c.rest.takeWhile (· == space), b = space := fun b hb => by
    simpa using List.mem_takeWhile_imp hb
  refine ⟨(c.rest.takeWhile (· == space)).length, ?_⟩
  rw [skipSpaces_rest, ← List.eq_replicate_of_mem hspaces, List.takeWhile_append_dropWhile]

/-- All spaces are skipped. -/
theorem skipSpaces_head (c : Cursor) : ∀ b ∈ c.skipSpaces.rest.head?, b ≠ space := by
  intro b hb
  have h := List.head?_dropWhile_not (· == space) c.rest
  rw [← skipSpaces_rest, Option.mem_def.1 hb] at h
  simpa using h

/-- Behind spaces a text can be cut. -/
theorem cut_spaces (n : Nat) (bs : List UInt8) : Cut (List.replicate n space) bs :=
  .of_forall fun b hb => by
    rw [List.eq_of_mem_replicate hb]
    decide

/-! ### Runs of pieces -/

/-- What the scanner makes of a piece. -/
def Piece.valueByte : Piece → ValueByte
  | raw b => ⟨b, false⟩
  | p => ⟨p.byte, true⟩

@[simp] theorem Piece.valueByte_byte (p : Piece) : p.valueByte.byte = p.byte := by
  cases p <;> rfl

theorem Piece.valueByte_isSpace (p : Piece) :
    (p.valueByte.byte == space && !p.valueByte.escaped) = (p == .raw space) := by
  cases p with
  | raw b => simp [valueByte, Bool.beq_eq_decide_eq]
  | escaped b | hex high low => simp [valueByte, Bool.beq_eq_decide_eq]

/-- Only raw spaces are dropped at the end of a run. -/
theorem dropTrailingSpaces_map (ps : List Piece) :
    dropTrailingSpaces (ps.map Piece.valueByte) =
      (ValueTree.significant ps).map Piece.valueByte := by
  have hp : ((fun v : ValueByte => v.byte == space && !v.escaped) ∘ Piece.valueByte) =
      (· == .raw space) := funext Piece.valueByte_isSpace
  rw [dropTrailingSpaces, ← List.map_reverse, List.dropWhile_map, hp, ← List.map_reverse,
    ValueTree.significant]

/-- The bytes `bs` are a run of pieces, of which the scanner makes `vs`, and then `rest`. -/
def Run (stops : UInt8 → Bool) (bs : List UInt8) (vs : List ValueByte) (rest : List UInt8) : Prop :=
  ∃ ps : List Piece, (∀ p ∈ ps, p.WellFormed stops) ∧ ps.map Piece.valueByte = vs ∧
    ps.flatMap Piece.yield ++ rest = bs ∧ Stopped stops rest

theorem Run.nil (h : Stopped stops bs) : Run stops bs [] bs := ⟨[], by simp, rfl, rfl, h⟩

theorem Run.cons {vs : List ValueByte} {rest : List UInt8} (p : Piece) (hp : p.WellFormed stops)
    (h : Run stops bs vs rest) : Run stops (p.yield ++ bs) (p.valueByte :: vs) rest := by
  obtain ⟨ps, hps, rfl, rfl, hrest⟩ := h
  exact ⟨p :: ps, List.forall_mem_cons.2 ⟨hp, hps⟩, rfl, by simp, hrest⟩

theorem run_of_scan {vs : List ValueByte} {d : Cursor} (h : scan stops o bs = .ok (vs, d)) :
    Run stops bs vs d.rest := by
  fun_induction scan stops o bs generalizing vs d with
  | case1 => cases h; exact .nil stopped_nil
  | case2 o b rest hb => cases h; exact .nil (stopped_cons hb rest)
  | case3 => cases h
  | case4 o b hb hslash e rest he ih =>
    obtain rfl := eq_of_beq hslash
    obtain ⟨r, hr, heq⟩ := map_eq_ok.1 h
    cases heq
    exact (ih hr).cons (.escaped e) he
  | case5 => cases h
  | case6 => cases h
  | case7 o b hb hslash e high hhigh f rest low hlow ih =>
    obtain rfl := eq_of_beq hslash
    obtain ⟨r, hr, heq⟩ := map_eq_ok.1 h
    cases heq
    have hvalue : (Piece.hex e f).valueByte = ⟨high <<< 4 ||| low, true⟩ := by
      simp [Piece.valueByte, Piece.byte, hhigh, hlow]
    exact hvalue ▸ (ih hr).cons (.hex e f)
      ⟨Option.isSome_of_eq_some hhigh, Option.isSome_of_eq_some hlow⟩
  | case8 o b rest hb hslash ih =>
    obtain ⟨r, hr, heq⟩ := map_eq_ok.1 h
    cases heq
    exact (ih hr).cons (.raw b) ⟨by simpa using hb, by simpa using hslash⟩

theorem scan_stopped (h : Stopped stops bs) : scan stops o bs = .ok ([], ⟨o, bs⟩) := by
  cases bs with
  | nil => rw [scan]
  | cons b bs => rw [scan.eq_def]; simp [h b rfl]

theorem scan_piece (hb : stops backslash = false) {p : Piece} (hp : p.WellFormed stops) (o : Nat)
    (bs : List UInt8) : ∃ k, scan stops o (p.yield ++ bs) =
      (scan stops k bs).map fun r => (p.valueByte :: r.1, r.2) := by
  cases p with
  | raw b => exact ⟨o + 1, by rw [scan.eq_def]; simp [Piece.yield, Piece.valueByte, hp.1, hp.2]⟩
  | escaped b =>
    have hp : hexValue? b = none := hp
    exact ⟨o + 2, by rw [scan.eq_def]; simp [Piece.yield, Piece.valueByte, Piece.byte, hb, hp]⟩
  | hex high low =>
    obtain ⟨v, hv⟩ := Option.isSome_iff_exists.1 hp.1
    obtain ⟨w, hw⟩ := Option.isSome_iff_exists.1 hp.2
    exact ⟨o + 3, by rw [scan.eq_def]; simp [Piece.yield, Piece.valueByte, Piece.byte, hb, hv, hw]⟩

theorem scan_pieces (hb : stops backslash = false) (hps : ∀ p ∈ ps, p.WellFormed stops)
    (h : Stopped stops bs) (o : Nat) :
    ∃ k, scan stops o (ps.flatMap Piece.yield ++ bs) = .ok (ps.map Piece.valueByte, ⟨k, bs⟩) := by
  induction ps generalizing o with
  | nil => exact ⟨o, scan_stopped h⟩
  | cons p ps ih =>
    rw [List.flatMap_cons, List.append_assoc]
    obtain ⟨k, hk⟩ := scan_piece hb (hps p List.mem_cons_self) o (ps.flatMap Piece.yield ++ bs)
    obtain ⟨l, hl⟩ := ih (fun p hp => hps p (List.mem_cons_of_mem _ hp)) k
    exact ⟨l, by rw [hk, hl]; rfl⟩

/-! ### Values -/

theorem valueText_eq_ok {vs : List ValueByte} {text : String} :
    valueText vs = .ok text ↔ bytes text = vs.map (·.byte) := by
  rw [← decode?_eq_some, valueText]
  cases decode? (vs.map (·.byte)) <;> simp

theorem valueText_map {qs : List Piece} {text : String} :
    valueText (qs.map Piece.valueByte) = .ok text ↔ bytes text = qs.map Piece.byte := by
  rw [valueText_eq_ok, List.map_map]
  simp [Function.comp_def]

theorem plainValue_eq_ok {c d : Cursor} {text : String} :
    c.plainValue = .ok (text, d) ↔ ∃ vs, scan isSeparator c.offset c.rest = .ok (vs, d) ∧
      valueText (dropTrailingSpaces vs) = .ok text := by
  unfold Cursor.plainValue
  cases scan isSeparator c.offset c.rest with
  | error e => simp [bind, Except.bind]
  | ok r =>
    cases ht : valueText (dropTrailingSpaces r.1) with
    | error e => simp [ht, bind, Except.bind, Prod.ext_iff]
    | ok s => simp [ht, bind, Except.bind, pure, Except.pure, Prod.ext_iff, and_comm]

theorem quotedValue_eq_ok {start : Nat} {c d : Cursor} {text : String} :
    c.quotedValue start = .ok (text, d) ↔ ∃ vs k b rest,
      scan (· == quote) c.offset c.rest = .ok (vs, ⟨k, b :: rest⟩) ∧
      valueText vs = .ok text ∧ (Cursor.mk (k + 1) rest).skipSpaces = d := by
  unfold Cursor.quotedValue
  cases scan (· == quote) c.offset c.rest with
  | error e => simp [bind, Except.bind]
  | ok r =>
    obtain ⟨vs, k, rest⟩ := r
    cases rest with
    | nil => simp [bind, Except.bind]
    | cons b rest =>
      cases ht : valueText vs with
      | error e => simp [ht, bind, Except.bind]
      | ok s => simp [ht, bind, Except.bind, pure, Except.pure, Prod.ext_iff]

theorem value_of_quote {c : Cursor} (k : Nat) (rest : List UInt8)
    (h : c.skipSpaces = ⟨k, quote :: rest⟩) : c.value = Cursor.quotedValue k ⟨k + 1, rest⟩ := by
  simp [Cursor.value, h]

theorem value_of_not_quote {c : Cursor} (h : ∀ b ∈ c.skipSpaces.rest.head?, b ≠ quote) :
    c.value = c.skipSpaces.plainValue := by
  unfold Cursor.value
  cases hrest : c.skipSpaces.rest with
  | nil => simp [hrest]
  | cons b rest => simp [hrest, h b (by simp [hrest])]

/-- The first byte of a plain value is not a quote, even where the value is empty. -/
theorem head_ne_quote {text : String} (hv : (ValueTree.plain ps text).WellFormed)
    (h : Stopped isSeparator bs) : ∀ b ∈ (ps.flatMap Piece.yield ++ bs).head?, b ≠ quote := by
  rintro b hb rfl
  obtain ⟨cs, hcs⟩ := List.head?_eq_some_iff.1 hb
  exact plain_ne_quoted hv h hcs

theorem value_tree {v : ValueTree} (hv : v.WellFormed) (h : Stopped isSeparator bs) (n o : Nat) :
    ∃ k, (Cursor.mk o (List.replicate n space ++ (v.yield ++ bs))).value =
      .ok (v.text, ⟨k, bs⟩) := by
  have hskip := skipSpaces_replicate (o := o) n (v.head_ne_space hv h)
  cases v with
  | plain ps text =>
    obtain ⟨k, hk⟩ := scan_pieces (by decide) hv.1 h (o + n)
    rw [value_of_not_quote (by rw [hskip]; exact head_ne_quote hv h), hskip]
    refine ⟨k, plainValue_eq_ok.2 ⟨_, hk, ?_⟩⟩
    rw [dropTrailingSpaces_map, valueText_map]
    exact hv.2.2
  | quoted ps text after =>
    simp only [ValueTree.yield, List.cons_append, List.append_assoc] at hskip ⊢
    have hstop : Stopped (· == quote) (quote :: (List.replicate after space ++ bs)) :=
      stopped_cons (by decide) _
    obtain ⟨k, hk⟩ := scan_pieces (by decide) hv.1 hstop (o + n + 1)
    rw [value_of_quote _ _ hskip]
    refine ⟨k + 1 + after, quotedValue_eq_ok.2 ⟨_, _, _, _, hk, valueText_map.2 hv.2, ?_⟩⟩
    exact skipSpaces_replicate after (ne_space_of_stopped h)

/-- A separator is an ASCII byte. -/
theorem lt_of_isSeparator {b : UInt8} (hb : isSeparator b = true) : b < 0x80 := by
  simp only [isSeparator, Bool.or_eq_true, beq_iff_eq] at hb
  obtain (rfl | rfl) | rfl := hb <;> decide

/-- Where a value ends: a plain one before a separator or at the end, a quoted one before anything
but a space. -/
def ValueTree.Ends : ValueTree → List UInt8 → Prop
  | plain .., bs => Stopped isSeparator bs
  | quoted .., bs => ∀ b ∈ bs.head?, b ≠ space

/-- A value ends with an ASCII byte or before one. -/
theorem ValueTree.Ends.cut {v : ValueTree} (h : v.Ends bs) : Cut v.yield bs := by
  cases v with
  | plain ps text => exact .inr fun b hb => lt_of_isSeparator (h b hb)
  | quoted ps text after =>
    refine (Cut.of_forall fun b hb => ?_).append_left (List.cons_ne_nil quote _)
      (quote :: ps.flatMap Piece.yield)
    rcases List.mem_cons.1 hb with rfl | hb
    · decide
    · rw [List.eq_of_mem_replicate hb]
      decide

/-- What a value is read from. -/
theorem exists_valueTree {c d : Cursor} {text : String} (h : c.value = .ok (text, d)) :
    ∃ (n : Nat) (v : ValueTree), v.WellFormed ∧ v.text = text ∧
      List.replicate n space ++ (v.yield ++ d.rest) = c.rest ∧ v.Ends d.rest := by
  obtain ⟨n, hn⟩ := exists_replicate_skipSpaces c
  have hspace := skipSpaces_head c
  by_cases hquote : ∀ b ∈ c.skipSpaces.rest.head?, b ≠ quote
  · rw [value_of_not_quote hquote, plainValue_eq_ok] at h
    obtain ⟨vs, hscan, htext⟩ := h
    obtain ⟨ps, hps, rfl, hyield, hstop⟩ := run_of_scan hscan
    rw [dropTrailingSpaces_map, valueText_map] at htext
    refine ⟨n, .plain ps text, ⟨hps, fun b hb => ?_, htext⟩, rfl, by rw [hn, ← hyield]; rfl,
      hstop⟩
    have hb : b ∈ c.skipSpaces.rest.head? := by
      rw [← hyield, List.head?_append, Option.mem_def.1 hb]
      rfl
    exact ⟨hspace b hb, hquote b hb⟩
  · push Not at hquote
    obtain ⟨b, hb, rfl⟩ := hquote
    obtain ⟨rest, hrest⟩ := List.head?_eq_some_iff.1 hb
    rw [value_of_quote c.skipSpaces.offset rest (by rw [← hrest]),
      quotedValue_eq_ok] at h
    obtain ⟨vs, k, b, rest', hscan, htext, hskip⟩ := h
    obtain ⟨ps, hps, rfl, hyield, hstop⟩ := run_of_scan hscan
    obtain rfl : b = quote := by simpa using hstop b rfl
    obtain ⟨after, hafter⟩ := exists_replicate_skipSpaces ⟨k + 1, rest'⟩
    refine ⟨n, .quoted ps text after, ⟨hps, valueText_map.1 htext⟩, rfl, ?_,
      hskip ▸ skipSpaces_head _⟩
    simp only at hafter hyield
    rw [hn, hrest, ← hyield, hafter, hskip]
    simp [ValueTree.yield]

/-! ### Types -/

/-- The bytes `=`, `,`, `+` and `;`, which end a type. -/
def endsType (b : UInt8) : Bool := b == equals || isSeparator b

theorem endsType_eq_false {b : UInt8} :
    endsType b = false ↔ b ≠ equals ∧ isSeparator b = false := by
  simp [endsType]

/-- What a type is read from: a run of bytes, and what ends it. -/
theorem exists_typeRun (c : Cursor) : ∃ run rest, c.skipSpaces.rest = run ++ rest ∧
    (∀ b ∈ run, endsType b = false) ∧ Stopped endsType rest := by
  refine ⟨_, _, (List.takeWhile_append_dropWhile (p := (!endsType ·))).symm, fun b hb => ?_,
    fun b hb => ?_⟩
  · simpa using List.mem_takeWhile_imp hb
  · have h := List.head?_dropWhile_not (!endsType ·) c.skipSpaces.rest
    rw [Option.mem_def.1 hb] at h
    simpa using h

theorem takeWhile_typeRun {run rest : List UInt8} (hrun : ∀ b ∈ run, endsType b = false)
    (hrest : Stopped endsType rest) :
    (run ++ rest).takeWhile (fun b => b != equals && !isSeparator b) = run :=
  takeWhile_run (fun b hb => by simp [endsType_eq_false.1 (hrun b hb)])
    fun b hb => by simpa [endsType, imp_iff_not_or] using hrest b hb

/-- A run in front of `=` is a type, unless it is white space. -/
theorem attributeType_of_equals {run rest : List UInt8} (hrun : ∀ b ∈ run, endsType b = false)
    (h : c.skipSpaces.rest = run ++ equals :: rest) :
    c.attributeType =
      if (trim (decodeLossy run)).isEmpty then .error (.emptyAttributeType c.skipSpaces.offset)
      else .ok (trim (decodeLossy run), ⟨c.skipSpaces.offset + run.length + 1, rest⟩) := by
  have hends : Stopped endsType (equals :: rest) := stopped_cons (by decide) rest
  simp [Cursor.attributeType, h, takeWhile_typeRun hrun hends]

/-- A run that is not in front of `=` is not a type. -/
theorem attributeType_of_separator {run rest : List UInt8} (hrun : ∀ b ∈ run, endsType b = false)
    (hrest : Stopped isSeparator rest) (h : c.skipSpaces.rest = run ++ rest) :
    c.attributeType = .error (.missingEquals c.skipSpaces.offset) := by
  have hends : Stopped endsType rest := fun b hb => by simp [endsType, hrest b hb]
  simp only [Cursor.attributeType, h, takeWhile_typeRun hrun hends, List.drop_left]
  cases rest with
  | nil => rfl
  | cons b rest =>
    have hb : b ≠ equals := by
      rintro rfl
      exact absurd (hrest equals rfl) (by decide)
    simp [hb]

/-- What ends a type is an `=`, or a separator or the end. -/
theorem endsType_cases {rest : List UInt8} (h : Stopped endsType rest) :
    (∃ rest', rest = equals :: rest') ∨ Stopped isSeparator rest := by
  by_cases hequals : ∃ rest', rest = equals :: rest'
  · exact .inl hequals
  · refine .inr fun b hb => ?_
    obtain ⟨rest', rfl⟩ := List.head?_eq_some_iff.1 hb
    have hends := h b hb
    simp only [endsType, Bool.or_eq_true, beq_iff_eq] at hends
    exact hends.resolve_left fun heq => hequals ⟨rest', heq ▸ rfl⟩

theorem attributeType_run {type : String} (h : IsType type) (n o : Nat) (bs : List UInt8) :
    ∃ k, (Cursor.mk o (List.replicate n space ++ (bytes type ++ equals :: bs))).attributeType =
      .ok (trim type, ⟨k, bs⟩) := by
  have hskip := skipSpaces_replicate (o := o) n (h.head_ne_space bs)
  have hlossy := decodeLossy_of_decode? (decode?_eq_some.2 (rfl : bytes type = bytes type))
  refine ⟨o + n + (bytes type).length + 1, ?_⟩
  rw [attributeType_of_equals (fun b hb => endsType_eq_false.2 (h.run b hb)) (by rw [hskip]), hskip,
    hlossy, if_neg (by simpa using h.nonempty)]

/-- A type that is read ends before `=`. -/
theorem attributeType_eq_ok {t : String} (h : c.attributeType = .ok (t, d)) :
    ∃ run : List UInt8, (∀ b ∈ run, endsType b = false) ∧
      run ++ equals :: d.rest = c.skipSpaces.rest ∧
      d.offset = c.skipSpaces.offset + run.length + 1 ∧ trim (decodeLossy run) = t ∧ t ≠ "" := by
  obtain ⟨run, rest, hsplit, hrun, hrest⟩ := exists_typeRun c
  rcases endsType_cases hrest with ⟨rest', rfl⟩ | hseparator
  · rw [attributeType_of_equals hrun hsplit] at h
    split at h
    · cases h
    · rename_i hne
      cases h
      exact ⟨run, hrun, hsplit.symm, rfl, rfl, by simpa using hne⟩
  · rw [attributeType_of_separator hrun hseparator hsplit] at h
    cases h

theorem exists_bytes_of_spaces {s : String} {n : Nat} (h : bytes s = List.replicate n space ++ bs) :
    ∃ t, bytes t = bs := by
  induction n generalizing s with
  | zero => exact ⟨s, h⟩
  | succ n ih =>
    obtain ⟨t, ht⟩ := exists_bytes_tail h (by decide)
    exact ih ht

/-- What a type is read from, where the bytes ahead are those of a text. -/
theorem exists_run {s t : String} (hs : bytes s = c.rest)
    (h : c.attributeType = .ok (t, d)) :
    ∃ (n : Nat) (type : String), IsType type ∧ trim type = t ∧
      List.replicate n space ++ (bytes type ++ equals :: d.rest) = c.rest := by
  obtain ⟨run, hrun, hsplit, -, htrim, hne⟩ := attributeType_eq_ok h
  obtain ⟨n, hn⟩ := exists_replicate_skipSpaces c
  have hhead : ∀ b ∈ run.head?, b ≠ space := fun b hb =>
    skipSpaces_head c b (by rw [← hsplit, List.head?_append, Option.mem_def.1 hb]; rfl)
  -- The run is cut out of a text between spaces and `=`, so that it encodes a text.
  obtain ⟨u, hu⟩ := exists_bytes_of_spaces (hs.trans hn)
  obtain ⟨type, -, rfl, -⟩ := bytes_split (hu.trans hsplit.symm) (by rintro b ⟨⟩; decide)
  rw [decodeLossy_of_decode? (decode?_eq_some.2 rfl)] at htrim
  subst htrim
  have hbytes : ∀ b ∈ bytes type, b ≠ equals ∧ isSeparator b = false :=
    fun b hb => endsType_eq_false.1 (hrun b hb)
  exact ⟨n, type, ⟨hbytes, hhead, hne⟩, rfl, by rw [hn, ← hsplit]⟩

/-! ### Pairs -/

theorem pair_eq_ok {c e : Cursor} {p : Pair} :
    c.pair = .ok (p, e) ↔
      ∃ d, c.attributeType = .ok (p.attributeType, d) ∧ d.value = .ok (p.value, e) := by
  unfold Cursor.pair
  cases c.attributeType with
  | error => simp [bind, Except.bind]
  | ok t =>
    obtain ⟨type, d⟩ := t
    cases hv : d.value with
    | error => simp [hv, bind, Except.bind]
    | ok v =>
      obtain ⟨value, e'⟩ := v
      cases p
      simp [hv, bind, Except.bind, pure, Except.pure, and_assoc]

theorem pair_tree {p : PairTree} (hp : p.WellFormed) (h : Stopped isSeparator bs) (o : Nat) :
    ∃ k, (Cursor.mk o (p.yield ++ bs)).pair = .ok (p.pair, ⟨k, bs⟩) := by
  obtain ⟨k, hk⟩ := attributeType_run hp.type p.before o
    (List.replicate p.between space ++ (p.value.yield ++ bs))
  obtain ⟨l, hl⟩ := value_tree hp.value h p.between k
  refine ⟨l, pair_eq_ok.2 ⟨_, ?_, hl⟩⟩
  simpa [PairTree.yield, PairTree.pair] using hk

/-- What a pair is read from, where the bytes ahead are those of a text. -/
theorem exists_pairTree {c d : Cursor} {s : String} {p : Pair} (hs : bytes s = c.rest)
    (h : c.pair = .ok (p, d)) :
    ∃ t : PairTree, t.WellFormed ∧ t.pair = p ∧ t.yield ++ d.rest = c.rest := by
  obtain ⟨e, htype, hvalue⟩ := pair_eq_ok.1 h
  obtain ⟨n, type, hrun, hname, hyield⟩ := exists_run hs htype
  obtain ⟨m, v, hv, htext, hrest, -⟩ := exists_valueTree hvalue
  refine ⟨⟨n, type, m, v⟩, ⟨hrun, hv⟩, by rw [PairTree.pair, hname, htext], ?_⟩
  rw [← hyield, ← hrest]
  simp [PairTree.yield]

end RoleLookup.DistinguishedName
