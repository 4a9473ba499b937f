import RoleLookup.Proofs.DistinguishedName.Positions

/-!
# Walking over the bytes of a name

The scanners once more, as a walk over the bytes of a text by positions. Here all can go wrong that
can go wrong by positions: a byte may be looked for behind the end, a type may be cut out of
characters, its bytes may not be a text, and a loop may have no end.

* `Fault`, how a walk goes wrong, and `Walk`, a walk that may;
* `Walk.peek`, `Walk.slice`, the only two ways to the bytes, both with their checks;
* `Walk.names`, `Walk.parse`, the walk over a whole name, each loop of which has a round for every
  byte and one more;
* `Walk.parse_eq`, nothing goes wrong, and the walk comes to what `parse` says.
-/

namespace RoleLookup.DistinguishedName

open Text

/-- How a walk goes wrong. -/
inductive Fault
  /-- A byte is looked for behind the end. -/
  | behindEnd (position : Nat)
  /-- A slice does not lie between two boundaries of characters. -/
  | offBoundary (start stop : Nat)
  /-- The bytes of a slice do not encode a text. -/
  | garbled (start stop : Nat)
  /-- All rounds of a loop are used up. -/
  | endless
  deriving DecidableEq, Repr

/-- A walk goes wrong, or ends with an error or a result. -/
abbrev Walk (α : Type) : Type := ExceptT Error (Except Fault) α

namespace Walk

variable {α β : Type}

/-! ### The walk -/

/-- Goes wrong. -/
def fail (f : Fault) : Walk α := ExceptT.mk (.error f)

/-- The byte at a position, or nothing at the end. -/
def peek (bs : List UInt8) (i : Nat) : Walk (Option UInt8) :=
  if i ≤ bs.length then return bs[i]? else fail (.behindEnd i)

/-- The text between two positions. -/
def slice (s : String) (start stop : Nat) : Walk String :=
  if start ≤ stop ∧ String.Pos.Raw.IsValid s ⟨start⟩ ∧ String.Pos.Raw.IsValid s ⟨stop⟩ then
    match decode? ((bytes s).extract start stop) with
    | some t => return t
    | none => fail (.garbled start stop)
  else fail (.offBoundary start stop)

/-- Over spaces. -/
def skipSpaces (bs : List UInt8) : Nat → Nat → Walk Nat
  | 0, _ => fail .endless
  | k + 1, i => do
    if (← peek bs i) = some space then skipSpaces bs k (i + 1) else return i

/-- To the `=` behind a type, unless a separator or the end comes first. -/
def typeEnd (bs : List UInt8) : Nat → Nat → Walk (Option Nat)
  | 0, _ => fail .endless
  | k + 1, i => do
    match ← peek bs i with
    | none => return none
    | some b =>
      if b == equals then return some i
      else if isSeparator b then return none
      else typeEnd bs k (i + 1)

/-- More rounds than a loop over the bytes of a text can take. -/
def rounds (s : String) : Nat := (bytes s).length + 1

/-- Over a type and the `=` behind it. -/
def attributeType (s : String) (i : Nat) : Walk (String × Nat) := do
  let start ← skipSpaces (bytes s) (rounds s) i
  match ← typeEnd (bytes s) (rounds s) start with
  | none => throw (.missingEquals start)
  | some stop =>
    let type := trim (← slice s start stop)
    if type.isEmpty then throw (.emptyAttributeType start) else return (type, stop + 1)

/-- Over an escape, from its backslash on. -/
def escape (bs : List UInt8) (i : Nat) : Walk (UInt8 × Nat) := do
  match ← peek bs (i + 1) with
  | none => throw (.invalidEscape i)
  | some d =>
    match hexValue? d with
    | none => return (d, i + 2)
    | some high =>
      match (← peek bs (i + 2)).bind hexValue? with
      | none => throw (.invalidEscape i)
      | some low => return (high <<< 4 ||| low, i + 3)

/-- Over raw bytes and escapes to a byte that `stops`, or to the end. -/
def run (stops : UInt8 → Bool) (bs : List UInt8) : Nat → Nat → Walk (List ValueByte × Nat)
  | 0, _ => fail .endless
  | k + 1, i => do
    match ← peek bs i with
    | none => return ([], i)
    | some b =>
      if stops b then return ([], i)
      else if b == backslash then
        let (v, j) ← escape bs i
        let (vs, j) ← run stops bs k j
        return (⟨v, true⟩ :: vs, j)
      else
        let (vs, j) ← run stops bs k (i + 1)
        return (⟨b, false⟩ :: vs, j)

/-- What a walk comes to. -/
def ofResult (r : Except Error α) : Walk α := ExceptT.mk (.ok r)

/-- Over a value. -/
def value (s : String) (i : Nat) : Walk (String × Nat) := do
  let start ← skipSpaces (bytes s) (rounds s) i
  if (← peek (bytes s) start) = some quote then
    let (vs, stop) ← run (· == quote) (bytes s) (rounds s) (start + 1)
    match ← peek (bytes s) stop with
    | none => throw (.unterminatedQuote start)
    | some _ =>
      let stop ← skipSpaces (bytes s) (rounds s) (stop + 1)
      return (← ofResult (valueText vs), stop)
  else
    let (vs, stop) ← run isSeparator (bytes s) (rounds s) start
    return (← ofResult (valueText (dropTrailingSpaces vs)), stop)

/-- Over a pair. -/
def pair (s : String) (i : Nat) : Walk (Pair × Nat) := do
  let (type, i) ← attributeType s i
  let (value, i) ← value s i
  return (⟨type, value⟩, i)

/-- Over pairs and the separators between them to the end. -/
def names (s : String) : Nat → Nat → Walk (List RelativeName)
  | 0, _ => fail .endless
  | k + 1, i => do
    let (p, i) ← pair s i
    match ← peek (bytes s) i with
    | none => return [[p]]
    | some b =>
      if isSeparator b then
        let names ← names s k (i + 1)
        return if b == plus then merge p names else [p] :: names
      else throw (.unexpectedCharacter i)

/-- Over a whole name. -/
def parse (s : String) : Walk (List RelativeName) :=
  if isBlankText s then return [] else names s (rounds s) 0

/-! ### Results and positions -/

@[simp] theorem ofResult_ok (a : α) : ofResult (.ok a) = pure a := rfl

@[simp] theorem ofResult_error (e : Error) : ofResult (.error e : Except Error α) = throw e := rfl

@[simp] theorem throw_bind (e : Error) (f : α → Walk β) : (throw e : Walk α) >>= f = throw e := rfl

@[simp] theorem map_ofResult (f : α → β) (r : Except Error α) :
    f <$> ofResult r = ofResult (r.map f) := by
  cases r <;> rfl

theorem map_map_result (f : α → β) {γ : Type} (g : β → γ) (r : Except Error α) :
    (r.map f).map g = r.map (g ∘ f) := by
  cases r <;> rfl

/-- What is ahead of a position among bytes. -/
structure Ahead (bs : List UInt8) (o : Nat) (rest : List UInt8) : Prop where
  le : o ≤ bs.length
  drop : bs.drop o = rest

variable {bs rest : List UInt8} {o k : Nat}

theorem Ahead.tail {b : UInt8} (h : Ahead bs o (b :: rest)) : Ahead bs (o + 1) rest := by
  have hlength := congrArg List.length h.drop
  rw [List.length_drop, List.length_cons] at hlength
  refine ⟨by omega, ?_⟩
  rw [← List.drop_drop, h.drop]
  rfl

theorem peek_eq (h : Ahead bs o rest) : peek bs o = pure rest.head? := by
  rw [peek, if_pos h.le, ← h.drop, List.head?_drop]

/-! ### The same scanners -/

theorem skipSpaces_eq (h : Ahead bs o rest) (hk : rest.length < k) :
    skipSpaces bs k o = pure (Cursor.mk o rest).skipSpaces.offset := by
  induction rest generalizing o k with
  | nil =>
    obtain ⟨k, rfl⟩ := Nat.exists_eq_succ_of_ne_zero (Nat.ne_zero_of_lt hk)
    simp [skipSpaces, peek_eq h, Cursor.skipSpaces, Cursor.advance]
  | cons b rest ih =>
    obtain ⟨k, rfl⟩ := Nat.exists_eq_succ_of_ne_zero (Nat.ne_zero_of_lt hk)
    have hround := ih h.tail (Nat.lt_of_succ_lt_succ hk)
    by_cases hb : b = space
    · simp [skipSpaces, peek_eq h, hb, hround, Cursor.skipSpaces, Cursor.advance, Nat.add_assoc,
        Nat.add_comm]
    · simp [skipSpaces, peek_eq h, hb, Cursor.skipSpaces, Cursor.advance]

theorem typeEnd_eq {run : List UInt8} (hrun : ∀ b ∈ run, endsType b = false)
    (hrest : Stopped endsType rest) (h : Ahead bs o (run ++ rest))
    (hk : (run ++ rest).length < k) :
    typeEnd bs k o =
      pure (if rest.head? = some equals then some (o + run.length) else none) := by
  induction run generalizing o k with
  | nil =>
    obtain ⟨k, rfl⟩ := Nat.exists_eq_succ_of_ne_zero (Nat.ne_zero_of_lt hk)
    cases rest with
    | nil => simp [typeEnd, peek_eq h]
    | cons b rest =>
      have hb := hrest b rfl
      by_cases heq : b = equals
      · simp [typeEnd, peek_eq h, heq]
      · simp only [endsType, beq_iff_eq, heq, Bool.or_eq_true, false_or] at hb
        simp [typeEnd, peek_eq h, heq, hb]
  | cons b run ih =>
    obtain ⟨k, rfl⟩ := Nat.exists_eq_succ_of_ne_zero (Nat.ne_zero_of_lt hk)
    obtain ⟨hb, hrun⟩ := List.forall_mem_cons.1 hrun
    obtain ⟨hequals, hseparator⟩ := endsType_eq_false.1 hb
    have hround := ih hrun h.tail (Nat.lt_of_succ_lt_succ hk)
    rw [List.length_cons, Nat.add_comm run.length, ← Nat.add_assoc, ← hround]
    simp [typeEnd, peek_eq h, hequals, hseparator]

theorem escape_of_char {d : UInt8} (h : Ahead bs o (backslash :: d :: rest))
    (hd : hexValue? d = none) : escape bs o = pure (d, o + 2) := by
  simp [escape, peek_eq h.tail, hd]

theorem escape_of_hex {d e high low : UInt8} (h : Ahead bs o (backslash :: d :: e :: rest))
    (hd : hexValue? d = some high) (he : hexValue? e = some low) :
    escape bs o = pure (high <<< 4 ||| low, o + 3) := by
  simp [escape, peek_eq h.tail, peek_eq h.tail.tail, hd, he]

theorem escape_of_end (h : Ahead bs o [backslash]) : escape bs o = throw (.invalidEscape o) := by
  simp [escape, peek_eq h.tail]

/-- A hexadecimal digit behind a backslash needs another one. -/
theorem escape_of_half {d high : UInt8} (h : Ahead bs o (backslash :: d :: rest))
    (hd : hexValue? d = some high) (hrest : ∀ e ∈ rest.head?, hexValue? e = none) :
    escape bs o = throw (.invalidEscape o) := by
  have hnone : rest.head?.bind hexValue? = none := by
    rw [Option.bind_eq_none_iff]
    exact hrest
  simp [escape, peek_eq h.tail, peek_eq h.tail.tail, hd, hnone]

theorem run_of_stopped {stops : UInt8 → Bool} (h : Ahead bs o rest) (hrest : Stopped stops rest)
    (k : Nat) : run stops bs (k + 1) o = pure ([], o) := by
  cases rest with
  | nil => simp [run, peek_eq h]
  | cons b rest => simp [run, peek_eq h, hrest b rfl]

theorem run_of_raw {stops : UInt8 → Bool} {b : UInt8} (h : Ahead bs o (b :: rest))
    (hb : ¬ stops b = true) (hslash : ¬ (b == backslash) = true) (k : Nat) :
    run stops bs (k + 1) o =
      (fun r => (⟨b, false⟩ :: r.1, r.2)) <$> run stops bs k (o + 1) := by
  simp [run, peek_eq h, hb, beq_eq_false_iff_ne.1 (Bool.not_eq_true _ ▸ hslash)]

theorem run_of_backslash {stops : UInt8 → Bool} (h : Ahead bs o (backslash :: rest))
    (hb : ¬ stops backslash = true) (k : Nat) :
    run stops bs (k + 1) o = escape bs o >>= fun v =>
      (fun r => (⟨v.1, true⟩ :: r.1, r.2)) <$> run stops bs k v.2 := by
  simp [run, peek_eq h, hb]

theorem run_eq (stops : UInt8 → Bool) (h : Ahead bs o rest) (hk : rest.length < k) :
    run stops bs k o = ofResult ((scan stops o rest).map fun r => (r.1, r.2.offset)) := by
  fun_induction scan stops o rest generalizing k with
  | case1 o =>
    obtain ⟨k, rfl⟩ := Nat.exists_eq_succ_of_ne_zero (Nat.ne_zero_of_lt hk)
    exact run_of_stopped h stopped_nil k
  | case2 o b rest hb =>
    obtain ⟨k, rfl⟩ := Nat.exists_eq_succ_of_ne_zero (Nat.ne_zero_of_lt hk)
    exact run_of_stopped h (stopped_cons hb rest) k
  | case3 o b hb hslash =>
    obtain rfl := eq_of_beq hslash
    obtain ⟨k, rfl⟩ := Nat.exists_eq_succ_of_ne_zero (Nat.ne_zero_of_lt hk)
    rw [run_of_backslash h hb, escape_of_end h]
    rfl
  | case4 o b hb hslash d rest hd ih =>
    obtain rfl := eq_of_beq hslash
    obtain ⟨k, rfl⟩ := Nat.exists_eq_succ_of_ne_zero (Nat.ne_zero_of_lt hk)
    rw [run_of_backslash h hb, escape_of_char h hd, pure_bind,
      ih h.tail.tail (by simp only [List.length_cons] at hk; omega), map_ofResult,
      map_map_result, map_map_result]
    rfl
  | case5 o b hb hslash d high hd =>
    obtain rfl := eq_of_beq hslash
    obtain ⟨k, rfl⟩ := Nat.exists_eq_succ_of_ne_zero (Nat.ne_zero_of_lt hk)
    rw [run_of_backslash h hb, escape_of_half h hd (by simp)]
    rfl
  | case6 o b hb hslash d high hd e rest he =>
    obtain rfl := eq_of_beq hslash
    obtain ⟨k, rfl⟩ := Nat.exists_eq_succ_of_ne_zero (Nat.ne_zero_of_lt hk)
    rw [run_of_backslash h hb, escape_of_half h hd (by simpa using he)]
    rfl
  | case7 o b hb hslash d high hd e rest low he ih =>
    obtain rfl := eq_of_beq hslash
    obtain ⟨k, rfl⟩ := Nat.exists_eq_succ_of_ne_zero (Nat.ne_zero_of_lt hk)
    rw [run_of_backslash h hb, escape_of_hex h hd he, pure_bind,
      ih h.tail.tail.tail (by simp only [List.length_cons] at hk; omega), map_ofResult,
      map_map_result, map_map_result]
    rfl
  | case8 o b rest hb hslash ih =>
    obtain ⟨k, rfl⟩ := Nat.exists_eq_succ_of_ne_zero (Nat.ne_zero_of_lt hk)
    rw [run_of_raw h hb hslash, ih h.tail (Nat.lt_of_succ_lt_succ hk), map_ofResult,
      map_map_result, map_map_result]
    rfl

theorem Ahead.append {as : List UInt8} (h : Ahead bs o (as ++ rest)) :
    Ahead bs (o + as.length) rest := by
  induction as generalizing o with
  | nil => exact h
  | cons a as ih =>
    rw [List.length_cons, Nat.add_comm as.length, ← Nat.add_assoc]
    exact ih h.tail

/-- What is ahead of the place where a run ends. -/
theorem Ahead.scan {stops : UInt8 → Bool} {vs : List ValueByte} {d : Cursor}
    (h : Ahead bs o rest) (hscan : scan stops o rest = .ok (vs, d)) :
    Ahead bs d.offset d.rest := by
  obtain ⟨ps, -, -, hyield, -⟩ := run_of_scan hscan
  have hlimit := scan_limit hscan
  rw [← hyield, List.length_append, Cursor.limit] at hlimit
  have hoffset : d.offset = o + (ps.flatMap Piece.yield).length := by omega
  rw [hoffset]
  exact (hyield ▸ h).append

/-! ### The same names -/

variable {s before after : String} {c d : Cursor}

theorem ahead_of_at (h : c.At s before after) : Ahead (bytes s) c.offset c.rest := by
  have hbytes := congrArg bytes h.text
  rw [bytes_append] at hbytes
  refine ⟨?_, ?_⟩
  · rw [hbytes, h.offset, List.length_append]
    exact Nat.le_add_right _ _
  · rw [hbytes, h.offset, h.rest, List.drop_left]

/-- There are rounds enough. -/
theorem Ahead.lt_rounds (h : Ahead (bytes s) o rest) : rest.length < rounds s := by
  rw [← h.drop, List.length_drop, rounds]
  omega

theorem slice_eq {t : String} (h : c.At s before (t ++ after)) (h' : d.At s (before ++ t) after) :
    slice s c.offset d.offset = pure t := by
  have hlength : d.offset = c.offset + (bytes t).length := by
    rw [h'.offset, h.offset, bytes_append, List.length_append]
  have hextract : (bytes s).extract c.offset d.offset = bytes t := by
    rw [List.extract_eq_take_drop, (ahead_of_at h).drop, h.rest, hlength, bytes_append,
      Nat.add_sub_cancel_left, List.take_left]
  rw [slice, if_pos ⟨by omega, h.isValid, h'.isValid⟩, hextract,
    decode?_eq_some.2 rfl]

theorem skipSpaces_at (h : c.At s before after) :
    skipSpaces (bytes s) (rounds s) c.offset = pure c.skipSpaces.offset :=
  skipSpaces_eq (ahead_of_at h) (ahead_of_at h).lt_rounds

theorem attributeType_eq (h : c.At s before after) :
    attributeType s c.offset = ofResult (c.attributeType.map fun r => (r.1, r.2.offset)) := by
  obtain ⟨n, t, u, -, -, hstart⟩ := h.skipSpaces
  obtain ⟨run, rest, hsplit, hrun, hrest⟩ := exists_typeRun c
  have hahead := ahead_of_at hstart
  rw [hsplit] at hahead
  rw [attributeType, skipSpaces_at h, pure_bind, typeEnd_eq hrun hrest hahead hahead.lt_rounds,
    pure_bind]
  rcases endsType_cases hrest with ⟨rest, rfl⟩ | hseparator
  · -- The run is cut before an ASCII byte, so that it is a text.
    obtain ⟨v, w, rfl, rfl, hstop⟩ := hstart.move
      (d := ⟨c.skipSpaces.offset + run.length, equals :: rest⟩) hsplit
      (by simp only [Cursor.limit, hsplit, List.length_append]; omega)
      (.cons (by decide) run rest)
    have hslice := slice_eq hstart hstop
    simp only at hslice
    have hlossy := decodeLossy_of_decode? (decode?_eq_some.2 (rfl : bytes v = bytes v))
    rw [attributeType_of_equals hrun hsplit, hlossy]
    simp only [List.head?_cons, if_true, hslice, pure_bind]
    split <;> rfl
  · rw [attributeType_of_separator hrun hseparator hsplit]
    have hne : rest.head? ≠ some equals := fun heq => absurd (hseparator _ heq) (by decide)
    simp [hne, Except.map]

theorem value_of_quoted {rest : List UInt8} (h : c.At s before after)
    (hrest : c.skipSpaces.rest = quote :: rest) :
    value s c.offset = ofResult (c.value.map fun r => (r.1, r.2.offset)) := by
  obtain ⟨n, t, u, -, -, hstart⟩ := h.skipSpaces
  have hahead := ahead_of_at hstart
  rw [hrest] at hahead
  have hinner := hahead.tail
  have hrun := run_eq (· == quote) hinner hinner.lt_rounds
  rw [value, skipSpaces_at h, pure_bind, peek_eq hahead, pure_bind, List.head?_cons, if_pos rfl,
    hrun, value_of_quote c.skipSpaces.offset rest (by rw [← hrest]), Cursor.quotedValue]
  cases hscan : scan (· == quote) (c.skipSpaces.offset + 1) rest with
  | error e => rfl
  | ok r =>
    obtain ⟨vs, o, behind⟩ := r
    have hend := hinner.scan hscan
    simp only [Except.map, ofResult_ok, pure_bind, peek_eq hend]
    cases behind with
    | nil => rfl
    | cons b behind =>
      have hskip := skipSpaces_eq hend.tail hend.tail.lt_rounds
      simp only [List.head?_cons, hskip, pure_bind]
      cases ht : valueText vs <;> simp only [ht, bind, Except.bind] <;> rfl

theorem value_of_plain (h : c.At s before after)
    (hrest : ∀ b ∈ c.skipSpaces.rest.head?, b ≠ quote) :
    value s c.offset = ofResult (c.value.map fun r => (r.1, r.2.offset)) := by
  obtain ⟨n, t, u, -, -, hstart⟩ := h.skipSpaces
  have hahead := ahead_of_at hstart
  have hrun := run_eq isSeparator hahead hahead.lt_rounds
  have hne : ¬ c.skipSpaces.rest.head? = some quote := fun heq => hrest _ heq rfl
  rw [value, skipSpaces_at h, pure_bind, peek_eq hahead, pure_bind, if_neg hne, hrun,
    value_of_not_quote hrest, Cursor.plainValue]
  cases hscan : scan isSeparator c.skipSpaces.offset c.skipSpaces.rest with
  | error e => rfl
  | ok r =>
    obtain ⟨vs, e⟩ := r
    simp only [Except.map, ofResult_ok, pure_bind]
    cases ht : valueText (dropTrailingSpaces vs) <;> simp only [ht, bind, Except.bind] <;> rfl

theorem value_eq (h : c.At s before after) :
    value s c.offset = ofResult (c.value.map fun r => (r.1, r.2.offset)) := by
  by_cases hquote : ∀ b ∈ c.skipSpaces.rest.head?, b ≠ quote
  · exact value_of_plain h hquote
  · push Not at hquote
    obtain ⟨b, hb, rfl⟩ := hquote
    obtain ⟨rest, hrest⟩ := List.head?_eq_some_iff.1 hb
    exact value_of_quoted h hrest

theorem pair_walk (h : c.At s before after) :
    pair s c.offset = ofResult (c.pair.map fun r => (r.1, r.2.offset)) := by
  rw [pair, attributeType_eq h, Cursor.pair]
  cases htype : c.attributeType with
  | error e => rfl
  | ok r =>
    obtain ⟨type, d⟩ := r
    obtain ⟨-, -, t, u, -, -, -, hd⟩ := h.attributeType htype
    simp only [Except.map, ofResult_ok, pure_bind, value_eq hd]
    cases hvalue : d.value <;> simp only [hvalue, bind, Except.bind] <;> rfl

theorem names_eq (h : c.At s before after) (hk : c.rest.length < k) :
    names s k c.offset = ofResult c.names := by
  obtain ⟨k, rfl⟩ := Nat.exists_eq_succ_of_ne_zero (Nat.ne_zero_of_lt hk)
  fun_induction Cursor.names c generalizing before after k with
  | case1 c e hpair => simp [names, pair_walk h, hpair, Except.map]
  | case2 c p d hpair hrest =>
    obtain ⟨-, t, u, -, -, -, hd⟩ := h.pair hpair
    simp [names, pair_walk h, hpair, Except.map, peek_eq (ahead_of_at hd), hrest]
  | case3 c p d hpair b rest hrest hb ih =>
    obtain ⟨-, t, u, -, -, -, hd⟩ := h.pair hpair
    obtain ⟨v, w, -, hnext⟩ := hd.separator hrest hb
    have hlength := Cursor.pair_length_lt hpair
    rw [hrest, List.length_cons] at hlength
    obtain ⟨k, rfl⟩ := Nat.exists_eq_succ_of_ne_zero (n := k) (by omega)
    have hround := ih hnext k (by simp only; omega)
    simp only at hround
    rw [names, pair_walk h, hpair]
    simp only [Except.map, ofResult_ok, pure_bind, peek_eq (ahead_of_at hd), hrest,
      List.head?_cons, hb, if_true, hround]
    cases (Cursor.mk (d.offset + 1) rest).names <;> rfl
  | case4 c p d hpair b rest hrest hb =>
    obtain ⟨-, t, u, -, -, -, hd⟩ := h.pair hpair
    simp [names, pair_walk h, hpair, Except.map, peek_eq (ahead_of_at hd), hrest, hb]

theorem parse_eq (s : String) : parse s = ofResult (DistinguishedName.parse s) := by
  have hstart := Cursor.At.ofText s
  have hnames := names_eq hstart (ahead_of_at hstart).lt_rounds
  rw [parse, DistinguishedName.parse]
  split
  · rfl
  · exact hnames

end Walk

end RoleLookup.DistinguishedName
