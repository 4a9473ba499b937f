import RoleLookup.Proofs.Json.Tokens

/-!
# Reading what has been written

A JSON text is read as the value that it writes, whatever blanks stand between its tokens.

* `Writes`, the texts of a value: strings and integers as they are always written, and blanks
  wherever they may stand;
* `Reads`, what some fuel is enough for, with `reads`;
* `Value.parse?_of_writes`, and from it `Value.parse?_compact`, `Value.parse?_pretty` and
  `Value.compact_inj`.

Nothing is said about double precision numbers, and an integer must fit 64 bits: a greater one is
read as a double precision number.
-/

namespace RoleLookup.Json

/-! ### Texts of a value -/

mutual

/-- A text of a value, without blanks around it. -/
inductive Writes : Value → List Char → Prop
  | null : Writes .null ['n', 'u', 'l', 'l']
  | yes : Writes (.bool true) ['t', 'r', 'u', 'e']
  | no : Writes (.bool false) ['f', 'a', 'l', 's', 'e']
  | integer {n : Int} (hlow : -2 ^ 63 ≤ n) (hhigh : n < 2 ^ 64) :
      Writes (.integer n) (toString n).toList
  | text (s : String) : Writes (.text s) (string s).toList
  | emptyArray {b} (hb : IsGap b) : Writes (.array []) ('[' :: (b ++ [']']))
  | array {xs cs b} (hxs : WritesElements xs cs) (hb : IsGap b) :
      Writes (.array xs) ('[' :: (cs ++ (b ++ [']'])))
  | emptyObject {b} (hb : IsGap b) : Writes (.object []) ('\x7b' :: (b ++ ['\x7d']))
  | object {ms cs b} (hms : WritesMembers ms cs) (hb : IsGap b) :
      Writes (.object ms) ('\x7b' :: (cs ++ (b ++ ['\x7d'])))

/-- A text of the elements of an array that has at least one. -/
inductive WritesElements : List Value → List Char → Prop
  | last {x b cs} (hb : IsGap b) (hx : Writes x cs) : WritesElements [x] (b ++ cs)
  | cons {x xs b cs b' ds} (hb : IsGap b) (hx : Writes x cs) (hb' : IsGap b')
      (hxs : WritesElements xs ds) : WritesElements (x :: xs) (b ++ (cs ++ (b' ++ ',' :: ds)))

/-- A text of the members of an object that has at least one. -/
inductive WritesMembers : List (String × Value) → List Char → Prop
  | last {k x cs} (hx : WritesMember k x cs) : WritesMembers [(k, x)] cs
  | cons {k x ms cs b ds} (hx : WritesMember k x cs) (hb : IsGap b) (hms : WritesMembers ms ds) :
      WritesMembers ((k, x) :: ms) (cs ++ (b ++ ',' :: ds))

/-- A text of a member: its name, a colon and its value. -/
inductive WritesMember : String → Value → List Char → Prop
  | mk {k x b b' b'' cs} (hb : IsGap b) (hb' : IsGap b') (hb'' : IsGap b'') (hx : Writes x cs) :
      WritesMember k x (b ++ ((string k).toList ++ (b' ++ ':' :: (b'' ++ cs))))

end

variable {b cs rest : List Char} {fuel : Nat}

/-! ### Reading -/

/-- A value begins with a character that is no blank and does not close an array. -/
theorem Writes.opens {v : Value} (h : Writes v cs) :
    ∃ c ds, cs = c :: ds ∧ (∀ rest, skipBlanks (c :: rest) = c :: rest) ∧ c ≠ ']' := by
  cases h with
  | null | yes | no => exact ⟨_, _, rfl, fun _ => rfl, by decide⟩
  | @integer n =>
    obtain ⟨c, ds, hn, hc⟩ := opens_integer n
    exact ⟨c, ds, hn, skipBlanks_numeral hc, by rintro rfl; revert hc; decide⟩
  | text s => exact ⟨_, _, toList_string s, fun _ => rfl, by decide⟩
  | emptyArray | array | emptyObject | object => exact ⟨_, _, rfl, fun _ => rfl, by decide⟩

theorem WritesElements.opens {xs : List Value} (h : WritesElements xs cs) (rest ds : List Char) :
    skipBlanks (cs ++ rest) ≠ ']' :: ds := by
  have first {b cs rest v} (hb : IsGap b) (hx : Writes v cs) :
      skipBlanks (b ++ (cs ++ rest)) ≠ ']' :: ds := by
    obtain ⟨c, cs, rfl, hblank, hc⟩ := hx.opens
    rw [skipBlanks_gap hb, List.cons_append, hblank]
    exact fun h => hc (List.cons.inj h).1
  cases h with
  | last hb hx =>
    rw [List.append_assoc]
    exact first hb hx
  | cons hb hx =>
    rw [List.append_assoc, List.append_assoc]
    exact first hb hx

theorem WritesMembers.opens {ms : List (String × Value)} (h : WritesMembers ms cs)
    (rest ds : List Char) : skipBlanks (cs ++ rest) ≠ '\x7d' :: ds := by
  have first {k x cs rest} (h : WritesMember k x cs) : skipBlanks (cs ++ rest) ≠ '\x7d' :: ds := by
    cases h with
    | mk hb =>
      rw [List.append_assoc, skipBlanks_gap hb, toList_string]
      exact fun h => absurd (List.cons.inj h).1 (by decide)
  cases h with
  | last hx => exact first hx
  | cons hx =>
    rw [List.append_assoc]
    exact first hx

/-- What some fuel is enough for. The three readers call each other, and no two calls take more
than two units of fuel for a character. -/
structure Reads (fuel : Nat) : Prop where
  value : ∀ {v cs rest}, Writes v cs → Stops rest → 2 * cs.length < fuel →
    value? fuel (cs ++ rest) = some (v, rest)
  elements : ∀ {xs cs b} rest, WritesElements xs cs → IsGap b → 2 * cs.length + 1 < fuel →
    elements? fuel (cs ++ (b ++ ']' :: rest)) = some (xs, rest)
  members : ∀ {ms cs b} rest, WritesMembers ms cs → IsGap b → 2 * cs.length + 1 < fuel →
    members? fuel (cs ++ (b ++ '\x7d' :: rest)) = some (ms, rest)

namespace Reads

theorem elements_succ (ih : Reads fuel) {xs : List Value} (h : WritesElements xs cs)
    (hb : IsGap b) (hfuel : 2 * cs.length < fuel) :
    elements? (fuel + 1) (cs ++ (b ++ ']' :: rest)) = some (xs, rest) := by
  cases h with
  | @last x b₁ cs hb₁ hx =>
    have hread := ih.value hx ((stops_cons (c := ']') (by decide) rest).gap hb) (by
      simp only [List.length_append] at hfuel
      omega)
    have hclose : skipBlanks (b ++ ']' :: rest) = ']' :: rest := skipBlanks_gap hb _
    rw [List.append_assoc]
    simp [elements?, value?_gap hb₁, hread, hclose]
  | @cons x xs b₁ cs b₂ ds hb₁ hx hb₂ hxs =>
    simp only [List.length_append, List.length_cons] at hfuel
    have hread := ih.value hx
      ((stops_cons (c := ',') (by decide) (ds ++ (b ++ ']' :: rest))).gap hb₂) (by omega)
    have hmore : skipBlanks (b₂ ++ ',' :: (ds ++ (b ++ ']' :: rest))) =
        ',' :: (ds ++ (b ++ ']' :: rest)) := skipBlanks_gap hb₂ _
    have hreads := ih.elements rest hxs hb (by omega)
    simp only [List.append_assoc, List.cons_append]
    simp [elements?, value?_gap hb₁, hread, hmore, hreads]

theorem value_succ (ih : Reads fuel) {v : Value} (h : Writes v cs) (hrest : Stops rest)
    (hfuel : 2 * cs.length < fuel + 1) : value? (fuel + 1) (cs ++ rest) = some (v, rest) := by
  cases h with
  | null | yes | no => rfl
  | @integer n hlow hhigh =>
    obtain ⟨c, ds, hn, hc⟩ := opens_integer n
    have hread := number?_toString hlow hhigh hrest
    rw [hn] at hread ⊢
    exact (value?_numeral hc fuel _).trans hread
  | text s =>
    obtain ⟨body, hbody, hread⟩ := stringBody?_quoted s rest
    simp [hbody, value?, skipBlanks_cons, hread]
  | @emptyArray b hb =>
    have hclose : skipBlanks (b ++ ']' :: rest) = ']' :: rest := skipBlanks_gap hb _
    simp [value?, hclose, skipBlanks_cons]
  | @array xs cs b hxs hb =>
    have hread := ih.elements rest hxs hb (by
      simp only [List.length_append, List.length_cons] at hfuel
      omega)
    -- The text does not close the array at once, so that its elements are read.
    have hopens := hxs.opens (b ++ ']' :: rest)
    simp [value?, skipBlanks_cons, elements?_skipBlanks, hread]
  | @emptyObject b hb =>
    have hclose : skipBlanks (b ++ '\x7d' :: rest) = '\x7d' :: rest := skipBlanks_gap hb _
    simp [value?, hclose, skipBlanks_cons]
  | @object ms cs b hms hb =>
    have hread := ih.members rest hms hb (by
      simp only [List.length_append, List.length_cons] at hfuel
      omega)
    have hopens := hms.opens (b ++ '\x7d' :: rest)
    simp [value?, skipBlanks_cons, members?_skipBlanks, hread]

/-- A member is read, and what stands behind it says whether there are more. -/
theorem members?_member (ih : Reads fuel) {k : String} {x : Value} (h : WritesMember k x cs)
    (hrest : Stops rest) (hfuel : 2 * cs.length < fuel) (ds : List Char) :
    (skipBlanks rest = '\x7d' :: ds → members? (fuel + 1) (cs ++ rest) = some ([(k, x)], ds)) ∧
      (skipBlanks rest = ',' :: ds → members? (fuel + 1) (cs ++ rest) =
        (members? fuel ds).bind fun r => some ((k, x) :: r.1, r.2)) := by
  obtain @⟨_, _, b₁, b₂, b₃, cs, hb₁, hb₂, hb₃, hx⟩ := h
  simp only [List.length_append, List.length_cons] at hfuel
  obtain ⟨body, hbody, hname⟩ := stringBody?_quoted k (b₂ ++ ':' :: (b₃ ++ (cs ++ rest)))
  have hread := ih.value hx hrest (by omega)
  have hcolon : skipBlanks (b₂ ++ ':' :: (b₃ ++ (cs ++ rest))) = ':' :: (b₃ ++ (cs ++ rest)) :=
    skipBlanks_gap hb₂ _
  simp only [List.append_assoc, List.cons_append, hbody]
  constructor <;> intro hds <;>
    simp [members?, skipBlanks_gap hb₁, skipBlanks_cons, hname, hcolon, value?_gap hb₃, hread, hds]

theorem members_succ (ih : Reads fuel) {ms : List (String × Value)} (h : WritesMembers ms cs)
    (hb : IsGap b) (hfuel : 2 * cs.length < fuel) :
    members? (fuel + 1) (cs ++ (b ++ '\x7d' :: rest)) = some (ms, rest) := by
  cases h with
  | @last k x cs hx =>
    have hstops := (stops_cons (c := '\x7d') (by decide) rest).gap hb
    exact (ih.members?_member hx hstops hfuel rest).1 (skipBlanks_gap hb _)
  | @cons k x ms cs b' ds hx hb' hms =>
    simp only [List.length_append, List.length_cons] at hfuel
    have hstops := (stops_cons (c := ',') (by decide) (ds ++ (b ++ '\x7d' :: rest))).gap hb'
    have hreads := ih.members rest hms hb (by omega)
    simp only [List.append_assoc, List.cons_append]
    rw [(ih.members?_member hx hstops (by omega) _).2 (skipBlanks_gap hb' _), hreads]
    rfl

end Reads

/-- Every text of a value is read as this value, with two units of fuel for a character. -/
theorem reads (fuel : Nat) : Reads fuel := by
  induction fuel with
  | zero => exact ⟨nofun, nofun, nofun⟩
  | succ fuel ih =>
    exact ⟨fun h hrest hfuel => ih.value_succ h hrest hfuel,
      fun _ h hb hfuel => ih.elements_succ h hb (by omega),
      fun _ h hb hfuel => ih.members_succ h hb (by omega)⟩

/-- A text that writes a value is read as this value, whatever blanks stand around it. -/
theorem Value.parse?_of_writes {v : Value} {b' : List Char} (h : Writes v cs) (hb : IsGap b)
    (hb' : IsGap b') : Value.parse? (String.ofList (b ++ (cs ++ b'))) = some v := by
  have hstops : Stops b' := by
    rw [← List.append_nil b']
    exact stops_nil.gap hb'
  have hread := (reads (2 * (b ++ (cs ++ b')).length + 2)).value h hstops (by
    simp only [List.length_append]
    omega)
  have hend : skipBlanks b' = [] := by
    rw [← List.append_nil b', skipBlanks_gap hb']
    rfl
  simp only [Value.parse?, String.toList_ofList, value?_gap hb, hread]
  simp [hend]

/-! ### What is written -/

/-- The text of a value behind blanks. -/
def WritesBehindGap (x : Value) (s : String) : Prop :=
  ∃ b cs, IsGap b ∧ Writes x cs ∧ s.toList = b ++ cs

theorem isGap_newline (depth : Nat) : IsGap (Value.newline depth).toList := by
  intro c hc
  have : c = '\n' ∨ c ∈ List.replicate (2 * depth) ' ' := by simpa [Value.newline] using hc
  rcases this with rfl | hc
  · exact .inr (.inr (.inl rfl))
  · exact .inl (List.eq_of_mem_replicate hc)

/-- Texts of elements with commas between them. -/
theorem writesElements_intercalate {xs : List Value} {ss : List String}
    (h : List.Forall₂ WritesBehindGap xs ss) (hne : xs ≠ []) :
    WritesElements xs (",".intercalate ss).toList := by
  induction h with
  | nil => exact absurd rfl hne
  | @cons x s xs ss hx hxs ih =>
    obtain ⟨b, cs, hb, hx, hs⟩ := hx
    cases hxs with
    | nil =>
      rw [String.intercalate_singleton, hs]
      exact .last hb hx
    | cons =>
      have := WritesElements.cons hb hx isGap_nil (ih nofun)
      simpa [hs] using this

/-- Texts of members with commas between them. -/
theorem writesMembers_intercalate {ms : List (String × Value)} {ss : List String}
    (h : List.Forall₂ (fun m s => WritesMember m.1 m.2 s.toList) ms ss) (hne : ms ≠ []) :
    WritesMembers ms (",".intercalate ss).toList := by
  induction h with
  | nil => exact absurd rfl hne
  | @cons m s ms ss hm hms ih =>
    cases hms with
    | nil =>
      rw [String.intercalate_singleton]
      exact .last hm
    | cons =>
      have := WritesMembers.cons hm isGap_nil (ih nofun)
      simpa using this

namespace Value

mutual

/-- Whether the numbers of a value are integers of 64 bits. -/
def isPlain : Value → Bool
  | .integer n => decide (-2 ^ 63 ≤ n ∧ n < 2 ^ 64)
  | .double _ => false
  | .array xs => arePlain xs
  | .object ms => haveArePlain ms
  | _ => true

/-- Whether the numbers of all elements are integers of 64 bits. -/
def arePlain : List Value → Bool
  | [] => true
  | x :: xs => x.isPlain && arePlain xs

/-- Whether the numbers of all members are integers of 64 bits. -/
def haveArePlain : List (String × Value) → Bool
  | [] => true
  | (_, x) :: ms => x.isPlain && haveArePlain ms

end

mutual

theorem writes_compact : ∀ v : Value, v.isPlain = true → Writes v v.compact.toList
  | .null, _ => .null
  | .bool true, _ => .yes
  | .bool false, _ => .no
  | .integer n, h => by
    obtain ⟨hlow, hhigh⟩ := of_decide_eq_true h
    exact .integer hlow hhigh
  | .text s, _ => .text s
  | .array [], _ => .emptyArray isGap_nil
  | .array (x :: xs), h => by
    have := Writes.array (writesElements_intercalate (elements_compact (x :: xs) h) nofun) isGap_nil
    simpa [compact] using this
  | .object [], _ => .emptyObject isGap_nil
  | .object (m :: ms), h => by
    have := Writes.object (writesMembers_intercalate (members_compact (m :: ms) h) nofun) isGap_nil
    simpa [compact] using this

theorem elements_compact : ∀ xs : List Value, arePlain xs = true →
    List.Forall₂ WritesBehindGap xs (compactElements xs)
  | [], _ => .nil
  | x :: xs, h => by
    obtain ⟨hx, hxs⟩ := Bool.and_eq_true_iff.1 h
    exact .cons ⟨[], _, isGap_nil, writes_compact x hx, rfl⟩ (elements_compact xs hxs)

theorem members_compact : ∀ ms : List (String × Value), haveArePlain ms = true →
    List.Forall₂ (fun m s => WritesMember m.1 m.2 s.toList) ms (compactMembers ms)
  | [], _ => .nil
  | (k, x) :: ms, h => by
    obtain ⟨hx, hms⟩ := Bool.and_eq_true_iff.1 h
    refine .cons ?_ (members_compact ms hms)
    simpa using WritesMember.mk (k := k) isGap_nil isGap_nil isGap_nil (writes_compact x hx)

end

mutual

theorem writes_pretty : ∀ (v : Value) (depth : Nat), v.isPlain = true →
    Writes v (v.prettyAt depth).toList
  | .null, _, _ => by rw [prettyAt]; exact .null
  | .bool true, _, _ => by rw [prettyAt]; exact .yes
  | .bool false, _, _ => by rw [prettyAt]; exact .no
  | .integer n, _, h => by
    obtain ⟨hlow, hhigh⟩ := of_decide_eq_true h
    exact .integer hlow hhigh
  | .text s, _, _ => .text s
  | .array [], _, _ => by rw [prettyAt]; exact .emptyArray isGap_nil
  | .array (x :: xs), depth, h => by
    have := Writes.array
      (writesElements_intercalate (elements_pretty (x :: xs) (depth + 1) h) nofun)
      (isGap_newline depth)
    simpa [prettyAt] using this
  | .object [], _, _ => by rw [prettyAt]; exact .emptyObject isGap_nil
  | .object (m :: ms), depth, h => by
    have := Writes.object
      (writesMembers_intercalate (members_pretty (m :: ms) (depth + 1) h) nofun)
      (isGap_newline depth)
    simpa [prettyAt] using this

theorem elements_pretty : ∀ (xs : List Value) (depth : Nat), arePlain xs = true →
    List.Forall₂ WritesBehindGap xs (prettyElements depth xs)
  | [], _, _ => .nil
  | x :: xs, depth, h => by
    obtain ⟨hx, hxs⟩ := Bool.and_eq_true_iff.1 h
    refine .cons ⟨_, _, isGap_newline depth, writes_pretty x depth hx, ?_⟩
      (elements_pretty xs depth hxs)
    exact String.toList_append

theorem members_pretty : ∀ (ms : List (String × Value)) (depth : Nat), haveArePlain ms = true →
    List.Forall₂ (fun m s => WritesMember m.1 m.2 s.toList) ms (prettyMembers depth ms)
  | [], _, _ => .nil
  | (k, x) :: ms, depth, h => by
    obtain ⟨hx, hms⟩ := Bool.and_eq_true_iff.1 h
    refine .cons ?_ (members_pretty ms depth hms)
    have hspace : IsGap [' '] := by simp [IsGap]
    simpa using WritesMember.mk (k := k) (isGap_newline depth) isGap_nil hspace
      (writes_pretty x depth hx)

end

theorem parse?_of_toList {v : Value} {s : String} (h : Writes v s.toList) :
    parse? s = some v := by
  simpa using parse?_of_writes h isGap_nil isGap_nil

/-- **Round trip.** The text of a value without blanks is read as this value. -/
theorem parse?_compact {v : Value} (h : v.isPlain = true) : parse? v.compact = some v :=
  parse?_of_toList (writes_compact v h)

/-- The text of a value with one element or member a line is read as this value. -/
theorem parse?_pretty {v : Value} (h : v.isPlain = true) : parse? v.pretty = some v :=
  parse?_of_toList (writes_pretty v 0 h)

/-- Different values have different texts. -/
theorem compact_inj {v w : Value} (hv : v.isPlain = true) (hw : w.isPlain = true) :
    v.compact = w.compact ↔ v = w := by
  refine ⟨fun h => ?_, congrArg compact⟩
  have hread := parse?_compact hv
  rw [h, parse?_compact hw] at hread
  exact (Option.some.inj hread).symm

end Value

end RoleLookup.Json
