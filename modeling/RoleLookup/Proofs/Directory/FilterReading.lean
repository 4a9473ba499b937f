import Mathlib
import RoleLookup.Proofs.Directory.FilterGrammar

/-!
# Reading search filters

What the reader of filters makes of the texts in the grammar, piece by piece: `number?_append`,
`identifier?_append` and `shortName?_append` for the types of attributes, `options_append` and
`description?_append` for their descriptions, `value?_append` for values, and `read?_equality` for
equality matches.
-/

namespace RoleLookup.Directory.Filter

open Text

variable {cs rest : List Char}

/-! ### Names -/

theorem number?_append (h : IsNumber cs) (hrest : ∀ c ∈ rest.head?, c.isDigit = false) :
    number? (cs ++ rest) = some (cs, rest) := by
  unfold number?
  rw [takeWhile_run h.isDigit hrest]
  cases h with
  | zero => rfl
  | mk head nonzero tail =>
    split
    · rename_i heq
      cases heq
    · rename_i heq
      cases heq
      exact absurd rfl nonzero
    · simp

/-- Where a name ends. -/
def TypeStops (rest : List Char) : Prop := ∀ c ∈ rest.head?, ¬ IsTypeChar c

theorem TypeStops.isDigit (h : TypeStops rest) : ∀ c ∈ rest.head?, c.isDigit = false :=
  fun c hc => Bool.eq_false_iff.2 fun hd => h c hc (.inl (.inl (isAlphanum_of_isDigit hd)))

theorem moreNumbers_stop (h : TypeStops rest) (fuel : Nat) :
    moreNumbers fuel rest = ([], rest) := by
  cases fuel with
  | zero => rfl
  | succ fuel =>
    unfold moreNumbers
    split
    · exact absurd (.inr rfl) (h '.' rfl)
    · rfl

theorem moreNumbers_cons {digits ds : List Char} (h : number? cs = some (digits, ds)) (fuel : Nat) :
    moreNumbers (fuel + 1) ('.' :: cs) =
      ('.' :: digits ++ (moreNumbers fuel ds).1, (moreNumbers fuel ds).2) := by
  simp [moreNumbers, h]

theorem moreNumbers_number (h : IsNumber cs) (hrest : TypeStops rest) (fuel : Nat) :
    moreNumbers (fuel + 1) ('.' :: (cs ++ rest)) = ('.' :: cs, rest) := by
  rw [moreNumbers_cons (number?_append h hrest.isDigit), moreNumbers_stop hrest, List.append_nil]

/-- A number ends before a point. -/
theorem number?_point (h : IsNumber cs) (ds : List Char) :
    number? (cs ++ '.' :: ds) = some (cs, '.' :: ds) :=
  number?_append h (by simp)

theorem moreNumbers_identifier (h : IsIdentifier cs) (hrest : TypeStops rest) {fuel : Nat}
    (hfuel : cs.length ≤ fuel) :
    moreNumbers (fuel + 1) ('.' :: (cs ++ rest)) = ('.' :: cs, rest) := by
  induction h generalizing fuel with
  | @two ms ns first last =>
    obtain ⟨fuel, rfl⟩ : ∃ k, fuel = k + 1 := ⟨fuel - 1, by simp at hfuel; omega⟩
    rw [List.append_assoc, List.cons_append, moreNumbers_cons (number?_point first _),
      moreNumbers_number last hrest, List.cons_append]
  | @more ns cs first _ ih =>
    obtain ⟨fuel, rfl⟩ : ∃ k, fuel = k + 1 := ⟨fuel - 1, by simp at hfuel; omega⟩
    have hlength : cs.length ≤ fuel := by simp at hfuel; omega
    rw [List.append_assoc, List.cons_append, moreNumbers_cons (number?_point first _),
      ih hlength, List.cons_append]

theorem identifier?_append (h : IsIdentifier cs) (hrest : TypeStops rest) :
    identifier? (cs ++ rest) = some (cs, rest) := by
  cases h with
  | two first last =>
    simp [identifier?, number?_point first, moreNumbers_number last hrest]
  | more first more =>
    simp [identifier?, number?_point first, moreNumbers_identifier more hrest]

theorem standsInName_iff {c : Char} : standsInName c = true ↔ IsKeyChar c := by
  simp [standsInName, IsKeyChar]

theorem standsInName_eq_false {c : Char} (h : ¬ IsKeyChar c) : standsInName c = false :=
  Bool.eq_false_iff.2 fun hc => h (standsInName_iff.1 hc)

theorem shortName?_append (h : IsShortName cs) (hrest : TypeStops rest) :
    shortName? (cs ++ rest) = some (cs, rest) := by
  cases h with
  | mk head tail =>
    have hcs := fun d hd => standsInName_iff.2 (tail d hd)
    have hstop : ∀ c ∈ rest.head?, standsInName c = false :=
      fun c hc => standsInName_eq_false fun hkey => hrest c hc (.inl hkey)
    simp [shortName?, head, takeWhile_run hcs hstop, dropWhile_run hcs hstop]

theorem isDigit_of_isAlpha {c : Char} (h : c.isAlpha = true) : c.isDigit = false := by
  simp only [Char.isAlpha, Char.isUpper, Char.isLower, Char.isDigit, Bool.or_eq_true,
    Bool.and_eq_true, decide_eq_true_eq, Bool.and_eq_false_iff, decide_eq_false_iff_not,
    UInt32.le_iff_toNat_le, ge_iff_le] at *
  change 65 ≤ c.toNat ∧ c.toNat ≤ 90 ∨ 97 ≤ c.toNat ∧ c.toNat ≤ 122 at h
  change ¬ 48 ≤ c.toNat ∨ ¬ c.toNat ≤ 57
  omega

/-- A short name does not start like an object identifier. -/
theorem identifier?_shortName (h : IsShortName cs) : identifier? (cs ++ rest) = none := by
  cases h with
  | @mk c cs head _ =>
    have hdigit : c.isDigit = false := isDigit_of_isAlpha head
    simp [identifier?, number?, hdigit]

theorem attributeType?_append (h : IsAttributeType cs) (hrest : TypeStops rest) :
    attributeType? (cs ++ rest) = some (cs, rest) := by
  obtain h | h := h
  · rw [attributeType?, identifier?_shortName h, Option.none_or, shortName?_append h hrest]
  · rw [attributeType?, identifier?_append h hrest, Option.some_or]

/-- Where a description ends. -/
def NameStops (rest : List Char) : Prop := ∀ c ∈ rest.head?, ¬ IsNameChar c

theorem NameStops.typeStops (h : NameStops rest) : TypeStops rest :=
  fun c hc htype => h c hc (.inl htype)

theorem options_stop (h : NameStops rest) (fuel : Nat) : options fuel rest = ([], rest) := by
  cases fuel with
  | zero => rfl
  | succ fuel =>
    unfold options
    split
    · exact absurd (.inr rfl) (h ';' rfl)
    · rfl

/-- What stands behind an option is no part of it. -/
theorem head_of_options (h : IsOptions cs) (hrest : NameStops rest) :
    ∀ c ∈ (cs ++ rest).head?, ¬ IsKeyChar c := by
  cases h with
  | nil => exact fun c hc hkey => hrest c hc (.inl (.inl hkey))
  | cons =>
    rintro _ ⟨⟩
    decide

theorem options_append (h : IsOptions cs) (hrest : NameStops rest) {fuel : Nat}
    (hfuel : cs.length ≤ fuel) : options fuel (cs ++ rest) = (cs, rest) := by
  induction h generalizing fuel with
  | nil => exact options_stop hrest fuel
  | @cons option more nonempty chars hmore ih =>
    obtain ⟨fuel, rfl⟩ : ∃ k, fuel = k + 1 := ⟨fuel - 1, by simp at hfuel; omega⟩
    have hlength : more.length ≤ fuel := by simp at hfuel; omega
    have hrun := takeWhile_run (fun d hd => standsInName_iff.2 (chars d hd))
      fun c hc => standsInName_eq_false (head_of_options hmore hrest c hc)
    obtain ⟨d, ds, rfl⟩ := List.exists_cons_of_ne_nil nonempty
    simp only [List.cons_append, List.append_assoc] at hrun ⊢
    simp [options, hrun, ih hlength]

theorem description?_append (h : IsDescription cs) (hrest : NameStops rest) :
    description? (cs ++ rest) = some (String.ofList cs, rest) := by
  obtain ⟨type, more, htype, hmore, rfl⟩ := h
  have hstop : TypeStops (more ++ rest) := by
    cases hmore with
    | nil => exact hrest.typeStops
    | cons =>
      rintro _ ⟨⟩
      decide
  have hmore : options (more ++ rest).length (more ++ rest) = (more, rest) :=
    options_append hmore hrest (by simp)
  simp only [description?, List.append_assoc, attributeType?_append htype hstop,
    Option.bind_eq_bind, Option.bind_some, hmore]
  rfl

/-! ### Values -/

theorem value?_kept {c : Char} (hc : c ∉ specials) (cs : List Char) :
    value? (c :: cs) = (value? cs).map fun r => (String.utf8EncodeChar c ++ r.1, r.2) := by
  have hslash : c ≠ '\\' := by
    rintro rfl
    exact hc (by decide)
  have hstands : standsInValue c = true := by
    simp [specials] at hc
    simp [standsInValue, hc]
  rw [value?]
  · rw [if_pos hstands]
    cases value? cs <;> rfl
  · exact fun _ _ _ h => absurd h hslash
  · exact hslash

theorem value?_escaped {high low : Char} {m n : Nat} (hhigh : IsHexDigit high m)
    (hlow : IsHexDigit low n) (cs : List Char) :
    value? ('\\' :: high :: low :: cs) =
      (value? cs).map fun r => (UInt8.ofNat (16 * m + n) :: r.1, r.2) := by
  rw [value?, hhigh.hexDigit?_eq_some, hlow.hexDigit?_eq_some]
  cases value? cs <;> rfl

theorem value?_append {value : List UInt8} (h : DerivesValue value cs) (rest : List Char) :
    value? (cs ++ ')' :: rest) = some (value, ')' :: rest) := by
  induction h with
  | nil => simp [value?, standsInValue]
  | kept hc _ ih => rw [List.cons_append, value?_kept hc, ih, Option.map_some]
  | @escaped b high low bs ws hhigh hlow _ ih =>
    rw [List.cons_append, List.cons_append, List.cons_append, value?_escaped hhigh hlow, ih,
      Option.map_some, Nat.div_add_mod, UInt8.ofNat_toNat]

/-! ### Equality matches -/

theorem matching?_equality {name : String} {value : List UInt8}
    (hname : IsDescription name.toList) (h : DerivesValue value cs) :
    matching? (name.toList ++ '=' :: (cs ++ [')'])) = some (.equal name value, [')']) := by
  have hstop : NameStops ('=' :: (cs ++ [')'])) := by
    rintro _ ⟨⟩
    decide
  simp [matching?, description?_append hname hstop, value?_append h, pieces, ofPieces?]

theorem component?_equality {name : String} {value : List UInt8}
    (hname : IsDescription name.toList) (h : DerivesValue value cs) (fuel : Nat) :
    component? fuel (name.toList ++ '=' :: (cs ++ [')'])) = some (.equal name value, [')']) := by
  have hitem : item? (name.toList ++ '=' :: (cs ++ [')'])) = some (.equal name value, [')']) := by
    rw [item?, matching?_equality hname h]
    rfl
  -- A name does not start with the mark of a composed filter.
  rw [component?, hitem]
  all_goals exact fun _ _ _ => head_of_description hname (by decide)

/-- An equality match is read as what it is. -/
theorem read?_equality {s name : String} {value : List UInt8}
    (hs : s.toList = '(' :: (name.toList ++ '=' :: cs) ++ [')'])
    (hname : IsDescription name.toList) (h : DerivesValue value cs) :
    read? s = some (.equal name value) := by
  have hgroup (fuel : Nat) :
      group? (fuel + 1) ('(' :: (name.toList ++ '=' :: (cs ++ [')']))) =
        some (.equal name value, []) := by
    rw [group?, component?_equality hname h]
    rfl
  simp only [read?, hs, List.cons_append, List.append_assoc, hgroup, Option.some_or]

end RoleLookup.Directory.Filter
