import Mathlib.Data.List.Basic

/-!
# Names of attributes

The grammar of attribute types and attribute descriptions in LDAP.

* `IsShortName` and `IsIdentifier`, the two kinds of `IsAttributeType`;
* `IsDescription`, an attribute type and its options;
* `IsAttributeType.chars` and `IsDescription.chars`, the characters of both.
-/

namespace RoleLookup.Directory

/-- A letter, a digit or a hyphen. -/
def IsKeyChar (c : Char) : Prop := c.isAlphanum = true ∨ c = '-'

instance (c : Char) : Decidable (IsKeyChar c) := inferInstanceAs (Decidable (_ ∨ _))

/-- A short name: a letter, then letters, digits and hyphens. -/
inductive IsShortName : List Char → Prop
  | mk {c : Char} {cs : List Char} (head : c.isAlpha = true) (tail : ∀ d ∈ cs, IsKeyChar d) :
      IsShortName (c :: cs)

/-- A number without leading zeros. -/
inductive IsNumber : List Char → Prop
  | zero : IsNumber ['0']
  | mk {c : Char} {cs : List Char} (head : c.isDigit = true) (nonzero : c ≠ '0')
      (tail : ∀ d ∈ cs, d.isDigit = true) : IsNumber (c :: cs)

/-- An object identifier: two numbers or more, with points between them. -/
inductive IsIdentifier : List Char → Prop
  | two {ms ns : List Char} (first : IsNumber ms) (last : IsNumber ns) :
      IsIdentifier (ms ++ '.' :: ns)
  | more {ns cs : List Char} (first : IsNumber ns) (rest : IsIdentifier cs) :
      IsIdentifier (ns ++ '.' :: cs)

/-- An attribute type: a short name or an object identifier. -/
def IsAttributeType (cs : List Char) : Prop := IsShortName cs ∨ IsIdentifier cs

/-- Options, each behind a semicolon. -/
inductive IsOptions : List Char → Prop
  | nil : IsOptions []
  | cons {option rest : List Char} (nonempty : option ≠ []) (chars : ∀ d ∈ option, IsKeyChar d)
      (more : IsOptions rest) : IsOptions (';' :: option ++ rest)

/-- An attribute description: an attribute type and options. -/
def IsDescription (cs : List Char) : Prop :=
  ∃ type options, IsAttributeType type ∧ IsOptions options ∧ cs = type ++ options

/-! ### Characters -/

/-- A character of an attribute type. -/
def IsTypeChar (c : Char) : Prop := IsKeyChar c ∨ c = '.'

instance (c : Char) : Decidable (IsTypeChar c) := inferInstanceAs (Decidable (_ ∨ _))

/-- A character of an attribute description. -/
def IsNameChar (c : Char) : Prop := IsTypeChar c ∨ c = ';'

instance (c : Char) : Decidable (IsNameChar c) := inferInstanceAs (Decidable (_ ∨ _))

theorem isAlphanum_of_isAlpha {c : Char} (h : c.isAlpha = true) : c.isAlphanum = true := by
  simp [Char.isAlphanum, h]

theorem isAlphanum_of_isDigit {c : Char} (h : c.isDigit = true) : c.isAlphanum = true := by
  simp [Char.isAlphanum, h]

theorem IsNumber.isDigit {cs : List Char} (h : IsNumber cs) : ∀ c ∈ cs, c.isDigit = true := by
  cases h with
  | zero => exact List.forall_mem_singleton.2 rfl
  | mk head _ tail => exact List.forall_mem_cons.2 ⟨head, tail⟩

theorem IsNumber.chars {cs : List Char} (h : IsNumber cs) : ∀ c ∈ cs, IsTypeChar c :=
  fun c hc => .inl (.inl (isAlphanum_of_isDigit (h.isDigit c hc)))

theorem IsIdentifier.chars {cs : List Char} (h : IsIdentifier cs) : ∀ c ∈ cs, IsTypeChar c := by
  induction h with
  | two first last =>
    exact List.forall_mem_append.2 ⟨first.chars, List.forall_mem_cons.2 ⟨.inr rfl, last.chars⟩⟩
  | more first _ ih =>
    exact List.forall_mem_append.2 ⟨first.chars, List.forall_mem_cons.2 ⟨.inr rfl, ih⟩⟩

theorem IsShortName.chars {cs : List Char} (h : IsShortName cs) : ∀ c ∈ cs, IsTypeChar c := by
  cases h with
  | mk head tail =>
    exact List.forall_mem_cons.2 ⟨.inl (.inl (isAlphanum_of_isAlpha head)),
      fun d hd => .inl (tail d hd)⟩

theorem IsAttributeType.chars {cs : List Char} (h : IsAttributeType cs) : ∀ c ∈ cs, IsTypeChar c :=
  h.elim IsShortName.chars IsIdentifier.chars

theorem IsOptions.chars {cs : List Char} (h : IsOptions cs) : ∀ c ∈ cs, IsNameChar c := by
  induction h with
  | nil => simp
  | cons _ chars _ ih =>
    refine List.forall_mem_append.2 ⟨List.forall_mem_cons.2 ⟨.inr rfl, ?_⟩, ih⟩
    exact fun d hd => .inl (.inl (chars d hd))

theorem IsDescription.chars {cs : List Char} (h : IsDescription cs) : ∀ c ∈ cs, IsNameChar c := by
  obtain ⟨type, options, htype, hoptions, rfl⟩ := h
  exact List.forall_mem_append.2 ⟨fun c hc => .inl (htype.chars c hc), hoptions.chars⟩

/-- A name starts with a letter or a digit. -/
theorem IsAttributeType.exists_cons {cs : List Char} (h : IsAttributeType cs) :
    ∃ c rest, cs = c :: rest ∧ c.isAlphanum = true := by
  have number {ns : List Char} (h : IsNumber ns) (rest : List Char) :
      ∃ c cs, ns ++ rest = c :: cs ∧ c.isAlphanum = true := by
    cases h with
    | zero => exact ⟨_, _, rfl, by decide⟩
    | mk head => exact ⟨_, _, rfl, isAlphanum_of_isDigit head⟩
  obtain ⟨head, -⟩ | h := h
  · exact ⟨_, _, rfl, isAlphanum_of_isAlpha head⟩
  · cases h with
    | two first | more first => exact number first _

theorem IsDescription.exists_cons {cs : List Char} (h : IsDescription cs) :
    ∃ c rest, cs = c :: rest ∧ c.isAlphanum = true := by
  obtain ⟨type, options, htype, -, rfl⟩ := h
  obtain ⟨c, rest, rfl, hc⟩ := htype.exists_cons
  exact ⟨c, rest ++ options, rfl, hc⟩

end RoleLookup.Directory
