import RoleLookup.Directory.Filter
import RoleLookup.Proofs.Directory.AttributeType
import RoleLookup.Proofs.Text.Lexical

/-!
# The grammar of search filters

The string form of LDAP search filters.

* `DerivesValue`, the texts of a value, with `DerivesValue.value_inj`: a text is that of one value
  at most;
* `DerivesItem`, `DerivesComponent` and `Derives`, the texts of a filter;
* `derives_equality_iff`, where the text of a name, `=` and the text of a value stand between
  parentheses, this is the text of an equality match and of no other filter.
-/

namespace RoleLookup.Directory.Filter

open Text

/-! ### Texts -/

/-- The characters that do not stand for themselves in a value. -/
def specials : List Char := ['\\', '*', '(', ')', '\x00']

/-- The texts of a value. -/
inductive DerivesValue : List UInt8 → List Char → Prop
  | nil : DerivesValue [] []
  | kept {c : Char} {bs : List UInt8} {ws : List Char} (h : c ∉ specials)
      (rest : DerivesValue bs ws) : DerivesValue (String.utf8EncodeChar c ++ bs) (c :: ws)
  | escaped {b : UInt8} {high low : Char} {bs : List UInt8} {ws : List Char}
      (hhigh : IsHexDigit high (b.toNat / 16)) (hlow : IsHexDigit low (b.toNat % 16))
      (rest : DerivesValue bs ws) : DerivesValue (b :: bs) ('\\' :: high :: low :: ws)

/-- The texts of values with an asterisk behind each, and of one more value. -/
inductive DerivesPieces : List (List UInt8) → List UInt8 → List Char → Prop
  | last {finish : List UInt8} {ws : List Char} (h : DerivesValue finish ws) :
      DerivesPieces [] finish ws
  | more {value finish : List UInt8} {values : List (List UInt8)} {ws vs : List Char}
      (h : DerivesValue value ws) (rest : DerivesPieces values finish vs) :
      DerivesPieces (value :: values) finish (ws ++ '*' :: vs)

/-- The kinds of comparisons, each with what stands between the name and the value. -/
inductive IsComparison : (String → List UInt8 → Filter) → List Char → Prop
  | equal : IsComparison .equal ['=']
  | similar : IsComparison .similar ['~', '=']
  | greaterOrEqual : IsComparison .greaterOrEqual ['>', '=']
  | lessOrEqual : IsComparison .lessOrEqual ['<', '=']

/-- The mark that asks for the name of the entry too. -/
def inNameText : Bool → List Char
  | true => [':', 'd', 'n']
  | false => []

/-- A rule behind a colon. -/
def ruleText : Option String → List Char
  | some rule => ':' :: rule.toList
  | none => []

/-- The texts of a filter that is not composed of others. -/
inductive DerivesItem : Filter → List Char → Prop
  | comparison {kind : String → List UInt8 → Filter} {operator ws : List Char} {name : String}
      {value : List UInt8} (hkind : IsComparison kind operator)
      (hname : IsDescription name.toList) (hvalue : DerivesValue value ws) :
      DerivesItem (kind name value) (name.toList ++ (operator ++ ws))
  | present {name : String} (hname : IsDescription name.toList) :
      DerivesItem (.present name) (name.toList ++ ['=', '*'])
  | substrings {name : String} {start finish : List UInt8} {middle : List (List UInt8)}
      {ws vs : List Char} (hname : IsDescription name.toList) (hstart : DerivesValue start ws)
      (hrest : DerivesPieces middle finish vs) :
      DerivesItem (.substrings name start middle finish) (name.toList ++ '=' :: (ws ++ '*' :: vs))
  | extensible {name : String} {inName : Bool} {rule : Option String} {value : List UInt8}
      {ws : List Char} (hname : IsDescription name.toList)
      (hrule : ∀ r ∈ rule, IsAttributeType r.toList) (hvalue : DerivesValue value ws) :
      DerivesItem (.extensible (some name) inName rule value)
        (name.toList ++ (inNameText inName ++ (ruleText rule ++ ':' :: '=' :: ws)))
  | rule {inName : Bool} {rule : String} {value : List UInt8} {ws : List Char}
      (hrule : IsAttributeType rule.toList) (hvalue : DerivesValue value ws) :
      DerivesItem (.extensible none inName (some rule) value)
        (inNameText inName ++ (ruleText (some rule) ++ ':' :: '=' :: ws))

mutual

/-- The texts of a filter. -/
inductive Derives : Filter → List Char → Prop
  | mk {f : Filter} {ws : List Char} (h : DerivesComponent f ws) : Derives f ('(' :: ws ++ [')'])

/-- The texts of a filter, without the parentheses around them. -/
inductive DerivesComponent : Filter → List Char → Prop
  | all {fs : List Filter} {ws : List Char} (h : DerivesList fs ws) :
      DerivesComponent (.all fs) ('&' :: ws)
  | any {fs : List Filter} {ws : List Char} (h : DerivesList fs ws) :
      DerivesComponent (.any fs) ('|' :: ws)
  | negated {f : Filter} {ws : List Char} (h : Derives f ws) :
      DerivesComponent (.negated f) ('!' :: ws)
  | item {f : Filter} {ws : List Char} (h : DerivesItem f ws) : DerivesComponent f ws

/-- The texts of at least one filter. -/
inductive DerivesList : List Filter → List Char → Prop
  | one {f : Filter} {ws : List Char} (h : Derives f ws) : DerivesList [f] ws
  | more {f : Filter} {fs : List Filter} {ws vs : List Char} (h : Derives f ws)
      (rest : DerivesList fs vs) : DerivesList (f :: fs) (ws ++ vs)

end

/-! ### Values -/

variable {value other : List UInt8} {ws : List Char}

/-- A text is that of one value at most. -/
theorem DerivesValue.value_inj (h : DerivesValue value ws) (h' : DerivesValue other ws) :
    value = other := by
  induction h generalizing other with
  | nil =>
    cases h'
    rfl
  | kept hc _ ih =>
    cases h' with
    | kept _ rest => rw [ih rest]
    | escaped => exact absurd (by decide) hc
  | @escaped b _ _ _ _ hhigh hlow _ ih =>
    cases h' with
    | kept hc => exact absurd (by decide) hc
    | @escaped b' _ _ _ _ hhigh' hlow' rest =>
      have hb : b = b' := by
        have h1 := hhigh.value_inj hhigh'
        have h2 := hlow.value_inj hlow'
        exact UInt8.toNat_inj.1 (by omega)
      rw [hb, ih rest]

/-- In the text of a value there is no asterisk. -/
theorem DerivesValue.asterisk_notMem (h : DerivesValue value ws) : '*' ∉ ws := by
  induction h with
  | nil => simp
  | kept hc _ ih =>
    refine List.not_mem_cons_of_ne_of_not_mem ?_ ih
    rintro rfl
    exact hc (by decide)
  | escaped hhigh hlow _ ih =>
    have hdigit {c : Char} {n : Nat} (h : IsHexDigit c n) : '*' ≠ c :=
      IsHexDigit.of_forall (P := fun c _ => ¬ '*' = c) (by decide) h
    simp [hdigit hhigh, hdigit hlow, ih]

/-! ### Equality matches -/

/-- Two texts are cut where their names end. -/
theorem name_append_inj {ns ms xs ys : List Char} {c d : Char} (hns : ∀ e ∈ ns, IsNameChar e)
    (hms : ∀ e ∈ ms, IsNameChar e) (hc : ¬ IsNameChar c) (hd : ¬ IsNameChar d)
    (h : ns ++ c :: xs = ms ++ d :: ys) : ns = ms ∧ c = d ∧ xs = ys := by
  induction ns generalizing ms with
  | nil =>
    cases ms with
    | nil =>
      obtain ⟨hcd, hrest⟩ := List.cons.inj h
      exact ⟨rfl, hcd, hrest⟩
    | cons m ms => exact absurd (hms m List.mem_cons_self) ((List.cons.inj h).1 ▸ hc)
  | cons n ns ih =>
    cases ms with
    | nil => exact absurd (hns n List.mem_cons_self) ((List.cons.inj h).1 ▸ hd)
    | cons m ms =>
      obtain ⟨rfl, hrest⟩ := List.cons.inj h
      obtain ⟨rfl, hcd, hxs⟩ := ih (fun e he => hns e (List.mem_cons_of_mem _ he))
        (fun e he => hms e (List.mem_cons_of_mem _ he)) hrest
      exact ⟨rfl, hcd, hxs⟩

/-- A description between parentheses is not the start of a composed filter or a rule. -/
theorem head_of_description {ns xs ys : List Char} {c : Char} (hns : IsDescription ns)
    (hc : ¬ IsNameChar c) : ns ++ xs ≠ c :: ys := by
  obtain ⟨d, ds, rfl, hd⟩ := hns.exists_cons
  rintro h
  exact hc ((List.cons.inj h).1 ▸ .inl (.inl (.inl hd)))

/-- What stands behind the name in an extensible match starts with a colon. -/
theorem exists_extensibleText (inName : Bool) (rule : Option String) (ws : List Char) :
    ∃ vs, inNameText inName ++ (ruleText rule ++ ':' :: '=' :: ws) = ':' :: vs := by
  cases inName <;> cases rule <;> exact ⟨_, rfl⟩

variable {f : Filter} {name : String}

theorem DerivesItem.eq_equal {vs : List Char} (h : DerivesItem f vs)
    (hvs : vs = name.toList ++ '=' :: ws) (hname : IsDescription name.toList)
    (hvalue : DerivesValue value ws) : f = .equal name value := by
  have hequals : ¬ IsNameChar '=' := by decide
  cases h with
  | comparison hkind hname' hvalue' =>
    cases hkind with
    | equal =>
      obtain ⟨hnames, -, rfl⟩ := name_append_inj hname'.chars hname.chars hequals hequals hvs
      rw [String.toList_inj.1 hnames, hvalue.value_inj hvalue']
    | similar | greaterOrEqual | lessOrEqual =>
      obtain ⟨-, hchar, -⟩ :=
        name_append_inj hname'.chars hname.chars (by decide) hequals hvs
      exact absurd hchar (by decide)
  | present hname' =>
    obtain ⟨-, -, rfl⟩ := name_append_inj hname'.chars hname.chars hequals hequals hvs
    exact absurd List.mem_cons_self hvalue.asterisk_notMem
  | substrings hname' =>
    obtain ⟨-, -, rfl⟩ := name_append_inj hname'.chars hname.chars hequals hequals hvs
    exact absurd (List.mem_append_right _ List.mem_cons_self) hvalue.asterisk_notMem
  | @extensible _ inName rule _ us hname' =>
    obtain ⟨ys, hys⟩ := exists_extensibleText inName rule us
    rw [hys] at hvs
    obtain ⟨-, hchar, -⟩ := name_append_inj hname'.chars hname.chars (by decide) hequals hvs
    exact absurd hchar (by decide)
  | @rule inName rule _ us =>
    obtain ⟨ys, hys⟩ := exists_extensibleText inName (some rule) us
    rw [hys] at hvs
    exact absurd hvs.symm (head_of_description hname (by decide))

/-- The text of an equality match is that of no other filter. -/
theorem derives_equality_iff (hname : IsDescription name.toList) (hvalue : DerivesValue value ws) :
    Derives f ('(' :: (name.toList ++ '=' :: ws) ++ [')']) ↔ f = .equal name value := by
  constructor
  · intro h
    generalize hus : '(' :: (name.toList ++ '=' :: ws) ++ [')'] = us at h
    obtain ⟨h⟩ := h
    have hvs := (List.append_cancel_right (List.cons.inj hus).2).symm
    cases h with
    | all | any | negated => exact absurd hvs.symm (head_of_description hname (by decide))
    | item h => exact h.eq_equal hvs hname hvalue
  · rintro rfl
    exact .mk (.item (.comparison .equal hname hvalue))

end RoleLookup.Directory.Filter
