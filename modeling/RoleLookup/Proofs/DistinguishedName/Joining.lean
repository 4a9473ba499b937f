import RoleLookup.Proofs.Directory.RolesOfEntry
import RoleLookup.Proofs.DistinguishedName.Acceptance

/-!
# Joined names

Two texts of relative names with a separator between them are a text of relative names.

* `joined`, the relative names of both, where a plus makes one of the two beside it;
* `names_joined`, behind a tree and a separator reading goes on as at the start of a text;
* `names_eq_ok_iff`, it does not matter at which offset a text is read, but behind a separator a
  text of white space is refused;
* `commonName?_joined`, the first common name of both, and `isCommonName_iff` and
  `commonName?_eq_some`, which pairs count and which of them is the first;
* `parse_joined`, what is read of joined texts.
-/

namespace RoleLookup.DistinguishedName

open Text
open Directory (SameName)

variable {b : UInt8} {xs ms : List RelativeName} {x : RelativeName} {p : Pair}

/-! ### Relative names of both -/

/-- Relative names with more of them behind a separator. A plus joins the two beside it. -/
def joined (b : UInt8) : List RelativeName → List RelativeName → List RelativeName
  | [], ms => ms
  | [x], ms => if b = plus then x.foldr merge ms else x :: ms
  | x :: y :: xs, ms => x :: joined b (y :: xs) ms

theorem joined_cons (h : xs ≠ []) : joined b (x :: xs) ms = x :: joined b xs ms := by
  cases xs with
  | nil => exact absurd rfl h
  | cons y xs => rfl

theorem joined_merge (h : xs ≠ []) : joined b (merge p xs) ms = merge p (joined b xs ms) := by
  rcases xs with _ | ⟨x, _ | ⟨y, xs⟩⟩
  · exact absurd rfl h
  · simp only [merge, joined]
    split <;> rfl
  · rfl

theorem joined_of_ne (h : b ≠ plus) : joined b xs ms = xs ++ ms := by
  fun_induction joined b xs ms with
  | case1 => rfl
  | case2 _ _ hb => exact absurd hb h
  | case3 => rfl
  | case4 _ _ _ _ ih => rw [ih]; rfl

theorem foldr_merge (x y : RelativeName) (ms : List RelativeName) :
    x.foldr merge (y :: ms) = (x ++ y) :: ms := by
  induction x with
  | nil => rfl
  | cons p x ih => rw [List.foldr_cons, ih, merge, List.cons_append]

theorem joined_plus (xs : List RelativeName) (x y : RelativeName) (ms : List RelativeName) :
    joined plus (xs ++ [x]) (y :: ms) = xs ++ (x ++ y) :: ms := by
  induction xs with
  | nil => rw [List.nil_append, List.nil_append, joined, if_pos rfl, foldr_merge]
  | cons z xs ih => rw [List.cons_append, joined_cons (by simp), ih, List.cons_append]

/-- The pairs stay in order, whatever the separator. -/
theorem flatten_joined (h : ms ≠ []) : (joined b xs ms).flatten = xs.flatten ++ ms.flatten := by
  fun_induction joined b xs ms with
  | case1 => rfl
  | case2 =>
    obtain ⟨y, ys, rfl⟩ := List.exists_cons_of_ne_nil h
    simp [foldr_merge]
  | case3 => simp
  | case4 _ _ _ _ ih => rw [List.flatten_cons, ih h, ← List.append_assoc]; rfl

/-! ### Reading on -/

theorem Tree.names_ne_nil (t : Tree) : t.names ≠ [] := by
  cases t <;> exact List.cons_ne_nil _ _

/-- Behind a pair, reading goes on as at the start. -/
theorem names_pair {t : PairTree} (ht : t.WellFormed) (hb : isSeparator b = true) (o : Nat)
    (bs : List UInt8) : ∃ k, (Cursor.mk o (t.yield ++ b :: bs)).names =
      (Cursor.mk k bs).names.map (joined b [[t.pair]]) := by
  obtain ⟨k, hk⟩ := pair_tree ht (stopped_cons hb bs) o
  refine ⟨k + 1, ?_⟩
  rw [names_of_separator hk hb]
  congr 1
  funext ms
  simp [joined]

/-- Behind a tree, reading goes on as at the start. -/
theorem names_joined {t : Tree} (ht : t.WellFormed) (hb : isSeparator b = true) (o : Nat)
    (bs : List UInt8) : ∃ k, (Cursor.mk o (t.yield ++ b :: bs)).names =
      (Cursor.mk k bs).names.map (joined b t.names) := by
  induction t using Tree.pairInduction generalizing o with
  | last p => exact names_pair ht hb o bs
  | separated p s t ih =>
    obtain ⟨k, hk⟩ := names_pair ht.1 s.isSeparator_byte o (t.yield ++ b :: bs)
    obtain ⟨l, hl⟩ := ih ht.2 k
    refine ⟨l, ?_⟩
    have hyield : (Tree.more (.one p) s t).yield ++ b :: bs =
        p.yield ++ s.byte :: (t.yield ++ b :: bs) := by
      simp [Tree.yield, NameTree.yield]
    rw [hyield, hk, hl]
    have hne := t.names_ne_nil
    cases (Cursor.mk l bs).names with
    | error e => rfl
    | ok ms =>
      simp [Except.map, Tree.names, NameTree.name, joined_of_ne s.byte_ne_plus, joined_cons hne]
  | joined p t ih =>
    rw [Tree.wellFormed_prepend] at ht
    obtain ⟨k, hk⟩ := names_pair (b := plus) ht.1 rfl o (t.yield ++ b :: bs)
    obtain ⟨l, hl⟩ := ih ht.2 k
    refine ⟨l, ?_⟩
    rw [Tree.yield_prepend, List.append_assoc, List.cons_append, hk, hl, Tree.names_prepend]
    have hne := t.names_ne_nil
    cases (Cursor.mk l bs).names with
    | error e => rfl
    | ok ms => simp [Except.map, joined, joined_merge hne]

/-- A text with relative names has a derivation. -/
theorem exists_derivation_of_ne {s : String} (h : parse s = .ok ms) (hne : ms ≠ []) :
    ∃ d : Derivation s, d.tree.names = ms := by
  refine exists_derivation ?_ h
  rw [← Bool.not_eq_true]
  intro hs
  rw [parse, if_pos hs, Except.ok.injEq] at h
  exact hne h.symm

/-- A text is read alike at any offset, but white space has names at the start only. -/
theorem names_eq_ok_iff {s : String} {k : Nat} :
    (Cursor.mk k (bytes s)).names = .ok ms ↔ parse s = .ok ms ∧ ms ≠ [] := by
  constructor
  · intro h
    obtain ⟨t, ht, rfl, hyield⟩ := exists_tree (s := s) rfl h
    exact ⟨(Derivation.mk t ht hyield).parse, t.names_ne_nil⟩
  · rintro ⟨h, hne⟩
    obtain ⟨d, rfl⟩ := exists_derivation_of_ne h hne
    rw [← d.yields]
    exact names_tree d.wellFormed k

/-! ### Common names -/

/-- A type is `cn` in any case of its letters, or the object identifier of that type. -/
def IsCommonNameType (type : String) : Prop := SameName type "cn" ∨ type = "2.5.4.3"

theorem isCommonName_iff {type : String} : isCommonName type = true ↔ IsCommonNameType type := by
  rw [IsCommonNameType, ← Directory.sameIgnoringCase_iff, isCommonName, Bool.or_eq_true,
    beq_iff_eq (a := type)]
  rfl

/-- The pairs of common names count from left to right, across relative names and inside them. -/
theorem commonName?_eq_some {names : List RelativeName} {value : String} :
    commonName? names = some value ↔ ∃ before p after, names.flatten = before ++ p :: after ∧
      IsCommonNameType p.attributeType ∧ p.value = value ∧
      ∀ q ∈ before, ¬ IsCommonNameType q.attributeType := by
  simp only [commonName?, Option.map_eq_some_iff, List.find?_eq_some_iff_append,
    Bool.not_eq_true', Bool.eq_false_iff, ne_eq, isCommonName_iff]
  constructor
  · rintro ⟨p, ⟨hp, before, after, hnames, hbefore⟩, rfl⟩
    exact ⟨before, p, after, hnames, hp, rfl, hbefore⟩
  · rintro ⟨before, p, after, hnames, hp, rfl, hbefore⟩
    exact ⟨p, ⟨hp, before, after, hnames, hbefore⟩, rfl⟩

theorem commonName?_joined (h : ms ≠ []) :
    commonName? (joined b xs ms) = (commonName? xs).or (commonName? ms) := by
  simp only [commonName?, flatten_joined h, List.find?_append, Option.map_or]

/-! ### Joined texts -/

section Texts

variable {s sep t : String}

/-- Behind a text and a separator, another text is read as by itself. -/
theorem parse_append (hs : parse s = .ok xs) (hne : xs ≠ []) (hsep : bytes sep = [b])
    (hb : isSeparator b = true) (t : String) :
    ∃ k, parse (s ++ sep ++ t) = (Cursor.mk k (bytes t)).names.map (joined b xs) := by
  obtain ⟨d, rfl⟩ := exists_derivation_of_ne hs hne
  obtain ⟨k, hk⟩ := names_joined d.wellFormed hb 0 (bytes t)
  have hblank : isBlankText (s ++ sep ++ t) = false := by
    have hs : s.toList.all isBlank = false := d.isBlankText
    simp only [isBlankText, String.toList_append, List.all_append, hs, Bool.false_and]
  refine ⟨k, ?_⟩
  rw [parse, hblank, if_neg Bool.false_ne_true, ← hk, d.yields, Cursor.ofText, bytes_append,
    bytes_append, hsep, List.append_assoc, List.singleton_append]

theorem parse_append_of_ok (hs : parse s = .ok xs) (hne : xs ≠ []) (hsep : bytes sep = [b])
    (hb : isSeparator b = true) (ht : parse t = .ok ms) (hms : ms ≠ []) :
    parse (s ++ sep ++ t) = .ok (joined b xs ms) := by
  obtain ⟨k, hk⟩ := parse_append hs hne hsep hb t
  rw [hk, names_eq_ok_iff.2 ⟨ht, hms⟩]
  rfl

/-- White space and what is no text of relative names by itself are refused. -/
theorem parse_append_of_not (hs : parse s = .ok xs) (hne : xs ≠ []) (hsep : bytes sep = [b])
    (hb : isSeparator b = true) (ht : ∀ ms, parse t = .ok ms → ms = []) :
    ∃ e, parse (s ++ sep ++ t) = .error e := by
  obtain ⟨k, hk⟩ := parse_append hs hne hsep hb t
  rw [hk]
  cases h : (Cursor.mk k (bytes t)).names with
  | error e => exact ⟨e, rfl⟩
  | ok ms =>
    obtain ⟨ht', hms⟩ := names_eq_ok_iff.1 h
    exact absurd (ht ms ht') hms

theorem firstCommonName_eq_ok {v : Option String} (ht : parse t = .ok ms) :
    firstCommonName t = .ok v ↔ commonName? ms = v := by
  simp [firstCommonName, ht, Except.map]

/-- The separators of relative names and pairs. -/
def separators : List String := [",", ";", "+"]

theorem exists_byte_of_separator (h : sep ∈ separators) :
    ∃ b, bytes sep = [b] ∧ isSeparator b = true := by
  simp only [separators, List.mem_cons, List.not_mem_nil, or_false] at h
  obtain rfl | rfl | rfl := h
  · exact ⟨0x2c, by decide +kernel, rfl⟩
  · exact ⟨0x3b, by decide +kernel, rfl⟩
  · exact ⟨plus, by decide +kernel, rfl⟩

/-- **Joined names.** Behind the relative names of a text, a comma or a semicolon puts those of
another one, and a plus joins the two beside it; a text that has none, or is none, cannot be put
there. The first common name is that of the first text that has one, where the pairs count from left
to right. -/
theorem parse_joined {x : RelativeName} (hs : parse s = .ok (xs ++ [x])) (t : String) :
    (∀ y ys, parse t = .ok (y :: ys) →
      parse (s ++ "," ++ t) = .ok ((xs ++ [x]) ++ y :: ys) ∧
      parse (s ++ ";" ++ t) = .ok ((xs ++ [x]) ++ y :: ys) ∧
      parse (s ++ "+" ++ t) = .ok (xs ++ (x ++ y) :: ys)) ∧
    (∀ sep ∈ separators,
      ((∃ e, parse t = .error e) ∨ (∀ c ∈ t.toList, isBlank c = true) →
        ∃ e, parse (s ++ sep ++ t) = .error e) ∧
      ∀ y ys v w, parse t = .ok (y :: ys) → firstCommonName s = .ok v →
        firstCommonName t = .ok w → firstCommonName (s ++ sep ++ t) = .ok (v.or w)) ∧
    ∀ u names, parse u = .ok names → ∀ value, firstCommonName u = .ok (some value) ↔
      ∃ before p after, names.flatten = before ++ p :: after ∧
        IsCommonNameType p.attributeType ∧ p.value = value ∧
        ∀ q ∈ before, ¬ IsCommonNameType q.attributeType := by
  have hne : xs ++ [x] ≠ [] := by simp
  refine ⟨fun y ys ht => ?_, fun sep hsep => ?_, fun u names hu value => ?_⟩
  · have append {sep : String} {b : UInt8} (hsep : bytes sep = [b]) (hb : isSeparator b = true) :=
      parse_append_of_ok hs hne hsep hb ht (List.cons_ne_nil y ys)
    refine ⟨?_, ?_, ?_⟩
    · rw [append (b := 0x2c) (by decide +kernel) rfl, joined_of_ne (by decide)]
    · rw [append (b := 0x3b) (by decide +kernel) rfl, joined_of_ne (by decide)]
    · rw [append (b := plus) (by decide +kernel) rfl, joined_plus]
  · obtain ⟨b, hbytes, hb⟩ := exists_byte_of_separator hsep
    constructor
    · intro h
      refine parse_append_of_not hs hne hbytes hb fun ms hms => ?_
      rcases h with ⟨e, he⟩ | hblank
      · rw [he] at hms
        cases hms
      · have hblank : isBlankText t = true := List.all_eq_true.2 hblank
        rw [parse, if_pos hblank, Except.ok.injEq] at hms
        exact hms.symm
    · intro y ys v w ht hv hw
      have happend := parse_append_of_ok hs hne hbytes hb ht (List.cons_ne_nil y ys)
      rw [firstCommonName_eq_ok happend, commonName?_joined (List.cons_ne_nil y ys),
        (firstCommonName_eq_ok hs).1 hv, (firstCommonName_eq_ok ht).1 hw]
  · rw [firstCommonName_eq_ok hu, commonName?_eq_some]

/-- An escaped space at the end of the first text, and quotes and spaces in the second. -/
theorem parse_joined_mixed :
    let s := "ou=a ; o=b\\ "
    let t := "CN = \"c,d\" +2.5.4.3=e"
    parse (s ++ ";" ++ t) =
      .ok [[⟨"ou", "a"⟩], [⟨"o", "b "⟩], [⟨"CN", "c,d"⟩, ⟨"2.5.4.3", "e"⟩]] ∧
    parse (s ++ "+" ++ t) =
      .ok [[⟨"ou", "a"⟩], [⟨"o", "b "⟩, ⟨"CN", "c,d"⟩, ⟨"2.5.4.3", "e"⟩]] ∧
    firstCommonName (s ++ "+" ++ t) = .ok (some "c,d") ∧
    ∃ e, parse (s ++ "," ++ "c\\4") = .error e := by
  intro s t
  have hs : parse s = .ok ([[⟨"ou", "a"⟩]] ++ [[⟨"o", "b "⟩]]) := by decide +kernel
  have ht : parse t = .ok [[⟨"CN", "c,d"⟩, ⟨"2.5.4.3", "e"⟩]] := by decide +kernel
  have hnone : firstCommonName s = .ok none := by decide +kernel
  have hsome : firstCommonName t = .ok (some "c,d") := by decide +kernel
  have hbroken : parse "c\\4" = .error (.missingEquals 0) := by decide +kernel
  obtain ⟨-, hsemicolon, hplus⟩ := (parse_joined hs t).1 _ _ ht
  refine ⟨hsemicolon, hplus, ?_, ?_⟩
  · exact ((parse_joined hs t).2.1 "+" (by simp [separators])).2 _ _ _ _ ht hnone hsome
  · exact ((parse_joined hs "c\\4").2.1 "," (by simp [separators])).1 (.inl ⟨_, hbroken⟩)

end Texts

end RoleLookup.DistinguishedName
