import RoleLookup.Proofs.DistinguishedName.Scanners

/-!
# What is accepted as a distinguished name

* `Tree.pairInduction`, a tree is built pair by pair from its last pair;
* `names_tree`, what a well-formed tree yields is read as what the tree means;
* `exists_tree`, what is read is what a well-formed tree yields;
* `parse_eq_ok_iff_derived`, a text is accepted if it is white space or has a derivation, which is
  then its only one.
-/

namespace RoleLookup.DistinguishedName

open Text

/-! ### Trees, pair by pair -/

/-- Puts a pair and a plus in front of a tree. -/
def Tree.prepend (p : PairTree) : Tree → Tree
  | one n => one (.more p n)
  | more n s rest => more (.more p n) s rest

namespace Tree

@[simp] theorem yield_prepend (p : PairTree) (t : Tree) :
    (t.prepend p).yield = p.yield ++ plus :: t.yield := by
  cases t <;> simp [prepend, yield, NameTree.yield]

@[simp] theorem names_prepend (p : PairTree) (t : Tree) :
    (t.prepend p).names = merge p.pair t.names := by
  cases t <;> rfl

@[simp] theorem wellFormed_prepend {p : PairTree} {t : Tree} :
    (t.prepend p).WellFormed ↔ p.WellFormed ∧ t.WellFormed := by
  cases t with
  | one n => rfl
  | more n s rest => exact and_assoc

/-- A tree is a pair, or a pair in front of a tree, with a separator or a plus behind it. -/
@[elab_as_elim]
theorem pairInduction {motive : Tree → Prop} (last : ∀ p, motive (one (.one p)))
    (separated : ∀ p s t, motive t → motive (more (.one p) s t))
    (joined : ∀ p t, motive t → motive (t.prepend p)) (t : Tree) : motive t := by
  induction t with
  | one n =>
    induction n with
    | one p => exact last p
    | more p n ih => exact joined p (one n) ih
  | more n s t ih =>
    induction n with
    | one p => exact separated p s t ih
    | more p n ih' => exact joined p (more n s t) ih'

end Tree

/-! ### Reading trees -/

theorem names_of_last {c : Cursor} {p : Pair} {k : Nat} (h : c.pair = .ok (p, ⟨k, []⟩)) :
    c.names = .ok [[p]] := by
  rw [Cursor.names]
  split
  · rename_i heq
    cases h.symm.trans heq
  · rename_i heq
    cases h.symm.trans heq
    rfl

theorem names_of_separator {c : Cursor} {p : Pair} {k : Nat} {b : UInt8} {rest : List UInt8}
    (h : c.pair = .ok (p, ⟨k, b :: rest⟩)) (hb : isSeparator b = true) :
    c.names = (Cursor.mk (k + 1) rest).names.map fun names =>
      if b == plus then merge p names else [p] :: names := by
  rw [Cursor.names]
  split
  · rename_i heq
    cases h.symm.trans heq
  · rename_i heq
    cases h.symm.trans heq
    exact if_pos hb

theorem names_tree {t : Tree} (ht : t.WellFormed) (o : Nat) :
    (Cursor.mk o t.yield).names = .ok t.names := by
  induction t using Tree.pairInduction generalizing o with
  | last p =>
    obtain ⟨k, hk⟩ := pair_tree ht stopped_nil o
    rw [List.append_nil] at hk
    exact names_of_last hk
  | separated p s t ih =>
    obtain ⟨k, hk⟩ := pair_tree ht.1 (stopped_cons s.isSeparator_byte t.yield) o
    simp only [Tree.yield, NameTree.yield]
    rw [names_of_separator hk s.isSeparator_byte, ih ht.2]
    simp [Except.map, Tree.names, NameTree.name, s.byte_ne_plus]
  | joined p t ih =>
    rw [Tree.wellFormed_prepend] at ht
    obtain ⟨k, hk⟩ := pair_tree ht.1 (stopped_cons (b := plus) rfl t.yield) o
    rw [Tree.yield_prepend, names_of_separator hk rfl, ih ht.2]
    simp [Except.map]

theorem exists_separator {b : UInt8} (hb : isSeparator b = true) (hplus : b ≠ plus) :
    ∃ s : Separator, s.byte = b := by
  simp only [isSeparator, Bool.or_eq_true, beq_iff_eq] at hb
  obtain (rfl | rfl) | rfl := hb
  · exact ⟨.comma, rfl⟩
  · exact absurd rfl hplus
  · exact ⟨.semicolon, rfl⟩

/-- Behind a pair and a separator, the bytes of a text are those of a text. -/
theorem exists_bytes_of_separator {s : String} {as bs : List UInt8} {b : UInt8}
    (hs : bytes s = as ++ b :: bs) (hb : isSeparator b = true) : ∃ t, bytes t = bs := by
  obtain ⟨-, u, -, hu⟩ := bytes_split hs (by rintro _ ⟨⟩; exact lt_of_isSeparator hb)
  exact exists_bytes_tail hu (lt_of_isSeparator hb)

/-- What names are read from, where the bytes ahead are those of a text. -/
theorem exists_tree {c : Cursor} {s : String} {ns : List RelativeName} (hs : bytes s = c.rest)
    (h : c.names = .ok ns) : ∃ t : Tree, t.WellFormed ∧ t.names = ns ∧ t.yield = c.rest := by
  fun_induction Cursor.names c generalizing s ns with
  | case1 => cases h
  | case2 c p d hpair hrest =>
    obtain ⟨t, ht, hp, hyield⟩ := exists_pairTree hs hpair
    cases h
    rw [hrest, List.append_nil] at hyield
    exact ⟨.one (.one t), ht, by rw [Tree.names, NameTree.name, hp], hyield⟩
  | case3 c p d hpair b rest hrest hb ih =>
    obtain ⟨t, ht, hp, hyield⟩ := exists_pairTree hs hpair
    obtain ⟨ns', hns', hname⟩ := map_eq_ok.1 h
    rw [hrest] at hyield
    obtain ⟨u, hu⟩ := exists_bytes_of_separator (hs.trans hyield.symm) hb
    obtain ⟨tree, htree, rfl, hrest'⟩ := ih hu hns'
    simp only at hrest'
    by_cases hplus : b = plus
    · refine ⟨tree.prepend t, Tree.wellFormed_prepend.2 ⟨ht, htree⟩, ?_, ?_⟩
      · simpa [hplus, hp] using hname
      · rw [Tree.yield_prepend, hrest', ← hplus, hyield]
    · obtain ⟨sep, rfl⟩ := exists_separator hb hplus
      refine ⟨.more (.one t) sep tree, ⟨ht, htree⟩, ?_, ?_⟩
      · simpa [hplus, Tree.names, NameTree.name, hp] using hname
      · rw [Tree.yield, NameTree.yield, hrest', hyield]
  | case4 => cases h

/-! ### Texts -/

/-- What a tree yields has an `=`. -/
theorem equals_mem_yield (t : Tree) : equals ∈ t.yield := by
  induction t using Tree.pairInduction with
  | last p => simp [Tree.yield, NameTree.yield, PairTree.yield]
  | separated p s t ih => simp [Tree.yield, ih]
  | joined p t ih => simp [ih]

/-- White space has no derivation. -/
theorem Derivation.isBlankText {s : String} (d : Derivation s) : isBlankText s = false := by
  have hmem : equals ∈ bytes s := d.yields ▸ equals_mem_yield d.tree
  exact List.all_eq_false.2 ⟨'=', mem_toList_of_mem_bytes (d := '=') (by decide) hmem, by decide⟩

theorem Derivation.parse {s : String} (d : Derivation s) :
    DistinguishedName.parse s = .ok d.tree.names := by
  rw [DistinguishedName.parse, d.isBlankText, if_neg Bool.false_ne_true, Cursor.ofText, ← d.yields]
  exact names_tree d.wellFormed 0

theorem exists_derivation {s : String} {ns : List RelativeName} (hs : isBlankText s = false)
    (h : parse s = .ok ns) : ∃ d : Derivation s, d.tree.names = ns := by
  rw [DistinguishedName.parse, hs, if_neg Bool.false_ne_true] at h
  obtain ⟨t, ht, hnames, hyield⟩ := exists_tree (c := Cursor.ofText s) rfl h
  exact ⟨⟨t, ht, hyield⟩, hnames⟩

/-- **What is accepted.** A text has relative names if it is white space, and then it has none, or
if it is derived, and then its derivation is the only one and means them. Every other text is an
error. -/
theorem parse_eq_ok_iff_derived (s : String) :
    (∀ names, parse s = .ok names ↔
      (∀ c ∈ s.toList, isBlank c = true) ∧ names = [] ∨
        ∃ d : Derivation s, d.tree.names = names) ∧
    (∀ d e : Derivation s, d = e) ∧
    ((∃ e, parse s = .error e) ↔
      ¬ (∀ c ∈ s.toList, isBlank c = true) ∧ IsEmpty (Derivation s)) := by
  rw [← List.all_eq_true]
  change (∀ names, parse s = .ok names ↔ isBlankText s = true ∧ names = [] ∨ _) ∧ _ ∧
    (_ ↔ ¬ isBlankText s = true ∧ _)
  refine ⟨fun names => ?_, Derivation.unique, ?_⟩
  · constructor
    · intro h
      cases hs : isBlankText s with
      | true =>
        rw [parse, hs, if_pos rfl, Except.ok.injEq] at h
        exact .inl ⟨rfl, h.symm⟩
      | false => exact .inr (exists_derivation hs h)
    · rintro (⟨hs, rfl⟩ | ⟨d, rfl⟩)
      · rw [parse, hs, if_pos rfl]
      · exact d.parse
  · constructor
    · rintro ⟨e, he⟩
      refine ⟨fun hs => ?_, ⟨fun d => ?_⟩⟩
      · rw [parse, hs, if_pos rfl] at he
        cases he
      · cases d.parse.symm.trans he
    · rintro ⟨hs, hnone⟩
      cases h : parse s with
      | error e => exact ⟨e, rfl⟩
      | ok names =>
        obtain ⟨d, -⟩ := exists_derivation (Bool.not_eq_true _ ▸ hs) h
        exact hnone.elim d

end RoleLookup.DistinguishedName
