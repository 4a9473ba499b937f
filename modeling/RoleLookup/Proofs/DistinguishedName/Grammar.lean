import Mathlib.Data.List.Basic
import RoleLookup.DistinguishedName
import RoleLookup.Proofs.Text.Utf8

/-!
# The grammar of distinguished names

    names = rdn | rdn (',' | ';') names
    rdn   = pair | pair '+' rdn
    pair  = spaces type '=' spaces value
    value = plain | '"' quoted '"' spaces

* `Piece`, one byte of a value as it is written, and `ValueTree`, `PairTree`, `NameTree`, `Tree`,
  the trees of the grammar, each with the bytes that it `yield`s, with what it means, and with the
  conditions under which it is `WellFormed`;
* `Derivation`, a well-formed tree for a text;
* `Tree.yield_inj`, a text has one derivation at most.

The bytes of a type and of a plain or quoted run are all bytes but some, so that every tree can be
cut where its run stops.
-/

namespace RoleLookup.DistinguishedName

open Text

/-! ### Trees -/

/-- One byte of a value as it is written. -/
inductive Piece
  | raw (b : UInt8)
  /-- It is written behind a backslash. -/
  | escaped (b : UInt8)
  /-- Two hexadecimal digits behind a backslash write it. -/
  | hex (high low : UInt8)
  deriving DecidableEq, Repr

namespace Piece

def yield : Piece → List UInt8
  | raw b => [b]
  | escaped b => [backslash, b]
  | hex high low => [backslash, high, low]

/-- The byte that is meant. -/
def byte : Piece → UInt8
  | raw b | escaped b => b
  | hex high low => (hexValue? high).getD 0 <<< 4 ||| (hexValue? low).getD 0

/-- A piece of a run that ends before bytes that stop it. -/
def WellFormed (stops : UInt8 → Bool) : Piece → Prop
  | raw b => stops b = false ∧ b ≠ backslash
  | escaped b => hexValue? b = none
  | hex high low => (hexValue? high).isSome ∧ (hexValue? low).isSome

end Piece

/-- A value: its pieces, and the text that they mean. -/
inductive ValueTree
  | plain (pieces : List Piece) (text : String)
  | quoted (pieces : List Piece) (text : String) (after : Nat)
  deriving DecidableEq, Repr

namespace ValueTree

/-- Pieces of a plain value without the raw spaces at their end. -/
def significant (ps : List Piece) : List Piece :=
  (ps.reverse.dropWhile (· == .raw space)).reverse

def yield : ValueTree → List UInt8
  | plain ps _ => ps.flatMap Piece.yield
  | quoted ps _ after => quote :: ps.flatMap Piece.yield ++ quote :: List.replicate after space

/-- The value that is meant. -/
def text : ValueTree → String
  | plain _ text | quoted _ text _ => text

/-- The pieces are of the right kind, a plain value does not start like another value or with a
space, and the bytes that are meant encode the text. -/
def WellFormed : ValueTree → Prop
  | plain ps text => (∀ p ∈ ps, p.WellFormed isSeparator) ∧
      (∀ b ∈ (ps.flatMap Piece.yield).head?, b ≠ space ∧ b ≠ quote) ∧
      bytes text = (significant ps).map Piece.byte
  | quoted ps text _ => (∀ p ∈ ps, p.WellFormed (· == quote)) ∧ bytes text = ps.map Piece.byte

end ValueTree

/-- A type ends before `=` and before separators, does not start with a space and is not all white
space. -/
structure IsType (type : String) : Prop where
  run : ∀ b ∈ bytes type, b ≠ equals ∧ isSeparator b = false
  head : ∀ b ∈ (bytes type).head?, b ≠ space
  nonempty : trim type ≠ ""

/-- A pair: its type and value, and the numbers of spaces before them. -/
structure PairTree where
  before : Nat
  type : String
  between : Nat
  value : ValueTree
  deriving DecidableEq, Repr

namespace PairTree

def yield (p : PairTree) : List UInt8 :=
  List.replicate p.before space ++ bytes p.type ++
    equals :: (List.replicate p.between space ++ p.value.yield)

/-- The pair that is meant. White space around the type does not count. -/
def pair (p : PairTree) : Pair := ⟨trim p.type, p.value.text⟩

structure WellFormed (p : PairTree) : Prop where
  type : IsType p.type
  value : p.value.WellFormed

end PairTree

/-- A relative name: pairs with a plus between them. -/
inductive NameTree
  | one (p : PairTree)
  | more (p : PairTree) (rest : NameTree)
  deriving DecidableEq, Repr

namespace NameTree

def yield : NameTree → List UInt8
  | one p => p.yield
  | more p rest => p.yield ++ plus :: rest.yield

/-- The relative name that is meant. -/
def name : NameTree → RelativeName
  | one p => [p.pair]
  | more p rest => p.pair :: rest.name

def WellFormed : NameTree → Prop
  | one p => p.WellFormed
  | more p rest => p.WellFormed ∧ rest.WellFormed

end NameTree

/-- What stands between relative names. -/
inductive Separator
  | comma
  | semicolon
  deriving DecidableEq, Repr

def Separator.byte : Separator → UInt8
  | comma => 0x2c
  | semicolon => 0x3b

/-- Relative names with separators between them. -/
inductive Tree
  | one (n : NameTree)
  | more (n : NameTree) (s : Separator) (rest : Tree)
  deriving DecidableEq, Repr

namespace Tree

def yield : Tree → List UInt8
  | one n => n.yield
  | more n s rest => n.yield ++ s.byte :: rest.yield

/-- The relative names that are meant. -/
def names : Tree → List RelativeName
  | one n => [n.name]
  | more n _ rest => n.name :: rest.names

def WellFormed : Tree → Prop
  | one n => n.WellFormed
  | more n _ rest => n.WellFormed ∧ rest.WellFormed

end Tree

/-- A derivation of a text: a well-formed tree that yields it. -/
@[ext]
structure Derivation (s : String) where
  tree : Tree
  wellFormed : tree.WellFormed
  yields : tree.yield = bytes s

/-! ### Runs that stop -/

/-- Nothing is left, or what is left starts with a byte that stops a run. -/
def Stopped (stops : UInt8 → Bool) (bs : List UInt8) : Prop := ∀ b ∈ bs.head?, stops b = true

variable {stops : UInt8 → Bool} {ps qs : List Piece} {bs cs : List UInt8}

/-- What a piece starts with does not stop its run. -/
theorem Piece.not_stopped {p : Piece} (hp : p.WellFormed stops) (hb : stops backslash = false) :
    ¬ Stopped stops (p.yield ++ bs) := by
  intro h
  cases p with
  | raw b => simpa [hp.1] using h b rfl
  | escaped b | hex high low => simpa [hb] using h backslash rfl

/-- A piece ends where it ends, whatever follows. -/
theorem Piece.yield_append_inj {p q : Piece} (hp : p.WellFormed stops) (hq : q.WellFormed stops)
    (h : p.yield ++ bs = q.yield ++ cs) : p = q ∧ bs = cs := by
  cases p <;> cases q <;> simp_all [Piece.yield, Piece.WellFormed]

/-- A run of pieces ends where it is stopped. -/
theorem pieces_inj (hb : stops backslash = false) (hps : ∀ p ∈ ps, p.WellFormed stops)
    (hqs : ∀ p ∈ qs, p.WellFormed stops) (hbs : Stopped stops bs) (hcs : Stopped stops cs)
    (h : ps.flatMap Piece.yield ++ bs = qs.flatMap Piece.yield ++ cs) : ps = qs ∧ bs = cs := by
  induction ps generalizing qs with
  | nil =>
    cases qs with
    | nil => exact ⟨rfl, h⟩
    | cons q qs =>
      rw [List.flatMap_nil, List.nil_append, List.flatMap_cons, List.append_assoc] at h
      exact absurd (h ▸ hbs) (q.not_stopped (hqs q List.mem_cons_self) hb)
  | cons p ps ih =>
    cases qs with
    | nil =>
      rw [List.flatMap_nil, List.nil_append, List.flatMap_cons, List.append_assoc] at h
      exact absurd (h ▸ hcs) (p.not_stopped (hps p List.mem_cons_self) hb)
    | cons q qs =>
      simp only [List.flatMap_cons, List.append_assoc] at h
      obtain ⟨rfl, hrest⟩ := Piece.yield_append_inj (hps p List.mem_cons_self)
        (hqs q List.mem_cons_self) h
      obtain ⟨rfl, rfl⟩ := ih (fun p hp => hps p (List.mem_cons_of_mem _ hp))
        (fun q hq => hqs q (List.mem_cons_of_mem _ hq)) hrest
      exact ⟨rfl, rfl⟩

/-- Spaces end where something else starts. -/
theorem replicate_space_inj {n m : Nat} (hbs : ∀ b ∈ bs.head?, b ≠ space)
    (hcs : ∀ b ∈ cs.head?, b ≠ space)
    (h : List.replicate n space ++ bs = List.replicate m space ++ cs) : n = m ∧ bs = cs := by
  induction n generalizing m with
  | zero =>
    cases m with
    | zero => exact ⟨rfl, h⟩
    | succ m =>
      rw [List.replicate_zero, List.nil_append] at h
      exact absurd rfl (hbs space (by rw [h]; rfl))
  | succ n ih =>
    cases m with
    | zero =>
      rw [List.replicate_zero, List.nil_append] at h
      exact absurd rfl (hcs space (by rw [← h]; rfl))
    | succ m =>
      simp only [List.replicate_succ, List.cons_append, List.cons.injEq, true_and] at h
      obtain ⟨rfl, rfl⟩ := ih h
      exact ⟨rfl, rfl⟩

/-! ### One derivation at most -/

theorem stopped_nil : Stopped stops [] := fun _ h => nomatch h

theorem stopped_cons {b : UInt8} (h : stops b = true) (bs : List UInt8) :
    Stopped stops (b :: bs) := by
  rintro _ ⟨⟩
  exact h

theorem Separator.isSeparator_byte (s : Separator) : isSeparator s.byte = true := by
  cases s <;> rfl

theorem Separator.byte_ne_plus (s : Separator) : s.byte ≠ plus := by
  cases s <;> decide

theorem Separator.byte_inj {s t : Separator} (h : s.byte = t.byte) : s = t := by
  cases s <;> cases t <;> simp_all [Separator.byte]

/-- What stands behind a value is no space. -/
theorem ne_space_of_stopped (h : Stopped isSeparator bs) : ∀ b ∈ bs.head?, b ≠ space := by
  rintro b hb rfl
  exact absurd (h space hb) (by decide)

/-- What two runs start with, one behind the other. -/
theorem head_append {P : UInt8 → Prop} (hbs : ∀ b ∈ bs.head?, P b) (hcs : ∀ b ∈ cs.head?, P b) :
    ∀ b ∈ (bs ++ cs).head?, P b := by
  cases bs with
  | nil => exact hcs
  | cons a bs => exact hbs

/-- Where the spaces before a value end. -/
theorem ValueTree.head_ne_space {v : ValueTree} (hv : v.WellFormed) (h : Stopped isSeparator bs) :
    ∀ b ∈ (v.yield ++ bs).head?, b ≠ space := by
  cases v with
  | plain ps text =>
    exact head_append (fun b hb => (hv.2.1 b hb).1) (ne_space_of_stopped h)
  | quoted ps text after =>
    rintro b ⟨⟩
    decide

/-- A plain value does not start like a quoted one. -/
theorem plain_ne_quoted {text : String} (hv : (ValueTree.plain ps text).WellFormed)
    (h : Stopped isSeparator bs) : ps.flatMap Piece.yield ++ bs ≠ quote :: cs := by
  intro heq
  cases hps : ps.flatMap Piece.yield with
  | nil =>
    rw [hps, List.nil_append] at heq
    exact absurd (h quote (heq ▸ rfl)) (by decide)
  | cons a as =>
    rw [hps, List.cons_append, List.cons.injEq] at heq
    exact (hv.2.1 a (hps ▸ rfl)).2 heq.1

theorem ValueTree.yield_append_inj {v w : ValueTree} (hv : v.WellFormed) (hw : w.WellFormed)
    (hbs : Stopped isSeparator bs) (hcs : Stopped isSeparator cs)
    (h : v.yield ++ bs = w.yield ++ cs) : v = w ∧ bs = cs := by
  cases v with
  | plain ps text =>
    cases w with
    | plain qs text' =>
      obtain ⟨rfl, rfl⟩ := pieces_inj (by decide) hv.1 hw.1 hbs hcs h
      have htext : text = text' := bytes_inj.1 (hv.2.2.trans hw.2.2.symm)
      exact ⟨by rw [htext], rfl⟩
    | quoted qs text' after =>
      simp only [ValueTree.yield, List.cons_append] at h
      exact absurd h (plain_ne_quoted hv hbs)
  | quoted ps text after =>
    cases w with
    | plain qs text' =>
      simp only [ValueTree.yield, List.cons_append] at h
      exact absurd h.symm (plain_ne_quoted hw hcs)
    | quoted qs text' after' =>
      simp only [ValueTree.yield, List.cons_append, List.append_assoc, List.cons.injEq,
        true_and] at h
      obtain ⟨rfl, hrest⟩ := pieces_inj (by decide) hv.1 hw.1 (stopped_cons (by decide) _)
        (stopped_cons (by decide) _) h
      rw [List.cons.injEq] at hrest
      obtain ⟨rfl, rfl⟩ := replicate_space_inj (ne_space_of_stopped hbs)
        (ne_space_of_stopped hcs) hrest.2
      have htext : text = text' := bytes_inj.1 (hv.2.trans hw.2.symm)
      exact ⟨by rw [htext], rfl⟩

/-- Where the spaces before a type end. -/
theorem IsType.head_ne_space {type : String} (h : IsType type) (bs : List UInt8) :
    ∀ b ∈ (bytes type ++ equals :: bs).head?, b ≠ space := by
  refine head_append h.head ?_
  rintro b ⟨⟩
  decide

theorem IsType.equals_notMem {type : String} (h : IsType type) : equals ∉ bytes type :=
  fun hmem => (h.run equals hmem).1 rfl

/-- Two lists are cut at the first place where something stands. -/
theorem append_cons_inj {α : Type} {a : α} {xs ys zs ws : List α} (hx : a ∉ xs) (hy : a ∉ ys)
    (h : xs ++ a :: zs = ys ++ a :: ws) : xs = ys ∧ zs = ws := by
  induction xs generalizing ys with
  | nil =>
    cases ys with
    | nil => exact ⟨rfl, (List.cons.inj h).2⟩
    | cons y ys => exact absurd (List.cons.inj h).1 (List.ne_of_not_mem_cons hy)
  | cons x xs ih =>
    cases ys with
    | nil => exact absurd (List.cons.inj h).1.symm (List.ne_of_not_mem_cons hx)
    | cons y ys =>
      obtain ⟨rfl, hrest⟩ := List.cons.inj h
      obtain ⟨rfl, rfl⟩ := ih (List.not_mem_of_not_mem_cons hx)
        (List.not_mem_of_not_mem_cons hy) hrest
      exact ⟨rfl, rfl⟩

theorem PairTree.yield_append_inj {p q : PairTree} (hp : p.WellFormed) (hq : q.WellFormed)
    (hbs : Stopped isSeparator bs) (hcs : Stopped isSeparator cs)
    (h : p.yield ++ bs = q.yield ++ cs) : p = q ∧ bs = cs := by
  simp only [PairTree.yield, List.append_assoc, List.cons_append] at h
  obtain ⟨hbefore, h⟩ := replicate_space_inj (hp.type.head_ne_space _) (hq.type.head_ne_space _) h
  obtain ⟨htype, h⟩ := append_cons_inj hp.type.equals_notMem hq.type.equals_notMem h
  obtain ⟨hbetween, h⟩ := replicate_space_inj (ValueTree.head_ne_space hp.value hbs)
    (ValueTree.head_ne_space hq.value hcs) h
  obtain ⟨hvalue, rfl⟩ := ValueTree.yield_append_inj hp.value hq.value hbs hcs h
  refine ⟨?_, rfl⟩
  cases p
  cases q
  simp only [PairTree.mk.injEq]
  exact ⟨hbefore, bytes_inj.1 htype, hbetween, hvalue⟩

/-- What stands behind a relative name: nothing, or a separator other than a plus. -/
def endsName (b : UInt8) : Bool := isSeparator b && b != plus

theorem Stopped.isSeparator (h : Stopped endsName bs) : Stopped isSeparator bs := by
  intro b hb
  have := h b hb
  simp only [endsName, Bool.and_eq_true] at this
  exact this.1

theorem not_stopped_plus : ¬ Stopped endsName (plus :: bs) := by
  intro h
  exact absurd (h plus rfl) (by decide)

theorem NameTree.yield_append_inj {n m : NameTree} (hn : n.WellFormed) (hm : m.WellFormed)
    (hbs : Stopped endsName bs) (hcs : Stopped endsName cs)
    (h : n.yield ++ bs = m.yield ++ cs) : n = m ∧ bs = cs := by
  have plus_stops {ds : List UInt8} : Stopped DistinguishedName.isSeparator (plus :: ds) :=
    stopped_cons (by decide) ds
  induction n generalizing m with
  | one p =>
    cases m with
    | one q =>
      obtain ⟨rfl, rfl⟩ := PairTree.yield_append_inj hn hm hbs.isSeparator hcs.isSeparator h
      exact ⟨rfl, rfl⟩
    | more q rest =>
      simp only [NameTree.yield, List.append_assoc, List.cons_append] at h
      obtain ⟨-, rfl⟩ := PairTree.yield_append_inj hn hm.1 hbs.isSeparator plus_stops h
      exact absurd hbs not_stopped_plus
  | more p rest ih =>
    cases m with
    | one q =>
      simp only [NameTree.yield, List.append_assoc, List.cons_append] at h
      obtain ⟨-, rfl⟩ := PairTree.yield_append_inj hn.1 hm plus_stops hcs.isSeparator h
      exact absurd hcs not_stopped_plus
    | more q rest' =>
      simp only [NameTree.yield, List.append_assoc, List.cons_append] at h
      obtain ⟨rfl, hrest⟩ := PairTree.yield_append_inj hn.1 hm.1 plus_stops plus_stops h
      obtain ⟨rfl, rfl⟩ := ih hn.2 hm.2 (List.cons.inj hrest).2
      exact ⟨rfl, rfl⟩

theorem Separator.stopped (s : Separator) : Stopped endsName (s.byte :: bs) :=
  stopped_cons (by cases s <;> rfl) bs

theorem Tree.yield_inj {t u : Tree} (ht : t.WellFormed) (hu : u.WellFormed)
    (h : t.yield = u.yield) : t = u := by
  induction t generalizing u with
  | one n =>
    cases u with
    | one m =>
      obtain ⟨rfl, -⟩ := NameTree.yield_append_inj ht hu stopped_nil stopped_nil
        (congrArg (· ++ []) h)
      rfl
    | more m s rest =>
      obtain ⟨-, hnil⟩ := NameTree.yield_append_inj ht hu.1 stopped_nil s.stopped
        ((List.append_nil _).trans h)
      exact absurd hnil (List.cons_ne_nil _ _).symm
  | more n s rest ih =>
    cases u with
    | one m =>
      obtain ⟨-, hnil⟩ := NameTree.yield_append_inj ht.1 hu s.stopped stopped_nil
        (h.trans (List.append_nil _).symm)
      exact absurd hnil (List.cons_ne_nil _ _)
    | more m s' rest' =>
      obtain ⟨rfl, hrest⟩ := NameTree.yield_append_inj ht.1 hu.1 s.stopped s'.stopped h
      obtain ⟨hs, hrest⟩ := List.cons.inj hrest
      rw [Separator.byte_inj hs, ih ht.2 hu.2 hrest]

/-- A text has one derivation at most. -/
theorem Derivation.unique {s : String} (d e : Derivation s) : d = e :=
  Derivation.ext (Tree.yield_inj d.wellFormed e.wellFormed (d.yields.trans e.yields.symm))

end RoleLookup.DistinguishedName
