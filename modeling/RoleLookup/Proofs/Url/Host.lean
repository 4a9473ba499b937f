import Mathlib.Data.List.TakeWhile
import RoleLookup.Url.Basic

/-!
# Hosts in an address

* `Ipv6.isLetter_of_parse?`, an IPv6 address is made of hexadecimal digits, colons and points;
* `cutHost_append`, `cutHost_rest`, a text is cut at a colon and nothing of it is lost, and
  `cutHost_name`, `cutHost_bracketed`, where that colon stands;
* `parseHost_eq_ok`, the texts that name a host.
-/

namespace RoleLookup.Url

open Text

variable {c : Char} {cs ds rest : List Char}

/-- What holds of a prefix and of what is left behind it holds of all. -/
theorem forall_of_isPrefix {P : Char → Prop} (h : ds <+: cs) (hds : ∀ c ∈ ds, P c)
    (hrest : ∀ c ∈ cs.drop ds.length, P c) : ∀ c ∈ cs, P c := by
  obtain ⟨rest, rfl⟩ := h
  rw [List.drop_left] at hrest
  exact List.forall_mem_append.2 ⟨hds, hrest⟩

/-! ### IPv6 addresses -/

namespace Ipv6

/-- Whether a character can stand in an IPv6 address. -/
def isLetter (c : Char) : Bool := isHexDigit c || c == ':' || c == '.'

variable {p q : Pieces} {n fuel : Nat} {ns : List Nat}

theorem isLetter_of_isHexDigit (h : isHexDigit c = true) : isLetter c = true := by
  simp [isLetter, h]

theorem isLetter_of_isDigit (h : c.isDigit = true) : isLetter c = true := by
  have hrange : '0' ≤ c ∧ c ≤ '9' := by simpa [Char.isDigit, Char.le_def] using h
  exact isLetter_of_isHexDigit (by simp [isHexDigit, hexDigit?, hrange])

theorem isLetter_of_byte? (h : byte? cs = some (n, rest))
    (hrest : ∀ c ∈ rest, isLetter c = true) : ∀ c ∈ cs, isLetter c = true := by
  simp only [byte?] at h
  split at h
  · cases h
  · obtain ⟨-, rfl⟩ := Prod.mk.inj (Option.some.inj h)
    exact forall_of_isPrefix (List.takeWhile_prefix _)
      (fun c hc => isLetter_of_isDigit (List.mem_takeWhile_imp hc)) hrest

theorem isLetter_of_dot? (h : (dotted?.dot? cs).bind byte? = some (n, rest))
    (hrest : ∀ c ∈ rest, isLetter c = true) : ∀ c ∈ cs, isLetter c = true := by
  obtain ⟨behind, hdot, hbyte⟩ := Option.bind_eq_some_iff.1 h
  unfold dotted?.dot? at hdot
  split at hdot
  · cases hdot
    exact List.forall_mem_cons.2 ⟨rfl, isLetter_of_byte? hbyte hrest⟩
  · cases hdot

theorem isLetter_of_dotted? (h : dotted? cs = some ns) : ∀ c ∈ cs, isLetter c = true := by
  obtain ⟨⟨a, r₁⟩, h₁, h⟩ := Option.bind_eq_some_iff.1 h
  obtain ⟨⟨b, r₂⟩, h₂, h⟩ := Option.bind_eq_some_iff.1 h
  obtain ⟨⟨c, r₃⟩, h₃, h⟩ := Option.bind_eq_some_iff.1 h
  obtain ⟨⟨d, r₄⟩, h₄, h⟩ := Option.bind_eq_some_iff.1 h
  have hend : r₄ = [] := by
    by_contra hne
    simp [hne] at h
  subst hend
  exact isLetter_of_byte? h₁ <| isLetter_of_dot? h₂ <| isLetter_of_dot? h₃ <|
    isLetter_of_dot? h₄ fun _ hc => absurd hc List.not_mem_nil

theorem isLetter_of_pieces? (h : pieces? fuel p cs = some q) : ∀ c ∈ cs, isLetter c = true := by
  -- the run of digits at the front, four at most
  have hrun (c : Char) (cs : List Char) : ((c :: cs).take 4).takeWhile isHexDigit <+: c :: cs :=
    (List.takeWhile_prefix _).trans (List.take_prefix 4 _)
  have hdigits (c : Char) (cs : List Char) :
      ∀ d ∈ ((c :: cs).take 4).takeWhile isHexDigit, isLetter d = true :=
    fun _ hd => isLetter_of_isHexDigit (List.mem_takeWhile_imp hd)
  fun_induction pieces? fuel p cs with
  | case1 => cases h
  | case2 => exact fun _ hc => absurd hc List.not_mem_nil
  | case3 => cases h
  | case4 => cases h
  | case5 fuel p d cs _ hd _ ih =>
    rw [beq_iff_eq.1 hd]
    exact List.forall_mem_cons.2 ⟨rfl, ih h⟩
  | case6 fuel p d cs _ _ ds hend =>
    refine forall_of_isPrefix (hrun d cs) (hdigits d cs) fun c hc => ?_
    rw [show List.drop _ (d :: cs) = [] from hend] at hc
    cases hc
  | case7 => cases h
  | case8 fuel p d cs =>
    obtain ⟨ns, hns, -⟩ := Option.map_eq_some_iff.1 h
    exact isLetter_of_dotted? hns
  | case9 => cases h
  | case10 fuel p d cs _ _ ds e rest hbehind _ he _ ih =>
    refine forall_of_isPrefix (hrun d cs) (hdigits d cs) ?_
    rw [show List.drop _ (d :: cs) = e :: rest from hbehind, beq_iff_eq.1 he]
    exact List.forall_mem_cons.2 ⟨rfl, ih h⟩
  | case11 => cases h

theorem isLetter_of_parse? (h : parse? cs = some ns) : ∀ c ∈ cs, isLetter c = true := by
  unfold parse? at h
  split at h
  · obtain ⟨p, hp, -⟩ := Option.bind_eq_some_iff.1 h
    exact List.forall_mem_cons.2 ⟨rfl, List.forall_mem_cons.2 ⟨rfl, isLetter_of_pieces? hp⟩⟩
  · cases h
  · obtain ⟨p, hp, -⟩ := Option.bind_eq_some_iff.1 h
    exact isLetter_of_pieces? hp
  · cases h

end Ipv6

/-! ### Where a host ends -/

theorem cutHost_append (bracketed : Bool) (cs : List Char) :
    (cutHost bracketed cs).1 ++ (cutHost bracketed cs).2 = cs := by
  fun_induction cutHost bracketed cs with
  | case1 => rfl
  | case2 => rfl
  | case3 _ _ _ _ _ ih => simpa using ih

/-- Behind a host there is nothing or a colon. -/
theorem cutHost_rest (bracketed : Bool) (cs : List Char) :
    (cutHost bracketed cs).2 = [] ∨ ∃ rest, (cutHost bracketed cs).2 = ':' :: rest := by
  fun_induction cutHost bracketed cs with
  | case1 => exact .inl rfl
  | case2 _ c cs h =>
    rw [Bool.and_eq_true, beq_iff_eq] at h
    exact .inr ⟨cs, by rw [h.1]⟩
  | case3 _ _ _ _ _ ih => exact ih

/-- A text without colons and brackets is a whole host. -/
theorem cutHost_name (h : ∀ c ∈ cs, c ≠ ':' ∧ c ≠ '[') (rest : List Char) :
    cutHost false (cs ++ ':' :: rest) = (cs, ':' :: rest) := by
  induction cs with
  | nil => rfl
  | cons c cs ih =>
    obtain ⟨⟨hcolon, hbracket⟩, hcs⟩ := List.forall_mem_cons.1 h
    have hoff : (c == '[') = false := beq_eq_false_iff_ne.2 hbracket
    simp [cutHost, hcolon, hoff, ih hcs]

/-- In brackets colons do not count. -/
theorem cutHost_bracketed (h : ∀ c ∈ cs, c ≠ ']') (rest : List Char) :
    cutHost true (cs ++ ']' :: ':' :: rest) = (cs ++ [']'], ':' :: rest) := by
  induction cs with
  | nil => rfl
  | cons c cs ih =>
    obtain ⟨hc, hcs⟩ := List.forall_mem_cons.1 h
    have hon : (c == '[' || c != ']') = true := by simp [hc]
    simp [cutHost, hon, ih hcs]

/-! ### What a host may be -/

variable {h : Host} {pieces : List Nat}

/-- A host is a name without forbidden characters or an IPv6 address in brackets. -/
theorem parseHost_eq_ok : parseHost cs = .ok h ↔
    (∀ c ∈ cs, forbiddenInHost c = false) ∧ h = .name (escape isControl cs) ∨
    ∃ address pieces, cs = '[' :: (address ++ [']']) ∧ Ipv6.parse? address = some pieces ∧
      h = .ipv6 pieces := by
  unfold parseHost
  split
  · rename_i rest
    have hfirst : ¬ ∀ c ∈ '[' :: rest, forbiddenInHost c = false :=
      fun h => absurd (h '[' List.mem_cons_self) (by decide)
    constructor
    · intro h
      split at h
      · rename_i hlast
        obtain ⟨address, rfl⟩ := List.getLast?_eq_some_iff.1 (beq_iff_eq.1 hlast)
        rw [List.dropLast_concat] at h
        split at h
        · rename_i pieces hpieces
          cases h
          exact .inr ⟨address, pieces, rfl, hpieces, rfl⟩
        · cases h
      · cases h
    · rintro (⟨h, -⟩ | ⟨address, pieces, hcs, hpieces, rfl⟩)
      · exact absurd h hfirst
      · rw [(List.cons.inj hcs).2]
        simp [hpieces]
  · rename_i hbracket
    constructor
    · intro h
      split at h
      · cases h
      · rename_i hallowed
        cases h
        exact .inl ⟨by simpa using hallowed, rfl⟩
    · rintro (⟨h, rfl⟩ | ⟨address, pieces, rfl, -⟩)
      · rw [if_neg (by simpa using h)]
      · exact absurd rfl (hbracket _)

/-- A whole host ends in front of the colon behind it. -/
theorem cutHost_of_parseHost (hok : parseHost cs = .ok h) (rest : List Char) :
    cutHost false (cs ++ ':' :: rest) = (cs, ':' :: rest) := by
  rcases parseHost_eq_ok.1 hok with ⟨hallowed, -⟩ | ⟨address, pieces, rfl, haddress, -⟩
  · refine cutHost_name (fun c hc => ⟨?_, ?_⟩) rest
    all_goals
      rintro rfl
      exact absurd (hallowed _ hc) (by decide)
  · have hclosed : ∀ c ∈ address, c ≠ ']' := by
      rintro c hc rfl
      exact absurd (Ipv6.isLetter_of_parse? haddress _ hc) (by decide)
    simp [cutHost, cutHost_bracketed hclosed rest]

end RoleLookup.Url
