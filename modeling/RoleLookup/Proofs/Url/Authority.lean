import Mathlib.Data.List.Basic
import Mathlib.Tactic.Conv
import RoleLookup.Proofs.Results
import RoleLookup.Proofs.Url.Host

/-!
# Addresses of a host and a port

What is read of a host text and a port number with a colon between them.

* `exists_host`, the host of an authority stands behind a login and in front of the colon;
* `parseAuthority_joined`, without a login and a backslash a host and a port are read as they are;
* `parse_undivided`, `parse_divided`, a text is an authority only, unless one of the characters
  that end an authority stands in it: then there is a path, a query or a fragment.
-/

namespace RoleLookup.Url

open Text

variable {more : Bool} {c : Char} {s scheme : String} {cs ds before after left : List Char}
  {a : Authority} {port : Option Nat} {h : Host} {u : Url}

/-! ### Cuts -/

theorem cutAt_of_forall {p : Char → Bool} (h : ∀ c ∈ cs, p c = false) : cutAt p cs = (cs, []) := by
  rw [cutAt, List.takeWhile_eq_self_iff.2 fun c hc => by simp [h c hc],
    List.dropWhile_eq_nil_iff.2 fun c hc => by simp [h c hc]]

theorem cutAt_of_mem {p : Char → Bool} (hc : c ∈ cs) (hp : p c = true) :
    ∃ before d behind, cutAt p cs = (before, d :: behind) := by
  have hne : cs.dropWhile (fun d => !p d) ≠ [] := by
    rw [Ne, List.dropWhile_eq_nil_iff]
    intro h
    simpa [hp] using h c hc
  obtain ⟨d, behind, h⟩ := List.exists_cons_of_ne_nil hne
  exact ⟨_, d, behind, by rw [cutAt, h]⟩

theorem cutLogin_eq_none : cutLogin cs = none ↔ '@' ∉ cs := by simp [cutLogin]

/-- A login ends at an `@`. -/
theorem cutLogin_eq_some (h : cutLogin cs = some (before, after)) :
    cs = before ++ '@' :: after := by
  simp only [cutLogin] at h
  split at h
  · rename_i hat
    have hmem : '@' ∈ cs.reverse := List.mem_reverse.2 (by simpa using hat)
    obtain ⟨hosts, d, login, hcut⟩ := cutAt_of_mem (p := (· == '@')) hmem rfl
    obtain ⟨hhosts, hlogin⟩ := Prod.mk.inj hcut
    have hd : d = '@' := by
      have := List.head?_dropWhile_not (fun d => !(d == '@')) cs.reverse
      rw [hlogin] at this
      simpa using this
    have hcs : cs = login.reverse ++ '@' :: hosts.reverse := by
      have := List.takeWhile_append_dropWhile (p := fun d => !(d == '@')) (l := cs.reverse)
      rw [hhosts, hlogin, hd] at this
      rw [← List.reverse_inj, ← this]
      simp
    have hhosts' : cs.reverse.takeWhile (· != '@') = hosts := hhosts
    rw [hhosts'] at h
    obtain ⟨rfl, rfl⟩ := Prod.mk.inj (Option.some.inj h)
    have hlength : cs.length - hosts.reverse.length - 1 = login.reverse.length := by
      simp [hcs]
      omega
    rw [hlength]
    conv_rhs => rw [hcs, List.take_left]
    exact hcs
  · cases h

/-! ### Ports -/

theorem parsePort_digits (h : ∀ c ∈ ds, c.isDigit = true) : parsePort ds =
    if 65535 < decimal ds then .error .invalidPort
    else .ok (if ds.isEmpty then none else some (decimal ds), []) := by
  simp only [parsePort, List.takeWhile_eq_self_iff.2 h, List.drop_length]

/-- Behind the digits of a port there is nothing or a backslash. -/
theorem parsePort_eq_ok (h : parsePort cs = .ok (port, left)) (hcs : '\\' ∉ cs) :
    ∀ c ∈ cs, c.isDigit = true := by
  simp only [parsePort] at h
  split at h
  · cases h
  · split at h
    · rename_i hrest
      refine forall_of_isPrefix (List.takeWhile_prefix _)
        (fun c hc => List.mem_takeWhile_imp hc) ?_
      rw [hrest]
      exact fun _ hc => absurd hc List.not_mem_nil
    · rename_i c rest hrest
      split at h
      · rename_i hc
        have hmem : c ∈ cs := List.mem_of_mem_drop (hrest ▸ List.mem_cons_self)
        rw [beq_iff_eq.1 hc] at hmem
        exact absurd hmem hcs
      · cases h

/-! ### Authorities -/

/-- Without a login, a text is a host and a port; a port is not enough. -/
theorem parseAuthority_eq_ok (h : '@' ∉ cs) : parseAuthority more cs = .ok (a, left) ↔
    a.user = "" ∧ a.password = "" ∧ parseHost (cutHost false cs).1 = .ok a.host ∧
      ((cutHost false cs).1 = [] → (cutHost false cs).2 = []) ∧
      parsePort ((cutHost false cs).2.drop 1) = .ok (a.port, left) := by
  have hlogin : parseLogin [] = ("", "") := rfl
  have hnobody : ("".isEmpty && "".isEmpty) = true := rfl
  have hnone : (none == some ([] : List Char)) = false := rfl
  obtain ⟨user, password, host, port⟩ := a
  unfold parseAuthority
  rw [cutLogin_eq_none.2 h]
  simp only [bind, Except.bind, pure, Except.pure, Option.getD_none, hlogin, hnobody, hnone,
    Bool.not_true, Bool.and_false, Bool.false_and, Bool.false_eq_true, if_false]
  cases parseHost (cutHost false cs).1 with
  | error e => simp
  | ok h =>
    by_cases hempty : (cutHost false cs).1 = [] → (cutHost false cs).2 = []
    · have hcond : ((cutHost false cs).1.isEmpty && !(cutHost false cs).2.isEmpty) = false := by
        simpa using hempty
      cases parsePort ((cutHost false cs).2.drop 1) with
      | error e => simp [hcond]
      | ok r =>
        obtain ⟨p, rest⟩ := r
        simp only [hcond, Bool.false_eq_true, if_false]
        constructor
        · rintro ⟨⟩
          exact ⟨rfl, rfl, rfl, hempty, rfl⟩
        · rintro ⟨rfl, rfl, ⟨⟩, -, ⟨⟩⟩
          rfl
    · have hcond : ((cutHost false cs).1.isEmpty && !(cutHost false cs).2.isEmpty) = true := by
        simpa using hempty
      simp [hcond, hempty]

/-- Behind a login, a text is a host and a port. -/
theorem of_parseAuthority (hcut : cutLogin cs = some (before, after))
    (h : parseAuthority more cs = .ok (a, left)) :
    parseHost (cutHost false after).1 = .ok a.host ∧
      ((cutHost false after).1 = [] → (cutHost false after).2 = []) ∧
      parsePort ((cutHost false after).2.drop 1) = .ok (a.port, left) := by
  unfold parseAuthority at h
  rw [hcut] at h
  simp only [bind, Except.bind, pure, Except.pure] at h
  split at h
  · cases h
  split at h
  · cases h
  rename_i hhost
  split at h
  · cases h
  rename_i hempty
  split at h
  · cases h
  rename_i hport
  split at h
  · cases h
  cases h
  refine ⟨hhost, fun hnil => ?_, hport⟩
  simpa [hnil] using hempty

/-! ### A host and a port -/

section Joined

/-- A character that does not stand in the second of two parts stands in the first. -/
theorem exists_of_append_eq {xs ys : List Char} (h : xs ++ ys = before ++ c :: after)
    (hc : c ∉ ys) : ∃ mid, xs = before ++ c :: mid ∧ after = mid ++ ys := by
  rcases List.append_eq_append_iff.1 h with ⟨mid, -, rfl⟩ | ⟨mid, rfl, hmid⟩
  · simp at hc
  · cases mid with
    | nil =>
      rw [List.nil_append] at hmid
      simp [← hmid] at hc
    | cons d mid =>
      obtain ⟨rfl, rfl⟩ := List.cons.inj hmid
      exact ⟨mid, rfl, rfl⟩

variable (digits : ∀ c ∈ ds, c.isDigit = true)

include digits

theorem not_mem_digits (hc : c.isDigit = false) : c ∉ ds := fun h => by
  rw [digits c h] at hc
  cases hc

/-- No host ends with a colon and a port. -/
theorem parseHost_joined_ne_ok : parseHost (cs ++ ':' :: ds) ≠ .ok h := fun hok => by
  rcases parseHost_eq_ok.1 hok with ⟨hallowed, -⟩ | ⟨address, pieces, heq, -⟩
  · exact absurd (hallowed ':' (by simp)) (by decide)
  · have hlast : (':' :: ds).getLast? = some ']' := by
      have := congrArg List.getLast? heq
      rwa [List.getLast?_append_cons, ← List.cons_append, List.getLast?_concat] at this
    rcases List.mem_cons.1 (List.mem_of_getLast? hlast) with hc | hc
    · cases hc
    · exact not_mem_digits digits (by decide) hc

/-- The host ends in front of a colon, which is that of the port or stands before it. -/
theorem exists_of_cutHost (hok : parseHost (cutHost false (cs ++ ':' :: ds)).1 = .ok h) :
    ∃ host rest, cs = host ++ rest ∧ (rest = [] ∨ ∃ port, rest = ':' :: port) ∧
      cutHost false (cs ++ ':' :: ds) = (host, rest ++ ':' :: ds) := by
  have hwhole := cutHost_append false (cs ++ ':' :: ds)
  rcases cutHost_rest false (cs ++ ':' :: ds) with hrest | ⟨port, hrest⟩
  · rw [hrest, List.append_nil] at hwhole
    rw [hwhole] at hok
    exact absurd hok (parseHost_joined_ne_ok digits)
  · refine ⟨(cutHost false (cs ++ ':' :: ds)).1, ?_⟩
    generalize hcut : cutHost false (cs ++ ':' :: ds) = r at hwhole hrest hok ⊢
    obtain ⟨host, behind⟩ := r
    dsimp only at hrest hwhole ⊢
    subst hrest
    have hparts : cs ++ [':'] ++ ds = host ++ ':' :: port := by simpa using hwhole.symm
    obtain ⟨mid, hcs, hport⟩ :=
      exists_of_append_eq hparts (not_mem_digits digits (by decide))
    -- The two colons are the same one, or the first stands in the text before the port.
    rcases List.eq_nil_or_concat mid with rfl | ⟨mid, d, rfl⟩
    · obtain ⟨rfl, -⟩ := List.append_inj' hcs rfl
      exact ⟨[], by simp, .inl rfl, by simpa using hport⟩
    · have hcs' : cs ++ [':'] = (host ++ ':' :: mid) ++ [d] := by simpa using hcs
      obtain ⟨rfl, hd⟩ := List.append_inj' hcs' rfl
      obtain ⟨rfl, -⟩ := List.cons.inj hd
      exact ⟨':' :: mid, rfl, .inr ⟨mid, rfl⟩, by simp [hport]⟩

/-- Where the host of a text stands in the text before the port. -/
theorem exists_host (hok : parseAuthority more (cs ++ ':' :: ds) = .ok (a, left)) :
    ∃ login host rest, cs = login ++ (host ++ rest) ∧
      (login = [] ∨ ∃ before, login = before ++ ['@']) ∧
      (rest = [] ∨ ∃ port, rest = ':' :: port) ∧ parseHost host = .ok a.host := by
  cases hcut : cutLogin (cs ++ ':' :: ds) with
  | none =>
    obtain ⟨-, -, hhost, -⟩ := (parseAuthority_eq_ok (cutLogin_eq_none.1 hcut)).1 hok
    obtain ⟨host, rest, rfl, hrest, hmid⟩ := exists_of_cutHost digits hhost
    rw [hmid] at hhost
    exact ⟨[], host, rest, rfl, .inl rfl, hrest, hhost⟩
  | some r =>
    obtain ⟨before, after⟩ := r
    obtain ⟨mid, rfl, rfl⟩ := exists_of_append_eq (cutLogin_eq_some hcut)
      (by simpa using not_mem_digits digits (c := '@') (by decide))
    obtain ⟨hhost, -, -⟩ := of_parseAuthority hcut hok
    obtain ⟨host, rest, rfl, hrest, hmid⟩ := exists_of_cutHost digits hhost
    rw [hmid] at hhost
    exact ⟨before ++ ['@'], host, rest, by simp, .inr ⟨before, rfl⟩, hrest, hhost⟩

/-- Without a login and a backslash, the host and the port are the whole text. -/
theorem parseAuthority_joined (more : Bool) (a : Authority) (left : List Char) (hat : '@' ∉ cs)
    (hback : '\\' ∉ cs) (hne : ds ≠ []) :
    parseAuthority more (cs ++ ':' :: ds) = .ok (a, left) ↔
      cs ≠ [] ∧ decimal ds ≤ 65535 ∧ left = [] ∧
        ∃ h, parseHost cs = .ok h ∧ a = ⟨"", "", h, some (decimal ds)⟩ := by
  have hlogin : '@' ∉ cs ++ ':' :: ds := by
    simpa using ⟨hat, not_mem_digits digits (c := '@') (by decide)⟩
  have hport : parsePort ds = .ok (a.port, left) ↔
      decimal ds ≤ 65535 ∧ a.port = some (decimal ds) ∧ left = [] := by
    rw [parsePort_digits digits]
    split
    · simpa using fun h _ => absurd h (by omega)
    · rename_i hle
      simp only [List.isEmpty_eq_false_iff.2 hne, Bool.false_eq_true, if_false, Except.ok.injEq,
        Prod.mk.injEq]
      exact ⟨fun h => ⟨by omega, h.1.symm, h.2.symm⟩, fun h => ⟨h.2.1.symm, h.2.2.symm⟩⟩
  rw [parseAuthority_eq_ok hlogin]
  constructor
  · rintro ⟨huser, hpassword, hhost, hempty, hbehind⟩
    obtain ⟨host, rest, rfl, hrest, hcut⟩ := exists_of_cutHost digits hhost
    rw [hcut] at hhost hempty hbehind
    -- a second port would have a colon among its digits
    have hnil : rest = [] := by
      rcases hrest with rfl | ⟨port, rfl⟩
      · rfl
      · have hall := parsePort_eq_ok hbehind (by simpa using ⟨fun h => hback (by simp [h]),
          not_mem_digits digits (c := '\\') (by decide)⟩)
        exact absurd (hall ':' (by simp)) (by decide)
    subst hnil
    obtain ⟨hle, hp, rfl⟩ := hport.1 hbehind
    rw [List.append_nil]
    refine ⟨fun hnil => ?_, hle, rfl, a.host, hhost, ?_⟩
    · simpa using hempty hnil
    · obtain ⟨user, password, host, port⟩ := a
      subst huser hpassword hp
      rfl
  · rintro ⟨hcs, hle, rfl, h, hok, rfl⟩
    rw [cutHost_of_parseHost hok]
    exact ⟨rfl, rfl, hok, fun hnil => absurd hnil hcs, hport.2 ⟨hle, rfl, rfl⟩⟩

end Joined

/-! ### Paths -/

theorem step_ne_nil (done : List (List Char)) (s : List Char) : step done true s ≠ [] := by
  unfold step
  split
  · simp
  · split <;> simp

theorem segments_ne_nil (cs : List Char) : segments cs ≠ [] := by
  fun_induction segments cs <;> simp_all

theorem resolve_ne_nil {ss : List (List Char)} (h : ss ≠ []) (done : List (List Char)) :
    resolve done ss ≠ [] := by
  fun_induction resolve done ss with
  | case1 => exact absurd rfl h
  | case2 done s => exact step_ne_nil done s
  | case3 _ _ _ _ ih => exact ih (List.cons_ne_nil _ _)

/-- Behind an authority, a text is a path. -/
theorem normalPath_ne_empty (h : cs ≠ []) : normalPath cs ≠ "" := by
  obtain ⟨c, rest, rfl⟩ := List.exists_cons_of_ne_nil h
  rw [normalPath]
  generalize hss : resolve [] (segments (if c == '/' then rest else c :: rest)) = ss
  have hne : ss.reverse ≠ [] := by
    rw [Ne, List.reverse_eq_nil_iff, ← hss]
    exact resolve_ne_nil (segments_ne_nil _) []
  obtain ⟨t, ts, hts⟩ := List.exists_cons_of_ne_nil hne
  rw [hts]
  intro heq
  have := congrArg String.toList heq
  simp [String.join_cons] at this

/-! ### Addresses -/

/-- The text before a mark, and the text behind it with some characters escaped. -/
def cutOff (mark : Char) (which : Char → Bool) (cs : List Char) : List Char × Option String :=
  match cutAt (· == mark) cs with
  | (rest, []) => (rest, none)
  | (rest, _ :: behind) => (rest, some (escape which behind))

/-- An address whose query and fragment are known. -/
def parseFront (scheme : String) (query fragment : Option String) (cs : List Char) :
    Except Error Url :=
  match cs with
  | '/' :: '/' :: rest => do
    let (before, behind) := cutAt endsAuthority rest
    let (a, left) ← parseAuthority (!behind.isEmpty || query.isSome || fragment.isSome) before
    return ⟨scheme, some a, normalPath (left ++ behind), query, fragment⟩
  | '/' :: _ => return ⟨scheme, none, normalPath cs, query, fragment⟩
  | _ => return ⟨scheme, none, escape isControl cs, query, fragment⟩

/-- Fragment and query are cut off before the rest is read. -/
theorem parse_eq (hs : scheme? (significant s) = some (scheme, cs)) : parse s =
    parseFront scheme (cutOff '?' escapedInQuery (cutOff '#' escapedInFragment cs).1).2
      (cutOff '#' escapedInFragment cs).2
      (cutOff '?' escapedInQuery (cutOff '#' escapedInFragment cs).1).1 := by
  simp only [parse, hs, pure_bind]
  rfl

variable {mark : Char} {which : Char → Bool} {query fragment : Option String}

theorem cutOff_of_notMem (mark : Char) (h : mark ∉ cs) : cutOff mark which cs = (cs, none) := by
  have hcut : cutAt (· == mark) cs = (cs, []) :=
    cutAt_of_forall fun c hc => beq_eq_false_iff_ne.2 fun heq => h (heq ▸ hc)
  rw [cutOff, hcut]

theorem cutOff_of_mem (h : mark ∈ cs) : (cutOff mark which cs).2 ≠ none := by
  obtain ⟨before, d, behind, hcut⟩ := cutAt_of_mem (p := (· == mark)) h (beq_self_eq_true mark)
  rw [cutOff, hcut]
  exact Option.some_ne_none _

theorem parseFront_eq_ok (h : parseFront scheme query fragment cs = .ok u) :
    u.query = query ∧ u.fragment = fragment := by
  unfold parseFront at h
  split at h
  · obtain ⟨r, -, hr⟩ := bind_eq_ok.1 h
    cases hr
    exact ⟨rfl, rfl⟩
  · cases h
    exact ⟨rfl, rfl⟩
  · cases h
    exact ⟨rfl, rfl⟩

section Parse

variable (hs : scheme? (significant s) = some (scheme, '/' :: '/' :: cs))

include hs

/-- A text in which nothing ends the authority is that of an authority. -/
theorem parse_undivided (h : ∀ c ∈ cs, endsAuthority c = false) : parse s =
    (parseAuthority false cs).map fun r => ⟨scheme, some r.1, normalPath r.2, none, none⟩ := by
  have hall (mark : Char) (hmark : endsAuthority mark = true) (hne : mark ≠ '/') :
      mark ∉ '/' :: '/' :: cs := by
    simp only [List.mem_cons, hne, false_or]
    intro hmem
    rw [h mark hmem] at hmark
    cases hmark
  rw [parse_eq hs, cutOff_of_notMem '#' (hall '#' rfl (by decide)),
    cutOff_of_notMem '?' (hall '?' rfl (by decide)), parseFront, cutAt_of_forall h]
  simp only [List.append_nil]
  rfl

/-- Where something ends the authority, there is a path, a query or a fragment. -/
theorem parse_divided (hc : c ∈ cs) (hends : endsAuthority c = true) (h : parse s = .ok u) :
    u.path ≠ "" ∨ u.query ≠ none ∨ u.fragment ≠ none := by
  rw [parse_eq hs] at h
  by_cases hfragment : '#' ∈ cs
  · rw [(parseFront_eq_ok h).2]
    exact .inr (.inr (cutOff_of_mem (by simp [hfragment])))
  rw [cutOff_of_notMem '#' (by simpa using hfragment)] at h
  by_cases hquery : '?' ∈ cs
  · rw [(parseFront_eq_ok h).1]
    exact .inr (.inl (cutOff_of_mem (by simp [hquery])))
  rw [cutOff_of_notMem '?' (by simpa using hquery), parseFront] at h
  -- Neither of these, so it is a slash, with a path from there on.
  obtain ⟨before, d, behind, hcut⟩ := cutAt_of_mem hc hends
  rw [hcut] at h
  obtain ⟨r, -, hr⟩ := bind_eq_ok.1 h
  cases hr
  exact .inl (normalPath_ne_empty (by simp))

end Parse

end RoleLookup.Url
