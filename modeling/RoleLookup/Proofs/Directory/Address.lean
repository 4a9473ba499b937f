import RoleLookup.Directory.Settings
import RoleLookup.Proofs.Text.Numerals
import RoleLookup.Proofs.Url.Authority
import RoleLookup.Proofs.Url.Octets

/-!
# Where the address of a directory points

The address is put together from the host and the port of the settings as they are, and then read
as any other text.

* `Url.PointsAt`, an address names the host and the port of the settings and nothing else;
* `misleads`, the characters of a host that change what the text is read as;
* `url_eq_ok_iff`, what is read without such characters;
* `not_misleading_of_pointsAt`, with one of them nothing points where it should;
* `accepted_url_points_at_host`, which addresses are accepted, and which of those are right.
-/

namespace RoleLookup

open Text

/-! ### Meaning of an address -/

/-- A host that a text names, up to escapes. -/
def Url.Host.IsOf (text : String) : Url.Host → Prop
  | .name written => Url.octets written.toList = Url.octets text.toList
  | .ipv6 pieces => ∃ address : String,
      text = "[" ++ address ++ "]" ∧ Url.Ipv6.parse? address.toList = some pieces

/-- An address of the host and the port of the settings, and of nothing else. -/
structure Url.PointsAt (u : Url) (s : Directory.Settings) : Prop where
  scheme : u.scheme = if s.tls then "ldaps" else "ldap"
  authority : ∃ h : Url.Host, u.authority = some ⟨"", "", h, some s.port⟩ ∧ h.IsOf s.host
  path : u.path = ""
  query : u.query = none
  fragment : u.fragment = none

namespace Url

variable {c : Char} {s : String} {h : Host} {login host rest : List Char}

theorem toList_bracketed (address : String) :
    ("[" ++ address ++ "]").toList = '[' :: (address.toList ++ [']']) := by
  simp

theorem isControl_of_isHexDigit (h : isHexDigit c = true) : isControl c = false := by
  have hrange : 0x30 ≤ c.toNat ∧ c.toNat ≤ 0x66 := by
    obtain ⟨n, hn⟩ := Option.isSome_iff_exists.1 h
    simp only [hexDigit?, Char.le_def, UInt32.le_iff_toNat_le] at hn
    split at hn
    · rename_i hc
      exact ⟨hc.1, hc.2.trans (by decide)⟩
    split at hn
    · rename_i hc
      exact ⟨(by decide : 0x30 ≤ 'a'.toNat).trans hc.1, hc.2⟩
    split at hn
    · rename_i hc
      exact ⟨(by decide : 0x30 ≤ 'A'.toNat).trans hc.1, hc.2.trans (by decide)⟩
    · cases hn
  simp [isControl]
  omega

/-- A name stands for the bytes of the text from which it is read. -/
theorem octets_name (cs : List Char) : octets (escape isControl cs).toList = octets cs :=
  octets_escape rfl (fun _ hc => isControl_of_isHexDigit hc) cs

/-- A host is one of the text from which it is read. -/
theorem Host.isOf_of_parseHost (hok : parseHost s.toList = .ok h) : h.IsOf s := by
  rcases parseHost_eq_ok.1 hok with ⟨-, rfl⟩ | ⟨address, pieces, hs, hparse, rfl⟩
  · exact octets_name s.toList
  · refine ⟨String.ofList address, String.toList_inj.1 ?_, by rwa [String.toList_ofList]⟩
    rw [toList_bracketed, String.toList_ofList, hs]

/-- A text with a login before the host or more behind it stands for more bytes. -/
theorem eq_nil_of_length_octets (hlogin : login = [] ∨ ∃ before, login = before ++ ['@'])
    (hrest : rest = [] ∨ ∃ port, rest = ':' :: port)
    (hle : (octets (login ++ (host ++ rest))).length ≤ (octets host).length) :
    login = [] ∧ rest = [] := by
  have hcut (before behind : List Char) (d : Char) (hd : d = '@' ∨ d = ':') :
      (octets (before ++ d :: behind)).length =
        (octets before).length + 1 + (octets behind).length := by
    rw [octets_append_cons (by rcases hd with rfl | rfl <;> rfl)
      (by rcases hd with rfl | rfl <;> decide)]
    have : (String.utf8EncodeChar d).length = 1 := by rcases hd with rfl | rfl <;> rfl
    simp only [List.length_append, this]
    omega
  rcases hlogin with rfl | ⟨before, rfl⟩ <;> rcases hrest with rfl | ⟨port, rfl⟩
  · exact ⟨rfl, rfl⟩
  · rw [List.nil_append, hcut _ _ _ (.inr rfl)] at hle
    omega
  · rw [List.append_assoc, List.singleton_append, hcut _ _ _ (.inl rfl), List.append_nil] at hle
    omega
  · rw [List.append_assoc, List.singleton_append, hcut _ _ _ (.inl rfl), hcut _ _ _ (.inr rfl)]
      at hle
    omega

end Url

namespace Directory.Settings

open Url

variable {s : Settings} {u : Url}

/-! ### The text of an address -/

/-- Whether a character stays in the text of an address. -/
def isKept (c : Char) : Bool := c != '\t' && c != '\n' && c != '\r'

/-- Nothing is taken from the ends of a text that starts and ends visibly. -/
theorem significant_of_ends {t : String} {b d : Char} (cs : List Char)
    (ht : t.toList = b :: (cs ++ [d])) (hb : 0x20 < b.toNat) (hd : 0x20 < d.toNat) :
    significant t = t.toList.filter isKept := by
  have hfront : t.toList.dropWhile (fun c => decide (c.toNat ≤ 0x20)) = t.toList := by
    rw [ht, List.dropWhile_cons_of_neg (by simpa using hb)]
  have hback : t.toList.reverse.dropWhile (fun c => decide (c.toNat ≤ 0x20)) =
      t.toList.reverse := by
    rw [ht, ← List.cons_append, List.reverse_append, List.reverse_singleton, List.singleton_append,
      List.dropWhile_cons_of_neg (by simpa using hd)]
  simp only [significant, hfront, hback, List.reverse_reverse]
  rfl

theorem toList_urlText (s : Settings) : s.urlText.toList =
    (if s.tls then "ldaps" else "ldap").toList ++
      ("://".toList ++ (s.host.toList ++ ':' :: (toString s.port).toList)) := by
  simp [urlText, String.toList_append]

theorem isKept_of_isDigit {c : Char} (h : c.isDigit = true) : isKept c = true := by
  by_contra hc
  simp only [isKept, Bool.and_eq_true, bne_iff_ne, ne_eq, not_and_or, not_not, or_assoc] at hc
  rcases hc with rfl | rfl | rfl <;> exact absurd h (by decide)

theorem visible_of_isDigit {c : Char} (h : c.isDigit = true) : 0x20 < c.toNat := by
  have hrange : '0' ≤ c ∧ c ≤ '9' := by simpa [Char.isDigit, Char.le_def] using h
  exact Nat.lt_of_lt_of_le (by decide : 0x20 < '0'.toNat) hrange.1

/-- Of what stands in front of a host and of digits behind it nothing is taken. -/
theorem significant_of_host {t : String} {b : Char} (front : List Char) {host port : List Char}
    (ht : t.toList = b :: front ++ (host ++ ':' :: port)) (hb : 0x20 < b.toNat)
    (hfront : (b :: front).filter isKept = b :: front) (hport : ∀ c ∈ port, c.isDigit = true)
    (hne : port ≠ []) : significant t = b :: front ++ (host.filter isKept ++ ':' :: port) := by
  have hkept : port.filter isKept = port :=
    List.filter_eq_self.2 fun c hc => isKept_of_isDigit (hport c hc)
  obtain ⟨ds, d, hds⟩ := (List.eq_nil_or_concat port).resolve_left hne
  rw [List.concat_eq_append] at hds
  have hvisible : 0x20 < d.toNat := visible_of_isDigit (hport d (by simp [hds]))
  rw [significant_of_ends (front ++ (host ++ ':' :: ds)) (by simp [ht, hds]) hb hvisible, ht,
    List.filter_append, hfront, List.filter_append, List.filter_cons_of_pos rfl, hkept]

/-- The scheme, and the host and the port behind it. -/
theorem scheme?_urlText (s : Settings) : scheme? (significant s.urlText) =
    some (if s.tls then "ldaps" else "ldap", '/' :: '/' ::
      (s.host.toList.filter isKept ++ ':' :: (toString s.port).toList)) := by
  have htext := toList_urlText s
  have hdigits : ∀ c ∈ (toString s.port).toList, c.isDigit = true :=
    fun _ => isDigit_of_mem_toString
  have hne := toString_ne_nil s.port
  generalize (toString s.port).toList = port at htext hdigits hne ⊢
  cases htls : s.tls with
  | true =>
    rw [htls] at htext
    rw [significant_of_host "daps://".toList htext (by decide) rfl hdigits hne]
    rfl
  | false =>
    rw [htls] at htext
    rw [significant_of_host "dap://".toList htext (by decide) rfl hdigits hne]
    rfl

/-! ### What is read -/

/-- Whether a character of a host changes what an address is read as. -/
def misleads (c : Char) : Bool := endsAuthority c || c == '@' || c == '\\' || !isKept c

theorem misleads_of_forbidden {c : Char} (h : forbiddenInHost c = false) : misleads c = false := by
  simp_all [misleads, forbiddenInHost, endsAuthority, isKept]

theorem misleads_of_isLetter {c : Char} (h : Ipv6.isLetter c = true) : misleads c = false := by
  refine Bool.eq_false_iff.2 fun hc => ?_
  simp only [misleads, endsAuthority, isKept, Bool.or_eq_true, beq_iff_eq, Bool.not_eq_true',
    Bool.and_eq_false_iff, bne_eq_false_iff_eq, or_assoc] at hc
  rcases hc with rfl | rfl | rfl | rfl | rfl | rfl | rfl | rfl <;> exact absurd h (by decide)

theorem isHexDigit_of_lost {c : Char} (h : isKept c = false) : isHexDigit c = false := by
  simp only [isKept, Bool.and_eq_false_iff, bne_eq_false_iff_eq, or_assoc] at h
  rcases h with rfl | rfl | rfl <;> rfl

theorem endsAuthority_of_isDigit {c : Char} (h : c.isDigit = true) : endsAuthority c = false := by
  refine Bool.eq_false_iff.2 fun hc => ?_
  simp only [endsAuthority, Bool.or_eq_true, beq_iff_eq, or_assoc] at hc
  rcases hc with rfl | rfl | rfl <;> exact absurd h (by decide)

/-- Without misleading characters the host and the port are read as they are. -/
theorem url_eq_ok_iff (h : ∀ c ∈ s.host.toList, misleads c = false) : s.url = .ok u ↔
    s.host ≠ "" ∧ s.port ≤ 65535 ∧ ∃ host, parseHost s.host.toList = .ok host ∧ u =
      ⟨if s.tls then "ldaps" else "ldap", some ⟨"", "", host, some s.port⟩, "", none, none⟩ := by
  have hmem (c : Char) (hc : misleads c = true) : c ∉ s.host.toList := fun hin => by
    rw [h c hin] at hc
    cases hc
  have hkept : s.host.toList.filter isKept = s.host.toList := by
    refine List.filter_eq_self.2 fun c hc => ?_
    by_contra hlost
    exact hmem c (by simp [misleads, hlost]) hc
  have hends : ∀ c ∈ s.host.toList ++ ':' :: (toString s.port).toList, endsAuthority c = false := by
    refine List.forall_mem_append.2 ⟨fun c hc => ?_, List.forall_mem_cons.2 ⟨rfl, fun c hc => ?_⟩⟩
    · have := h c hc
      simp only [misleads, Bool.or_eq_false_iff] at this
      exact this.1.1.1
    · exact endsAuthority_of_isDigit (isDigit_of_mem_toString hc)
  have hscheme := scheme?_urlText s
  rw [hkept] at hscheme
  rw [url, parse_undivided hscheme hends, map_eq_ok]
  have hjoined {a : Authority} {left : List Char} :=
    parseAuthority_joined (fun c (hc : c ∈ (toString s.port).toList) => isDigit_of_mem_toString hc)
      false a left (hmem '@' rfl) (hmem '\\' rfl) (toString_ne_nil s.port)
  rw [decimal_toString] at hjoined
  constructor
  · rintro ⟨⟨a, left⟩, hok, rfl⟩
    obtain ⟨hne, hport, rfl, host, hhost, rfl⟩ := hjoined.1 hok
    exact ⟨by simpa using hne, hport, host, hhost, rfl⟩
  · rintro ⟨hne, hport, host, hhost, rfl⟩
    exact ⟨_, hjoined.2 ⟨by simpa using hne, hport, rfl, host, hhost, rfl⟩, rfl⟩

/-- With a misleading character an address points elsewhere. -/
theorem not_misleading_of_pointsAt (hok : s.url = .ok u) (hu : u.PointsAt s) :
    ∀ c ∈ s.host.toList, misleads c = false := by
  obtain ⟨-, ⟨h, hauthority, hhost⟩, hpath, hquery, hfragment⟩ := hu
  have hdigits : ∀ c ∈ (toString s.port).toList, c.isDigit = true :=
    fun _ => isDigit_of_mem_toString
  have hscheme := scheme?_urlText s
  have hends : ∀ c ∈ s.host.toList.filter isKept ++ ':' :: (toString s.port).toList,
      endsAuthority c = false := by
    intro c hc
    by_contra hend
    rcases parse_divided hscheme hc (by simpa using hend) hok with h | h | h
    · exact h hpath
    · exact h hquery
    · exact h hfragment
  rw [url, parse_undivided hscheme hends, map_eq_ok] at hok
  obtain ⟨⟨a, left⟩, hok, rfl⟩ := hok
  obtain rfl : a = ⟨"", "", h, some s.port⟩ := by simpa using hauthority
  obtain ⟨login, host, rest, hwhole, hlogin, hrest, hparse⟩ := exists_host hdigits hok
  rcases parseHost_eq_ok.1 hparse with ⟨hallowed, rfl⟩ | ⟨-, pieces, -, -, rfl⟩
  · -- a name stands for all bytes of the host text only if nothing of that text is missing
    have hname : octets host = octets s.host.toList := (octets_name host).symm.trans hhost
    have hlost := length_octets_filter isKept (fun c => isHexDigit_of_lost) rfl [] s.host.toList
    rw [List.nil_append, List.nil_append, hwhole, ← hname] at hlost
    have hle : (octets (login ++ (host ++ rest))).length ≤ (octets host).length := by omega
    obtain ⟨rfl, rfl⟩ := eq_nil_of_length_octets hlogin hrest hle
    rw [List.nil_append, List.append_nil] at hlost hwhole
    have hnone : s.host.toList.countP (!isKept ·) = 0 := by omega
    have hkept : s.host.toList.filter isKept = s.host.toList :=
      List.filter_eq_self.2 fun c hc => by simpa using List.countP_eq_zero.1 hnone c hc
    rw [← hkept, hwhole]
    exact fun c hc => misleads_of_forbidden (hallowed c hc)
  · obtain ⟨address, haddress, hpieces⟩ := hhost
    rw [haddress, toList_bracketed]
    refine List.forall_mem_cons.2 ⟨rfl, List.forall_mem_append.2
      ⟨fun c hc => ?_, List.forall_mem_singleton.2 rfl⟩⟩
    exact misleads_of_isLetter (Ipv6.isLetter_of_parse? hpieces c hc)

/-- **Accepted addresses.** An accepted address points at the host and the port of the settings,
and at nothing else, just if the host has no slash, question mark, number sign, at sign, backslash,
tab or line break. A host without them is accepted just if it is a name without forbidden characters
or an IPv6 address in brackets, and then with every port that there is. -/
theorem accepted_url_points_at_host (s : Settings) :
    (∀ u, s.url = .ok u → (u.PointsAt s ↔ ∀ c ∈ s.host.toList, misleads c = false)) ∧
    ((∀ c ∈ s.host.toList, misleads c = false) → ((∃ u, s.url = .ok u) ↔ s.port ≤ 65535 ∧
      (s.host ≠ "" ∧ (∀ c ∈ s.host.toList, forbiddenInHost c = false) ∨
        ∃ address pieces, s.host = "[" ++ address ++ "]" ∧
          Ipv6.parse? address.toList = some pieces))) := by
  constructor
  · refine fun u hok => ⟨not_misleading_of_pointsAt hok, fun h => ?_⟩
    obtain ⟨-, -, host, hhost, rfl⟩ := (url_eq_ok_iff h).1 hok
    exact ⟨rfl, ⟨host, rfl, Host.isOf_of_parseHost hhost⟩, rfl, rfl, rfl⟩
  · intro h
    constructor
    · rintro ⟨u, hok⟩
      obtain ⟨hne, hport, host, hhost, -⟩ := (url_eq_ok_iff h).1 hok
      refine ⟨hport, (parseHost_eq_ok.1 hhost).imp (fun h => ⟨hne, h.1⟩) ?_⟩
      rintro ⟨address, pieces, hs, hpieces, -⟩
      refine ⟨String.ofList address, pieces, String.toList_inj.1 ?_, by simpa using hpieces⟩
      rw [toList_bracketed, String.toList_ofList, hs]
    · rintro ⟨hport, ⟨hne, hallowed⟩ | ⟨address, pieces, hs, hpieces⟩⟩
      · exact ⟨_, (url_eq_ok_iff h).2
          ⟨hne, hport, _, parseHost_eq_ok.2 (.inl ⟨hallowed, rfl⟩), rfl⟩⟩
      · refine ⟨_, (url_eq_ok_iff h).2 ⟨?_, hport, _, parseHost_eq_ok.2
          (.inr ⟨address.toList, pieces, ?_, hpieces, rfl⟩), rfl⟩⟩
        · rintro hempty
          simpa [toList_bracketed] using congrArg String.toList (hs.symm.trans hempty)
        · rw [hs, toList_bracketed]

/-- A host with an at sign is accepted, and the address points at another host, as somebody. -/
theorem url_of_host_with_login :
    let s : Settings := { host := "a@b", port := 389, searchBase := "dc=example,dc=com" }
    ∃ u, s.url = .ok u ∧ u.authority = some ⟨"a", "", .name "b", some 389⟩ ∧ ¬ u.PointsAt s := by
  intro s
  refine ⟨⟨"ldap", some ⟨"a", "", .name "b", some 389⟩, "", none, none⟩,
    ok_of_toOption (by decide +kernel), rfl, fun h => ?_⟩
  obtain ⟨host, hauthority, -⟩ := h.authority
  simp at hauthority

end Directory.Settings

end RoleLookup
