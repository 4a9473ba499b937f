import Mathlib.Data.Bool.AllAny
import RoleLookup.Directory.Client
import RoleLookup.Proofs.Directory.FilterReading
import RoleLookup.Proofs.Text.Utf8

/-!
# The filter for a user

* `derivesValue_escape`, an escaped text is the text of the value that it encodes;
* `Settings.query?_eq`, there is a search for every user;
* `Settings.filterText_is_equality`, whatever the name of a user, the filter for this user is an
  equality match with this name.
-/

namespace RoleLookup.Directory

open Text

namespace Filter

theorem isSpecial_iff {c : Char} : isSpecial c = true ↔ c ∈ specials := by
  simp [isSpecial, specials, or_assoc]

theorem specials_ascii : ∀ c ∈ specials, c.val < 0x80 :=
  List.all_iff_forall_prop.1 (by decide)

/-- A special character is written as the two digits of its only byte. -/
theorem derivesValue_special {c : Char} (hc : c ∈ specials) {bs : List UInt8} {ws : List Char}
    (h : DerivesValue bs ws) :
    DerivesValue (String.utf8EncodeChar c ++ bs) (escapedChar c ++ ws) := by
  have hascii : c.val < 0x80 := specials_ascii c hc
  have hbyte := toNat_toUInt8_of_ascii hascii
  have hlt := c.toUInt8.toNat_lt
  have hescaped : escapedChar c ++ ws = '\\' :: Nat.digitChar (c.toUInt8.toNat / 16) ::
      Nat.digitChar (c.toUInt8.toNat % 16) :: ws := by
    rw [escapedChar, if_pos (isSpecial_iff.2 hc), twoHex, String.toList_ofList, hbyte]
    rfl
  rw [utf8EncodeChar_of_ascii hascii, hescaped]
  exact .escaped (isHexDigit_digitChar (by omega)) (isHexDigit_digitChar (by omega)) h

/-- A text as it stands in a value is a text of its bytes. -/
theorem derivesValue_escape (s : String) : DerivesValue (bytes s) (escape s).toList := by
  rw [bytes_eq, escape, String.toList_ofList]
  induction s.toList with
  | nil => exact .nil
  | cons c cs ih =>
    rw [encode_cons, List.flatMap_cons]
    by_cases hc : c ∈ specials
    · exact derivesValue_special hc ih
    · have hkept : escapedChar c = [c] := if_neg (mt isSpecial_iff.1 hc)
      rw [hkept]
      exact .kept hc ih

end Filter

theorem Settings.toList_filterText (s : Settings) (user : String) : (s.filterText user).toList =
    '(' :: (s.userIdAttribute.toList ++ '=' :: (Filter.escape user).toList) ++ [')'] := by
  simp [filterText, Filter.equality]

/-- There is a search for every user. -/
theorem Settings.query?_eq (s : Settings) (hname : IsDescription s.userIdAttribute.toList)
    (user : String) : s.query? user =
      some ⟨s.searchBase, .equal s.userIdAttribute (bytes user), s.groupAttribute⟩ := by
  rw [query?, Filter.read?_equality (s.toList_filterText user) hname
    (Filter.derivesValue_escape user), Option.map_some]

/-- **No injection.** Whatever the name of a user, the text of the filter for this user is that of
an equality match with this name, and of no other filter; it is read as this match, and the texts
for two users differ. -/
theorem Settings.filterText_is_equality (s : Settings)
    (hname : IsDescription s.userIdAttribute.toList) (user : String) :
    (∀ f, Filter.Derives f (s.filterText user).toList ↔
      f = .equal s.userIdAttribute (bytes user)) ∧
    s.query? user =
      some ⟨s.searchBase, .equal s.userIdAttribute (bytes user), s.groupAttribute⟩ ∧
    ∀ other, s.filterText other = s.filterText user → other = user := by
  have hderives (u : String) (f : Filter) : Filter.Derives f (s.filterText u).toList ↔
      f = .equal s.userIdAttribute (bytes u) := by
    rw [s.toList_filterText]
    exact Filter.derives_equality_iff hname (Filter.derivesValue_escape u)
  refine ⟨hderives user, s.query?_eq hname user, fun other h => ?_⟩
  have hother := (hderives other (.equal s.userIdAttribute (bytes other))).2 rfl
  rw [h, hderives] at hother
  injection hother with _ hbytes
  exact bytes_inj.1 hbytes

/-- The attribute by which users are found unless another one is configured. -/
theorem isDescription_uid : IsDescription "uid".toList :=
  ⟨_, [], .inl (.mk (by decide) (List.all_iff_forall_prop.1 (by decide))), .nil,
    (List.append_nil _).symm⟩

/-- A user whose name is an asterisk. -/
theorem Settings.filterText_is_equality_asterisk :
    let s : Settings := { host := "ldap", port := 389, searchBase := "dc=example" }
    (∀ f, Filter.Derives f (s.filterText "*").toList ↔ f = .equal "uid" [0x2a]) ∧
      s.query? "*" = some ⟨"dc=example", .equal "uid" [0x2a], "memberOf"⟩ ∧
      ∀ other, s.filterText other = s.filterText "*" → other = "*" := by
  have hbytes : bytes "*" = [0x2a] := by
    rw [bytes_eq]
    rfl
  have h := Settings.filterText_is_equality
    { host := "ldap", port := 389, searchBase := "dc=example" } isDescription_uid "*"
  rwa [hbytes] at h

example : Filter.equality "uid" "a*(b)\\" = "(uid=a\\2a\\28b\\29\\5c)" := by decide

end RoleLookup.Directory
