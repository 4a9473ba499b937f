import Mathlib
import RoleLookup.Proofs.Client.Links

/-!
# The roles of an entry

The roles of an entry depend on its values for the group attribute alone, taken as a set.

* `SameLetter` and `SameName`, names of attributes up to the case of letters, with
  `sameIgnoringCase_iff`;
* `Entry.Has`, a value that an entry has for an attribute, and `Entry.mem_roles`;
* `RoleSet.eq_of_mem_iff`, a set of roles is determined by its members;
* `Rearranges`, other ways to write the same values down, with `Rearranges.has_iff`;
* `Entry.roles_are_first_common_names`, what the roles are and what they do not depend on.
-/

namespace RoleLookup

theorem RoleSet.eq_of_mem_iff {r s : RoleSet} (h : ∀ role, role ∈ r ↔ role ∈ s) : r = s :=
  RoleSet.ext_toList (r.ascending.eq_of_mem_iff s.ascending h)

namespace Directory

/-! ### Names of attributes -/

/-- A letter from A to Z and the same letter from a to z. -/
def IsUpperOf (c d : Char) : Prop := 'A' ≤ c ∧ c ≤ 'Z' ∧ d.toNat = c.toNat + 32

/-- Two characters are the same up to the case of the letters A to Z. -/
def SameLetter (c d : Char) : Prop := c = d ∨ IsUpperOf c d ∨ IsUpperOf d c

/-- Two names are the same up to the case of the letters A to Z. -/
def SameName (s t : String) : Prop := List.Forall₂ SameLetter s.toList t.toList

theorem toNat_toLower (c : Char) :
    c.toLower.toNat = if 'A' ≤ c ∧ c ≤ 'Z' then c.toNat + 32 else c.toNat := by
  have hupper : ('A' ≤ c ∧ c ≤ 'Z') ↔ c.val ≥ 'A'.val ∧ c.val ≤ 'Z'.val := Iff.rfl
  unfold Char.toLower
  simp only [hupper]
  split
  · rename_i h
    have hle : c.val.toNat ≤ 90 := h.2
    have hadd : (c.val + 32).toNat = (c.val.toNat + 32) % 2 ^ 32 := UInt32.toNat_add c.val 32
    change (c.val + 32).toNat = c.val.toNat + 32
    omega
  · rfl

theorem toLower_eq_iff {c d : Char} : c.toLower = d.toLower ↔ SameLetter c d := by
  have hle (c d : Char) : c ≤ d ↔ c.toNat ≤ d.toNat := Iff.rfl
  have hA : 'A'.toNat = 65 := rfl
  have hZ : 'Z'.toNat = 90 := rfl
  simp only [SameLetter, IsUpperOf, ← Char.toNat_inj, toNat_toLower, hle, hA, hZ]
  split_ifs <;> omega

theorem sameIgnoringCase_iff {s t : String} : sameIgnoringCase s t = true ↔ SameName s t := by
  rw [sameIgnoringCase, beq_iff_eq, ← List.forall₂_eq_eq_eq, List.forall₂_map_left_iff,
    List.forall₂_map_right_iff, SameName]
  simp only [toLower_eq_iff]

/-! ### Values and roles -/

theorem roleOf?_eq_some {value role : String} :
    roleOf? value = some role ↔ DistinguishedName.firstCommonName value = .ok (some role) := by
  unfold roleOf?
  cases DistinguishedName.firstCommonName value <;> simp

namespace Entry

/-- An entry has a value for an attribute, under some spelling of its name. -/
def Has (e : Entry) (name value : String) : Prop :=
  ∃ a ∈ e.attributes, SameName a.1 name ∧ value ∈ a.2

variable {e e' e₁ e₂ : Entry} {g value role : String}

theorem mem_groups : value ∈ e.groups g ↔ e.Has g value := by
  simp only [groups, Has, List.mem_flatMap, List.mem_filter, sameIgnoringCase_iff, and_assoc]

/-- The roles are the common names that come first in a value of the attribute. -/
theorem mem_roles : role ∈ e.roles g ↔
    ∃ value, e.Has g value ∧ DistinguishedName.firstCommonName value = .ok (some role) := by
  simp only [roles, RoleSet.mem_ofList, List.mem_filterMap, mem_groups, roleOf?_eq_some]

/-- Values without a common name do not count, nor does anything but the set of the others. -/
theorem roles_congr (h : ∀ value role, DistinguishedName.firstCommonName value = .ok (some role) →
    (e'.Has g value ↔ e.Has g value)) : e'.roles g = e.roles g := by
  refine RoleSet.eq_of_mem_iff fun role => ?_
  rw [mem_roles, mem_roles]
  exact exists_congr fun value => and_congr_left fun hrole => h value role hrole

theorem mem_roles_of_split (h : ∀ value, e.Has g value ↔ e₁.Has g value ∨ e₂.Has g value) :
    role ∈ e.roles g ↔ role ∈ e₁.roles g ∨ role ∈ e₂.roles g := by
  simp only [mem_roles, h, or_and_right, exists_or]

end Entry

/-! ### Other ways to write the values down -/

/-- The same values for an attribute, written down in another way. -/
inductive Rearranges (g : String) :
    List (String × List String) → List (String × List String) → Prop
  /-- The attributes come in another order. -/
  | attributes {as bs} (h : as.Perm bs) : Rearranges g as bs
  /-- The values of an attribute come in another order, or more or less often. -/
  | values {name vs ws as} (h : ∀ v, v ∈ vs ↔ v ∈ ws) :
      Rearranges g ((name, vs) :: as) ((name, ws) :: as)
  /-- The values are spread over two spellings of the name. -/
  | spread {name name₁ name₂ vs ws as} (h : SameName name g) (h₁ : SameName name₁ g)
      (h₂ : SameName name₂ g) :
      Rearranges g ((name, vs ++ ws) :: as) ((name₁, vs) :: (name₂, ws) :: as)
  | symm {as bs} (h : Rearranges g as bs) : Rearranges g bs as
  | trans {as bs cs} (h : Rearranges g as bs) (h' : Rearranges g bs cs) : Rearranges g as cs

theorem Rearranges.has_iff {g : String} {as bs : List (String × List String)}
    (h : Rearranges g as bs) (d d' value : String) :
    Entry.Has ⟨d, as⟩ g value ↔ Entry.Has ⟨d', bs⟩ g value := by
  simp only [Entry.Has]
  induction h with
  | attributes h => simp only [h.mem_iff]
  | values h => simp [h]
  | spread h h₁ h₂ => simp [h, h₁, h₂, or_assoc]
  | symm _ ih => exact ih.symm
  | trans _ _ ih ih' => exact ih.trans ih'

/-! ### What the roles depend on -/

/-- A search that finds one entry ends its lookup with the roles of the entry, whether the entry is
logged more prominently or not. -/
theorem Client.outcome?_of_entry {c : Client} {l a : Nat} {user : String} {raw : RawEntry}
    {answer : SearchAnswer} (hl : c.lookups[l]? = some ⟨user, a, .searching⟩)
    (hanswer : answer.entries = .ok [raw]) :
    (c.step (.answer l answer)).outcome? l =
      some (.ok (raw.decode.roles c.settings.groupAttribute)) := by
  have hverdict : c.settings.verdict user answer =
      .ok (raw.decode.roles c.settings.groupAttribute) := by
    simp [Settings.verdict, hanswer, Settings.rolesOf]
  simp [outcome?, lookup_answer hl, hverdict]

namespace Entry

/-- **The roles of an entry are its first common names.** A role is the first common name of a
value of the group attribute, under any spelling of its name. How the values are written down does
not matter, the roles of a split are those of its parts together, a value without a common name
changes nothing, and nor does the wish to log entries. -/
theorem roles_are_first_common_names (s : Settings) (e : Entry) :
    let g := s.groupAttribute
    (∀ role, role ∈ e.roles g ↔
      ∃ a ∈ e.attributes, SameName a.1 g ∧
        ∃ value ∈ a.2, DistinguishedName.firstCommonName value = .ok (some role)) ∧
    (∀ e' : Entry, Rearranges g e.attributes e'.attributes → e'.roles g = e.roles g) ∧
    (∀ e₁ e₂ : Entry, (∀ value, e.Has g value ↔ e₁.Has g value ∨ e₂.Has g value) →
      ∀ role, role ∈ e.roles g ↔ role ∈ e₁.roles g ∨ role ∈ e₂.roles g) ∧
    (∀ (e' : Entry) (bad : String),
      (∀ role, DistinguishedName.firstCommonName bad ≠ .ok (some role)) →
      (∀ value, value ≠ bad → (e'.Has g value ↔ e.Has g value)) → e'.roles g = e.roles g) ∧
    (∀ (c : Client) (debug : Bool) (l a : Nat) (user : String) (raw : RawEntry)
        (answer : SearchAnswer),
      c.settings = { s with debug } → c.lookups[l]? = some ⟨user, a, .searching⟩ →
      answer.entries = .ok [raw] → raw.decode = e →
      (c.step (.answer l answer)).outcome? l = some (.ok (e.roles g))) := by
  intro g
  refine ⟨fun role => ?_, fun e' h => ?_, fun e₁ e₂ h role => mem_roles_of_split h,
    fun e' bad hbad h => ?_, ?_⟩
  · rw [mem_roles]
    constructor
    · rintro ⟨value, ⟨a, ha, hname, hvalue⟩, hrole⟩
      exact ⟨a, ha, hname, value, hvalue, hrole⟩
    · rintro ⟨a, ha, hname, value, hvalue, hrole⟩
      exact ⟨value, ⟨a, ha, hname, hvalue⟩, hrole⟩
  · exact roles_congr fun value _ _ => (h.has_iff e.dn e'.dn value).symm
  · exact roles_congr fun value role hrole => h value fun heq => hbad role (heq ▸ hrole)
  · rintro c debug l a user raw answer hsettings hl hanswer rfl
    have hgroup : c.settings.groupAttribute = g := by rw [hsettings]
    rw [Client.outcome?_of_entry hl hanswer, hgroup]

/-- Two spellings of the name of the attribute, and one value that is malformed. -/
theorem roles_are_first_common_names_alice :
    let s : Settings := { host := "ldap", port := 389, searchBase := "" }
    let devs := "cn=devs,dc=example"
    let ops := "CN=ops,dc=example"
    let bad := "cn=\"broken,dc=example"
    let e : Entry := ⟨"uid=alice", [("memberof", [devs, bad]), ("MEMBEROF", [ops])]⟩
    let e' : Entry := ⟨"uid=alice", [("MemberOf", [ops, devs, bad, devs])]⟩
    "devs" ∈ e.roles s.groupAttribute ∧ "ops" ∈ e.roles s.groupAttribute ∧
      e'.roles s.groupAttribute = e.roles s.groupAttribute := by
  have hvalues (x y z v : String) : v ∈ [z, x, y, x] ↔ v ∈ [x, y] ++ [z] := by grind
  intro s devs ops bad e e'
  -- All spellings are told apart by no more than case.
  have hname {name : String} (h : sameIgnoringCase name s.groupAttribute = true) :
      SameName name s.groupAttribute := sameIgnoringCase_iff.1 h
  obtain ⟨hroles, hsame, -⟩ := roles_are_first_common_names s e
  have hdevs : "devs" ∈ e.roles s.groupAttribute := (hroles "devs").2 ⟨_, List.mem_cons_self,
    hname (by decide), devs, List.mem_cons_self, by decide +kernel⟩
  have hops : "ops" ∈ e.roles s.groupAttribute := (hroles "ops").2
    ⟨_, List.mem_cons_of_mem _ List.mem_cons_self, hname (by decide), ops, List.mem_cons_self,
      by decide +kernel⟩
  refine ⟨hdevs, hops, hsame e' (.symm (.trans (.values (hvalues devs bad ops))
    (.spread ?_ ?_ ?_)))⟩
  all_goals exact hname (by decide)

end Entry
end Directory
end RoleLookup
