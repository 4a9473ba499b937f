import Mathlib.Data.List.Nodup
import RoleLookup.Proofs.Results
import RoleLookup.Yaml.Decode

/-!
# Records of a document

* `keyName?`, the name that a key spells, and `known`, the members of names that a record knows;
* `Fits`, what is asked of one member, and `scan_eq_ok_iff`, what is asked of all of them;
* `written_eq_ok_iff`, the members that are written;
* `member?`, the node of a member of a mapping.
-/

namespace RoleLookup.Yaml.Decode

variable {d : Document} {path : Path} {expected name : String} {n k v : Node}
  {members : List Member} {names : List String} {ms os : List (Node × Node)} {seen r : Members}

/-! ### Names of members -/

/-- The name that a key spells. -/
def keyName? (d : Document) (k : Node) : Option String :=
  match resolve d k with
  | .scalar _ _ name => some name
  | _ => none

/-- The members of some names, in the order in which they are written. -/
def known (names : List String) (d : Document) (ms : List (Node × Node)) : Members :=
  ms.filterMap fun kv => ((keyName? d kv.1).filter (names.contains ·)).map (·, kv.2)

/-- The names of these members. -/
def knownNames (names : List String) (d : Document) (ms : List (Node × Node)) : List String :=
  (known names d ms).map (·.1)

@[simp] theorem known_nil : known names d [] = [] := rfl

theorem known_cons_of_mem (hk : keyName? d k = some name) (h : name ∈ names) :
    known names d ((k, v) :: ms) = (name, v) :: known names d ms := by
  simp [known, hk, h]

theorem known_cons_of_notMem (h : ∀ name ∈ names, keyName? d k ≠ some name) :
    known names d ((k, v) :: ms) = known names d ms := by
  refine List.filterMap_cons_none ?_
  rw [Option.map_eq_none_iff]
  cases hk : keyName? d k with
  | none => rfl
  | some name =>
    have hname : name ∉ names := fun hmem => h name hmem hk
    simp [Option.filter, hname]

/-- A member of an unknown name. -/
theorem known_cons_of_unknown (hk : keyName? d k = some name) (h : name ∉ names) :
    known names d ((k, v) :: ms) = known names d ms := by
  refine known_cons_of_notMem fun name' hmem heq => h ?_
  rw [hk, Option.some.injEq] at heq
  exact heq ▸ hmem

theorem mem_knownNames : name ∈ knownNames names d ms ↔
    name ∈ names ∧ ∃ kv ∈ ms, keyName? d kv.1 = some name := by
  simp only [knownNames, known, List.mem_map, List.mem_filterMap, Option.map_eq_some_iff,
    Option.filter_eq_some_iff]
  constructor
  · rintro ⟨-, ⟨kv, hkv, name', ⟨hname, hmem⟩, rfl⟩, rfl⟩
    exact ⟨by simpa using hmem, kv, hkv, hname⟩
  · rintro ⟨hmem, kv, hkv, hname⟩
    exact ⟨_, ⟨kv, hkv, name, ⟨hname, by simpa using hmem⟩, rfl⟩, rfl⟩

theorem knownNames_append (ms os : List (Node × Node)) : knownNames names d (ms ++ os) =
    knownNames names d ms ++ knownNames names d os := by
  simp [knownNames, known]

theorem knownNames_cons (kv : Node × Node) : knownNames names d (kv :: ms) =
    knownNames names d [kv] ++ knownNames names d ms :=
  knownNames_append [kv] ms

/-- Fewer members have fewer names. -/
theorem knownNames_filterMap {f : Node × Node → Option (Node × Node)}
    (h : ∀ kv kv', f kv = some kv' → kv'.1 = kv.1) :
    (knownNames names d (ms.filterMap f)).Sublist (knownNames names d ms) := by
  induction ms with
  | nil => simp
  | cons kv ms ih =>
    rw [knownNames_cons]
    cases hf : f kv with
    | none =>
      rw [List.filterMap_cons_none hf]
      exact ih.trans (List.sublist_append_right _ _)
    | some kv' =>
      rw [List.filterMap_cons_some hf, knownNames_cons]
      have hsame : knownNames names d [kv'] = knownNames names d [kv] := by
        simp only [knownNames, known, List.filterMap_cons, h kv kv' hf]
        cases (keyName? d kv.1).filter (names.contains ·) <;> rfl
      rw [hsame]
      exact ih.append_left _

theorem known_perm (h : ms.Perm os) : (known names d ms).Perm (known names d os) :=
  h.filterMap _

/-! ### What a record asks of its members -/

theorem find?_name_eq_none : members.find? (·.name == name) = none ↔
    name ∉ members.map (·.name) := by
  simp

/-- What is asked of one member: a key that is a text, and a value that will do. -/
def Fits (members : List Member) (d : Document) (path : Path) (kv : Node × Node) : Prop :=
  ∃ name, keyName? d kv.1 = some name ∧
    match members.find? (·.name == name) with
    | none => isWhole kv.2 = true
    | some m => m.check d (path ++ [stepTo kv.1]) kv.2 = .ok ()

theorem text_eq_ok : text expected d path k = .ok name ↔ keyName? d k = some name := by
  unfold text keyName?
  cases resolve d k <;> simp

/-- All members are gone through just if each of them will do and no name is written twice. -/
theorem scan_eq_ok_iff : scan members d path seen ms = .ok r ↔
    (∀ kv ∈ ms, Fits members d path kv) ∧
      (seen.map (·.1)).Disjoint (knownNames (members.map (·.name)) d ms) ∧
      (knownNames (members.map (·.name)) d ms).Nodup ∧
      r = seen ++ known (members.map (·.name)) d ms := by
  -- What has been seen has none of the names that are still to come.
  induction ms generalizing seen with
  | nil =>
    rw [scan]
    simp [knownNames, eq_comm]
  | cons kv ms ih =>
    obtain ⟨k, v⟩ := kv
    rw [scan, bind_eq_ok, List.forall_mem_cons]
    simp only [text_eq_ok]
    cases hk : keyName? d k with
    | none => simp [Fits, hk]
    | some name =>
      simp only [Option.some.injEq, exists_eq_left']
      have hfits : Fits members d path (k, v) ↔
          match members.find? (·.name == name) with
          | none => isWhole v = true
          | some m => m.check d (path ++ [stepTo k]) v = .ok () := by
        simp [Fits, hk]
      cases hm : members.find? (·.name == name) with
      | none =>
        have hunknown : known (members.map (·.name)) d ((k, v) :: ms) =
            known (members.map (·.name)) d ms :=
          known_cons_of_unknown hk (find?_name_eq_none.1 hm)
        simp only [hm] at hfits
        rw [hfits, knownNames, hunknown, ← knownNames]
        cases isWhole v with
        | true => simpa using ih
        | false => simp
      | some m =>
        have hmem : name ∈ members.map (·.name) := by
          by_contra hno
          rw [find?_name_eq_none.2 hno] at hm
          cases hm
        simp only [hm] at hfits
        rw [hfits, knownNames, known_cons_of_mem hk hmem, List.map_cons, ← knownNames,
          List.disjoint_cons_right, List.nodup_cons]
        have hany : seen.any (·.1 == name) = true ↔ name ∈ seen.map (·.1) := by simp
        by_cases hseen : name ∈ seen.map (·.1)
        · simp only [hany.2 hseen, if_true, hseen, not_true, false_and, and_false, iff_false]
          rw [bind_eq_ok]
          rintro ⟨a, hthrow, h⟩
          cases hthrow
        · have hfresh : (seen ++ [(name, v)]).map (·.1) = seen.map (·.1) ++ [name] := by simp
          simp only [hany, hseen, if_false, bind_eq_ok, ih, hfresh, List.append_assoc,
            List.singleton_append, List.disjoint_append_left, List.singleton_disjoint,
            not_false_eq_true, true_and]
          constructor
          · rintro ⟨⟨⟩, hcheck, hall, ⟨hdisjoint, hnew⟩, hnodup, hr⟩
            exact ⟨⟨hcheck, hall⟩, hdisjoint, ⟨hnew, hnodup⟩, hr⟩
          · rintro ⟨⟨hcheck, hall⟩, hdisjoint, ⟨hnew, hnodup⟩, hr⟩
            exact ⟨(), hcheck, hall, ⟨hdisjoint, hnew⟩, hnodup, hr⟩

/-- The members that are written: of a mapping in which they all fit, and none of what is not
written. -/
theorem written_eq_ok_iff : written expected members d path n = .ok r ↔
    (∃ tag ms, resolve d n = .mapping tag ms true ∧ (∀ kv ∈ ms, Fits members d path kv) ∧
      (knownNames (members.map (·.name)) d ms).Nodup ∧
      r = known (members.map (·.name)) d ms) ∨
    (∃ tag, resolve d n = .scalar tag .plain "") ∧ r = [] := by
  unfold written
  cases resolve d n with
  | mapping tag ms complete =>
    simp only [bind_eq_ok, scan_eq_ok_iff]
    cases complete with
    | true =>
      simp only [if_true]
      constructor
      · rintro ⟨seen, ⟨hfits, -, hnodup, rfl⟩, hr⟩
        cases hr
        exact .inl ⟨tag, ms, rfl, hfits, hnodup, rfl⟩
      · rintro (⟨tag, ms, heq, hfits, hnodup, rfl⟩ | ⟨⟨tag, heq⟩, -⟩)
        · cases heq
          exact ⟨_, ⟨hfits, by simp, hnodup, rfl⟩, rfl⟩
        · cases heq
    | false =>
      constructor
      · rintro ⟨seen, -, hthrow⟩
        cases hthrow
      · rintro (⟨tag, ms, heq, -⟩ | ⟨⟨tag, heq⟩, -⟩) <;> cases heq
  | scalar tag style text =>
    split
    · rename_i heq
      cases heq
    · rename_i heq
      cases heq
      constructor
      · intro h
        cases h
        exact .inr ⟨⟨_, rfl⟩, rfl⟩
      · rintro (⟨tag, ms, heq, -⟩ | ⟨-, rfl⟩)
        · cases heq
        · rfl
    · rename_i hscalar
      constructor
      · intro h
        cases h
      · rintro (⟨tag, ms, heq, -⟩ | ⟨⟨tag, heq⟩, -⟩)
        · cases heq
        · exact absurd heq (hscalar _)
  | _ =>
    constructor
    · intro h
      cases h
    · rintro (⟨tag, ms, heq, -⟩ | ⟨⟨tag, heq⟩, -⟩) <;> cases heq

/-! ### Nodes of members -/

theorem node?_cons {name' : String} : Members.node? ((name', v) :: r) name =
    if name' = name then some v else r.node? name := by
  by_cases h : name' = name <;> simp [Members.node?, h]

theorem node?_eq_none : r.node? name = none ↔ name ∉ r.map (·.1) := by
  rw [Members.node?, Option.map_eq_none_iff, List.find?_eq_none]
  constructor
  · intro h hmem
    obtain ⟨kv, hkv, rfl⟩ := List.mem_map.1 hmem
    exact h kv hkv (by simp)
  · intro h kv hkv heq
    exact h (List.mem_map.2 ⟨kv, hkv, by simpa using heq⟩)

theorem node?_eq_some (h : (r.map (·.1)).Nodup) : r.node? name = some v ↔ (name, v) ∈ r := by
  induction r with
  | nil => simp [Members.node?]
  | cons kv r ih =>
    obtain ⟨name', v'⟩ := kv
    rw [List.map_cons, List.nodup_cons] at h
    rw [node?_cons, List.mem_cons, Prod.mk.injEq]
    by_cases heq : name' = name
    · subst heq
      have hnone : (name', v) ∉ r := fun hmem => h.1 (List.mem_map.2 ⟨_, hmem, rfl⟩)
      simp [hnone, eq_comm]
    · rw [if_neg heq, ih h.2]
      simp [Ne.symm heq]

/-- The order in which members are written does not matter. -/
theorem node?_of_perm {q : Members} (h : r.Perm q) (hnodup : (r.map (·.1)).Nodup) :
    q.node? name = r.node? name := by
  have hq : (q.map (·.1)).Nodup := (h.map _).nodup_iff.1 hnodup
  ext v
  rw [node?_eq_some hnodup, node?_eq_some hq, h.mem_iff]

/-- The node of a member of a mapping. -/
def member? (d : Document) (name : String) (n : Node) : Option Node :=
  match resolve d n with
  | .mapping _ ms _ => (ms.find? fun kv => keyName? d kv.1 == some name).map (·.2)
  | _ => none

end RoleLookup.Yaml.Decode
