import RoleLookup.Proofs.Yaml.Records

/-!
# Shapes of documents

A shape says which nodes of a document are records, which members they have, and which of these
have a default.

* `Shape`, and `Shape.amend`, a node in which some of the members with a default are left out or
  written out;
* `Shape.Amends`, three versions of a node: the node, one with other members of the same meaning,
  and one in which they are written out;
* `amends_amend`, the two results of `amend` are such versions.
-/

namespace RoleLookup.Yaml.Decode

/-- The shape of a node. A member of a record that need not be there has a node that says its
default; behind a tag, the shape is that of the name that is chosen. -/
inductive Shape
  | value
  | record (members : List (String × Option Node)) (distinct : (members.map (·.1)).Nodup)
      (inside : String → Shape)
  | tagged (inside : String → Shape)

/-- The default of a member. -/
def default? (members : List (String × Option Node)) (name : String) : Option Node :=
  (members.lookup name).join

/-- A key or a value as it is written most plainly. -/
def word (s : String) : Node := .scalar none .plain s

/-- A mapping whose keys are plain words. -/
def mappingOf (members : Members) : Node :=
  .mapping none (members.map fun m => (word m.1, m.2)) true

/-! ### Members that are left out or written out -/

section Amend

variable (d : Document) (chosen : List String → Bool) (members : List (String × Option Node))
  (path : List String)

/-- The default of the member of a key, if the member is chosen. -/
def chosenDefault? (k : Node) : Option Node :=
  (keyName? d k).bind fun name => (default? members name).filter fun _ => chosen (path ++ [name])

/-- The members with a default that are chosen but not written. -/
def missing (ms : List (Node × Node)) : List (Node × Node) :=
  members.filterMap fun m =>
    if chosen (path ++ [m.1]) && !ms.any (keyName? d ·.1 == some m.1) then
      (default? members m.1).map (word m.1, ·)
    else none

end Amend

/-- A node in which the chosen members with a default are written out with it, or left out. Members
are chosen by the names on the way to them. -/
def Shape.amend (d : Document) (chosen : List String → Bool) (out : Bool) :
    Shape → List String → Node → Node
  | .value, _, n => n
  | .record members _ inside, path, n =>
    match resolve d n with
    | .mapping tag ms complete =>
      let within (kv : Node × Node) : Node :=
        match keyName? d kv.1 with
        | some name =>
          if name ∈ members.map (·.1) then (inside name).amend d chosen out (path ++ [name]) kv.2
          else kv.2
        | none => kv.2
      let amended := ms.filterMap fun kv =>
        match chosenDefault? d chosen members path kv.1 with
        | some dflt => if out then some (kv.1, dflt) else none
        | none => some (kv.1, within kv)
      .mapping tag (amended ++ if out then missing d chosen members path ms else []) complete
    | _ => n
  | .tagged inside, path, n =>
    match chosenBy? (resolve d n) with
    | some name => (inside name).amend d chosen out path n
    | none => n

/-! ### Versions of a node -/

/-- Members of a record in three versions: as they are, in another way that means the same, and
with the defaults of the same members written out. -/
inductive Amended (d : Document) (members : List (String × Option Node))
    (inside : String → Node → Node → Node → Prop) :
    List (Node × Node) → List (Node × Node) → List (Node × Node) → Prop
  | nil : Amended d members inside [] [] []
  | same (kv) {ms ms' ms''} : Amended d members inside ms ms' ms'' →
      Amended d members inside (kv :: ms) (kv :: ms') (kv :: ms'')
  /-- The value of a member in three versions. -/
  | within {k name v v' v'' ms ms' ms''} : keyName? d k = some name →
      name ∈ members.map (·.1) → inside name v v' v'' → Amended d members inside ms ms' ms'' →
      Amended d members inside ((k, v) :: ms) ((k, v') :: ms') ((k, v'') :: ms'')
  /-- A member with a default goes. -/
  | leave {k name dflt v ms ms' ms''} : keyName? d k = some name →
      default? members name = some dflt → Amended d members inside ms ms' ms'' →
      Amended d members inside ((k, v) :: ms) ms' ms''
  /-- A default is written out. -/
  | write {k name dflt ms ms' ms''} : keyName? d k = some name →
      default? members name = some dflt → Amended d members inside ms ms' ms'' →
      Amended d members inside ms ms' ((k, dflt) :: ms'')
  /-- A member of an unknown name comes. -/
  | add {k name v ms ms' ms''} : keyName? d k = some name → name ∉ members.map (·.1) →
      isWhole v = true → Amended d members inside ms ms' ms'' →
      Amended d members inside ms ((k, v) :: ms') ms''
  /-- A member of an unknown name goes. -/
  | ignore {k name v ms ms' ms''} : keyName? d k = some name → name ∉ members.map (·.1) →
      Amended d members inside ms ms' ms'' →
      Amended d members inside ((k, v) :: ms) ms' ((k, v) :: ms'')
  | reorder {ms ms' os ms''} : ms'.Perm os → Amended d members inside ms ms' ms'' →
      Amended d members inside ms os ms''

/-- No name of a record is written twice. -/
def Distinct (d : Document) (members : List (String × Option Node)) (ms : List (Node × Node)) :
    Prop :=
  (knownNames (members.map (·.1)) d ms).Nodup

/-- A node in three versions: as it is, in another way that means the same, and with the defaults
that the second one does not give written out. -/
def Shape.Amends (d : Document) : Shape → Node → Node → Node → Prop
  | .value, n, n', n'' => n' = n ∧ n'' = n
  | .record members _ inside, n, n', n'' => n' = n ∧ n'' = n ∨
      ∃ tag ms ms' ms'' complete, resolve d n = .mapping tag ms complete ∧
        resolve d n' = .mapping tag ms' complete ∧ resolve d n'' = .mapping tag ms'' complete ∧
        Amended d members (fun name => (inside name).Amends d) ms ms' ms'' ∧
        (Distinct d members ms → Distinct d members ms' ∧ Distinct d members ms'')
  | .tagged inside, n, n', n'' => n' = n ∧ n'' = n ∨
      ∃ name, chosenBy? (resolve d n) = some name ∧ (inside name).Amends d n n' n''

variable {d : Document} {chosen : List String → Bool} {members : List (String × Option Node)}
  {inside : String → Shape} {path : List String} {name : String} {n n' n'' k dflt : Node}
  {ms ms' ms'' : List (Node × Node)} {s : Shape}

theorem mem_of_default? (h : default? members name = some dflt) : name ∈ members.map (·.1) := by
  by_contra hno
  have hnone : members.lookup name = none := by
    rw [List.lookup_eq_none_iff]
    intro m hm
    have : name ≠ m.1 := fun heq => hno (List.mem_map.2 ⟨m, hm, heq.symm⟩)
    simpa using this
  rw [default?, hnone] at h
  cases h

theorem Shape.Amends.refl (s : Shape) (n : Node) : s.Amends d n n n := by
  cases s with
  | value => exact ⟨rfl, rfl⟩
  | record | tagged => exact .inl ⟨rfl, rfl⟩

/-- The other versions have the tag of the node. -/
theorem Shape.Amends.chosenBy? (h : s.Amends d n n' n'') :
    chosenBy? (resolve d n') = chosenBy? (resolve d n) ∧
      chosenBy? (resolve d n'') = chosenBy? (resolve d n) := by
  induction s with
  | value =>
    obtain ⟨rfl, rfl⟩ := h
    exact ⟨rfl, rfl⟩
  | record =>
    obtain ⟨rfl, rfl⟩ | ⟨tag, ms, ms', ms'', complete, hn, hn', hn'', -⟩ := h
    · exact ⟨rfl, rfl⟩
    · rw [hn, hn', hn'']
      exact ⟨rfl, rfl⟩
  | tagged inside ih =>
    obtain ⟨rfl, rfl⟩ | ⟨name, -, h⟩ := h
    · exact ⟨rfl, rfl⟩
    · exact ih name h

/-- An alias has the versions of its anchor. -/
theorem Shape.Amends.resolve (h : s.Amends d n n' n'') :
    s.Amends d (resolve d n) (resolve d n') (resolve d n'') := by
  induction s with
  | value =>
    obtain ⟨rfl, rfl⟩ := h
    exact ⟨rfl, rfl⟩
  | record =>
    obtain ⟨rfl, rfl⟩ | ⟨tag, ms, ms', ms'', complete, hn, hn', hn'', h⟩ := h
    · exact .inl ⟨rfl, rfl⟩
    · rw [hn, hn', hn'']
      exact .inr ⟨tag, ms, ms', ms'', complete, rfl, rfl, rfl, h⟩
  | tagged inside ih =>
    obtain ⟨rfl, rfl⟩ | ⟨name, hname, h⟩ := h
    · exact .inl ⟨rfl, rfl⟩
    · refine .inr ⟨name, ?_, ih name h⟩
      -- Only an alias of an alias would be looked up again, and that has no tag.
      have hself : Decode.resolve d (Decode.resolve d n) = Decode.resolve d n := by
        cases hn : Decode.resolve d n with
        | «alias» anchor =>
          rw [hn] at hname
          cases hname
        | _ => rfl
      rw [hself]
      exact hname

/-! ### Versions that leave out and write out -/

@[simp] theorem keyName?_word (s : String) : keyName? d (word s) = some s := rfl

theorem chosenDefault?_eq_some (h : chosenDefault? d chosen members path k = some dflt) :
    ∃ name, keyName? d k = some name ∧ default? members name = some dflt := by
  obtain ⟨name, hk, hname⟩ := Option.bind_eq_some_iff.1 h
  exact ⟨name, hk, (Option.filter_eq_some_iff.1 hname).1⟩

theorem mem_missing {kv : Node × Node} (h : kv ∈ missing d chosen members path ms) :
    ∃ name, kv.1 = word name ∧ default? members name = some kv.2 ∧
      ∀ kv' ∈ ms, keyName? d kv'.1 ≠ some name := by
  obtain ⟨m, -, hm⟩ := List.mem_filterMap.1 h
  split at hm
  · rename_i hchosen
    obtain ⟨dflt, hdflt, rfl⟩ := Option.map_eq_some_iff.1 hm
    simp only [Bool.and_eq_true, Bool.not_eq_true', List.any_eq_false, beq_iff_eq] at hchosen
    exact ⟨m.1, rfl, hdflt, hchosen.2⟩
  · cases hm

theorem knownNames_words {names : List String}
    {f : String × Option Node → Option (Node × Node)}
    (h : ∀ m kv, f m = some kv → kv.1 = word m.1) (rest : List (String × Option Node)) :
    (knownNames names d (rest.filterMap f)).Sublist (rest.map (·.1)) := by
  induction rest with
  | nil => simp [knownNames]
  | cons m rest ih =>
    cases hf : f m with
    | none =>
      rw [List.filterMap_cons_none hf]
      exact ih.cons _
    | some kv =>
      have hword : (knownNames names d [kv]).Sublist [m.1] := by
        cases hmem : names.contains m.1 <;>
          simp [knownNames, known, h m kv hf, Option.filter, -List.contains_eq_mem, hmem]
      rw [List.filterMap_cons_some hf, knownNames_cons, List.map_cons]
      exact hword.append ih

/-- What is missing has other names than what is written. -/
theorem distinct_append_missing {os : List (Node × Node)} (distinct : (members.map (·.1)).Nodup)
    (hms : Distinct d members ms)
    (hos : (knownNames (members.map (·.1)) d os).Sublist (knownNames (members.map (·.1)) d ms)) :
    Distinct d members (os ++ missing d chosen members path ms) := by
  rw [Distinct, knownNames_append, List.nodup_append]
  refine ⟨hms.sublist hos, distinct.sublist (knownNames_words ?_ _), ?_⟩
  · intro m kv hkv
    split at hkv
    · obtain ⟨dflt, -, rfl⟩ := Option.map_eq_some_iff.1 hkv
      rfl
    · cases hkv
  · rintro a ha b hb rfl
    obtain ⟨-, kv, hkv, hname⟩ := mem_knownNames.1 (hos.subset ha)
    obtain ⟨-, kv', hkv', hname'⟩ := mem_knownNames.1 hb
    obtain ⟨name, hk, -, hnew⟩ := mem_missing hkv'
    rw [hk, keyName?_word, Option.some.injEq] at hname'
    exact hnew kv hkv (hname' ▸ hname)

/-- The members of a record without the chosen ones, and with them. -/
theorem amended_filterMap {within within' : Node × Node → Node} {os : List (Node × Node)}
    {R : String → Node → Node → Node → Prop}
    (hwithin : ∀ kv, within kv = kv.2 ∧ within' kv = kv.2 ∨
      ∃ name ∈ members.map (·.1), keyName? d kv.1 = some name ∧
        R name kv.2 (within kv) (within' kv))
    (hos : ∀ kv ∈ os, ∃ name, keyName? d kv.1 = some name ∧ default? members name = some kv.2) :
    Amended d members R ms
      (ms.filterMap fun kv =>
        match chosenDefault? d chosen members path kv.1 with
        | some _ => none
        | none => some (kv.1, within kv))
      ((ms.filterMap fun kv =>
        match chosenDefault? d chosen members path kv.1 with
        | some dflt => some (kv.1, dflt)
        | none => some (kv.1, within' kv)) ++ os) := by
  induction ms with
  | nil =>
    -- What is left is written out.
    induction os with
    | nil => exact .nil
    | cons kv os ih =>
      obtain ⟨⟨name, hk, hdflt⟩, hrest⟩ := List.forall_mem_cons.1 hos
      exact .write hk hdflt (ih hrest)
  | cons kv ms ih =>
    cases hchosen : chosenDefault? d chosen members path kv.1 with
    | some dflt =>
      obtain ⟨name, hk, hdflt⟩ := chosenDefault?_eq_some hchosen
      rw [List.filterMap_cons_none (by simp [hchosen]),
        List.filterMap_cons_some (b := (kv.1, dflt)) (by simp [hchosen])]
      exact .leave hk hdflt (.write hk hdflt ih)
    | none =>
      rw [List.filterMap_cons_some (b := (kv.1, within kv)) (by simp [hchosen]),
        List.filterMap_cons_some (b := (kv.1, within' kv)) (by simp [hchosen])]
      obtain ⟨hsame, hsame'⟩ | ⟨name, hname, hk, h⟩ := hwithin kv
      · rw [hsame, hsame']
        exact .same kv ih
      · exact .within hk hname h ih

theorem Shape.amends_amend (s : Shape) (chosen : List String → Bool) (path : List String)
    (n : Node) : s.Amends d n (s.amend d chosen false path n) (s.amend d chosen true path n) := by
  induction s generalizing path n with
  | value => exact ⟨rfl, rfl⟩
  | record members distinct inside ih =>
    simp only [amend, Bool.false_eq_true, if_false, if_true, List.append_nil]
    split
    · rename_i tag ms complete hn
      refine .inr ⟨tag, ms, _, _, complete, hn, rfl, rfl, amended_filterMap ?_ ?_, fun hms =>
        ⟨hms.sublist (knownNames_filterMap ?_), ?_⟩⟩
      · intro kv
        cases hk : keyName? d kv.1 with
        | none => exact .inl ⟨rfl, rfl⟩
        | some name =>
          by_cases hname : name ∈ members.map (·.1)
          · refine .inr ⟨name, hname, rfl, ?_⟩
            simp only [hname, if_true]
            exact ih name _ _
          · simp [hname]
      · intro kv hkv
        obtain ⟨name, hk, hdflt, -⟩ := mem_missing hkv
        exact ⟨name, hk ▸ keyName?_word name, hdflt⟩
      · intro kv kv' hkv
        split at hkv
        · cases hkv
        · cases hkv
          rfl
      · refine distinct_append_missing distinct hms (knownNames_filterMap ?_)
        intro kv kv' hkv
        split at hkv
        all_goals
          cases hkv
          rfl
    · exact .inl ⟨rfl, rfl⟩
  | tagged inside ih =>
    simp only [amend]
    split
    · rename_i name hname
      exact .inr ⟨name, hname, ih name path n⟩
    · exact .inl ⟨rfl, rfl⟩

end RoleLookup.Yaml.Decode
