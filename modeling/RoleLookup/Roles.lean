/-!
# Roles

* `RoleSet`, the roles of a user: role names in ascending order, each once;
* `RoleSet.insert`, `RoleSet.ofList`, with the membership law of each;
* `LookupError`, why a lookup gives no roles.

Texts are ordered by code points, which is the order of their UTF-8 bytes.
-/

namespace RoleLookup

/-- A list of texts with one more text put in its place, unless it is there. -/
def insertAscending (r : String) : List String → List String
  | [] => [r]
  | x :: xs =>
    if r < x then r :: x :: xs else if r = x then x :: xs else x :: insertAscending r xs

theorem mem_insertAscending {r x : String} {xs : List String} :
    x ∈ insertAscending r xs ↔ x = r ∨ x ∈ xs := by
  induction xs with
  | nil => simp [insertAscending]
  | cons y ys ih =>
    unfold insertAscending
    split
    · simp
    · split
      · rename_i h; subst h; simp
      · simp only [List.mem_cons, ih]
        exact or_left_comm

theorem pairwise_insertAscending {r : String} {xs : List String} (h : xs.Pairwise (· < ·)) :
    (insertAscending r xs).Pairwise (· < ·) := by
  induction xs with
  | nil => simp [insertAscending]
  | cons y ys ih =>
    have hy := (List.pairwise_cons.1 h).1
    unfold insertAscending
    split
    · rename_i hlt
      refine List.pairwise_cons.2 ⟨fun z hz => ?_, h⟩
      rcases List.mem_cons.1 hz with rfl | hz
      · exact hlt
      · exact String.lt_trans hlt (hy _ hz)
    · split
      · exact h
      · rename_i hge hne
        refine List.pairwise_cons.2 ⟨fun z hz => ?_, ih h.of_cons⟩
        rcases mem_insertAscending.1 hz with rfl | hz
        · exact Std.lt_of_le_of_ne (String.not_lt.1 hge) (Ne.symm hne)
        · exact hy _ hz

/-- A finite set of role names. -/
structure RoleSet where
  /-- The names in ascending order. -/
  toList : List String
  ascending : toList.Pairwise (· < ·)

namespace RoleSet

@[ext] theorem ext_toList {r s : RoleSet} (h : r.toList = s.toList) : r = s := by
  cases r; cases s; simp_all

instance : DecidableEq RoleSet := fun r s =>
  if h : r.toList = s.toList then isTrue (ext_toList h) else isFalse fun e => h (e ▸ rfl)

instance : Repr RoleSet := ⟨fun r n => reprPrec r.toList n⟩

instance : Membership String RoleSet := ⟨fun r x => x ∈ r.toList⟩

/-- No role. -/
def empty : RoleSet := ⟨[], .nil⟩

instance : EmptyCollection RoleSet := ⟨empty⟩

instance : Inhabited RoleSet := ⟨empty⟩

/-- A set with one more role. -/
def insert (s : RoleSet) (r : String) : RoleSet :=
  ⟨insertAscending r s.toList, pairwise_insertAscending s.ascending⟩

/-- The set of the listed roles. -/
def ofList (rs : List String) : RoleSet := rs.foldl insert empty

theorem mem_toList {s : RoleSet} {x : String} : x ∈ s.toList ↔ x ∈ s := Iff.rfl

@[simp] theorem not_mem_empty (x : String) : x ∉ empty := by
  simp [← mem_toList, empty]

@[simp] theorem mem_insert {s : RoleSet} {r x : String} : x ∈ s.insert r ↔ x = r ∨ x ∈ s :=
  mem_insertAscending

theorem mem_foldl_insert {rs : List String} {s : RoleSet} {x : String} :
    x ∈ rs.foldl insert s ↔ x ∈ rs ∨ x ∈ s := by
  induction rs generalizing s with
  | nil => simp
  | cons r rs ih => simp [ih, or_left_comm, or_assoc]

@[simp] theorem mem_ofList {rs : List String} {x : String} : x ∈ ofList rs ↔ x ∈ rs := by
  simp [ofList, mem_foldl_insert]

end RoleSet

/-- Why a lookup gives no roles. Contexts are the wording of the cause. -/
inductive LookupError
  | unavailable
  | unavailableBecause (context : String)
  | ambiguousUser (user : String) (count : Nat)
  | poolInitialisation (context : String)
  deriving DecidableEq, Repr

namespace LookupError

/-- Wording of an error. -/
def message : LookupError → String
  | unavailable => "directory unavailable"
  | unavailableBecause context => "directory unavailable: " ++ context
  | ambiguousUser user count => s!"{count} directory entries match user '{user}'"
  | poolInitialisation context => "connection pool initialisation failed: " ++ context

/-- Whether the directory could not be asked. -/
def isUnavailable : LookupError → Bool
  | unavailable | unavailableBecause _ => true
  | ambiguousUser .. | poolInitialisation _ => false

end LookupError

end RoleLookup
