import Mathlib
import RoleLookup.Proofs.Configuration.Lengths
import RoleLookup.Proofs.Configuration.Shapes

/-!
# Defaults agree

What a configuration leaves out means what its documented default means where it is written out.

* `defaults_agree`, for all members of all sections, in any order and among unknown ones.
-/

namespace RoleLookup.Configuration

open Yaml.Decode

/-- **Defaults agree.** Of a document that is accepted, any members with a default may be left out:
the rest is accepted, and holds what the document holds in which these members are written out,
whether the defaults of sections are spelled out or empty. Other orders of members and members of
unknown names, within any record, change nothing. Every length of time is kept as it is written,
cadences as one second at least, and numerals are read as what they write. -/
theorem defaults_agree {d : Yaml.Document} {path : Path} {n : Yaml.Node} {c : Configuration}
    (accepted : decoder d path n = .ok c) :
    (∀ spelled chosen, ∃ c',
      decoder d path ((shape spelled).amend d chosen false [] n) = .ok c' ∧
      decoder d path ((shape spelled).amend d chosen true [] n) = .ok c') ∧
    (∀ spelled n' n'', (shape spelled).Amends d n n' n'' →
      ∃ c', decoder d path n' = .ok c' ∧ decoder d path n'' = .ok c') ∧
    (∀ n', (shape true).Amends d n n' n → decoder d path n' = .ok c) ∧
    (∀ t ∈ lengths, t.Kept d n c) ∧
    ∀ (m : Nat) (p : Path), m < UInt64.size → count d p (word (toString m)) = .ok m := by
  have amends (spelled : Bool) (n' n'' : Yaml.Node) (h : (shape spelled).Amends d n n' n'') :
      ∃ c', decoder d path n' = .ok c' ∧ decoder d path n'' = .ok c' :=
    respects_decoder spelled d path n n' n'' h c accepted
  refine ⟨fun spelled chosen => ?_, amends, fun n' h => ?_, lengths_kept accepted,
    fun m p hm => count_toString hm none⟩
  · exact amends spelled _ _ ((shape spelled).amends_amend chosen [] n)
  · obtain ⟨c', hn', hn⟩ := amends true n' n h
    rw [hn', ← hn, accepted]

/-- A document with a directory and a cache: the cache is left out and emptied, and the members are
written in another order, with an unknown one among them. -/
theorem defaults_agree_cache :
    let directory : String × Yaml.Node := ("directory", mappingOf
      [("host", word "ldap"), ("port", word "389"), ("search base", word "dc=example")])
    let cache : String × Yaml.Node := ("cache", mappingOf [("ttl in ms", word "60000")])
    let n := mappingOf [cache, directory]
    let d : Yaml.Document := ⟨n, [], true⟩
    let c : Configuration :=
      { directory := { host := "ldap", port := 389, searchBase := "dc=example" }
        cache := { timeToLive := 60000 } }
    decoder d [] n = .ok c ∧
    (∃ c', decoder d [] (mappingOf [directory]) = .ok c' ∧
      decoder d [] (mappingOf [("cache", mappingOf []), directory]) = .ok c') ∧
    decoder d [] (mappingOf [directory, ("colour", word "blue"), cache]) = .ok c ∧
    (∀ t ∈ lengths, t.Kept d n c) ∧ count d [] (word (toString 60000)) = .ok 60000 := by
  intro directory cache n d c
  have accepted : decoder d [] n = .ok c := rfl
  have left : (shape false).amend d (· == ["cache"]) false [] n = mappingOf [directory] := by cbv
  have emptied : (shape false).amend d (· == ["cache"]) true [] n =
      mappingOf [("cache", mappingOf []), directory] := by cbv
  obtain ⟨leaves, -, reorders, kept, numerals⟩ := defaults_agree accepted
  have hcache := leaves false (· == ["cache"])
  rw [left, emptied] at hcache
  have perm : [(word "cache", cache.2), (word "directory", directory.2),
      (word "colour", word "blue")].Perm
      [(word "directory", directory.2), (word "colour", word "blue"), (word "cache", cache.2)] :=
    (List.Perm.swap _ _ _).trans (.cons _ (.swap _ _ _))
  have colour : keyName? d (word "colour") = some "colour" := rfl
  have reordered :
      (shape true).Amends d n (mappingOf [directory, ("colour", word "blue"), cache]) n := by
    refine .inr ⟨none, _, _, _, true, rfl, rfl, rfl,
      .reorder perm (.same _ (.same _ (.add colour ?_ rfl .nil))), fun h => ⟨?_, h⟩⟩
    · decide
    · unfold Distinct
      decide
  exact ⟨accepted, hcache, reorders _ reordered, kept, numerals 60000 [] (by decide)⟩

end RoleLookup.Configuration
