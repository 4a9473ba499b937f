import RoleLookup.Configuration.Document
import RoleLookup.Proofs.Text.Numerals
import RoleLookup.Proofs.Yaml.Records

/-!
# Lengths of time in a configuration

* `count_toString`, a numeral is read as the number that it writes;
* `Reads`, what is read for a member of a record;
* `lengths`, the lengths of time that can be set, and `lengths_kept`, each of them is what is
  written for it, or its default.
-/

namespace RoleLookup.Configuration

open Yaml Yaml.Decode

variable {d : Document} {path : Path} {name expected : String} {n v : Yaml.Node}
  {ds : List Member} {ms : List (Yaml.Node × Yaml.Node)} {r : Members} {α : Type}

/-! ### Numerals -/

/-- A numeral has a first digit, and no digits behind a zero. -/
theorem exists_cons_toString (m : Nat) : ∃ c cs, (toString m).toList = c :: cs ∧
    c.isDigit = true ∧ (c = '0' → cs = []) := by
  cases hcs : (toString m).toList with
  | nil => exact absurd hcs (Text.toString_ne_nil m)
  | cons c cs =>
    refine ⟨c, cs, rfl, Text.isDigit_of_mem_toString (hcs ▸ List.mem_cons_self), ?_⟩
    rintro rfl
    cases m with
    | zero =>
      cases hcs
      rfl
    | succ m =>
      have hhead := Text.head?_toString_ne (Nat.succ_pos m)
      rw [hcs] at hhead
      exact absurd rfl hhead

theorem isPadded_toString (m : Nat) : isPadded (toString m).toList = false := by
  obtain ⟨c, cs, hcs, hc, hzero⟩ := exists_cons_toString m
  have hminus : c ≠ '-' := by
    rintro rfl
    cases hc
  have hplus : c ≠ '+' := by
    rintro rfl
    cases hc
  rw [hcs]
  by_cases h0 : c = '0'
  · subst h0
    rw [hzero rfl]
    rfl
  · simp [isPadded, hminus, hplus, h0]

theorem digitsIn?_toString (m : Nat) : digitsIn? 10 (toString m).toList = some m := by
  have hall : (toString m).toList.all (fun c => (Text.hexDigit? c).any (· < 10)) = true := by
    rw [List.all_eq_true]
    intro c hc
    have hdigit := Text.isDigit_of_mem_toString hc
    have hrange : c.toNat ≤ '9'.toNat := by
      have : '0' ≤ c ∧ c ≤ '9' := by simpa [Char.isDigit, Char.le_def] using hdigit
      exact this.2
    have hvalue : c.toNat - '0'.toNat < 10 := by
      have : '9'.toNat = '0'.toNat + 9 := rfl
      omega
    simpa [Text.hexDigit?_of_isDigit hdigit] using hvalue
  have hne : (toString m).toList.isEmpty = false :=
    List.isEmpty_eq_false_iff.2 (Text.toString_ne_nil m)
  rw [digitsIn?, hall, hne]
  exact congrArg some (Text.decimal_toString m)

theorem unsigned?_toString (m : Nat) : unsigned? (toString m).toList = some m := by
  obtain ⟨c, cs, hcs, hc, hzero⟩ := exists_cons_toString m
  have hplus : c ≠ '+' := by
    rintro rfl
    cases hc
  have hnumeral : numeral? (c :: cs) = digitsIn? 10 (c :: cs) := by
    unfold numeral?
    split
    case h_4 => rfl
    all_goals
      rename_i heq
      obtain ⟨rfl, rfl⟩ := List.cons.inj heq
      cases hzero rfl
  have hhead : ((toString m).toList.head? == some '+') = false := by
    simpa only [hcs, List.head?_cons, beq_eq_false_iff_ne, ne_eq, Option.some.injEq] using hplus
  rw [unsigned?, isPadded_toString, hhead]
  simp only [Bool.false_eq_true, if_false]
  rw [hcs, hnumeral, ← hcs, digitsIn?_toString]

/-- A numeral is read as the number that it writes. -/
theorem count_toString {m : Nat} (h : m < UInt64.size) (tag : Option String) :
    count d path (.scalar tag .plain (toString m)) = .ok m := by
  have hread := unsigned?_toString m
  generalize toString m = text at hread ⊢
  have hfilter : (some m).filter (· < UInt64.size) = some m := by
    rw [Option.filter_some, if_pos (by simpa using h)]
  have hlimit : m ≤ UInt64.size - 1 := by omega
  simp only [count, unsigned, resolve, isReadable, beq_self_eq_true, Bool.true_or, if_true, hread,
    hfilter, hlimit]

/-! ### What is read for a member -/

theorem node?_known {names : List String} (hname : name ∈ names) :
    (known names d ms).node? name =
      (ms.find? fun kv => keyName? d kv.1 == some name).map (·.2) := by
  induction ms with
  | nil => rfl
  | cons kv ms ih =>
    obtain ⟨k, v⟩ := kv
    by_cases hk : keyName? d k = some name
    · rw [known_cons_of_mem hk hname, node?_cons, if_pos rfl, List.find?_cons_of_pos (by simpa)]
      rfl
    · rw [List.find?_cons_of_neg (by simpa), ← ih]
      by_cases hkv : ∃ name' ∈ names, keyName? d k = some name'
      · obtain ⟨name', hname', hk'⟩ := hkv
        have hne : name' ≠ name := fun heq => hk (heq ▸ hk')
        rw [known_cons_of_mem hk' hname', node?_cons, if_neg hne]
      · rw [known_cons_of_notMem fun name' hname' heq => hkv ⟨name', hname', heq⟩]

/-- The members that are written are those of the mapping. -/
theorem node?_of_written (h : written expected ds d path n = .ok r)
    (hname : name ∈ ds.map (·.name)) : r.node? name = member? d name n := by
  obtain ⟨tag, ms, hn, -, -, rfl⟩ | ⟨⟨tag, hn⟩, rfl⟩ := written_eq_ok_iff.1 h
  · rw [node?_known hname, member?, hn]
  · rw [member?, hn]
    rfl

/-- A member has been read: what is written for it, or its default. -/
structure Reads (d : Document) (name : String) (n : Yaml.Node) (decoder : Decoder α)
    (dflt x : α) : Prop where
  default : member? d name n = none → x = dflt
  written : ∀ v, member? d name n = some v → ∃ path, decoder d path v = .ok x

theorem reads_of_withDefault {decoder : Decoder α} {dflt x : α}
    (hr : ∀ name ∈ ds.map (·.name), r.node? name = member? d name n)
    (hname : name ∈ ds.map (·.name)) (h : r.withDefault d path name decoder dflt = .ok x) :
    Reads d name n decoder dflt x := by
  rw [Members.withDefault, hr name hname] at h
  cases hv : member? d name n with
  | none =>
    rw [hv] at h
    refine ⟨fun _ => (Except.ok.inj h).symm, fun v hv' => ?_⟩
    rw [hv] at hv'
    cases hv'
  | some v =>
    rw [hv] at h
    refine ⟨fun hv' => ?_, fun v' hv' => ⟨path ++ [.member name], ?_⟩⟩
    · rw [hv] at hv'
      cases hv'
    · rw [hv, Option.some.injEq] at hv'
      exact hv' ▸ h

theorem directorySection_reads {s : Directory.Settings} (h : directorySection d path n = .ok s) :
    Reads d "max connection age in ms" n count 15000 s.maxConnectionAge ∧
      Reads d "connect timeout in ms" n count 3000 s.connectTimeout ∧
      Reads d "response timeout in ms" n count 3000 s.responseTimeout := by
  -- one result for each member, in the order in which they are read
  simp only [directorySection, bind_eq_ok] at h
  obtain ⟨r, hr, _, -, _, -, _, -, _, -, _, -, _, -, _, -, _, -, _, -, _, -, _, -, age, hage,
    connect, hconnect, response, hresponse, _, -, _, -, _, -, hs⟩ := h
  cases hs
  have hnode (name : String) : name ∈ directoryMembers.map (·.name) →
      r.node? name = member? d name n := node?_of_written hr
  exact ⟨reads_of_withDefault hnode (by simp [directoryMembers, Member.of]) hage,
    reads_of_withDefault hnode (by simp [directoryMembers, Member.of]) hconnect,
    reads_of_withDefault hnode (by simp [directoryMembers, Member.of]) hresponse⟩

theorem cacheSection_reads {s : CacheSettings × Bool} (h : cacheSection d path n = .ok s) :
    Reads d "ttl in ms" n count 300000 s.1.timeToLive := by
  simp only [cacheSection, bind_eq_ok] at h
  obtain ⟨r, hr, _, -, timeToLive, httl, _, -, _, -, hs⟩ := h
  cases hs
  exact reads_of_withDefault (fun _ => node?_of_written hr) (by simp [cacheMembers, Member.of]) httl

theorem healthSection_reads {s : HealthSettings} (h : healthSection d path n = .ok s) :
    Reads d "fast cadence in seconds" n count 10 s.fastCadence ∧
      Reads d "slow cadence in seconds" n count 900 s.slowCadence := by
  simp only [healthSection, bind_eq_ok] at h
  obtain ⟨r, hr, fast, hfast, slow, hslow, hs⟩ := h
  cases hs
  have hnode (name : String) : name ∈ healthMembers.map (·.name) →
      r.node? name = member? d name n := node?_of_written hr
  exact ⟨reads_of_withDefault hnode (by simp [healthMembers, Member.of]) hfast,
    reads_of_withDefault hnode (by simp [healthMembers, Member.of]) hslow⟩

/-- The sections that have been read. -/
theorem decoder_reads {c : Configuration} (h : decoder d path n = .ok c) :
    (∃ part path, member? d "directory" n = some part ∧
      directorySection d path part = .ok c.directory) ∧
    (∃ b, Reads d "cache" n cacheSection ({}, false) (c.cache, b)) ∧
    Reads d "health" n healthSection {} c.health := by
  simp only [decoder, bind_eq_ok] at h
  obtain ⟨r, hr, directory, hdirectory, cache, hcache, health, hhealth, _, -, hs⟩ := h
  cases hs
  have hnode (name : String) : name ∈ sections.map (·.name) →
      r.node? name = member? d name n := node?_of_written hr
  refine ⟨?_, ⟨cache.2, reads_of_withDefault hnode (by simp [sections, Member.of]) hcache⟩,
    reads_of_withDefault hnode (by simp [sections, Member.of]) hhealth⟩
  rw [Members.required, hnode "directory" (by simp [sections, Member.of])] at hdirectory
  cases hpart : member? d "directory" n with
  | none =>
    rw [hpart] at hdirectory
    cases hdirectory
  | some part =>
    rw [hpart] at hdirectory
    exact ⟨part, _, rfl, hdirectory⟩

/-! ### Lengths of time -/

/-- A length of time that can be set: its section and key, its default, what it is raised to, and
where it is kept. -/
structure Length where
  part : String
  key : String
  dflt : Nat
  least : Nat
  kept : Configuration → Nat

/-- The node that is written for a length of time. -/
def Length.node? (t : Length) (d : Document) (n : Yaml.Node) : Option Yaml.Node :=
  (member? d t.part n).bind (member? d t.key)

/-- All lengths of time. -/
def lengths : List Length :=
  [⟨"directory", "max connection age in ms", 15000, 0, (·.directory.maxConnectionAge)⟩,
    ⟨"directory", "connect timeout in ms", 3000, 0, (·.directory.connectTimeout)⟩,
    ⟨"directory", "response timeout in ms", 3000, 0, (·.directory.responseTimeout)⟩,
    ⟨"cache", "ttl in ms", 300000, 0, (·.cache.timeToLive)⟩,
    ⟨"health", "fast cadence in seconds", 10, 1, (·.health.fast)⟩,
    ⟨"health", "slow cadence in seconds", 900, 1, (·.health.slow)⟩]

/-- A length of time is kept as it is written. -/
structure Length.Kept (t : Length) (d : Document) (n : Yaml.Node) (c : Configuration) : Prop where
  default : t.node? d n = none → t.kept c = max t.dflt t.least
  written : ∀ v, t.node? d n = some v →
    ∃ path m, count d path v = .ok m ∧ t.kept c = max m t.least

/-- A length of time whose section is written. -/
theorem Length.Kept.of_reads {t : Length} {c : Configuration} {part : Yaml.Node} {m : Nat}
    (hpart : member? d t.part n = some part) (hread : Reads d t.key part count t.dflt m)
    (hkept : t.kept c = max m t.least) : t.Kept d n c := by
  have hnode : t.node? d n = member? d t.key part := by rw [Length.node?, hpart, Option.bind_some]
  constructor
  · intro hnone
    rw [hkept, hread.default (hnode ▸ hnone)]
  · intro v hv
    obtain ⟨path, hm⟩ := hread.written v (hnode ▸ hv)
    exact ⟨path, m, hm, hkept⟩

/-- A length of time whose section may be left out. -/
theorem Length.Kept.of_section {t : Length} {c : Configuration} {reader : Decoder α}
    {dflt x : α}
    (hpart : Reads d t.part n reader dflt x)
    (hdefault : x = dflt → t.kept c = max t.dflt t.least)
    (hwritten : ∀ path part, reader d path part = .ok x →
      ∃ m, Reads d t.key part count t.dflt m ∧ t.kept c = max m t.least) : t.Kept d n c := by
  cases hnode : member? d t.part n with
  | none =>
    have hnone : t.node? d n = none := by rw [Length.node?, hnode, Option.bind_none]
    refine ⟨fun _ => hdefault (hpart.default hnode), fun v hv => ?_⟩
    rw [hnone] at hv
    cases hv
  | some part =>
    obtain ⟨path, hsection⟩ := hpart.written part hnode
    obtain ⟨m, hread, hkept⟩ := hwritten path part hsection
    exact .of_reads hnode hread hkept

/-- All lengths of time are kept as they are written. -/
theorem lengths_kept {c : Configuration} (h : decoder d path n = .ok c) :
    ∀ t ∈ lengths, t.Kept d n c := by
  obtain ⟨⟨part, p, hpart, hdirectory⟩, ⟨b, hcache⟩, hhealth⟩ := decoder_reads h
  obtain ⟨age, connect, response⟩ := directorySection_reads hdirectory
  simp only [lengths, List.mem_cons, List.not_mem_nil, or_false, forall_eq_or_imp, forall_eq]
  have directory {key : String} {dflt : Nat} {kept : Configuration → Nat}
      (hread : Reads d key part count dflt (kept c)) :
      (Length.mk "directory" key dflt 0 kept).Kept d n c :=
    .of_reads hpart hread (Nat.max_zero _).symm
  refine ⟨directory age, directory connect, directory response, ?_, ?_, ?_⟩
  · exact .of_section hcache (fun heq => congrArg (CacheSettings.timeToLive ∘ Prod.fst) heq)
      fun _ _ h => ⟨_, cacheSection_reads h, (Nat.max_zero _).symm⟩
  · exact .of_section hhealth (congrArg HealthSettings.fast) fun _ _ h =>
      ⟨_, (healthSection_reads h).1, rfl⟩
  · exact .of_section hhealth (congrArg HealthSettings.slow) fun _ _ h =>
      ⟨_, (healthSection_reads h).2, rfl⟩

end RoleLookup.Configuration
