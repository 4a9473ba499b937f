import RoleLookup.Proofs.Client.Searches
import RoleLookup.Proofs.Directory.RolesOfEntry
import RoleLookup.Proofs.Directory.UserFilter
import RoleLookup.Proofs.Text.Utf8

/-!
# Values without a role

The directory may send a value of the group attribute of which no role can be made: bytes that are
not a text, a malformed name, or one without a common name. A text is skipped by itself. Bytes that
are not a text take all the values with them that came under the same name.

* `Unusable`, a value of which no role can be made;
* `readAttribute`, one step of reading an entry, and `RawEntry.exists_of_has_decode`, what is read
  was sent;
* `SameRoles`, attributes that differ in values without a role only, with `roles_of_sameRoles`;
* `roles_insert_text`, `decode_insert_bytes`, an entry with one more value, and
  `roles_decode_of_alone`, one with no other value;
* `Client.unusable_texts_cost_themselves`, what a lookup makes of such a value.
-/

namespace RoleLookup.Directory

variable {name g dn value text : String} {bad : List UInt8} {us vs : List (List UInt8)}
  {as bs : List (String × List (List UInt8))} {ts ws : List String}

/-- No role can be made of a value. -/
def Unusable (bad : List UInt8) : Prop :=
  ∀ text role, Text.decode? bad = some text →
    DistinguishedName.firstCommonName text ≠ .ok (some role)

theorem unusable_of_not_text (h : Text.decode? bad = none) : Unusable bad := by
  intro text role htext
  rw [h] at htext
  cases htext

/-! ### Reading an entry -/

/-- The values of an attribute with one more text among them. -/
theorem texts?_insert_text (h : Text.decode? bad = some text) (us vs : List (List UInt8)) :
    (texts? (us ++ vs) = none ∧ texts? (us ++ bad :: vs) = none) ∨
      ∃ ts ws, texts? (us ++ vs) = some (ts ++ ws) ∧
        texts? (us ++ bad :: vs) = some (ts ++ text :: ws) := by
  simp only [texts?, List.mapM_append, List.mapM_cons, h]
  cases us.mapM Text.decode? with
  | none => exact .inl ⟨rfl, rfl⟩
  | some ts =>
    cases vs.mapM Text.decode? with
    | none => exact .inl ⟨rfl, rfl⟩
    | some ws => exact .inr ⟨ts, ws, rfl, rfl⟩

/-- One value that is not a text, and the attribute is not one. -/
theorem texts?_insert_bytes (h : Text.decode? bad = none) (us vs : List (List UInt8)) :
    texts? (us ++ bad :: vs) = none := by
  simp only [texts?, List.mapM_append, List.mapM_cons, h]
  cases us.mapM Text.decode? <;> rfl

theorem exists_of_mem_texts? (h : texts? vs = some ts) (hvalue : value ∈ ts) :
    ∃ v ∈ vs, Text.decode? v = some value := by
  induction vs generalizing ts with
  | nil =>
    cases h
    cases hvalue
  | cons v vs ih =>
    simp only [texts?, List.mapM_cons] at h
    cases hv : Text.decode? v with
    | none => simp [hv] at h
    | some t =>
      cases hvs : vs.mapM Text.decode? with
      | none => simp [hv, hvs] at h
      | some ts' =>
        obtain rfl : t :: ts' = ts := by simpa [hv, hvs] using h
        rcases List.mem_cons.1 hvalue with rfl | hvalue
        · exact ⟨v, List.mem_cons_self, hv⟩
        · obtain ⟨w, hw, hdecode⟩ := ih hvs hvalue
          exact ⟨w, List.mem_cons_of_mem _ hw, hdecode⟩

/-- The attributes read so far, and the next one. -/
def readAttribute (as : List (String × List String)) (a : String × List (List UInt8)) :
    List (String × List String) :=
  match texts? a.2 with
  | some values => setAttribute a.1 values as
  | none => as

theorem RawEntry.decode_eq (e : RawEntry) :
    e.decode = ⟨e.dn, e.attributes.foldl readAttribute []⟩ := rfl

theorem mem_setAttribute {as : List (String × List String)} {a : String × List String}
    (h : a ∈ setAttribute name ts as) : a = (name, ts) ∨ a ∈ as := by
  induction as with
  | nil => exact .inl (List.mem_singleton.1 h)
  | cons b as ih =>
    rw [setAttribute] at h
    split at h
    · exact (List.mem_cons.1 h).imp_right (List.mem_cons_of_mem b)
    · rcases List.mem_cons.1 h with rfl | h
      · exact .inr List.mem_cons_self
      · exact (ih h).imp_right (List.mem_cons_of_mem b)

/-- What is read was sent. -/
theorem mem_of_mem_fold {cs : List (String × List String)} {a : String × List String}
    (h : a ∈ as.foldl readAttribute cs) :
    a ∈ cs ∨ ∃ x ∈ as, x.1 = a.1 ∧ texts? x.2 = some a.2 := by
  induction as generalizing cs with
  | nil => exact .inl h
  | cons x as ih =>
    rcases ih h with hread | ⟨y, hy, hname, htexts⟩
    · unfold readAttribute at hread
      split at hread
      · rename_i htexts
        rcases mem_setAttribute hread with rfl | hread
        · exact .inr ⟨x, List.mem_cons_self, rfl, htexts⟩
        · exact .inl hread
      · exact .inl hread
    · exact .inr ⟨y, List.mem_cons_of_mem x hy, hname, htexts⟩

theorem RawEntry.exists_of_has_decode {e : RawEntry} (h : e.decode.Has g value) :
    ∃ x ∈ e.attributes, SameName x.1 g ∧ ∃ v ∈ x.2, Text.decode? v = some value := by
  obtain ⟨a, ha, hname, hvalue⟩ := h
  rw [decode_eq] at ha
  rcases mem_of_mem_fold ha with ha | ⟨x, hx, hxa, htexts⟩
  · cases ha
  · exact ⟨x, hx, hxa ▸ hname, exists_of_mem_texts? htexts hvalue⟩

/-! ### Values that differ in no role -/

/-- Two attributes have the same name, and the same values but for those without a role. -/
def SameRoles (a b : String × List String) : Prop :=
  a.1 = b.1 ∧ ∀ value role, DistinguishedName.firstCommonName value = .ok (some role) →
    (value ∈ a.2 ↔ value ∈ b.2)

theorem SameRoles.refl (a : String × List String) : SameRoles a a := ⟨rfl, fun _ _ _ => Iff.rfl⟩

theorem SameRoles.setAttribute {as bs : List (String × List String)}
    (hvalues : SameRoles (name, ts) (name, ws)) (h : List.Forall₂ SameRoles as bs) :
    List.Forall₂ SameRoles (setAttribute name ts as) (setAttribute name ws bs) := by
  induction h with
  | nil => exact .cons hvalues .nil
  | @cons a b as bs hab h ih =>
    rw [Directory.setAttribute, Directory.setAttribute, hab.1]
    split
    · exact .cons hvalues h
    · exact .cons hab ih

theorem SameRoles.foldl {cs ds : List (String × List String)} (h : List.Forall₂ SameRoles cs ds)
    (as : List (String × List (List UInt8))) :
    List.Forall₂ SameRoles (as.foldl readAttribute cs) (as.foldl readAttribute ds) := by
  induction as generalizing cs ds with
  | nil => exact h
  | cons a as ih =>
    refine ih ?_
    unfold readAttribute
    split
    · exact (SameRoles.refl _).setAttribute h
    · exact h

theorem roles_of_sameRoles {cs ds : List (String × List String)}
    (h : List.Forall₂ SameRoles cs ds) : Entry.roles ⟨dn, cs⟩ g = Entry.roles ⟨dn, ds⟩ g := by
  refine Entry.roles_congr fun value role hrole => ?_
  induction h with
  | nil => rfl
  | cons hab _ ih =>
    simp only [Entry.Has, List.exists_mem_cons_iff] at ih ⊢
    rw [ih, hab.1, hab.2 value role hrole]

/-! ### An entry with one more value -/

/-- A text without a role costs only itself. -/
theorem roles_insert_text (htext : Text.decode? bad = some text) (unusable : Unusable bad) :
    (RawEntry.decode ⟨dn, as ++ (name, us ++ bad :: vs) :: bs⟩).roles g =
      (RawEntry.decode ⟨dn, as ++ (name, us ++ vs) :: bs⟩).roles g := by
  simp only [RawEntry.decode_eq, List.foldl_append, List.foldl_cons]
  refine roles_of_sameRoles (SameRoles.foldl ?_ bs)
  generalize as.foldl readAttribute [] = cs
  have read : List.Forall₂ SameRoles cs cs := List.forall₂_same.2 fun a _ => SameRoles.refl a
  unfold readAttribute
  rcases texts?_insert_text htext us vs with ⟨hnone, hnone'⟩ | ⟨ts, ws, hsome, hsome'⟩
  · simp only [hnone, hnone']
    exact read
  · simp only [hsome, hsome']
    refine SameRoles.setAttribute ⟨rfl, fun value role hrole => ?_⟩ read
    have hne : value ≠ text := fun h => unusable text role htext (h ▸ hrole)
    simp [hne]

/-- Bytes that are not a text take with them the values that came under the same name. -/
theorem decode_insert_bytes (h : Text.decode? bad = none) :
    RawEntry.decode ⟨dn, as ++ (name, us ++ bad :: vs) :: bs⟩ = RawEntry.decode ⟨dn, as ++ bs⟩ := by
  have skipped (cs) : readAttribute cs (name, us ++ bad :: vs) = cs := by
    simp only [readAttribute, texts?_insert_bytes h]
  simp only [RawEntry.decode_eq, List.foldl_append, List.foldl_cons, skipped]

/-- If no role can be made of any value that was sent, there is none. -/
theorem roles_decode_eq_empty {e : RawEntry} (h : ∀ x ∈ e.attributes, SameName x.1 g →
    ∀ v ∈ x.2, Unusable v) : e.decode.roles g = .empty := by
  refine RoleSet.eq_of_mem_iff fun role => ?_
  rw [Entry.mem_roles]
  constructor
  · rintro ⟨value, has, hrole⟩
    obtain ⟨x, hx, hname, v, hv, hdecode⟩ := RawEntry.exists_of_has_decode has
    exact absurd hrole (h x hx hname v hv value role hdecode)
  · nofun

theorem roles_decode_of_absent (absent : ∀ x ∈ as, ¬ SameName x.1 g) :
    (RawEntry.decode ⟨dn, as⟩).roles g = .empty :=
  roles_decode_eq_empty fun x hx hname => absurd hname (absent x hx)

theorem roles_decode_of_alone (unusable : Unusable bad)
    (absent : ∀ x ∈ as ++ bs, ¬ SameName x.1 g) :
    (RawEntry.decode ⟨dn, as ++ (name, [bad]) :: bs⟩).roles g = .empty := by
  refine roles_decode_eq_empty fun x hx hname v hv => ?_
  rcases List.mem_append.1 hx with hx | hx
  · exact absurd hname (absent x (List.mem_append_left bs hx))
  rcases List.mem_cons.1 hx with rfl | hx
  · exact List.mem_singleton.1 hv ▸ unusable
  · exact absurd hname (absent x (List.mem_append_right as hx))

namespace Client

/-- **Unusable texts cost only themselves.** Let a search find one entry, and let the directory
send one more value without a role, anywhere among the values of an attribute. If the value is a
text, the lookup gives the same roles. If it is not, the lookup gives the roles of the entry without
all the values that came with it, which are none if there are no others. -/
theorem unusable_texts_cost_themselves {c : Client} {l a : Nat} {user : String}
    (hl : c.lookups[l]? = some ⟨user, a, .searching⟩) (dn name : String)
    (as bs : List (String × List (List UInt8))) (us vs : List (List UInt8)) (bad : List UInt8)
    {answer answer' rest : SearchAnswer}
    (h : answer.entries = .ok [⟨dn, as ++ (name, us ++ vs) :: bs⟩])
    (h' : answer'.entries = .ok [⟨dn, as ++ (name, us ++ bad :: vs) :: bs⟩])
    (hrest : rest.entries = .ok [⟨dn, as ++ bs⟩]) (unusable : Unusable bad) :
    let absent := ∀ x ∈ as ++ bs, ¬ SameName x.1 c.settings.groupAttribute
    let gives (answer : SearchAnswer) (roles : RoleSet) :=
      (c.step (.answer l answer)).outcome? l = some (.ok roles)
    (∀ text, Text.decode? bad = some text → ∃ roles, gives answer roles ∧ gives answer' roles) ∧
    (Text.decode? bad = none → ∃ roles, gives rest roles ∧ gives answer' roles) ∧
    (Text.decode? bad = none → absent → gives answer' .empty) ∧
    (us = [] → vs = [] → absent → gives rest .empty ∧ gives answer' .empty) := by
  intro absent gives
  have hanswer : gives answer _ := outcome?_of_entry hl h
  have hanswer' : gives answer' _ := outcome?_of_entry hl h'
  have hgives : gives rest _ := outcome?_of_entry hl hrest
  refine ⟨fun text htext => ?_, fun hbytes => ?_, fun hbytes none => ?_, ?_⟩
  · rw [roles_insert_text htext unusable] at hanswer'
    exact ⟨_, hanswer, hanswer'⟩
  · rw [decode_insert_bytes hbytes] at hanswer'
    exact ⟨_, hgives, hanswer'⟩
  · rwa [decode_insert_bytes hbytes, roles_decode_of_absent none] at hanswer'
  · rintro rfl rfl none
    rw [roles_decode_of_absent none] at hgives
    rw [List.nil_append, roles_decode_of_alone unusable none] at hanswer'
    exact ⟨hgives, hanswer'⟩

/-- The only lookup of a client waits for the answer to its search. -/
theorem searching_alice :
    let settings : Settings := { host := "ldap", port := 389, searchBase := "", poolSize := 1 }
    let connector : Connector :=
      ⟨⟨"ldap", none, "", none, none⟩, false, 3000, 3000, none, "", ""⟩
    let lent : List Step := [.lookup "alice", .pool (.enter 0), .pool (.connected 0 (.ok ())),
      .pool (.grant 0), .pool (.take 0)]
    ((ofSettings settings connector).run (lent ++ [Step.search 0])).lookups[0]? =
      some ⟨"alice", 0, .searching⟩ := by
  intro settings connector lent
  have hlent : ((ofSettings settings connector).run lent).lookups[0]? =
      some ⟨"alice", 0, .acquiring⟩ := by rfl
  have held : ((ofSettings settings connector).run lent).pool.held? 0 = some 0 := by decide
  obtain ⟨events, h⟩ := step_search hlent held (settings.query?_eq isDescription_uid "alice")
  rw [run_concat, h]
  rfl

/-- The name of a group, and after it a name without a common name or a byte that is not a text. The
byte costs the role of the group as well. -/
theorem unusable_texts_cost_themselves_alice :
    let settings : Settings := { host := "ldap", port := 389, searchBase := "", poolSize := 1 }
    let connector : Connector :=
      ⟨⟨"ldap", none, "", none, none⟩, false, 3000, 3000, none, "", ""⟩
    let lent : List Step := [.lookup "alice", .pool (.enter 0), .pool (.connected 0 (.ok ())),
      .pool (.grant 0), .pool (.take 0)]
    let c := (ofSettings settings connector).run (lent ++ [Step.search 0])
    let group := Text.bytes "cn=devs"
    let unit := Text.bytes "ou=Groups"
    let sent (values : List (List UInt8)) : SearchAnswer :=
      ⟨[.entry ⟨"uid=alice", [("memberOf", values)]⟩], .ok ⟨0, "", ""⟩⟩
    let outcome (answer : SearchAnswer) := (c.step (.answer 0 answer)).outcome? 0
    (∃ roles, outcome (sent [group]) = some (.ok roles) ∧
      outcome (sent [group, unit]) = some (.ok roles)) ∧
    outcome (sent [group, [0xff]]) = some (.ok .empty) := by
  intro settings connector lent c group unit sent outcome
  have hl : c.lookups[0]? = some ⟨"alice", 0, .searching⟩ := searching_alice
  have hunit : Text.decode? unit = some "ou=Groups" := Text.decode?_eq_some.2 rfl
  have hname : DistinguishedName.firstCommonName "ou=Groups" = .ok none := by decide +kernel
  have unusable : Unusable unit := by
    intro text role htext
    rw [hunit] at htext
    cases htext
    simp [hname]
  have hbyte : Text.decode? [0xff] = none := rfl
  have hgroup : (sent [group]).entries = .ok [⟨"uid=alice", [("memberOf", [group])]⟩] := rfl
  have hrest : (⟨[.entry ⟨"uid=alice", []⟩], .ok ⟨0, "", ""⟩⟩ : SearchAnswer).entries =
      .ok [⟨"uid=alice", []⟩] := rfl
  have hwith (bad : List UInt8) : (sent [group, bad]).entries =
      .ok [⟨"uid=alice", [("memberOf", [group, bad])]⟩] := rfl
  obtain ⟨htext, -⟩ := unusable_texts_cost_themselves hl "uid=alice" "memberOf" [] [] [group] []
    unit hgroup (hwith unit) hrest unusable
  obtain ⟨-, -, hbytes, -⟩ := unusable_texts_cost_themselves hl "uid=alice" "memberOf" [] [] [group]
    [] [0xff] hgroup (hwith [0xff]) hrest (unusable_of_not_text hbyte)
  exact ⟨htext _ hunit, hbytes hbyte nofun⟩

/-- Bytes that are not a text cost more than themselves. -/
theorem not_every_unusable_value_costs_itself :
    ¬ ∀ (settings : Settings) (connector : Connector) (ss : List Step) (l a : Nat) (user : String),
      let c := (ofSettings settings connector).run ss
      c.lookups[l]? = some ⟨user, a, .searching⟩ →
      ∀ (dn name : String) (as bs : List (String × List (List UInt8))) (us vs : List (List UInt8))
        (bad : List UInt8) (answer answer' : SearchAnswer),
        SameName name settings.groupAttribute → Unusable bad →
        answer.entries = .ok [⟨dn, as ++ (name, us ++ vs) :: bs⟩] →
        answer'.entries = .ok [⟨dn, as ++ (name, us ++ bad :: vs) :: bs⟩] →
        (c.step (.answer l answer')).outcome? l = (c.step (.answer l answer)).outcome? l := by
  intro h
  let sent (values : List (List UInt8)) : SearchAnswer :=
    ⟨[.entry ⟨"uid=alice", [("memberOf", values)]⟩], .ok ⟨0, "", ""⟩⟩
  have hbyte : Text.decode? [0xff] = none := rfl
  have hname : SameName "memberOf" "memberOf" := sameIgnoringCase_iff.1 (by decide)
  have hsame := h _ _ _ 0 0 "alice" searching_alice "uid=alice" "memberOf" [] []
    [Text.bytes "cn=devs"] [] [0xff] (sent [Text.bytes "cn=devs"])
    (sent [Text.bytes "cn=devs", [0xff]]) hname (unusable_of_not_text hbyte) rfl rfl
  rw [outcome?_of_entry searching_alice rfl, outcome?_of_entry searching_alice rfl,
    settings_run] at hsame
  have hread : RawEntry.decode ⟨"uid=alice", [("memberOf", [Text.bytes "cn=devs"])]⟩ =
      ⟨"uid=alice", [("memberOf", ["cn=devs"])]⟩ := by decide +kernel
  have hlost : RawEntry.decode ⟨"uid=alice", [("memberOf", [Text.bytes "cn=devs", [0xff]])]⟩ =
      ⟨"uid=alice", []⟩ := by decide +kernel
  have hroles : Entry.roles ⟨"uid=alice", []⟩ "memberOf" =
      Entry.roles ⟨"uid=alice", [("memberOf", ["cn=devs"])]⟩ "memberOf" := by
    rw [← hread, ← hlost]
    exact Except.ok.inj (Option.some.inj hsame)
  have hdevs : "devs" ∈ Entry.roles ⟨"uid=alice", [("memberOf", ["cn=devs"])]⟩ "memberOf" :=
    Entry.mem_roles.2 ⟨"cn=devs", ⟨_, List.mem_cons_self, hname, List.mem_cons_self⟩,
      by decide +kernel⟩
  rw [← hroles] at hdevs
  obtain ⟨value, ⟨a, ha, -⟩, -⟩ := Entry.mem_roles.1 hdevs
  cases ha

end Client
end RoleLookup.Directory
