import RoleLookup.Proofs.Yaml.Shape

/-!
# Readers that respect a shape

A reader respects a shape if, of any three versions of a node, the second and the third mean the
same to it whenever the first means something.

* `Keeps`, results of which the last two agree if the first is one;
* `Shape.Respects`, readers of such results, and `Mandatory`, `Defaulting`, for a member of a
  record;
* `respects_record` and `respects_choice`, readers of records and of alternatives.
-/

namespace RoleLookup.Yaml.Decode

variable {d : Document} {path : Path} {name expected : String} {k n n' n'' v v' v'' dflt : Node}
  {members : List (String × Option Node)} {inside : String → Shape} {ds : List Member}
  {ms ms' ms'' : List (Node × Node)} {r r' r'' : Members} {s : Shape} {α β : Type}

/-! ### Results -/

/-- If the first result is a value, the others are one value. -/
def Keeps {ε : Type} (a b c : Except ε α) : Prop := ∀ x, a = .ok x → ∃ y, b = .ok y ∧ c = .ok y

namespace Keeps

variable {ε : Type} {a b c : Except ε α}

theorem refl (a : Except ε α) : Keeps a a a := fun x h => ⟨x, h, h⟩

theorem pure (x y : α) : Keeps (Pure.pure x : Except ε α) (Pure.pure y) (Pure.pure y) :=
  fun _ _ => ⟨y, rfl, rfl⟩

theorem bind {f g h : α → Except ε β} (keeps : Keeps a b c)
    (rest : ∀ x y, Keeps (f x) (g y) (h y)) : Keeps (a >>= f) (b >>= g) (c >>= h) := by
  intro z hz
  obtain ⟨x, hx, hfx⟩ := bind_eq_ok.1 hz
  obtain ⟨y, hy, hy'⟩ := keeps x hx
  obtain ⟨w, hw, hw'⟩ := rest x y z hfx
  exact ⟨w, bind_eq_ok.2 ⟨y, hy, hw⟩, bind_eq_ok.2 ⟨y, hy', hw'⟩⟩

theorem map (f : α → β) (keeps : Keeps a b c) : Keeps (a.map f) (b.map f) (c.map f) := by
  intro z hz
  obtain ⟨x, hx, -⟩ := map_eq_ok.1 hz
  obtain ⟨y, hy, hy'⟩ := keeps x hx
  exact ⟨f y, map_eq_ok.2 ⟨y, hy, rfl⟩, map_eq_ok.2 ⟨y, hy', rfl⟩⟩

end Keeps

/-- Three versions of a node have results of which the last two agree. -/
def Shape.Respects (s : Shape) (decoder : Decoder α) : Prop := ∀ d path n n' n'',
  s.Amends d n n' n'' → Keeps (decoder d path n) (decoder d path n') (decoder d path n'')

theorem Shape.respects_value (decoder : Decoder α) : Shape.value.Respects decoder := by
  rintro d path n n' n'' ⟨rfl, rfl⟩
  exact .refl _

/-! ### Members of a record -/

/-- A member that has to be there. -/
structure Mandatory (members : List (String × Option Node)) (inside : String → Shape)
    (name : String) (decoder : Decoder α) : Prop where
  none : default? members name = none
  respects : (inside name).Respects decoder

/-- A member with a default, which a node says. -/
structure Defaulting (members : List (String × Option Node)) (inside : String → Shape)
    (name : String) (decoder : Decoder α) (x : α) : Prop where
  said : ∃ dflt, default? members name = some dflt ∧ ∀ d path, decoder d path dflt = .ok x
  respects : (inside name).Respects decoder

/-- What is asked of a member in a record of a shape. -/
structure Suits (members : List (String × Option Node)) (inside : String → Shape) (m : Member) :
    Prop where
  said : ∀ dflt, default? members m.name = some dflt → ∀ d path, m.check d path dflt = .ok ()
  respects : (inside m.name).Respects m.check

theorem Mandatory.suits {decoder : Decoder α} (h : Mandatory members inside name decoder) :
    Suits members inside (.of name decoder) where
  said dflt hdflt := by
    rw [Member.of, h.none] at hdflt
    cases hdflt
  respects d path n n' n'' hn := (h.respects d path n n' n'' hn).map _

theorem Defaulting.suits {decoder : Decoder α} {x : α}
    (h : Defaulting members inside name decoder x) : Suits members inside (.of name decoder) where
  said dflt hdflt d path := by
    obtain ⟨dflt', hdflt', hx⟩ := h.said
    rw [Member.of, hdflt', Option.some.injEq] at hdflt
    subst hdflt
    simp [Member.of, hx, Except.map]
  respects d path n n' n'' hn := (h.respects d path n n' n'' hn).map _

/-- What is found of a member in three versions of a record. -/
inductive Looked (members : List (String × Option Node))
    (inside : String → Node → Node → Node → Prop) (name : String) :
    Option Node → Option Node → Option Node → Prop
  | kept {u u' u'' : Node} : inside name u u' u'' →
      Looked members inside name (some u) (some u') (some u'')
  | absent {o : Option Node} : (o = none ∨ ∃ u, default? members name = some u) →
      Looked members inside name o none none
  | said {o : Option Node} {u : Node} : default? members name = some u →
      Looked members inside name o none (some u)

theorem Looked.leave {R : String → Node → Node → Node → Prop} {o' o'' : Option Node}
    (h : Looked members R name none o' o'') (hdflt : default? members name = some dflt) (v : Node) :
    Looked members R name (some v) o' o'' := by
  cases h with
  | absent => exact .absent (.inr ⟨dflt, hdflt⟩)
  | said hu => exact .said hu

theorem Looked.write {R : String → Node → Node → Node → Prop} {o o' : Option Node}
    (h : Looked members R name o o' none) (hdflt : default? members name = some dflt) :
    Looked members R name o o' (some dflt) := by
  cases h with
  | absent => exact .said hdflt

theorem Mandatory.keeps {decoder : Decoder α} (h : Mandatory members inside name decoder)
    (hlooked : Looked members (fun name => (inside name).Amends d) name
      (r.node? name) (r'.node? name) (r''.node? name)) :
    Keeps (r.required d path name decoder) (r'.required d path name decoder)
      (r''.required d path name decoder) := by
  unfold Members.required
  generalize r.node? name = o at hlooked
  generalize r'.node? name = o' at hlooked
  generalize r''.node? name = o'' at hlooked
  cases hlooked with
  | kept hv => exact h.respects d _ _ _ _ hv
  | absent ho =>
    rcases ho with rfl | ⟨dflt, hdflt⟩
    · exact .refl _
    · rw [h.none] at hdflt
      cases hdflt
  | said hdflt =>
    rw [h.none] at hdflt
    cases hdflt

theorem Defaulting.keeps {decoder : Decoder α} {x : α}
    (h : Defaulting members inside name decoder x)
    (hlooked : Looked members (fun name => (inside name).Amends d) name
      (r.node? name) (r'.node? name) (r''.node? name)) :
    Keeps (r.withDefault d path name decoder x) (r'.withDefault d path name decoder x)
      (r''.withDefault d path name decoder x) := by
  unfold Members.withDefault
  generalize r.node? name = o at hlooked
  generalize r'.node? name = o' at hlooked
  generalize r''.node? name = o'' at hlooked
  cases hlooked with
  | kept hv => exact h.respects d _ _ _ _ hv
  | absent => exact fun _ _ => ⟨x, rfl, rfl⟩
  | said hdflt =>
    obtain ⟨dflt, hdflt', hx⟩ := h.said
    rw [hdflt', Option.some.injEq] at hdflt
    subst hdflt
    exact fun _ _ => ⟨x, rfl, hx ..⟩

/-! ### Records -/

theorem Distinct.tail {kv : Node × Node} (h : Distinct d members (kv :: ms)) :
    Distinct d members ms := by
  rw [Distinct, knownNames_cons] at h
  exact h.of_append_right

/-- The name of the first member is not written again. -/
theorem Distinct.node?_tail {k v : Node} (h : Distinct d members ((k, v) :: ms))
    (hk : keyName? d k = some name) (hname : name ∈ members.map (·.1)) :
    (known (members.map (·.1)) d ms).node? name = none := by
  rw [Distinct, knownNames, known_cons_of_mem hk hname, List.map_cons, List.nodup_cons] at h
  exact node?_eq_none.2 h.1

/-- What is found of each member in three versions of a record. -/
theorem Amended.looked {R : String → Node → Node → Node → Prop} (refl : ∀ name v, R name v v v)
    (h : Amended d members R ms ms' ms'') (hms : Distinct d members ms)
    (hms' : Distinct d members ms') (hms'' : Distinct d members ms'') (name : String) :
    Looked members R name ((known (members.map (·.1)) d ms).node? name)
      ((known (members.map (·.1)) d ms').node? name)
      ((known (members.map (·.1)) d ms'').node? name) := by
  -- No name is written twice in any version, so what is found first is all that is found.
  induction h with
  | nil => exact .absent (.inl rfl)
  | same kv _ ih =>
    have hrest := ih hms.tail hms'.tail hms''.tail
    by_cases hkv : ∃ name' ∈ members.map (·.1), keyName? d kv.1 = some name'
    · obtain ⟨name', hname, hk⟩ := hkv
      simp only [known_cons_of_mem hk hname, node?_cons]
      split
      · exact .kept (refl ..)
      · exact hrest
    · have hno : ∀ name' ∈ members.map (·.1), keyName? d kv.1 ≠ some name' :=
        fun name' hname hk => hkv ⟨name', hname, hk⟩
      simp only [known_cons_of_notMem hno]
      exact hrest
  | @within k name' v v' v'' _ _ _ hk hname hv _ ih =>
    have hrest := ih hms.tail hms'.tail hms''.tail
    simp only [known_cons_of_mem hk hname, node?_cons]
    by_cases heq : name' = name
    · subst heq
      simp only [if_true]
      exact .kept hv
    · simp only [heq, if_false]
      exact hrest
  | @leave k name' dflt v _ _ _ hk hdflt _ ih =>
    have hrest := ih hms.tail hms' hms''
    have hname := mem_of_default? hdflt
    rw [known_cons_of_mem hk hname, node?_cons]
    split
    · subst_vars
      rw [hms.node?_tail hk hname] at hrest
      exact hrest.leave hdflt v
    · exact hrest
  | @write k name' dflt _ _ _ hk hdflt _ ih =>
    have hrest := ih hms hms' hms''.tail
    have hname := mem_of_default? hdflt
    rw [known_cons_of_mem hk hname, node?_cons]
    split
    · subst_vars
      rw [hms''.node?_tail hk hname] at hrest
      exact hrest.write hdflt
    · exact hrest
  | add hk hname hwhole _ ih =>
    rw [known_cons_of_unknown hk hname]
    exact ih hms hms'.tail hms''
  | ignore hk hname _ ih =>
    rw [known_cons_of_unknown hk hname, known_cons_of_unknown hk hname]
    exact ih hms.tail hms' hms''.tail
  | reorder hperm _ ih =>
    have hbefore : Distinct d members _ := ((known_perm hperm).map _).nodup_iff.2 hms'
    rw [node?_of_perm (known_perm hperm) hbefore]
    exact ih hms hbefore hms''

theorem fits_of_unknown (hk : keyName? d k = some name) (hname : name ∉ ds.map (·.name)) :
    Fits ds d path (k, v) ↔ isWhole v = true := by
  simp [Fits, hk, find?_name_eq_none.2 hname]

theorem exists_member (hname : name ∈ ds.map (·.name)) :
    ∃ m ∈ ds, m.name = name ∧ ds.find? (·.name == name) = some m := by
  cases hm : ds.find? (·.name == name) with
  | none => exact absurd hname (find?_name_eq_none.1 hm)
  | some m => exact ⟨m, List.mem_of_find?_eq_some hm, by simpa using List.find?_some hm, rfl⟩

/-- The members of other versions will do. -/
theorem Amended.fits (hnames : ds.map (·.name) = members.map (·.1))
    (hds : ∀ m ∈ ds, Suits members inside m)
    (h : Amended d members (fun name => (inside name).Amends d) ms ms' ms'')
    (hfits : ∀ kv ∈ ms, Fits ds d path kv) :
    (∀ kv ∈ ms', Fits ds d path kv) ∧ ∀ kv ∈ ms'', Fits ds d path kv := by
  induction h with
  | nil => exact ⟨hfits, hfits⟩
  | same kv _ ih =>
    obtain ⟨hkv, hrest⟩ := List.forall_mem_cons.1 hfits
    obtain ⟨h', h''⟩ := ih hrest
    exact ⟨List.forall_mem_cons.2 ⟨hkv, h'⟩, List.forall_mem_cons.2 ⟨hkv, h''⟩⟩
  | @within k name v v' v'' _ _ _ hk hname hv _ ih =>
    obtain ⟨hkv, hrest⟩ := List.forall_mem_cons.1 hfits
    obtain ⟨h', h''⟩ := ih hrest
    obtain ⟨m, hm, rfl, hfind⟩ := exists_member (hnames ▸ hname)
    simp only [Fits, hk, Option.some.injEq, exists_eq_left', hfind] at hkv
    obtain ⟨⟨⟩, hv', hv''⟩ := (hds m hm).respects d (path ++ [stepTo k]) _ _ _ hv () hkv
    have hfound (u : Node) (hu : m.check d (path ++ [stepTo k]) u = .ok ()) :
        Fits ds d path (k, u) :=
      ⟨m.name, hk, by simpa [hfind] using hu⟩
    exact ⟨List.forall_mem_cons.2 ⟨hfound v' hv', h'⟩,
      List.forall_mem_cons.2 ⟨hfound v'' hv'', h''⟩⟩
  | leave hk hdflt _ ih => exact ih (List.forall_mem_cons.1 hfits).2
  | @write k name dflt _ _ _ hk hdflt _ ih =>
    obtain ⟨h', h''⟩ := ih hfits
    obtain ⟨m, hm, rfl, hfind⟩ := exists_member (hnames ▸ mem_of_default? hdflt)
    refine ⟨h', List.forall_mem_cons.2 ⟨⟨m.name, hk, ?_⟩, h''⟩⟩
    simpa only [hfind] using (hds m hm).said dflt hdflt d _
  | add hk hname hwhole _ ih =>
    obtain ⟨h', h''⟩ := ih hfits
    exact ⟨List.forall_mem_cons.2 ⟨(fits_of_unknown hk (hnames ▸ hname)).2 hwhole, h'⟩, h''⟩
  | ignore hk hname _ ih =>
    obtain ⟨hkv, hrest⟩ := List.forall_mem_cons.1 hfits
    obtain ⟨h', h''⟩ := ih hrest
    exact ⟨h', List.forall_mem_cons.2 ⟨hkv, h''⟩⟩
  | reorder hperm _ ih =>
    obtain ⟨h', h''⟩ := ih hfits
    exact ⟨fun kv hkv => h' kv (hperm.mem_iff.2 hkv), h''⟩

/-- Readers of records respect a shape if the readers of their members do. -/
theorem respects_record {distinct : (members.map (·.1)).Nodup}
    {body : Document → Path → Members → Except Error α}
    (hnames : ds.map (·.name) = members.map (·.1)) (hds : ∀ m ∈ ds, Suits members inside m)
    (hbody : ∀ d path r r' r'', (∀ name, Looked members (fun name => (inside name).Amends d) name
      (r.node? name) (r'.node? name) (r''.node? name)) →
      Keeps (body d path r) (body d path r') (body d path r'')) :
    (Shape.record members distinct inside).Respects fun d path n =>
      written expected ds d path n >>= body d path := by
  rintro d path n n' n''
    (⟨rfl, rfl⟩ | ⟨tag, ms, ms', ms'', complete, hn, hn', hn'', h, hdistinct⟩)
  · exact .refl _
  · intro x hx
    obtain ⟨r, hr, hx⟩ := bind_eq_ok.1 hx
    rw [written_eq_ok_iff, hn, hnames] at hr
    obtain ⟨tag, ms, heq, hfits, hms, rfl⟩ | ⟨⟨tag, heq⟩, -⟩ := hr
    · cases heq
      obtain ⟨hms', hms''⟩ := hdistinct hms
      obtain ⟨hfits', hfits''⟩ := h.fits hnames hds hfits
      have hlooked := h.looked (fun name v => Shape.Amends.refl _ v) hms hms' hms''
      obtain ⟨y, hy, hy'⟩ := hbody d path _ _ _ hlooked x hx
      have hwritten {m : Node} {os : List (Node × Node)} (hm : resolve d m = .mapping tag os true)
          (hfits : ∀ kv ∈ os, Fits ds d path kv) (hos : Distinct d members os) :
          written expected ds d path m = .ok (known (members.map (·.1)) d os) := by
        rw [written_eq_ok_iff, hnames]
        exact .inl ⟨tag, os, hm, hfits, hos, rfl⟩
      exact ⟨y, bind_eq_ok.2 ⟨_, hwritten hn' hfits' hms', hy⟩,
        bind_eq_ok.2 ⟨_, hwritten hn'' hfits'' hms'', hy'⟩⟩
    · cases heq

/-! ### Alternatives -/

/-- What is asked of an alternative: one that stands alone has nothing inside. -/
def Alternative.Suits (inside : String → Shape) : Alternative α → Prop
  | .alone name _ => inside name = .value
  | .record name decoder => (inside name).Respects decoder

theorem alternative_eq_ok {alternatives : List (Alternative α)} {a : Alternative α}
    (h : alternative alternatives path name = .ok a) : a ∈ alternatives ∧ a.name = name := by
  unfold alternative at h
  split at h
  · rename_i hfind
    cases h
    exact ⟨List.mem_of_find?_eq_some hfind, by simpa using List.find?_some hfind⟩
  · cases h

/-- Readers of alternatives respect a shape if the readers of the alternatives do. -/
theorem respects_choice {alternatives : List (Alternative α)}
    (h : ∀ a ∈ alternatives, a.Suits inside) :
    (Shape.tagged inside).Respects (choice alternatives) := by
  rintro d path n n' n'' (⟨rfl, rfl⟩ | ⟨name, hname, hn⟩)
  · exact .refl _
  · obtain ⟨hname', hname''⟩ := hn.chosenBy?
    have hresolved := hn.resolve
    simp only [choice, hname, hname', hname'']
    cases ha : alternative alternatives path name with
    | error e =>
      intro x hx
      cases hx
    | ok a =>
      obtain ⟨hmem, rfl⟩ := alternative_eq_ok ha
      have hsuits := h a hmem
      cases a with
      | alone name value =>
        simp only [Alternative.name, Alternative.Suits] at hresolved hsuits
        rw [hsuits] at hresolved
        obtain ⟨heq', heq''⟩ := hresolved
        rw [heq', heq'']
        exact .refl _
      | record name decoder => exact hsuits d path _ _ _ hresolved

end RoleLookup.Yaml.Decode
