import RoleLookup.Proofs.Pool.Books

/-!
# What becomes of a connection

The age of a connection and its fate, through the steps of the pool.

* `Kept`, a property of the connections that each change of them keeps, and `Kept.run`, so does a
  run of the pool;
* `IsFit`, a connection that is not closed and young enough;
* `Timely`, no connection is ready since a time to come, so that `Timely.isFit_iff`: the pool asks
  just this before it lends or keeps a connection;
* `Parted`, what has become of a connection that cannot be used, and `parted_run`, it stays so.
-/

namespace RoleLookup.Directory
namespace Pool

variable {p q r : Pool} {s : Step} {ss : List Step} {a b c : Nat}

/-! ### How the connections change -/

theorem isAlive_eq_true :
    p.isAlive c = true ↔ ∃ k, p.connections[c]? = some k ∧ k.fate = .alive := by
  simp [isAlive, fate?]

/-- A property of the connections at a time that each change of them keeps. -/
structure Kept (P : List Connection → Nat → Prop) : Prop where
  extend : ∀ {ks now}, P ks now → P (ks ++ [{ readySince := now }]) now
  refresh : ∀ {ks now} (c : Nat), P ks now →
    P (ks.modify c fun k => { k with readySince := now }) now
  /-- A connection that is alive meets a fate. -/
  part : ∀ {ks now c k} (fate : Fate), ks[c]? = some k → k.fate = .alive → P ks now →
    P (ks.modify c fun k => { k with fate }) now
  advance : ∀ {ks now} (millis : Nat), P ks now → P ks (now + millis)

theorem Readies.connections {purpose : Purpose} (h : Readies r a c purpose q) :
    q.connections = r.connections ∧ q.now = r.now := by
  cases h <;> exact ⟨rfl, rfl⟩

theorem GivesUp.connections {purpose : Purpose} {e : Error} (h : GivesUp r a e purpose q) :
    q.connections = r.connections ∧ q.now = r.now := by
  cases h <;> exact ⟨rfl, rfl⟩

namespace Kept

variable {P : List Connection → Nat → Prop} (kept : Kept P)

include kept

theorem setFate (h : P p.connections p.now) (c : Nat) (fate : Fate) :
    P (p.setFate c fate).connections (p.setFate c fate).now := by
  unfold Pool.setFate
  split
  · rename_i alive
    obtain ⟨k, hk, hfate⟩ := isAlive_eq_true.1 alive
    exact kept.part fate hk hfate h
  · exact h

theorem unbind (h : P p.connections p.now) (c : Nat) :
    P (p.unbind c).connections (p.unbind c).now := by
  unfold Pool.unbind
  split
  · exact kept.setFate (p := p.send _) h c .unbound
  · exact h

theorem lose (h : P p.connections p.now) (cs : List Nat) :
    P (p.lose cs).connections (p.lose cs).now := by
  induction cs generalizing p with
  | nil => exact h
  | cons c cs ih => exact ih (kept.setFate h c .dropped)

theorem fires (f : Fires p s q) (h : P p.connections p.now) : P q.connections q.now := by
  have same {r q : Pool} (hr : P r.connections r.now)
      (hq : q.connections = r.connections ∧ q.now = r.now) : P q.connections q.now := by
    rwa [hq.1, hq.2]
  cases f with
  | refused events ha hq => exact same h hq.connections
  | anonymous events ha nobody hq => exact same (kept.refresh _ (kept.extend h)) hq.connections
  | bind => exact kept.extend h
  | accepted events ha ok hq => exact same (kept.refresh _ h) hq.connections
  | rejected events => exact kept.unbind (p := p.note _ events) h _
  | giveUp ha hq => exact same h hq.connections
  | dropExpired events => exact kept.unbind (p := { p with idle := _ }.note _ events) h _
  | retire => exact kept.unbind (p := p.setPhase _ .returned) h _
  | loseInitial | loseLoan => exact kept.lose h _
  | close => exact kept.setFate h _ _
  | advance millis => exact kept.advance millis h
  | _ => exact h

theorem run (h : P p.connections p.now) (ss : List Step) :
    P (p.run ss).connections (p.run ss).now :=
  run_induction (P := fun p => P p.connections p.now)
    (fun p s _ h => kept.fires (step_fires p s) h) h

end Kept

/-! ### Age -/

/-- For how long a connection has been ready. -/
def age? (p : Pool) (c : Nat) : Option Nat := (p.connections[c]?).map fun k => p.now - k.readySince

/-- A connection is not closed and younger than connections may become. -/
def IsFit (p : Pool) (maxAge c : Nat) : Prop :=
  p.isAlive c = true ∧ ∃ age ∈ p.age? c, age < maxAge

instance (p : Pool) (maxAge c : Nat) : Decidable (p.IsFit maxAge c) :=
  inferInstanceAs (Decidable (_ ∧ _))

/-- No connection is ready since a time to come. -/
def Timely (connections : List Connection) (now : Nat) : Prop :=
  ∀ (c : Nat) (k : Connection), connections[c]? = some k → k.readySince ≤ now

theorem timely_modify {ks : List Connection} {now : Nat} {f : Connection → Connection}
    (h : Timely ks now) (hf : ∀ k, k.readySince ≤ now → (f k).readySince ≤ now) (c : Nat) :
    Timely (ks.modify c f) now := by
  intro b k hk
  rw [List.getElem?_modify] at hk
  obtain ⟨x, hx, rfl⟩ := Option.map_eq_some_iff.1 hk
  split
  · exact hf x (h b x hx)
  · exact h b x hx

theorem kept_timely : Kept Timely where
  extend {ks now} h c k hk := by
    rcases List.mem_append.1 (List.mem_of_getElem? hk) with hk | hk
    · obtain ⟨i, hi⟩ := List.mem_iff_getElem?.1 hk
      exact h i k hi
    · rw [List.mem_singleton.1 hk]
  refresh c h := timely_modify h (fun _ _ => Nat.le_refl _) c
  part fate _ _ h := timely_modify (f := fun k => { k with fate }) h (fun _ hk => hk) _
  advance millis h c k hk := Nat.le_trans (h c k hk) (Nat.le_add_right _ _)

theorem timely_run (s : Settings) (connector : Connector) (ss : List Step) :
    let p := (ofSettings s connector).run ss
    Timely p.connections p.now :=
  kept_timely.run (p := ofSettings s connector) (fun _ _ hk => by simp [ofSettings] at hk) ss

/-- What the pool asks of a connection before it lends or keeps it. -/
theorem Timely.isFit_iff (h : Timely p.connections p.now) :
    p.IsFit p.maxAge c ↔ p.isAlive c = true ∧ p.isExpired c = false := by
  rw [IsFit]
  refine and_congr_right fun halive => ?_
  cases hk : p.connections[c]? with
  | none => simp [isAlive, fate?, hk] at halive
  | some k =>
    have := h c k hk
    simp [age?, isExpired, hk]
    omega

/-! ### Fates are final -/

/-- A connection has met a fate. -/
def Parted (p : Pool) (c : Nat) (fate : Fate) : Prop := fate ≠ .alive ∧ p.fate? c = some fate

theorem Parted.isAlive {fate : Fate} (h : p.Parted c fate) : p.isAlive c = false := by
  simp [Pool.isAlive, h.2, h.1]

theorem lt_opened_of_isAlive (h : p.isAlive c = true) : c < p.opened := by
  obtain ⟨k, hk, -⟩ := isAlive_eq_true.1 h
  exact (List.getElem?_eq_some_iff.1 hk).1

theorem parted_of_not_alive (hc : c < p.opened) (h : p.isAlive c = false) :
    ∃ fate, p.Parted c fate := by
  have hk : p.connections[c]? = some p.connections[c] := List.getElem?_eq_getElem hc
  have hfate : p.fate? c = some p.connections[c].fate := by rw [fate?, hk, Option.map_some]
  exact ⟨_, by simpa [Pool.isAlive, hfate] using h, hfate⟩

theorem kept_fate {fate : Fate} (hne : fate ≠ .alive) :
    Kept fun ks _ => ∃ k, ks[c]? = some k ∧ k.fate = fate where
  extend := by
    rintro ks now ⟨k, hk, hfate⟩
    exact ⟨k, List.getElem?_append_left (List.getElem?_eq_some_iff.1 hk).1 ▸ hk, hfate⟩
  refresh := by
    rintro ks now b ⟨k, hk, hfate⟩
    rw [List.getElem?_modify, hk]
    by_cases hbc : b = c <;> simp [hbc, hfate]
  part := by
    rintro ks now b l other hl halive ⟨k, hk, hfate⟩
    have hbc : b ≠ c := by
      rintro rfl
      rw [hk] at hl
      cases hl
      exact hne (hfate.symm.trans halive)
    exact ⟨k, by simp [hbc, hk], hfate⟩
  advance := by
    rintro ks now millis h
    exact h

theorem parted_run {fate : Fate} (h : p.Parted c fate) (ss : List Step) :
    (p.run ss).Parted c fate := by
  have hrun := (kept_fate h.1).run (p := p) (Option.map_eq_some_iff.1 h.2) ss
  exact ⟨h.1, Option.map_eq_some_iff.2 hrun⟩

theorem not_alive_step (hc : c < p.opened) (h : p.isAlive c = false) (s : Step) :
    (p.step s).isAlive c = false := by
  obtain ⟨fate, parted⟩ := parted_of_not_alive hc h
  exact (parted_run parted [s]).isAlive

/-! ### Who meets a fate -/

theorem isAlive_setFate {fate : Fate} (hne : fate ≠ .alive) :
    (p.setFate b fate).isAlive c = true ↔ p.isAlive c = true ∧ c ≠ b := by
  unfold setFate
  split
  · rw [isAlive_eq_true, isAlive_eq_true, List.getElem?_modify]
    by_cases hbc : b = c
    · cases p.connections[c]? <;> simp [hbc, hne]
    · simp [hbc, Ne.symm hbc]
  · rename_i dead
    refine ⟨fun h => ⟨h, ?_⟩, And.left⟩
    rintro rfl
    exact dead h

theorem isAlive_unbind (p : Pool) (c : Nat) : (p.unbind c).isAlive c = false := by
  unfold unbind
  split
  · rw [← Bool.not_eq_true, isAlive_setFate (by decide)]
    exact fun h => h.2 rfl
  · rename_i dead
    exact Bool.eq_false_iff.2 dead

theorem isAlive_lose (cs : List Nat) :
    (p.lose cs).isAlive c = true ↔ p.isAlive c = true ∧ c ∉ cs := by
  induction cs generalizing p with
  | nil => simp [lose]
  | cons b cs ih =>
    rw [lose, List.foldl_cons, ← lose, ih, isAlive_setFate (by decide), and_assoc, List.mem_cons,
      not_or]

end Pool
end RoleLookup.Directory
