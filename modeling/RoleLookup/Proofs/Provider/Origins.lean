import RoleLookup.Proofs.Provider.Links

/-!
# Where roles come from

In a run, the calls that the roles in the regions and the roles returned by lookups come from.

* `Origins`, the record, with a `step` and a `run` of its own beside those of the provider;
* `Guarded`, only calls of some kind can still bring roles of a user;
* `HeldFrom`, `ReturnedFrom`, the roles of a user in a region, or returned by the lookups from some
  number on, come from calls of that kind;
* `Guarded.step`, `HeldFrom.step`, `ReturnedFrom.step`, each step keeps this.
-/

namespace RoleLookup
namespace Provider

/-- The calls that roles come from. -/
structure Origins where
  /-- The call that the entry of a user in a region comes from. -/
  held : Tier → String → Option Nat := fun _ _ => none
  /-- The call that the roles returned by a lookup come from. -/
  returned : Nat → Option Nat := fun _ => none

namespace Origins

/-- The entry of a user in a region is written with the roles of a call, or of none. -/
def hold (o : Origins) (t : Tier) (user : String) (c : Option Nat) : Origins :=
  { o with held := fun t' v => if t' = t ∧ v = user then c else o.held t' v }

/-- A lookup returns the roles of a call. -/
def give (o : Origins) (l : Nat) (c : Option Nat) : Origins :=
  { o with returned := fun k => if k = l then c else o.returned k }

/-- A lookup that hits returns what the primary region holds. -/
def check (o : Origins) (p : Provider) (l : Nat) : Origins :=
  match p.lookups[l]? with
  | some ⟨user, .started⟩ =>
    if (p.cache.get? p.now user).isSome then o.give l (o.held .primary user) else o
  | _ => o

/-- A lookup writes the roles of its call into the primary region, or falls back. -/
def receive (o : Origins) (p : Provider) (l : Nat) : Origins :=
  match p.lookups[l]? with
  | some ⟨user, .waiting c⟩ =>
    match p.callState? c with
    | some (.ended (.roles _)) => o.hold .primary user (some c)
    | some (.ended (.failed _)) => o.give l (o.held .fallback user)
    | _ => o
  | _ => o

/-- A lookup writes the roles of its call into the fallback region and returns them. -/
def store (o : Origins) (p : Provider) (l : Nat) : Origins :=
  match p.lookups[l]? with
  | some ⟨user, .storing c _⟩ => (o.hold .fallback user (some c)).give l (some c)
  | _ => o

/-- The origins after a step of the provider. -/
def step (o : Origins) (p : Provider) : Step → Origins
  | .check l => o.check p l
  | .receive l => o.receive p l
  | .store l => o.store p l
  | .resume l => (o.receive p l).store (p.receive l) l
  | .put user _ => (o.hold .primary user none).hold .fallback user none
  | _ => o

/-- The origins after a run of the provider. -/
def run (o : Origins) (p : Provider) : List Step → Origins
  | [] => o
  | s :: ss => (o.step p s).run (p.step s) ss

theorem run_append (o : Origins) (p : Provider) (ss ts : List Step) :
    o.run p (ss ++ ts) = (o.run p ss).run (p.run ss) ts := by
  induction ss generalizing o p with
  | nil => rfl
  | cons s ss ih => exact ih (o.step p s) (p.step s)

/-- A property that every step keeps is kept by a run. -/
theorem run_induction {P : Provider → Origins → Prop} {p : Provider} {o : Origins}
    {ss : List Step} (keep : ∀ p o s, s ∈ ss → P p o → P (p.step s) (o.step p s))
    (h : P p o) : P (p.run ss) (o.run p ss) := by
  induction ss generalizing p o with
  | nil => exact h
  | cons s ss ih =>
    exact ih (fun p o t ht => keep p o t (List.mem_cons_of_mem s ht))
      (keep p o s List.mem_cons_self h)

variable (o : Origins) (t t' : Tier) (user v : String) (c : Option Nat) (l k : Nat)

@[simp] theorem held_hold : (o.hold t user c).held t' v =
    if t' = t ∧ v = user then c else o.held t' v := rfl

@[simp] theorem returned_hold : (o.hold t user c).returned = o.returned := rfl

@[simp] theorem held_give : (o.give l c).held = o.held := rfl

@[simp] theorem returned_give : (o.give l c).returned k =
    if k = l then c else o.returned k := rfl

end Origins

variable {p : Provider} {o : Origins} {s : Step} {l k c : Nat} {u v : String} {t : Tier}
  {fresh : Nat → Prop} {m : Nat}

/-! ### Steps of the record -/

theorem Origins.held_check (o : Origins) (p : Provider) (l : Nat) :
    (o.check p l).held = o.held := by
  unfold check
  split
  · split <;> rfl
  · rfl

theorem Origins.held_receive_of_not (o : Origins)
    (h : ∀ u c roles, p.lookups[l]? = some ⟨u, .waiting c⟩ →
      p.callState? c ≠ some (.ended (.roles roles))) : (o.receive p l).held = o.held := by
  unfold receive
  split
  · rename_i u c hl
    split
    · rename_i roles hc
      exact absurd hc (h u c roles hl)
    · rfl
    · rfl
  · rfl

theorem Origins.receive_of_roles (o : Origins) {roles : RoleSet}
    (hl : p.lookups[l]? = some ⟨u, .waiting c⟩)
    (hc : p.callState? c = some (.ended (.roles roles))) :
    o.receive p l = o.hold .primary u (some c) := by
  simp [receive, hl, hc]

theorem Origins.store_of_storing (o : Origins) {e : Entry}
    (hl : p.lookups[l]? = some ⟨u, .storing c e⟩) :
    o.store p l = (o.hold .fallback u (some c)).give l (some c) := by
  simp [store, hl]

theorem Origins.store_of_not (o : Origins)
    (h : ∀ u c e, p.lookups[l]? ≠ some ⟨u, .storing c e⟩) : o.store p l = o := by
  unfold store
  split
  · rename_i hl
    exact absurd hl (h _ _ _)
  · rfl

theorem Origins.receive_of_failed (o : Origins) {e : LookupError}
    (hl : p.lookups[l]? = some ⟨u, .waiting c⟩)
    (hc : p.callState? c = some (.ended (.failed e))) :
    o.receive p l = o.give l (o.held .fallback u) := by
  simp [receive, hl, hc]

section Returned

variable {outcome : Outcome} (hk : p.lookups[k]? = some ⟨v, .finished outcome⟩)
include hk

/-- What a lookup has returned is not changed by another one. -/
theorem Origins.returned_give_of_finished (o : Origins) {phase : Phase}
    (hl : p.lookups[l]? = some ⟨u, phase⟩) (hp : ∀ outcome, phase ≠ .finished outcome)
    (a : Option Nat) : (o.give l a).returned k = o.returned k := by
  rw [returned_give, if_neg]
  rintro rfl
  rw [hk] at hl
  cases hl
  exact hp _ rfl

theorem Origins.returned_check_of_finished (o : Origins) (l : Nat) :
    (o.check p l).returned k = o.returned k := by
  unfold check
  split
  · rename_i hl
    split
    · exact returned_give_of_finished hk o hl (by simp) _
    · rfl
  · rfl

theorem Origins.returned_receive_of_finished (o : Origins) (l : Nat) :
    (o.receive p l).returned k = o.returned k := by
  unfold receive
  split
  · rename_i hl
    split
    · rfl
    · exact returned_give_of_finished hk o hl (by simp) _
    · rfl
  · rfl

theorem Origins.returned_store_of_finished (o : Origins) (l : Nat) :
    (o.store p l).returned k = o.returned k := by
  unfold store
  split
  · rename_i hl
    exact returned_give_of_finished hk (o.hold _ _ _) hl (by simp) _
  · rfl

theorem Origins.returned_step_of_finished (o : Origins) (s : Step) :
    (o.step p s).returned k = o.returned k := by
  cases s with
  | check l => exact returned_check_of_finished hk o l
  | receive l => exact returned_receive_of_finished hk o l
  | store l => exact returned_store_of_finished hk o l
  | resume l =>
    have hk' : (p.receive l).lookups[k]? = some ⟨v, .finished outcome⟩ := by
      obtain ⟨ph, hph, rfl | m⟩ := lookups_step hk (.receive l)
      · exact hph
      · cases m
    exact (returned_store_of_finished hk' _ l).trans (returned_receive_of_finished hk o l)
  | _ => rfl

end Returned

/-! ### Calls that can still bring roles -/

/-- All calls that can still bring roles of a user are of some kind. -/
structure Guarded (p : Provider) (fresh : Nat → Prop) (user : String) : Prop where
  made : ∀ c, p.calls.length ≤ c → fresh c
  inFlight : ∀ c, p.inFlight? user = some c → fresh c
  waiting : ∀ l c : Nat, p.lookups[l]? = some ⟨user, .waiting c⟩ → fresh c
  storing : ∀ (l c : Nat) (e : Entry), p.lookups[l]? = some ⟨user, .storing c e⟩ → fresh c

theorem length_calls_step (p : Provider) (s : Step) :
    p.calls.length ≤ (p.step s).calls.length := by
  apply Nat.le_of_not_lt
  intro hlt
  have hk := List.getElem?_eq_getElem hlt
  obtain ⟨st, hst, -⟩ := calls_step hk s
  simp at hst

theorem Guarded.step (g : p.Guarded fresh u) (s : Step) : (p.step s).Guarded fresh u where
  made c hc := g.made c (Nat.le_trans (length_calls_step p s) hc)
  inFlight c hin := by
    rcases inFlight?_of_step hin with hold | ⟨rfl, -⟩
    · exact g.inFlight c hold
    · exact g.made _ (Nat.le_refl _)
  waiting l c hl := by
    rcases lookups_of_step hl with ⟨ph, hph, rfl | m⟩ | ⟨-, hnew, -⟩
    · exact g.waiting l c hph
    · cases m with
      | join hj =>
        unfold joined? at hj
        split at hj
        · exact g.inFlight c hj
        · cases hj
      | call hj => exact g.made _ (Nat.le_refl _)
    · cases hnew
  storing l c e hl := by
    rcases lookups_of_step hl with ⟨ph, hph, rfl | m⟩ | ⟨-, hnew, -⟩
    · exact g.storing l c e hph
    · cases m with
      | write hc => exact g.waiting l c hph
    · cases hnew

/-! ### Roles in the regions -/

/-- What a region holds for a user comes from a call of some kind. -/
def HeldFrom (p : Provider) (o : Origins) (fresh : Nat → Prop) (t : Tier) (user : String) : Prop :=
  ∀ e, (p.cache.region t).find? user = some e →
    ∃ c, o.held t user = some c ∧ fresh c ∧ p.calls[c]? = some ⟨user, .ended (.roles e.roles)⟩

theorem HeldFrom.kept (hh : p.HeldFrom o fresh t u) {e : Entry}
    (hold : (p.cache.region t).find? u = some e) {o' : Origins}
    (ho : o'.held t u = o.held t u) (s : Step) :
    ∃ c, o'.held t u = some c ∧ fresh c ∧
      (p.step s).calls[c]? = some ⟨u, .ended (.roles e.roles)⟩ := by
  obtain ⟨c, hc, hfresh, hcall⟩ := hh e hold
  exact ⟨c, ho.trans hc, hfresh, calls_step_ended hcall s⟩

theorem HeldFrom.receive (hh : p.HeldFrom o fresh t u) (h : p.Linked) (g : p.Guarded fresh u)
    (l : Nat) : (p.step (.receive l)).HeldFrom (o.receive p l) fresh t u := by
  intro e he
  by_cases hw : ∃ v c roles, p.lookups[l]? = some ⟨v, .waiting c⟩ ∧
      p.callState? c = some (.ended (.roles roles))
  · obtain ⟨v, c, roles, hl, hc⟩ := hw
    have he' : ((p.cache.insert .primary ⟨v, roles, p.now⟩).region t).find? u = some e := by
      rw [Provider.step, receive_of_ended hl hc] at he
      exact he
    rw [Origins.receive_of_roles o hl hc]
    rw [Cache.region_insert] at he'
    split at he'
    · rename_i ht
      -- The lookup that writes may be one of another user.
      rcases Region.find?_insert_cases he' with ⟨rfl, rfl⟩ | ⟨hv, hold⟩
      · obtain ⟨w, hcall⟩ := callState?_eq_some.1 hc
        obtain ⟨st, hu, -⟩ := h.waiting hl
        rw [hcall] at hu
        cases hu
        exact ⟨c, by simp [ht], g.waiting l c hl, calls_step_ended hcall _⟩
      · exact hh.kept hold (by simp [Ne.symm hv]) _
    · rename_i ht
      exact hh.kept he' (by simp [ht]) _
  · have hold : (p.cache.region t).find? u = some e := by
      have w := cache_step p (.receive l)
      generalize (p.step (.receive l)).cache = c' at w he
      cases w with
      | keep => exact he
      | primary hl hc => exact absurd ⟨_, _, _, hl, hc⟩ hw
      | fallback hs => rcases hs with hs | hs <;> cases hs
    have ho := Origins.held_receive_of_not o fun v c roles hl hc => hw ⟨v, c, roles, hl, hc⟩
    exact hh.kept hold (by rw [ho]) _

theorem HeldFrom.store (hh : p.HeldFrom o fresh t u) (h : p.Linked) (g : p.Guarded fresh u)
    (l : Nat) : (p.step (.store l)).HeldFrom (o.store p l) fresh t u := by
  intro e he
  by_cases hw : ∃ v c d, p.lookups[l]? = some ⟨v, .storing c d⟩
  · obtain ⟨v, c, d, hl⟩ := hw
    obtain ⟨hd, hcall⟩ := h.storing hl
    have he' : ((p.cache.insert .fallback d).region t).find? u = some e := by
      rw [Provider.step, store_of_storing hl] at he
      exact he
    rw [Origins.store_of_storing o hl]
    rw [Cache.region_insert] at he'
    split at he'
    · rename_i ht
      rcases Region.find?_insert_cases he' with ⟨hv, rfl⟩ | ⟨hv, hold⟩
      · rw [hd] at hv
        subst hv
        exact ⟨c, by simp [ht], g.storing l c e hl, calls_step_ended hcall _⟩
      · rw [hd] at hv
        exact hh.kept hold (by simp [Ne.symm hv]) _
    · rename_i ht
      exact hh.kept he' (by simp [ht]) _
  · have hidle : p.step (.store l) = p :=
      store_eq_self fun v c d hl => hw ⟨v, c, d, hl⟩
    have ho := Origins.store_of_not o fun v c d hl => hw ⟨v, c, d, hl⟩
    rw [hidle] at he
    exact hh.kept he (by rw [ho]) _

theorem HeldFrom.step (hh : p.HeldFrom o fresh t u) (h : p.Linked) (g : p.Guarded fresh u)
    (unput : s.puts u = false) : (p.step s).HeldFrom (o.step p s) fresh t u := by
  cases s with
  | receive l => exact hh.receive h g l
  | store l => exact hh.store h g l
  | resume l => exact (hh.receive h g l).store (h.step _) (g.step _) l
  | check l =>
    intro e he
    exact hh.kept (find?_of_step he (by simp) unput) (by rw [Origins.step, Origins.held_check]) _
  | put v roles =>
    intro e he
    have hv : u ≠ v := by
      rintro rfl
      simp [Step.puts] at unput
    exact hh.kept (find?_of_step he (by simp) unput) (by simp [Origins.step, hv]) _
  | _ =>
    intro e he
    exact hh.kept (find?_of_step he (by simp) unput) rfl _

/-! ### Roles that are returned -/

/-- The roles of a user returned by lookups from some number on come from calls of some kind. -/
def ReturnedFrom (p : Provider) (o : Origins) (fresh : Nat → Prop) (m : Nat) (user : String) :
    Prop :=
  ∀ (l : Nat) (roles : RoleSet), m ≤ l →
    p.lookups[l]? = some ⟨user, .finished (.roles roles)⟩ →
      ∃ c, o.returned l = some c ∧ fresh c ∧ p.calls[c]? = some ⟨user, .ended (.roles roles)⟩

theorem ReturnedFrom.step (hr : p.ReturnedFrom o fresh m u) (hh : ∀ t, p.HeldFrom o fresh t u)
    (h : p.Linked) (g : p.Guarded fresh u) (s : Step) :
    (p.step s).ReturnedFrom (o.step p s) fresh m u := by
  intro l roles hm hl
  rcases lookups_of_step hl with ⟨ph, hph, rfl | move⟩ | ⟨-, hnew, -⟩
  · obtain ⟨c, hc, hfresh, hcall⟩ := hr l roles hm hph
    rw [Origins.returned_step_of_finished hph]
    exact ⟨c, hc, hfresh, calls_step_ended hcall s⟩
  · cases move with
    | hit hc =>
      obtain ⟨e, he, rfl⟩ := Cache.find?_of_get? hc
      obtain ⟨c, ho, hfresh, hcall⟩ := hh .primary e he
      refine ⟨c, ?_, hfresh, calls_step_ended hcall _⟩
      simp [Origins.step, Origins.check, hph, hc, ho]
    -- The second write, alone or as the second half of a whole step that has nothing to receive.
    | @store _ c e hs =>
      refine ⟨c, ?_, g.storing l c e hph, calls_step_ended (h.storing hph).2 s⟩
      have hreceive : p.receive l = p := receive_eq_self (by simp [hph])
      rcases hs with rfl | rfl
      · simp [Origins.step, Origins.store_of_storing o hph]
      · simp [Origins.step, hreceive, Origins.store_of_storing _ hph]
    | @resume c roles hc =>
      obtain ⟨w, hcall⟩ := callState?_eq_some.1 hc
      obtain ⟨st, hu, -⟩ := h.waiting hph
      rw [hcall] at hu
      cases hu
      refine ⟨c, ?_, g.waiting l c hph, calls_step_ended hcall _⟩
      have hstoring : (p.receive l).lookups[l]? = some ⟨u, .storing c ⟨u, roles, p.now⟩⟩ := by
        rw [receive_of_ended hph hc]
        simp [take, getElem?_setPhase, hph]
      simp [Origins.step, Origins.store_of_storing _ hstoring]
    | @fallBack _ c e roles hs hc hf =>
      obtain ⟨x, hx, rfl⟩ := Cache.find?_of_getFromFallback? hf
      obtain ⟨d, ho, hfresh, hcall⟩ := hh .fallback x hx
      refine ⟨d, ?_, hfresh, calls_step_ended hcall s⟩
      have hreceive := Origins.receive_of_failed o hph hc
      rcases hs with rfl | rfl
      · simp [Origins.step, hreceive, ho]
      · obtain ⟨events, hq⟩ := serveFallback_eq p l u e
        have hover : (p.receive l).lookups[l]? = some ⟨u, .finished (.roles x.roles)⟩ := by
          rw [receive_of_ended hph hc, take, hq]
          simp [getElem?_setPhase, hph, hf]
        rw [Origins.step, Origins.store_of_not _ (by simp [hover])]
        simp [hreceive, ho]
  · cases hnew

end Provider
end RoleLookup
