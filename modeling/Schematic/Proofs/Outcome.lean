import Mathlib.Data.List.Forall2

/-!
What it says of the steps of a computation that it comes to a result: each of them came to one,
and the next step started from there.

Two computations are alike if both come to results, which are related, or both fail for one reason.
One matches another if it comes to a related result wherever the other comes to a result.
-/

namespace Schematic
namespace Outcome

variable {ε ε' α β γ δ : Type}

theorem exists_of_isOk {x : Except ε α} (h : x.isOk = true) : ∃ a, x = .ok a := by
  cases x with
  | error e => cases h
  | ok a => exact ⟨a, rfl⟩

theorem map_eq_ok {f : α → β} {x : Except ε α} {b : β} (h : x.map f = .ok b) :
    ∃ a, x = .ok a ∧ f a = b := by
  cases x with
  | error e => cases h
  | ok a => exact ⟨a, rfl, Except.ok.inj h⟩

theorem map_eq_error {f : α → β} {x : Except ε α} {e : ε} (h : x.map f = .error e) :
    x = .error e := by
  cases x with
  | error e' => rw [Except.error.inj h]
  | ok a => cases h

theorem mapError_eq_ok {f : ε → ε'} {x : Except ε α} {a : α} (h : x.mapError f = .ok a) :
    x = .ok a := by
  cases x with
  | error e => cases h
  | ok b => rw [Except.ok.inj h]

theorem mapError_eq_error {f : ε → ε'} {x : Except ε α} {e' : ε'}
    (h : x.mapError f = .error e') : ∃ e, x = .error e ∧ f e = e' := by
  cases x with
  | error e => exact ⟨e, rfl, Except.error.inj h⟩
  | ok b => cases h

theorem bind_eq_ok {x : Except ε α} {f : α → Except ε β} {b : β} (h : x >>= f = .ok b) :
    ∃ a, x = .ok a ∧ f a = .ok b := by
  cases x with
  | error e => cases h
  | ok a => exact ⟨a, rfl, h⟩

theorem bind_eq_error {x : Except ε α} {f : α → Except ε β} {e : ε} (h : x >>= f = .error e) :
    x = .error e ∨ ∃ a, x = .ok a ∧ f a = .error e := by
  cases x with
  | error e' => exact .inl (congrArg Except.error (Except.error.inj h))
  | ok a => exact .inr ⟨a, rfl, h⟩

/-- What holds at the start and is kept by every step holds at the end. -/
theorem foldlM_invariant {step : β → α → Except ε β} {P : β → Prop}
    (hstep : ∀ b a b', P b → step b a = .ok b' → P b') {as : List α} {b b' : β} (hb : P b)
    (h : as.foldlM step b = .ok b') : P b' := by
  induction as generalizing b with
  | nil => exact Except.ok.inj h ▸ hb
  | cons a as ih =>
    rw [List.foldlM_cons] at h
    obtain ⟨next, hnext, hrest⟩ := bind_eq_ok h
    exact ih (hstep b a next hb hnext) hrest

theorem foldlM_cons_of_ok {step : β → α → Except ε β} {a : α} {b next : β}
    (h : step b a = .ok next) (as : List α) : (a :: as).foldlM step b = as.foldlM step next := by
  rw [List.foldlM_cons, h]
  rfl

/-- A fold that fails does so at one of the steps. -/
theorem foldlM_eq_error {step : β → α → Except ε β} {as : List α} {b : β} {e : ε}
    (h : as.foldlM step b = .error e) : ∃ a ∈ as, ∃ b', step b' a = .error e := by
  induction as generalizing b with
  | nil => cases h
  | cons a as ih =>
    rw [List.foldlM_cons] at h
    rcases bind_eq_error h with hstep | ⟨next, -, hrest⟩
    · exact ⟨a, List.mem_cons_self, b, hstep⟩
    · obtain ⟨a', ha', hfails⟩ := ih hrest
      exact ⟨a', List.mem_cons_of_mem _ ha', hfails⟩

theorem mapM_eq_ok {f : α → Except ε β} {as : List α} {bs : List β} (h : as.mapM f = .ok bs) :
    List.Forall₂ (fun a b => f a = .ok b) as bs := by
  induction as generalizing bs with
  | nil => exact Except.ok.inj h ▸ .nil
  | cons a as ih =>
    rw [List.mapM_cons] at h
    obtain ⟨b, hb, h⟩ := bind_eq_ok h
    obtain ⟨rest, hrest, h⟩ := bind_eq_ok h
    obtain rfl := Except.ok.inj h
    exact .cons hb (ih hrest)

theorem mapM_eq_error {f : α → Except ε β} {as : List α} {e : ε} (h : as.mapM f = .error e) :
    ∃ a ∈ as, f a = .error e := by
  induction as with
  | nil => cases h
  | cons a as ih =>
    rw [List.mapM_cons] at h
    rcases bind_eq_error h with hhead | ⟨b, -, h⟩
    · exact ⟨a, List.mem_cons_self, hhead⟩
    · rcases bind_eq_error h with hrest | ⟨bs, -, h⟩
      · obtain ⟨a', ha', herror⟩ := ih hrest
        exact ⟨a', List.mem_cons_of_mem _ ha', herror⟩
      · cases h

theorem exists_of_mem_left {r : α → β → Prop} {as : List α} {bs : List β}
    (h : List.Forall₂ r as bs) {a : α} (ha : a ∈ as) : ∃ b ∈ bs, r a b := by
  induction h with
  | nil => cases ha
  | cons hab _ ih =>
    rcases List.mem_cons.mp ha with rfl | hrest
    · exact ⟨_, List.mem_cons_self, hab⟩
    · obtain ⟨b, hb, hr⟩ := ih hrest
      exact ⟨b, List.mem_cons_of_mem _ hb, hr⟩

theorem exists_of_mem_right {r : α → β → Prop} {as : List α} {bs : List β}
    (h : List.Forall₂ r as bs) {b : β} (hb : b ∈ bs) : ∃ a ∈ as, r a b := by
  obtain ⟨a, ha, hr⟩ := exists_of_mem_left (r := fun b a => r a b) h.flip hb
  exact ⟨a, ha, hr⟩

theorem forall₂_trans {r : α → β → Prop} {s : β → γ → Prop} {t : α → γ → Prop}
    (ht : ∀ a b c, r a b → s b c → t a c) {as : List α} {bs : List β} {cs : List γ}
    (hab : List.Forall₂ r as bs) (hbc : List.Forall₂ s bs cs) : List.Forall₂ t as cs := by
  induction hab generalizing cs with
  | nil =>
    obtain rfl := List.forall₂_nil_left_iff.mp hbc
    exact .nil
  | cons hr _ ih =>
    cases hbc with
    | cons hs hrest => exact .cons (ht _ _ _ hr hs) (ih hrest)

/-- Lists that come from related lists are related, if each element from each is. -/
theorem forall₂_across {p : α → γ → Prop} {q : β → δ → Prop} {r : α → β → Prop} {s : γ → δ → Prop}
    {as : List α} {bs : List β} {cs : List γ} {ds : List δ} (h : List.Forall₂ r as bs)
    (hp : List.Forall₂ p as cs) (hq : List.Forall₂ q bs ds)
    (hs : ∀ a b c d, r a b → p a c → q b d → s c d) : List.Forall₂ s cs ds := by
  refine forall₂_trans (r := fun c b => ∃ a, p a c ∧ r a b) ?_ ?_ hq
  · rintro c b d ⟨a, hc, hab⟩ hd
    exact hs a b c d hab hc hd
  · exact forall₂_trans (fun c a b hc hab => ⟨a, hc, hab⟩) hp.flip h

/-- Steps that take related elements to related results take related lists to related ones. -/
theorem forall₂_of_mapM {r : α → β → Prop} {s : γ → δ → Prop} {f : α → Except ε γ}
    {g : β → Except ε δ} {as : List α} {bs : List β} {cs : List γ} {ds : List δ}
    (h : List.Forall₂ r as bs) (hf : as.mapM f = .ok cs) (hg : bs.mapM g = .ok ds)
    (hfg : ∀ a b c d, r a b → f a = .ok c → g b = .ok d → s c d) : List.Forall₂ s cs ds :=
  forall₂_across h (mapM_eq_ok hf) (mapM_eq_ok hg) hfg

theorem forall₂_and {p : α → Prop} {q : β → Prop} {r : α → β → Prop} {as : List α} {bs : List β}
    (hp : ∀ a ∈ as, p a) (hq : ∀ b ∈ bs, q b) (h : List.Forall₂ r as bs) :
    List.Forall₂ (fun a b => p a ∧ q b ∧ r a b) as bs := by
  have hright := (List.forall₂_and_left _ _).mpr ⟨hq, h.flip⟩
  exact (List.forall₂_and_left _ _).mpr ⟨hp, hright.flip⟩

/-- Folds over related lists lead from related states to related ones, if each step does. -/
theorem related_of_foldlM {r : β → γ → Prop} {s : α → δ → Prop} {f : β → α → Except ε β}
    {g : γ → δ → Except ε γ} {as : List α} {ds : List δ} {b b' : β} {c c' : γ}
    (h : List.Forall₂ s as ds) (hbc : r b c) (hf : as.foldlM f b = .ok b')
    (hg : ds.foldlM g c = .ok c')
    (hfg : ∀ b c a d b' c', r b c → s a d → f b a = .ok b' → g c d = .ok c' → r b' c') :
    r b' c' := by
  induction h generalizing b c with
  | nil =>
    obtain rfl := Except.ok.inj hf
    obtain rfl := Except.ok.inj hg
    exact hbc
  | cons hhead _ ih =>
    rw [List.foldlM_cons] at hf hg
    obtain ⟨b₁, hb, hf⟩ := bind_eq_ok hf
    obtain ⟨c₁, hc, hg⟩ := bind_eq_ok hg
    exact ih (hfg _ _ _ _ _ _ hbc hhead hb hc) hf hg

theorem map_eq_of_forall₂ {r : α → β → Prop} {f : α → γ} {g : β → γ}
    (hfg : ∀ a b, r a b → f a = g b) {as : List α} {bs : List β} (h : List.Forall₂ r as bs) :
    as.map f = bs.map g := by
  rw [← List.forall₂_eq_eq_eq, List.forall₂_map_left_iff, List.forall₂_map_right_iff]
  exact h.imp hfg

/-- What is found first in two related lists, by tests that agree, is related. -/
theorem find?_related {r : α → β → Prop} {p : α → Bool} {q : β → Bool}
    (hpq : ∀ a b, r a b → p a = q b) {as : List α} {bs : List β} (h : List.Forall₂ r as bs) :
    (as.find? p = none ∧ bs.find? q = none) ∨
      ∃ a b, as.find? p = some a ∧ bs.find? q = some b ∧ r a b := by
  induction h with
  | nil => exact .inl ⟨Eq.refl _, Eq.refl _⟩
  | @cons a b as bs hab _ ih =>
    rw [List.find?_cons, List.find?_cons, hpq a b hab]
    cases q b with
    | true => exact .inr ⟨a, b, Eq.refl _, Eq.refl _, hab⟩
    | false => exact ih

theorem rel_of_related {r : α → β → Prop} {o : Option α} {o' : Option β}
    (h : (o = none ∧ o' = none) ∨ ∃ a b, o = some a ∧ o' = some b ∧ r a b) : Option.Rel r o o' := by
  rcases h with ⟨rfl, rfl⟩ | ⟨a, b, rfl, rfl, hab⟩
  · exact .none
  · exact .some hab

theorem findSome?_related {r : α → β → Prop} {f : α → Option γ} {g : β → Option γ}
    (hfg : ∀ a b, r a b → f a = g b) {as : List α} {bs : List β} (h : List.Forall₂ r as bs) :
    as.findSome? f = bs.findSome? g := by
  induction h with
  | nil => rfl
  | cons hab _ ih => rw [List.findSome?_cons, List.findSome?_cons, hfg _ _ hab, ih]

/-- Steps for all elements come to a result if and only if each of them does. -/
theorem exists_mapM_eq_ok_iff {f : α → Except ε β} {as : List α} :
    (∃ bs, as.mapM f = .ok bs) ↔ ∀ a ∈ as, ∃ b, f a = .ok b := by
  constructor
  · rintro ⟨bs, hbs⟩ a ha
    obtain ⟨b, -, hb⟩ := exists_of_mem_left (mapM_eq_ok hbs) ha
    exact ⟨b, hb⟩
  · intro h
    cases hmap : as.mapM f with
    | ok bs => exact ⟨bs, rfl⟩
    | error e =>
      obtain ⟨a, ha, herror⟩ := mapM_eq_error hmap
      obtain ⟨b, hb⟩ := h a ha
      rw [hb] at herror
      cases herror

/-! ## Computations that are alike -/

inductive Alike (r : α → β → Prop) : Except ε α → Except ε β → Prop
  | ok {a : α} {b : β} (h : r a b) : Alike r (.ok a) (.ok b)
  | error (e : ε) : Alike r (.error e) (.error e)

theorem Alike.rfl {r : α → α → Prop} (hr : ∀ a, r a a) (x : Except ε α) : Alike r x x := by
  cases x with
  | error e => exact .error e
  | ok a => exact .ok (hr a)

theorem Alike.bind_of_ok {r : α → β → Prop} {s : γ → δ → Prop} {x : Except ε α} {y : Except ε β}
    {f : α → Except ε γ} {g : β → Except ε δ} (h : Alike r x y)
    (hfg : ∀ a b, x = .ok a → r a b → Alike s (f a) (g b)) : Alike s (x >>= f) (y >>= g) := by
  cases h with
  | ok hab => exact hfg _ _ (Eq.refl _) hab
  | error e => exact .error e

theorem Alike.bind {r : α → β → Prop} {s : γ → δ → Prop} {x : Except ε α} {y : Except ε β}
    {f : α → Except ε γ} {g : β → Except ε δ} (h : Alike r x y)
    (hfg : ∀ a b, r a b → Alike s (f a) (g b)) : Alike s (x >>= f) (y >>= g) :=
  h.bind_of_ok fun a b _ => hfg a b

theorem Alike.imp {r s : α → β → Prop} {x : Except ε α} {y : Except ε β} (h : Alike r x y)
    (hrs : ∀ a b, r a b → s a b) : Alike s x y := by
  cases h with
  | ok hab => exact .ok (hrs _ _ hab)
  | error e => exact .error e

theorem Alike.map {r : α → β → Prop} {s : γ → δ → Prop} {x : Except ε α} {y : Except ε β}
    {f : α → γ} {g : β → δ} (h : Alike r x y) (hfg : ∀ a b, r a b → s (f a) (g b)) :
    Alike s (x.map f) (y.map g) := by
  cases h with
  | ok hab => exact .ok (hfg _ _ hab)
  | error e => exact .error e

theorem Alike.mapError {r : α → β → Prop} {x : Except ε α} {y : Except ε β} (h : Alike r x y)
    (f : ε → ε') : Alike r (x.mapError f) (y.mapError f) := by
  cases h with
  | ok hab => exact .ok hab
  | error e => exact .error (f e)

theorem Alike.mapM_related {r : γ → δ → Prop} {f : α → Except ε γ} {g : β → Except ε δ}
    {as : List α} {bs : List β} (h : List.Forall₂ (fun a b => Alike r (f a) (g b)) as bs) :
    Alike (List.Forall₂ r) (as.mapM f) (bs.mapM g) := by
  induction h with
  | nil => exact .ok .nil
  | cons hhead _ ih =>
    rw [List.mapM_cons, List.mapM_cons]
    refine hhead.bind fun c d hcd => ih.bind fun cs ds hrest => ?_
    exact .ok (.cons hcd hrest)

theorem Alike.mapM {r : β → γ → Prop} {f : α → Except ε β} {g : α → Except ε γ} {as : List α}
    (h : ∀ a ∈ as, Alike r (f a) (g a)) : Alike (List.Forall₂ r) (as.mapM f) (as.mapM g) :=
  mapM_related (List.forall₂_same.mpr h)

/-- Steps that are alike from related states on lead to related states, or fail alike. -/
theorem Alike.foldlM {r : β → γ → Prop} {f : β → α → Except ε β} {g : γ → α → Except ε γ}
    (hstep : ∀ b c a, r b c → Alike r (f b a) (g c a)) {b : β} {c : γ} (hbc : r b c)
    (as : List α) : Alike r (as.foldlM f b) (as.foldlM g c) := by
  induction as generalizing b c with
  | nil => exact .ok hbc
  | cons a as ih =>
    rw [List.foldlM_cons, List.foldlM_cons]
    exact (hstep b c a hbc).bind fun b' c' hnext => ih hnext

theorem Alike.eq_ok {r : α → β → Prop} {x : Except ε α} {y : Except ε β} (h : Alike r x y)
    {a : α} (hx : x = .ok a) : ∃ b, y = .ok b ∧ r a b := by
  cases h with
  | error e => cases hx
  | ok hab => exact ⟨_, Eq.refl _, Except.ok.inj hx ▸ hab⟩

theorem Alike.symm {r : α → β → Prop} {x : Except ε α} {y : Except ε β} (h : Alike r x y) :
    Alike (fun b a => r a b) y x := by
  cases h with
  | error e => exact .error e
  | ok hab => exact .ok hab

/-! ## Computations that match others -/

def Matches (r : α → β → Prop) (x : Except ε α) (y : Except ε β) : Prop :=
  ∀ b, y = .ok b → ∃ a, x = .ok a ∧ r a b

theorem Matches.ok {r : α → β → Prop} {a : α} {b : β} (h : r a b) :
    Matches r (.ok a : Except ε α) (.ok b) := by
  intro b' hb
  obtain rfl := Except.ok.inj hb
  exact ⟨a, rfl, h⟩

theorem Matches.error {r : α → β → Prop} {x : Except ε α} {e : ε} : Matches r x (.error e) :=
  nofun

theorem Matches.bind {r : α → β → Prop} {s : γ → δ → Prop} {x : Except ε α} {y : Except ε β}
    {f : α → Except ε γ} {g : β → Except ε δ} (h : Matches r x y)
    (hfg : ∀ a b, r a b → Matches s (f a) (g b)) : Matches s (x >>= f) (y >>= g) := by
  intro d hd
  obtain ⟨b, hb, hd⟩ := bind_eq_ok hd
  obtain ⟨a, ha, hab⟩ := h b hb
  obtain ⟨c, hc, hcd⟩ := hfg a b hab d hd
  exact ⟨c, by rw [ha]; exact hc, hcd⟩

theorem Matches.map {r : α → β → Prop} {s : γ → δ → Prop} {x : Except ε α} {y : Except ε β}
    {f : α → γ} {g : β → δ} (h : Matches r x y) (hfg : ∀ a b, r a b → s (f a) (g b)) :
    Matches s (x.map f) (y.map g) := by
  intro d hd
  obtain ⟨b, hb, rfl⟩ := map_eq_ok hd
  obtain ⟨a, ha, hab⟩ := h b hb
  exact ⟨f a, by rw [ha]; rfl, hfg a b hab⟩

theorem Matches.mapM {r : α → β → Prop} {s : γ → δ → Prop} {f : α → Except ε γ}
    {g : β → Except ε δ} (hfg : ∀ a b, r a b → Matches s (f a) (g b)) {as : List α} {bs : List β}
    (h : List.Forall₂ r as bs) : Matches (List.Forall₂ s) (as.mapM f) (bs.mapM g) := by
  induction h with
  | nil => exact .ok .nil
  | cons hab _ ih =>
    rw [List.mapM_cons, List.mapM_cons]
    exact (hfg _ _ hab).bind fun _ _ hhead => ih.bind fun _ _ htail => .ok (.cons hhead htail)

end Outcome
end Schematic
