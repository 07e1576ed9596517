import PasswordVault.Proofs.Attempt
import Mathlib.Algebra.Order.Ring.Nat

/-!
# What an attempt draws

The byte strings that an attempt draws are slices of the tape, one behind the other and without
gaps. An attempt that succeeds gives a value that was made of such slices. One that fails has lost
them; if it checks before it draws, there are none.

* `Slices`: byte strings that stand on a tape from its position on, `placed` where each of them is;
* `Yields`: an attempt that cannot fail, with what it draws, `Yields.bind` for two in a row;
* `Disciplined`: **an attempt that draws what it gives and loses what it is known to lose**,
  `Disciplined.bind` for a check in front of one.
-/

namespace PasswordVault

variable {α β : Type}

/-! ### Slices -/

/-- How many bytes were drawn. -/
def consumed : List Bytes → ℕ
  | [] => 0
  | d :: ds => d.length + consumed ds

@[simp] theorem consumed_nil : consumed [] = 0 := rfl

@[simp] theorem consumed_cons (d : Bytes) (ds : List Bytes) :
    consumed (d :: ds) = d.length + consumed ds := rfl

@[simp] theorem consumed_append (ds es : List Bytes) :
    consumed (ds ++ es) = consumed ds + consumed es := by
  induction ds with
  | nil => simp
  | cons d ds ih => simp [ih, Nat.add_assoc]

@[simp] theorem Tape.slice_advance (tape : Tape) (n start count : ℕ) :
    (tape.advance n).slice start count = tape.slice start count := rfl

@[simp] theorem Tape.position_advance (tape : Tape) (n : ℕ) :
    (tape.advance n).position = tape.position + n := rfl

/-- The byte strings stand on the tape, the first at its position and each of the others where the
one before it ends. -/
def Slices : Tape → List Bytes → Prop
  | _, [] => True
  | tape, d :: ds => d = tape.slice tape.position d.length ∧ Slices (tape.advance d.length) ds

theorem slices_append {tape : Tape} {ds es : List Bytes} :
    Slices tape (ds ++ es) ↔ Slices tape ds ∧ Slices (tape.advance (consumed ds)) es := by
  induction ds generalizing tape with
  | nil => simp [Slices]
  | cons d ds ih =>
    rw [List.cons_append, Slices, Slices, ih, Tape.advance_advance, consumed_cons, and_assoc]

theorem slices_slice (tape : Tape) (count : ℕ) : Slices tape [tape.slice tape.position count] := by
  simp [Slices]

/-- Byte strings with the positions where they start, the first of which is given. -/
def placed : (start : ℕ) → List Bytes → List (ℕ × Bytes)
  | _, [] => []
  | start, d :: ds => (start, d) :: placed (start + d.length) ds

theorem le_of_mem_placed {start : ℕ} {ds : List Bytes} {p : ℕ × Bytes} (h : p ∈ placed start ds) :
    start ≤ p.1 := by
  induction ds generalizing start with
  | nil => cases h
  | cons d ds ih =>
    rcases List.mem_cons.mp h with rfl | h
    · exact Nat.le_refl _
    · exact Nat.le_trans (Nat.le_add_right _ _) (ih h)

/-- **No position is used twice**: each byte string ends where a later one starts, or before. -/
theorem pairwise_placed (start : ℕ) (ds : List Bytes) :
    (placed start ds).Pairwise fun p q => p.1 + p.2.length ≤ q.1 := by
  induction ds generalizing start with
  | nil => exact .nil
  | cons d ds ih => exact .cons (fun q hq => le_of_mem_placed hq) (ih _)

theorem Slices.eq_slice_of_mem_placed {tape : Tape} {ds : List Bytes} (h : Slices tape ds)
    {p : ℕ × Bytes} (hp : p ∈ placed tape.position ds) : p.2 = tape.slice p.1 p.2.length := by
  -- The tape goes on behind each byte string, but its slices stay the same.
  induction ds generalizing tape with
  | nil => cases hp
  | cons d ds ih =>
    rcases List.mem_cons.mp hp with rfl | hp
    · exact h.1
    · have hslice := ih h.2 hp
      rwa [Tape.slice_advance] at hslice

theorem map_snd_placed (start : ℕ) (ds : List Bytes) : (placed start ds).map Prod.snd = ds := by
  induction ds generalizing start with
  | nil => rfl
  | cons d ds ih => rw [placed, List.map_cons, ih]

/-- Some of the byte strings, with the positions where they start. -/
theorem Slices.exists_placed {tape : Tape} {ds chosen : List Bytes} (h : Slices tape ds)
    (hc : chosen.Sublist ds) :
    ∃ ps : List (ℕ × Bytes), ps.map Prod.snd = chosen ∧
      (∀ p ∈ ps, p.2 = tape.slice p.1 p.2.length) ∧
      ps.Pairwise fun p q => p.1 + p.2.length ≤ q.1 := by
  rw [← map_snd_placed tape.position ds, List.sublist_map_iff] at hc
  obtain ⟨ps, hps, rfl⟩ := hc
  exact ⟨ps, rfl, fun p hp => h.eq_slice_of_mem_placed (hps.subset hp),
    (pairwise_placed _ _).sublist hps⟩

/-! ### Attempts that cannot fail -/

/-- The attempt succeeds on every tape, with a value that was made of what it draws. -/
def Yields (x : Attempt α) (made : α → List Bytes → Prop) : Prop :=
  ∀ tape, ∃ a ds, Gives x tape a (tape.advance (consumed ds)) ∧ Slices tape ds ∧ made a ds

namespace Yields

theorem mono {x : Attempt α} {p q : α → List Bytes → Prop} (hx : Yields x p)
    (h : ∀ a ds, p a ds → q a ds) : Yields x q := by
  intro tape
  obtain ⟨a, ds, hg, hs, hp⟩ := hx tape
  exact ⟨a, ds, hg, hs, h a ds hp⟩

theorem pure (a : α) : Yields (Pure.pure a) fun b ds => b = a ∧ ds = [] :=
  fun _ => ⟨a, [], gives_pure.mpr ⟨rfl, rfl⟩, trivial, rfl, rfl⟩

/-- A check that accepts draws nothing. -/
theorem ofExcept {x : Except Error α} {a : α} (h : x = .ok a) :
    Yields (Attempt.ofExcept x) fun b ds => b = a ∧ ds = [] :=
  fun _ => ⟨a, [], gives_ofExcept.mpr ⟨h, rfl⟩, trivial, rfl, rfl⟩

/-- A check that accepts, in front of an attempt. -/
theorem check {x : Except Error α} {a : α} (h : x = .ok a) {f : α → Attempt β}
    {q : β → List Bytes → Prop} (hf : Yields (f a) q) : Yields (Attempt.ofExcept x >>= f) q := by
  intro tape
  simp only [Gives, outcome_ofExcept_bind_ok h f]
  exact hf tape

/-- One draw, and what is made of it. -/
theorem once {x : Draw α} {count : ℕ} {f : Bytes → α}
    (h : ∀ tape, x tape = (f (tape.slice tape.position count), tape.advance count)) :
    Yields (liftM x) fun a ds => ∃ d, d.length = count ∧ a = f d ∧ ds = [d] := by
  intro tape
  have hl := Tape.length_slice tape tape.position count
  refine ⟨_, [_], gives_draw.mpr ⟨congrArg Prod.fst (h tape), ?_⟩, slices_slice tape count, _, hl,
    rfl, rfl⟩
  rw [h, consumed_cons, consumed_nil, hl, Nat.add_zero]

theorem draw (count : ℕ) :
    Yields (liftM (PasswordVault.draw count)) fun d ds => d.length = count ∧ ds = [d] := by
  refine (once (f := id) fun _ => rfl).mono ?_
  rintro _ _ ⟨d, hl, rfl, rfl⟩
  exact ⟨hl, rfl⟩

/-- **One attempt after another**: what they draw stands one behind the other. -/
theorem bind {x : Attempt α} {f : α → Attempt β} {p : α → List Bytes → Prop}
    {q : α → β → List Bytes → Prop} (hx : Yields x p) (hf : ∀ a ds, p a ds → Yields (f a) (q a)) :
    Yields (x >>= f) fun b ds =>
      ∃ a first rest, p a first ∧ q a b rest ∧ ds = first ++ rest := by
  intro tape
  obtain ⟨a, first, hg, hs, hp⟩ := hx tape
  obtain ⟨b, rest, hg', hs', hq⟩ := hf a first hp (tape.advance (consumed first))
  refine ⟨b, first ++ rest, gives_bind.mpr ⟨a, _, hg, ?_⟩, slices_append.mpr ⟨hs, hs'⟩, a, first,
    rest, hp, hq, rfl⟩
  rwa [consumed_append, ← Tape.advance_advance]

/-- **One draw after another**, in an attempt. -/
theorem lift_bind {x : Draw α} {f : α → Draw β} {p : α → List Bytes → Prop}
    {q : α → β → List Bytes → Prop} (hx : Yields (liftM x) p)
    (hf : ∀ a ds, p a ds → Yields (liftM (f a)) (q a)) :
    Yields (liftM (x >>= f)) fun b ds =>
      ∃ a first rest, p a first ∧ q a b rest ∧ ds = first ++ rest :=
  hx.bind hf

/-- One attempt for each item of a list, each of which draws once. -/
theorem mapM {f : α → Attempt β} {as : List α} {r : α → β → Prop} {s : β → Bytes → Prop}
    (hf : ∀ a ∈ as, Yields (f a) fun b ds => r a b ∧ ∃ d, s b d ∧ ds = [d]) :
    Yields (as.mapM f) fun bs ds => List.Forall₂ r as bs ∧ List.Forall₂ s bs ds := by
  induction as with
  | nil =>
    rw [List.mapM_nil]
    refine (pure []).mono ?_
    rintro _ _ ⟨rfl, rfl⟩
    exact ⟨.nil, .nil⟩
  | cons a as ih =>
    obtain ⟨ha, has⟩ := List.forall_mem_cons.mp hf
    rw [List.mapM_cons]
    refine (ha.bind fun b _ _ => (ih has).bind fun bs _ _ => pure (b :: bs)).mono ?_
    rintro _ _ ⟨b, _, _, ⟨hr, d, hs, rfl⟩, ⟨bs, ds, _, ⟨hrs, hss⟩, ⟨rfl, rfl⟩, rfl⟩, rfl⟩
    rw [List.append_nil]
    exact ⟨.cons hr hrs, .cons hs hss⟩

/-- What is known of every value that the attempt gives. -/
theorem and_gives {x : Attempt α} {p : α → List Bytes → Prop} {q : α → Prop} (hx : Yields x p)
    (hq : ∀ {tape a rest}, Gives x tape a rest → q a) : Yields x fun a ds => q a ∧ p a ds := by
  intro tape
  obtain ⟨a, ds, hg, hs, hp⟩ := hx tape
  exact ⟨a, ds, hg, hs, hq hg, hp⟩

end Yields

/-! ### Attempts that may fail -/

/-- **On every tape** the attempt succeeds with a value that was made of what it draws, or fails,
and what it drew is lost. -/
def Disciplined (x : Attempt α) (made : α → List Bytes → Prop)
    (lost : Error → List Bytes → Prop) : Prop :=
  ∀ tape, ∃ ds, Slices tape ds ∧
    ((∃ e, x.outcome tape = (.error e, tape.advance (consumed ds)) ∧ lost e ds) ∨
      ∃ a, Gives x tape a (tape.advance (consumed ds)) ∧ made a ds)

/-- Nothing is lost. -/
def Unspent (_ : Error) (ds : List Bytes) : Prop := ds = []

theorem Yields.disciplined {x : Attempt α} {p : α → List Bytes → Prop}
    {lost : Error → List Bytes → Prop} (hx : Yields x p) : Disciplined x p lost := by
  intro tape
  obtain ⟨a, ds, hg, hs, hp⟩ := hx tape
  exact ⟨ds, hs, Or.inr ⟨a, hg, hp⟩⟩

/-- The next byte strings of a tape, of the given lengths. -/
def Tape.cut : Tape → List ℕ → List Bytes
  | _, [] => []
  | tape, n :: ns => tape.slice tape.position n :: (tape.advance n).cut ns

theorem map_length_cut (tape : Tape) (lengths : List ℕ) :
    (tape.cut lengths).map List.length = lengths := by
  induction lengths generalizing tape with
  | nil => rfl
  | cons n ns ih => rw [Tape.cut, List.map_cons, Tape.length_slice, ih]

theorem slices_cut (tape : Tape) (lengths : List ℕ) : Slices tape (tape.cut lengths) := by
  induction lengths generalizing tape with
  | nil => trivial
  | cons n ns ih => exact ⟨by rw [Tape.length_slice], by rw [Tape.length_slice]; exact ih _⟩

theorem consumed_eq_sum (ds : List Bytes) : consumed ds = (ds.map List.length).sum := by
  induction ds with
  | nil => rfl
  | cons d ds ih => rw [consumed_cons, ih, List.map_cons, List.sum_cons]

namespace Disciplined

theorem mono {x : Attempt α} {made : α → List Bytes → Prop} {l m : Error → List Bytes → Prop}
    (hx : Disciplined x made l) (h : ∀ e ds, l e ds → m e ds) : Disciplined x made m := by
  intro tape
  obtain ⟨ds, hs, hd⟩ := hx tape
  exact ⟨ds, hs, hd.imp_left fun ⟨e, ho, hl⟩ => ⟨e, ho, h e ds hl⟩⟩

theorem throw (e : Error) {made : α → List Bytes → Prop} :
    Disciplined (MonadExcept.throw e : Attempt α) made Unspent :=
  fun _ => ⟨[], trivial, Or.inl ⟨e, rfl, rfl⟩⟩

theorem map {x : Attempt α} {p : α → List Bytes → Prop} {q : β → List Bytes → Prop}
    {lost : Error → List Bytes → Prop} {f : α → β} (hx : Disciplined x p lost)
    (h : ∀ a ds, p a ds → q (f a) ds) : Disciplined (f <$> x) q lost := by
  intro tape
  obtain ⟨ds, hs, ⟨e, he, hl⟩ | ⟨a, hg, hp⟩⟩ := hx tape
  · refine ⟨ds, hs, Or.inl ⟨e, ?_, hl⟩⟩
    rw [← bind_pure_comp]
    exact outcome_bind_error he _
  · exact ⟨ds, hs, Or.inr ⟨f a, hg.map f, h a ds hp⟩⟩

theorem ofExcept (x : Except Error α) :
    Disciplined (Attempt.ofExcept x) (fun a ds => x = .ok a ∧ ds = []) Unspent := by
  intro tape
  refine ⟨[], trivial, ?_⟩
  cases h : x with
  | error e => exact Or.inl ⟨e, rfl, rfl⟩
  | ok a => exact Or.inr ⟨a, rfl, rfl, rfl⟩

/-- **A check in front** of a disciplined attempt, on which nothing is lost. -/
theorem bind {check : Except Error α} {f : α → Attempt β} {q : β → List Bytes → Prop}
    {lost : Error → List Bytes → Prop} (h : ∀ e, lost e [])
    (hf : ∀ a, check = .ok a → Disciplined (f a) q lost) :
    Disciplined (Attempt.ofExcept check >>= f) q lost := by
  intro tape
  -- The check is the same on every tape; only what it accepts comes to `f`.
  cases hc : check with
  | error e => exact ⟨[], trivial, Or.inl ⟨e, outcome_ofExcept_bind_error rfl f tape, h e⟩⟩
  | ok a =>
    simp only [Gives, outcome_ofExcept_bind_ok rfl f]
    exact hf a hc tape

/-- **An attempt that breaks off** on every tape, after byte strings of known lengths were drawn. -/
theorem of_outcome {x : Attempt α} {made : α → List Bytes → Prop}
    {lost : Error → List Bytes → Prop} {e : Error} (lengths : List ℕ)
    (h : ∀ tape, x.outcome tape = (.error e, tape.advance lengths.sum))
    (hl : ∀ ds, ds.map List.length = lengths → lost e ds) : Disciplined x made lost := by
  intro tape
  have hlengths := map_length_cut tape lengths
  refine ⟨tape.cut lengths, slices_cut tape lengths, Or.inl ⟨e, ?_, hl _ hlengths⟩⟩
  rw [h, consumed_eq_sum, hlengths]

end Disciplined

end PasswordVault
