import PasswordVault.Entropy
import Mathlib.Data.List.Forall2

/-!
# Runs of attempts

An attempt that is run on a tape gives a value and leaves a tape, or fails. `Gives` is the first of
these outcomes; a sequence of attempts gives what its parts give one after the other.

* `Except.bind_eq_ok_iff`, `Except.bind_eq_error_iff`, `Except.mapM_eq_ok_iff`,
  `Except.mapM_eq_error_iff`: checks one after the other;
* `gives_bind`, `gives_ofExcept`, `gives_draw`: what the parts of an attempt give;
* `gives_mapM`, `exists_gives_mapM`: one attempt for each item of a list.
-/

namespace PasswordVault

variable {α β : Type}

/-! ### Draws -/

/-- The tape after a number of bytes more were drawn. -/
def Tape.advance (tape : Tape) (count : ℕ) : Tape :=
  { tape with position := tape.position + count }

@[simp] theorem Tape.advance_zero (tape : Tape) : tape.advance 0 = tape := rfl

theorem Tape.advance_advance (tape : Tape) (m n : ℕ) :
    (tape.advance m).advance n = tape.advance (m + n) := by
  simp [advance, Nat.add_assoc]

@[simp] theorem Tape.length_slice (tape : Tape) (start count : ℕ) :
    (tape.slice start count).length = count := by
  simp [slice]

theorem Tape.getD_slice (tape : Tape) (start : ℕ) {count i : ℕ} (h : i < count) :
    (tape.slice start count).getD i 0 = tape.byte (start + i) := by
  simp [slice, h]

/-! ### Checks and attempts -/

theorem Except.bind_eq_ok_iff {ε : Type} {x : Except ε α} {f : α → Except ε β} {b : β} :
    x >>= f = .ok b ↔ ∃ a, x = .ok a ∧ f a = .ok b := by
  cases x with
  | error e => exact ⟨nofun, nofun⟩
  | ok a =>
    constructor
    · intro h
      exact ⟨a, rfl, h⟩
    · rintro ⟨a', ha, h⟩
      obtain rfl := Except.ok.inj ha
      exact h

theorem Except.bind_eq_error_iff {ε : Type} {x : Except ε α} {f : α → Except ε β} {e : ε} :
    x >>= f = .error e ↔ x = .error e ∨ ∃ a, x = .ok a ∧ f a = .error e := by
  cases x with
  | error e' =>
    constructor
    · intro h
      exact Or.inl (congrArg Except.error (Except.error.inj h))
    · rintro (h | ⟨a, ⟨⟩, -⟩)
      exact congrArg Except.error (Except.error.inj h)
  | ok a =>
    constructor
    · intro h
      exact Or.inr ⟨a, rfl, h⟩
    · rintro (⟨⟨⟩⟩ | ⟨a', ha, h⟩)
      obtain rfl := Except.ok.inj ha
      exact h

/-- A check and what follows it fail as the check does, or as what follows does. -/
theorem Except.check_bind_eq_error_iff {ε : Type} {x : Except ε Unit} {y : Except ε β} {e : ε} :
    (do x; y) = .error e ↔ x = .error e ∨ x = .ok () ∧ y = .error e := by
  rw [bind_eq_error_iff, Unique.exists_iff]

/-- A check of one condition accepts when the condition holds. -/
theorem Except.ite_eq_ok_iff {ε : Type} {p : Prop} [Decidable p] {e : ε} :
    (if p then .ok () else .error e : Except ε Unit) = .ok () ↔ p := by
  by_cases h : p
  · rw [if_pos h]
    exact ⟨fun _ => h, fun _ => rfl⟩
  · rw [if_neg h]
    constructor
    · intro he
      cases he
    · intro hp
      exact absurd hp h

/-- A check of one condition fails with its error when the condition does not hold. -/
theorem Except.ite_eq_error_iff {ε : Type} {p : Prop} [Decidable p] {e e' : ε} :
    (if p then .ok () else .error e : Except ε Unit) = .error e' ↔ ¬ p ∧ e' = e := by
  by_cases h : p
  · rw [if_pos h]
    exact ⟨nofun, fun hn => absurd h hn.1⟩
  · rw [if_neg h]
    exact ⟨fun he => ⟨h, (Except.error.inj he).symm⟩, fun he => congrArg Except.error he.2.symm⟩

/-- A check of each item accepts a list when it accepts them all. -/
theorem Except.mapM_eq_ok_iff {ε : Type} {f : α → Except ε β} {as : List α} {bs : List β} :
    as.mapM f = .ok bs ↔ List.Forall₂ (fun a b => f a = .ok b) as bs := by
  induction as generalizing bs with
  | nil =>
    rw [List.mapM_nil, List.forall₂_nil_left_iff]
    constructor
    · intro h
      exact (Except.ok.inj h).symm
    · rintro rfl
      rfl
  | cons a as ih =>
    rw [List.mapM_cons, List.forall₂_cons_left_iff, Except.bind_eq_ok_iff]
    constructor
    · rintro ⟨b, hb, h⟩
      obtain ⟨bs', hbs, h⟩ := Except.bind_eq_ok_iff.mp h
      exact ⟨b, bs', hb, ih.mp hbs, (Except.ok.inj h).symm⟩
    · rintro ⟨b, bs', hb, hbs, rfl⟩
      exact ⟨b, hb, Except.bind_eq_ok_iff.mpr ⟨bs', ih.mpr hbs, rfl⟩⟩

/-- A check of each item fails on a list as it fails on the first item that it does not accept. -/
theorem Except.mapM_eq_error_iff {ε : Type} {f : α → Except ε β} {as : List α} {e : ε} :
    as.mapM f = .error e ↔ ∃ before a after, as = before ++ a :: after ∧
      (∀ b ∈ before, ∃ c, f b = .ok c) ∧ f a = .error e := by
  induction as with
  | nil =>
    rw [List.mapM_nil]
    refine iff_of_false nofun ?_
    rintro ⟨before, a, after, h, -⟩
    exact List.append_ne_nil_of_right_ne_nil before (List.cons_ne_nil a after) h.symm
  | cons a as ih =>
    rw [List.mapM_cons, Except.bind_eq_error_iff]
    constructor
    · rintro (ha | ⟨c, ha, h⟩)
      · exact ⟨[], a, as, rfl, nofun, ha⟩
      · rcases Except.bind_eq_error_iff.mp h with h | ⟨_, -, h⟩
        · obtain ⟨before, a', after, rfl, hb, ha'⟩ := ih.mp h
          exact ⟨a :: before, a', after, rfl, List.forall_mem_cons.mpr ⟨⟨c, ha⟩, hb⟩, ha'⟩
        · cases h
    · rintro ⟨before, a', after, h, hb, ha'⟩
      cases before with
      | nil =>
        obtain ⟨rfl, rfl⟩ := List.cons.inj h
        exact Or.inl ha'
      | cons b before =>
        obtain ⟨rfl, rfl⟩ := List.cons.inj h
        obtain ⟨⟨c, hc⟩, hb⟩ := List.forall_mem_cons.mp hb
        have hrest := ih.mpr ⟨before, a', after, rfl, hb, ha'⟩
        exact Or.inr ⟨c, hc, Except.bind_eq_error_iff.mpr (Or.inl hrest)⟩

/-- What an attempt comes to on a tape, and the tape that it leaves. -/
def Attempt.outcome (x : Attempt α) (tape : Tape) : Except Error α × Tape := x.run tape

/-- The attempt succeeds on the tape with the value `a` and leaves the tape `rest`. -/
def Gives (x : Attempt α) (tape : Tape) (a : α) (rest : Tape) : Prop :=
  x.outcome tape = (.ok a, rest)

theorem gives_pure {a b : α} {tape rest : Tape} :
    Gives (pure a) tape b rest ↔ a = b ∧ tape = rest := by
  unfold Gives
  change (Except.ok a, tape) = _ ↔ _
  simp

theorem outcome_bind (x : Attempt α) (f : α → Attempt β) (tape : Tape) :
    Attempt.outcome (x >>= f) tape = match x.outcome tape with
      | (.ok a, mid) => (f a).outcome mid
      | (.error e, mid) => (.error e, mid) := by
  change (ExceptT.bindCont f (x.outcome tape).1 : Draw _) (x.outcome tape).2 = _
  obtain ⟨e | a, mid⟩ := x.outcome tape <;> rfl

theorem outcome_ofExcept (x : Except Error α) (tape : Tape) :
    (Attempt.ofExcept x).outcome tape = (x, tape) := by
  cases x <;> rfl

/-- After a check that fails nothing happens. -/
theorem outcome_ofExcept_bind_error {x : Except Error α} {e : Error} (h : x = .error e)
    (f : α → Attempt β) (tape : Tape) :
    Attempt.outcome (Attempt.ofExcept x >>= f) tape = (.error e, tape) := by
  rw [outcome_bind, outcome_ofExcept, h]

/-- After a check that accepts comes what follows it. -/
theorem outcome_ofExcept_bind_ok {x : Except Error α} {a : α} (h : x = .ok a)
    (f : α → Attempt β) (tape : Tape) :
    Attempt.outcome (Attempt.ofExcept x >>= f) tape = (f a).outcome tape := by
  rw [outcome_bind, outcome_ofExcept, h]

/-- What a check and what follows it come to. -/
theorem fst_outcome_ofExcept_bind (x : Except Error α) (f : α → Attempt β) (tape : Tape) :
    (Attempt.outcome (Attempt.ofExcept x >>= f) tape).1 =
      x >>= fun a => ((f a).outcome tape).1 := by
  rw [outcome_bind, outcome_ofExcept]
  cases x <;> rfl

theorem gives_bind {x : Attempt α} {f : α → Attempt β} {tape rest : Tape} {b : β} :
    Gives (x >>= f) tape b rest ↔ ∃ a mid, Gives x tape a mid ∧ Gives (f a) mid b rest := by
  unfold Gives
  rw [outcome_bind]
  obtain ⟨e | a, mid⟩ := x.outcome tape <;> simp

/-- What comes after an attempt that succeeded. -/
theorem Gives.outcome_bind {x : Attempt α} {tape mid : Tape} {a : α} (h : Gives x tape a mid)
    (f : α → Attempt β) : Attempt.outcome (x >>= f) tape = (f a).outcome mid := by
  rw [PasswordVault.outcome_bind, h]

/-- What comes after an attempt that failed. -/
theorem outcome_bind_error {x : Attempt α} {tape rest : Tape} {e : Error}
    (h : x.outcome tape = (.error e, rest)) (f : α → Attempt β) :
    Attempt.outcome (x >>= f) tape = (.error e, rest) := by
  rw [outcome_bind, h]

theorem Gives.map {x : Attempt α} {tape rest : Tape} {a : α} (h : Gives x tape a rest)
    (f : α → β) : Gives (f <$> x) tape (f a) rest := by
  rw [← bind_pure_comp]
  exact gives_bind.mpr ⟨a, rest, h, gives_pure.mpr ⟨rfl, rfl⟩⟩

theorem gives_ofExcept {x : Except Error α} {tape rest : Tape} {a : α} :
    Gives (Attempt.ofExcept x) tape a rest ↔ x = .ok a ∧ tape = rest := by
  cases x with
  | error e =>
    unfold Gives
    change (Except.error e, tape) = _ ↔ _
    simp
  | ok b => rw [Attempt.ofExcept, gives_pure, Except.ok.injEq]

/-- What a check and what follows it give. -/
theorem gives_ofExcept_bind {x : Except Error α} {f : α → Attempt β} {tape rest : Tape} {b : β} :
    Gives (Attempt.ofExcept x >>= f) tape b rest ↔ ∃ a, x = .ok a ∧ Gives (f a) tape b rest := by
  simp only [gives_bind, gives_ofExcept]
  constructor
  · rintro ⟨a, _, ⟨ha, rfl⟩, h⟩
    exact ⟨a, ha, h⟩
  · rintro ⟨a, ha, h⟩
    exact ⟨a, tape, ⟨ha, rfl⟩, h⟩

theorem gives_draw {x : Draw α} {tape rest : Tape} {a : α} :
    Gives (liftM x) tape a rest ↔ (x tape).1 = a ∧ (x tape).2 = rest := by
  unfold Gives
  change (Except.ok (x tape).1, (x tape).2) = _ ↔ _
  simp

theorem gives_mapM {f : α → Attempt β} {as : List α} {bs : List β} {tape rest : Tape}
    (h : Gives (as.mapM f) tape bs rest) :
    List.Forall₂ (fun a b => ∃ before after, Gives (f a) before b after) as bs := by
  induction as generalizing bs tape with
  | nil =>
    rw [List.mapM_nil, gives_pure] at h
    rw [← h.1]
    exact List.Forall₂.nil
  | cons a as ih =>
    simp only [List.mapM_cons, gives_bind, gives_pure] at h
    obtain ⟨b, mid, hb, bs', mid', hbs, rfl, rfl⟩ := h
    exact List.Forall₂.cons ⟨tape, mid, hb⟩ (ih hbs)

/-- One attempt for each item of a list breaks off at the first that fails; `n` is how many bytes
each of the attempts before it draws. -/
theorem outcome_mapM_of_error {f : α → Attempt β} {before : List α} {a : α} {n : ℕ} {e : Error}
    (hb : ∀ b ∈ before, ∀ tape, ∃ c, Gives (f b) tape c (tape.advance n))
    (ha : ∀ tape, (f a).outcome tape = (.error e, tape)) (after : List α) (tape : Tape) :
    Attempt.outcome ((before ++ a :: after).mapM f) tape =
      (.error e, tape.advance (n * before.length)) := by
  induction before generalizing tape with
  | nil =>
    rw [List.nil_append, List.mapM_cons]
    exact outcome_bind_error (ha tape) _
  | cons b before ih =>
    obtain ⟨hb, hbefore⟩ := List.forall_mem_cons.mp hb
    obtain ⟨c, hc⟩ := hb tape
    rw [List.cons_append, List.mapM_cons, hc.outcome_bind]
    rw [outcome_bind_error (ih hbefore _), Tape.advance_advance, List.length_cons, Nat.mul_succ,
      Nat.add_comm]

/-- Attempts of which each succeeds on every tape succeed one after the other. -/
theorem exists_gives_mapM {f : α → Attempt β} {as : List α}
    (h : ∀ a ∈ as, ∀ tape, ∃ b rest, Gives (f a) tape b rest) (tape : Tape) :
    ∃ bs rest, Gives (as.mapM f) tape bs rest := by
  induction as generalizing tape with
  | nil => exact ⟨[], tape, gives_pure.mpr ⟨rfl, rfl⟩⟩
  | cons a as ih =>
    obtain ⟨ha, has⟩ := List.forall_mem_cons.mp h
    obtain ⟨b, mid, hb⟩ := ha tape
    obtain ⟨bs, rest, hbs⟩ := ih has mid
    refine ⟨b :: bs, rest, ?_⟩
    simp only [List.mapM_cons, gives_bind, gives_pure]
    exact ⟨b, mid, hb, bs, rest, hbs, rfl, rfl⟩

end PasswordVault
