import PasswordVault.Proofs.Session.Operation
import PasswordVault.Proofs.Vault.Run

/-!
# Sessions

A session is a list of operations, each of which works on the tape that the one before it left.
What an operation was given may be what an earlier one answered; as the operations of a session are
arbitrary, nothing has to be said of that.

* `events`: a session with what each operation came to and the tapes before and after it;
* `Event.Draws`: the byte strings that an event drew;
* `exists_draws_events`: they stand on the tape one behind the other;
* `Operation.Stumbles`: the operations that may lose what they draw;
* `fresh_draws`: **no random byte is used twice, and none by an operation that fails**, unless it
  stumbles, `not_always_unspent`: which is **not always so**.
-/

namespace PasswordVault.Session

/-- The operation comes to a new password or to the address of a contact without a UTF-8 form when
it has drawn something. -/
def Operation.Stumbles : Operation → Prop
  | .create _ _ password | .createWith _ _ password _ _ => password.isWhole = false
  | .changePassword _ _ _ _ next => next.isWhole = false
  | .bundle _ seed contacts threshold => ∃ done, Request.BreaksOff seed contacts threshold done
  | _ => False

theorem Lost.eq_nil_or_stumbles {o : Operation} {e : Error} {ds : List Bytes} (h : Lost o e ds) :
    ds = [] ∨ e = .unencodable ∧ o.Stumbles := by
  cases h with
  | nothing => exact Or.inl rfl
  | create hp _ | createWith hp _ | changePassword hp _ => exact Or.inr ⟨rfl, hp⟩
  | bundle hb _ => exact Or.inr ⟨rfl, _, hb⟩

/-- What one operation of a session came to, and the tape before and after it. -/
structure Event where
  operation : Operation
  outcome : Except Error Answer
  before : Tape
  after : Tape

/-- What an operation comes to on a tape. -/
def Operation.event (o : Operation) (tape : Tape) : Event :=
  ⟨o, (o.attempt.outcome tape).1, tape, (o.attempt.outcome tape).2⟩

/-- What the operations of a session come to, one after the other. -/
def events : List Operation → Tape → List Event
  | [], _ => []
  | o :: os, tape => o.event tape :: events os (o.event tape).after

namespace Event

/-- The boxes that were sealed. -/
def boxes (e : Event) : List Box :=
  match e.outcome with
  | .ok a => a.boxes
  | .error _ => []

/-- The vault that was sealed. -/
def vault? (e : Event) : Option Vault :=
  match e.outcome with
  | .ok a => a.vault?
  | .error _ => none

/-- **The byte strings that an event drew**: they are the next ones of the tape, no other byte was
drawn, and the answer is made of them; if there is none, they are what is lost. -/
structure Draws (e : Event) (ds : List Bytes) : Prop where
  slices : Slices e.before ds
  after : e.after = e.before.advance (consumed ds)
  made : ∀ a, e.outcome = .ok a → Made e.operation a ds
  lost : ∀ error, e.outcome = .error error → Lost e.operation error ds

namespace Draws

variable {e : Event} {ds : List Bytes} (h : e.Draws ds)
include h

/-- An event that fails leaves the tape as it was, unless its operation stumbles. -/
theorem after_of_error {error : Error} (he : e.outcome = .error error) :
    e.after = e.before ∨ error = .unencodable ∧ e.operation.Stumbles := by
  rcases (h.lost error he).eq_nil_or_stumbles with hnil | hstumbles
  · refine Or.inl ?_
    rw [h.after, hnil, consumed_nil, Tape.advance_zero]
  · exact Or.inr hstumbles

/-- The nonces of the boxes are the last byte strings that were drawn. -/
theorem nonces : ∃ others nonces, ds = others ++ nonces ∧ NoncesOf e.boxes nonces := by
  unfold boxes
  cases ho : e.outcome with
  | ok a => exact (h.made a ho).nonces
  | error error => exact ⟨ds, [], (List.append_nil ds).symm, .nil⟩

end Draws

end Event

/-! ### One operation -/

theorem exists_draws {o : Operation} (ho : o.Configured) (tape : Tape) :
    ∃ ds, (o.event tape).Draws ds := by
  obtain ⟨ds, hs, ⟨error, he, hl⟩ | ⟨a, hg, hm⟩⟩ := disciplined_attempt ho tape
  · refine ⟨ds, hs, congrArg Prod.snd he, fun a ha => ?_, fun error' he' => ?_⟩
    · cases (congrArg Prod.fst he).symm.trans ha
    · obtain rfl := Except.error.inj ((congrArg Prod.fst he).symm.trans he')
      exact hl
  · refine ⟨ds, hs, congrArg Prod.snd hg, fun b hb => ?_, fun _ hb => ?_⟩
    · obtain rfl := Except.ok.inj ((congrArg Prod.fst hg).symm.trans hb)
      exact hm
    · cases (congrArg Prod.fst hg).symm.trans hb

/-! ### Nonces -/

/-- The nonce of the box is the slice of the tape from a position on. -/
def NonceAt (tape : Tape) (box : Box) (start : ℕ) : Prop :=
  box.nonce = Base64.encode (tape.slice start nonceLength)

/-- Boxes whose nonces are slices of the tape. -/
theorem forall₂_nonceAt {tape : Tape} {boxes : List Box} {ps : List (ℕ × Bytes)}
    (hn : NoncesOf boxes (ps.map Prod.snd)) (hs : ∀ p ∈ ps, p.2 = tape.slice p.1 p.2.length) :
    List.Forall₂ (NonceAt tape) boxes (ps.map Prod.fst) ∧ ∀ p ∈ ps, p.2.length = nonceLength := by
  induction ps generalizing boxes with
  | nil =>
    obtain rfl := List.forall₂_nil_right_iff.mp hn
    exact ⟨.nil, nofun⟩
  | cons p ps ih =>
    obtain ⟨box, boxes, ⟨hl, hbox⟩, htail, rfl⟩ := List.forall₂_cons_right_iff.mp hn
    obtain ⟨hp, hps⟩ := List.forall_mem_cons.mp hs
    obtain ⟨hat, hlengths⟩ := ih htail hps
    rw [hl] at hp
    refine ⟨.cons ?_ hat, List.forall_mem_cons.mpr ⟨hl, hlengths⟩⟩
    rw [NonceAt, hbox, hp]

theorem Answer.boxes_of_vault? {a : Answer} {vault : Vault} (h : a.vault? = some vault) :
    a.boxes = vault.boxes := by
  cases a with
  | vault v | created v _ =>
    obtain rfl := Option.some.inj h
    rfl
  | _ => cases h

theorem Event.boxes_of_vault? {e : Event} {vault : Vault} (h : e.vault? = some vault) :
    e.boxes = vault.boxes := by
  unfold vault? at h
  unfold boxes
  cases ho : e.outcome with
  | ok a =>
    rw [ho] at h
    exact Answer.boxes_of_vault? h
  | error error =>
    rw [ho] at h
    cases h

/-- The nonces of a vault are the last three byte strings that were drawn for it. -/
theorem Event.Draws.nonces_of_vault? {e : Event} {ds : List Bytes} (h : e.Draws ds) {vault : Vault}
    (hv : e.vault? = some vault) :
    ∃ start, NonceAt e.before vault.primary start ∧
      NonceAt e.before vault.recovery (start + nonceLength) ∧
      NonceAt e.before vault.wrappedSeed (start + 2 * nonceLength) ∧
      e.after.position = start + 3 * nonceLength := by
  obtain ⟨others, nonces, rfl, hn⟩ := h.nonces
  rw [Event.boxes_of_vault? hv] at hn
  obtain ⟨n1, _, ⟨hl1, h1⟩, hn1, rfl⟩ := List.forall₂_cons_left_iff.mp hn
  obtain ⟨n2, _, ⟨hl2, h2⟩, hn2, rfl⟩ := List.forall₂_cons_left_iff.mp hn1
  obtain ⟨n3, _, ⟨hl3, h3⟩, hn3, rfl⟩ := List.forall₂_cons_left_iff.mp hn2
  obtain rfl := List.forall₂_nil_left_iff.mp hn3
  obtain ⟨-, s1, s2, s3, -⟩ := slices_append.mp h.slices
  simp only [Tape.slice_advance, Tape.position_advance, hl1, hl2, hl3] at s1 s2 s3
  refine ⟨e.before.position + consumed others, ?_, ?_, ?_, ?_⟩
  · rw [NonceAt, h1, s1]
  · rw [NonceAt, h2, s2]
  · rw [NonceAt, h3, s3, Nat.two_mul, Nat.add_assoc]
  · simp only [h.after, Tape.position_advance, consumed_append, consumed_cons, consumed_nil, hl1,
      hl2, hl3]
    omega

/-! ### A whole session -/

/-- **What a session draws** stands on the tape one behind the other. -/
theorem exists_draws_events {os : List Operation} (h : ∀ o ∈ os, o.Configured) (tape : Tape) :
    ∃ drawn, List.Forall₂ Event.Draws (events os tape) drawn ∧ Slices tape drawn.flatten := by
  induction os generalizing tape with
  | nil => exact ⟨[], .nil, trivial⟩
  | cons o os ih =>
    obtain ⟨ho, hos⟩ := List.forall_mem_cons.mp h
    obtain ⟨ds, hd⟩ := exists_draws ho tape
    obtain ⟨drawn, hrest, hs⟩ := ih hos (o.event tape).after
    -- The rest of the session starts where the draws of this operation end.
    refine ⟨ds :: drawn, .cons hd hrest, slices_append.mpr ⟨hd.slices, ?_⟩⟩
    rwa [hd.after] at hs

/-- Each event of a session has the tape of the session before it, some bytes further on. -/
theorem draws_of_mem_events {os : List Operation} (h : ∀ o ∈ os, o.Configured) {tape : Tape}
    {e : Event} (he : e ∈ events os tape) : ∃ n ds, e.before = tape.advance n ∧ e.Draws ds := by
  induction os generalizing tape with
  | nil => cases he
  | cons o os ih =>
    obtain ⟨ho, hos⟩ := List.forall_mem_cons.mp h
    obtain ⟨ds, hd⟩ := exists_draws ho tape
    rcases List.mem_cons.mp he with rfl | he
    · exact ⟨0, ds, rfl, hd⟩
    · obtain ⟨n, ds', hn, hd'⟩ := ih hos he
      refine ⟨consumed ds + n, ds', ?_, hd'⟩
      rw [hn, hd.after, Tape.advance_advance]
      rfl

/-- The nonces of the boxes of a session are among the byte strings that were drawn. -/
theorem exists_nonces {es : List Event} {drawn : List (List Bytes)}
    (h : List.Forall₂ Event.Draws es drawn) :
    ∃ nonces : List Bytes, nonces.Sublist drawn.flatten ∧
      NoncesOf (es.flatMap Event.boxes) nonces := by
  induction h with
  | nil => exact ⟨[], .refl _, .nil⟩
  | cons hd _ ih =>
    obtain ⟨others, nonces, rfl, hn⟩ := hd.nonces
    obtain ⟨rest, hsub, hrest⟩ := ih
    exact ⟨nonces ++ rest, (List.sublist_append_right others nonces).append hsub,
      List.rel_append hn hrest⟩

/-- **No random byte is used twice, and none by an operation that fails**, unless it stumbles. In a
session whose stores have settings that make vaults,

* each operation draws what its answer is made of, or fails and loses what it is known to lose, and
  all that is drawn stands on the tape one behind the other, so that no two draws have a position in
  common;
* an operation that fails leaves the tape as it was, or fails on a new password or on the address of
  a contact without a UTF-8 form;
* the nonces of a sealed vault are three slices in a row;
* the nonces of all boxes that were sealed are slices without a position in common. -/
theorem fresh_draws {os : List Operation} (h : ∀ o ∈ os, o.Configured) (tape : Tape) :
    (∃ drawn, List.Forall₂ Event.Draws (events os tape) drawn ∧
        (∀ p ∈ placed tape.position drawn.flatten, p.2 = tape.slice p.1 p.2.length) ∧
        (placed tape.position drawn.flatten).Pairwise fun p q => p.1 + p.2.length ≤ q.1) ∧
      (∀ e ∈ events os tape, ∀ error, e.outcome = .error error →
        e.after = e.before ∨ error = .unencodable ∧ e.operation.Stumbles) ∧
      (∀ e ∈ events os tape, ∀ vault, e.vault? = some vault →
        ∃ start, NonceAt tape vault.primary start ∧
          NonceAt tape vault.recovery (start + nonceLength) ∧
          NonceAt tape vault.wrappedSeed (start + 2 * nonceLength) ∧
          e.after.position = start + 3 * nonceLength) ∧
      ∃ starts, List.Forall₂ (NonceAt tape) ((events os tape).flatMap Event.boxes) starts ∧
        starts.Pairwise fun s t => s + nonceLength ≤ t := by
  obtain ⟨drawn, hdrawn, hs⟩ := exists_draws_events h tape
  -- The nonces are some of the byte strings that were drawn, and stay where those are.
  obtain ⟨nonces, hsub, hnonces⟩ := exists_nonces hdrawn
  obtain ⟨ps, rfl, hslices, hpairs⟩ := hs.exists_placed hsub
  obtain ⟨hat, hlengths⟩ := forall₂_nonceAt hnonces hslices
  refine ⟨⟨drawn, hdrawn, fun p hp => hs.eq_slice_of_mem_placed hp, pairwise_placed _ _⟩, ?_, ?_,
    ps.map Prod.fst, hat, ?_⟩
  · intro e he error ho
    obtain ⟨-, ds, -, hd⟩ := draws_of_mem_events h he
    exact hd.after_of_error ho
  · intro e he vault hv
    obtain ⟨n, ds, hn, hd⟩ := draws_of_mem_events h he
    have hstart := hd.nonces_of_vault? hv
    rw [hn] at hstart
    exact hstart
  · rw [List.pairwise_map]
    refine hpairs.imp_of_mem fun {p q} hp _ hle => ?_
    rwa [hlengths p hp] at hle

/-- A vault is created, and a record is asked for with a seed that is too short: the nonces of the
vault end where the tape stands after both. -/
theorem fresh_draws_of_failing_record : ∃ created failed vault start,
    events [.create (Vault.leastSettings .aesGcm) 0 "first", .record 0 [] []] ⟨UInt8.ofNat, 0⟩ =
      [created, failed] ∧
    created.vault? = some vault ∧ failed.outcome = .error (.seedLength 0) ∧
    NonceAt ⟨UInt8.ofNat, 0⟩ vault.primary start ∧ failed.after.position = start + 36 := by
  let tape : Tape := ⟨UInt8.ofNat, 0⟩
  have hs : (Vault.leastSettings .aesGcm).Valid :=
    ⟨⟨by decide, by decide, by decide, by decide⟩, by decide⟩
  have hc : ∀ o ∈ [Operation.create (Vault.leastSettings .aesGcm) 0 "first", .record 0 [] []],
      o.Configured := by
    simp only [List.mem_cons, List.not_mem_nil, or_false, forall_eq_or_imp, forall_eq]
    exact ⟨hs, trivial⟩
  obtain ⟨-, hfailed, hvault, -⟩ := fresh_draws hc tape
  let created := (Operation.create (Vault.leastSettings .aesGcm) 0 "first").event tape
  let failed := (Operation.record 0 [] []).event created.after
  obtain ⟨⟨vault, phrase⟩, ds, hg, -⟩ := Vault.yields_create hs 0 "first" tape
  have hv : created.vault? = some vault := by
    have ho : created.outcome = .ok (.created vault phrase) :=
      congrArg Prod.fst (hg.map fun r => Answer.created r.1 r.2)
    rw [Event.vault?, ho]
    rfl
  have he : failed.outcome = .error (.seedLength 0) := rfl
  obtain ⟨start, hprimary, -, -, hafter⟩ := hvault created (by simp [events, created]) vault hv
  refine ⟨created, failed, vault, start, rfl, hv, he, hprimary, ?_⟩
  have hkept : failed.after = failed.before :=
    (hfailed failed (by simp [events, created, failed]) _ he).resolve_right fun h => h.2
  rw [hkept]
  exact hafter

/-- An operation that fails does **not always leave the tape as it was**: a vault is not created
under a password without a UTF-8 form, and the entropy of its phrase and its salt are lost. -/
theorem not_always_unspent : ¬ ∀ os tape, (∀ o ∈ os, o.Configured) →
    ∀ e ∈ events os tape, ∀ error, e.outcome = .error error → e.after = e.before := by
  intro h
  let tape : Tape := ⟨UInt8.ofNat, 0⟩
  let o : Operation := .create (Vault.leastSettings .aesGcm) 0 Text.lone
  have hs : (Vault.leastSettings .aesGcm).Valid :=
    ⟨⟨by decide, by decide, by decide, by decide⟩, by decide⟩
  have ho : (o.attempt.outcome tape) = (.error .unencodable, tape.advance 32) := by
    have hp : Text.lone.isWhole = false := rfl
    have hc := Vault.outcome_create_broken hs.leastSaltLength_le hp 0 tape
    change Attempt.outcome (_ <$> _) tape = _
    rw [← bind_pure_comp]
    exact outcome_bind_error hc _
  have hafter := h [o] tape (List.forall_mem_singleton.mpr hs) (o.event tape)
    List.mem_cons_self .unencodable (congrArg Prod.fst ho)
  have hpos : (o.attempt.outcome tape).2 = tape := hafter
  rw [ho] at hpos
  exact absurd (congrArg Tape.position hpos) (by decide)

end PasswordVault.Session
