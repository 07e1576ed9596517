import PasswordVault.Proofs.Json.Members
import PasswordVault.Proofs.Recovery.Bundle

/-!
# Requests to split a seed

A seed is split among contacts if it has the right length, there are neither too few nor too many
contacts, the threshold leaves one of them to spare, every one of them states an address, and no two
addresses have one normal form. The first of these conditions that does not hold decides what is
reported. Nothing is drawn before all of them hold, and one thing alone can fail afterwards, an
address in which a surrogate stands alone.

* `Contact.States`: what is handed over for a contact, `Contact.faults`: what is wrong with it;
* `Contact.read_eq_accepted_iff`, `Contact.read_eq_refused_iff`: reading a contact,
  `Contact.exists_ofJson_iff`: the contacts that are read;
* `Request.WellFormed`, `Request.Refused`: **the requests that are met and those that are refused**,
  `Request.check_eq_ok_iff` and `Request.check_eq_error_iff` for their check;
* `Request.BreaksOff`: **the well-formed requests that are not met**, `whole_or_breaksOff`;
* `Bundle.Meets`: the bundle that a request leads to, `meets_of_gives_setup`;
* `request_met_or_refused`: **what comes of a request**, `request_not_always_met`: being well-formed
  is **not enough**.
-/

namespace PasswordVault

/-! ### One contact -/

namespace Contact

/-- **What is handed over states the contact**: it is the contact, or an object with an address that
is not blank, of which the contact has the normal form, and with the name, if it has one. -/
inductive States : Given Contact → Contact → Prop where
  | value (contact : Contact) : States (.value contact) contact
  | json {members : Json.Members} {email name : Text}
    (hemail : members.get? "email" = some (.str email)) (hne : normalizeEmail email ≠ "")
    (hname : members.get? "name" = some (.str name) ∨ members.get? "name" = none ∧ name = "") :
    States (.json (.obj members)) ⟨normalizeEmail email, name⟩

/-- What is wrong with the address of a contact. -/
def emailFaults : Option Json → List Fault
  | some (.str email) =>
    if normalizeEmail email = "" then [⟨[.key "email"], .rule .emptyEmail⟩] else []
  | some _ => [⟨[.key "email"], .notText⟩]
  | none => [⟨[.key "email"], .missing⟩]

/-- What is wrong with the name of a contact. -/
def nameFaults : Option Json → List Fault
  | some (.str _) | none => []
  | some _ => [⟨[.key "name"], .notText⟩]

/-- **What is wrong with a contact**, the address first. -/
def faults : Json → List Fault
  | .obj members =>
    emailFaults (Json.Members.get? "email" members) ++
      nameFaults (Json.Members.get? "name" members)
  | _ => [⟨[], .notRecord⟩]

/-- The address is read, or what is wrong with it is reported. -/
theorem email_cases {members : Json.Members} {read : Checked Text}
    (hread : read = members.required "email" fun v => v.asText.andThen checkEmail) :
    (∃ email, members.get? "email" = some (.str email) ∧ normalizeEmail email ≠ "" ∧
      read = .accepted (normalizeEmail email)) ∨
    (read = .refused (emailFaults (members.get? "email")) ∧
      emailFaults (members.get? "email") ≠ []) := by
  rw [hread, Json.Members.required, Json.Members.find?_single]
  cases members.get? "email" with
  | none => exact Or.inr ⟨rfl, List.cons_ne_nil _ _⟩
  | some v =>
    cases v with
    | str email =>
      simp only [Option.map_some, Json.asText, Checked.andThen, checkEmail, emailFaults]
      by_cases hne : normalizeEmail email = ""
      · rw [if_pos hne, if_pos hne]
        exact Or.inr ⟨rfl, List.cons_ne_nil _ _⟩
      · rw [if_neg hne]
        exact Or.inl ⟨email, rfl, hne, rfl⟩
    | _ => exact Or.inr ⟨rfl, List.cons_ne_nil _ _⟩

/-- The name is read, if there is one, or what is wrong with it is reported. -/
theorem name_cases {members : Json.Members} {read : Checked Text}
    (hread : read = members.optional "name" Json.asText "") :
    (∃ name, (members.get? "name" = some (.str name) ∨ members.get? "name" = none ∧ name = "") ∧
      read = .accepted name ∧ nameFaults (members.get? "name") = []) ∨
    (read = .refused (nameFaults (members.get? "name")) ∧
      nameFaults (members.get? "name") ≠ []) := by
  rw [hread, Json.Members.optional, Json.Members.find?_single]
  cases members.get? "name" with
  | none => exact Or.inl ⟨"", Or.inr ⟨rfl, rfl⟩, rfl, rfl⟩
  | some v =>
    cases v with
    | str name => exact Or.inl ⟨name, Or.inl rfl, rfl, rfl⟩
    | _ => exact Or.inr ⟨rfl, List.cons_ne_nil _ _⟩

/-- What is handed over states a contact that is read, or is refused with what is wrong with it. -/
theorem read_cases (given : Given Contact) :
    (∃ contact, States given contact ∧ given.read ofJson = .accepted contact) ∨
    ∃ v, given = .json v ∧ given.read ofJson = .refused (faults v) ∧ faults v ≠ [] := by
  cases given with
  | value contact => exact Or.inl ⟨contact, .value contact, rfl⟩
  | json v =>
    cases v with
    | obj members =>
      obtain ⟨email?, he⟩ : ∃ read, read = Json.Members.required members "email" fun v =>
        v.asText.andThen checkEmail := ⟨_, rfl⟩
      obtain ⟨name?, hn⟩ : ∃ read, read = Json.Members.optional members "name" Json.asText
          (.whole "") :=
        ⟨_, rfl⟩
      have hread : Given.read ofJson (.json (.obj members)) = Contact.mk <$> email? <*> name? := by
        rw [he, hn]
        rfl
      rw [hread]
      rcases email_cases he with ⟨email, hemail, hne, rfl⟩ | ⟨rfl, hef⟩
      · rcases name_cases hn with ⟨name, hname, rfl, -⟩ | ⟨rfl, hnf⟩
        · exact Or.inl ⟨_, .json hemail hne hname, rfl⟩
        · refine Or.inr ⟨_, rfl, ?_, List.append_ne_nil_of_right_ne_nil _ hnf⟩
          rw [faults, hemail, emailFaults, if_neg hne]
          rfl
      · refine Or.inr ⟨_, rfl, ?_, List.append_ne_nil_of_left_ne_nil hef _⟩
        rcases name_cases hn with ⟨name, -, rfl, hnf⟩ | ⟨rfl, -⟩
        · rw [faults, hnf, List.append_nil]
          rfl
        · rfl
    | _ => exact Or.inr ⟨_, rfl, rfl, List.cons_ne_nil _ _⟩

/-- What is handed over states one contact at most. -/
theorem States.unique {given : Given Contact} {contact other : Contact} (h : States given contact)
    (ho : States given other) : contact = other := by
  cases h with
  | value => cases ho with
    | value => rfl
  | json hemail _ hname =>
    cases ho with
    | json hemail' _ hname' =>
      rw [hemail] at hemail'
      obtain rfl := Json.str.inj (Option.some.inj hemail')
      congr 1
      rcases hname with hname | ⟨hname, rfl⟩ <;> rcases hname' with hname' | ⟨hname', rfl⟩
      · exact Json.str.inj (Option.some.inj (hname.symm.trans hname'))
      · cases hname.symm.trans hname'
      · cases hname.symm.trans hname'
      · rfl

theorem States.faults_eq_nil {v : Json} {contact : Contact} (h : States (.json v) contact) :
    faults v = [] := by
  cases h with
  | json hemail hne hname =>
    rw [faults, hemail, emailFaults, if_neg hne]
    rcases hname with hname | ⟨hname, -⟩ <;> rw [hname] <;> rfl

/-- **A contact is read** if it is stated. -/
theorem read_eq_accepted_iff {given : Given Contact} {contact : Contact} :
    given.read ofJson = .accepted contact ↔ States given contact := by
  rcases read_cases given with ⟨c, hs, hr⟩ | ⟨v, rfl, hr, hf⟩
  · rw [hr, Checked.accepted.injEq]
    exact ⟨fun h => h ▸ hs, fun h => hs.unique h⟩
  · rw [hr]
    exact iff_of_false nofun fun h => hf h.faults_eq_nil

/-- **A contact is refused** with all that is wrong with it. -/
theorem read_eq_refused_iff {given : Given Contact} {fs : List Fault} :
    given.read ofJson = .refused fs ↔ ∃ v, given = .json v ∧ faults v ≠ [] ∧ fs = faults v := by
  rcases read_cases given with ⟨c, hs, hr⟩ | ⟨v, rfl, hr, hf⟩
  · rw [hr]
    refine iff_of_false nofun ?_
    rintro ⟨v, rfl, hf, -⟩
    exact hf hs.faults_eq_nil
  · rw [hr, Checked.refused.injEq]
    constructor
    · rintro rfl
      exact ⟨v, rfl, hf, rfl⟩
    · rintro ⟨_, ⟨⟩, -, h⟩
      exact h.symm

theorem States.normal {v : Json} {contact : Contact} (h : States (.json v) contact) :
    normalizeEmail contact.email = contact.email ∧ contact.email ≠ "" := by
  cases h with
  | json _ hne _ => exact ⟨normalizeEmail_idem _, hne⟩

/-- **The contacts that are read** are those whose address is in its normal form and not blank. -/
theorem exists_ofJson_iff {contact : Contact} : (∃ v, ofJson v = .accepted contact) ↔
    normalizeEmail contact.email = contact.email ∧ contact.email ≠ "" := by
  constructor
  · rintro ⟨v, hv⟩
    have hs : States (.json v) contact := read_eq_accepted_iff.mp hv
    exact hs.normal
  · rintro ⟨hnormal, hne⟩
    have hs : States (.json (.obj [("email", .str contact.email), ("name", .str contact.name)]))
        ⟨normalizeEmail contact.email, contact.name⟩ :=
      .json rfl (hnormal.symm ▸ hne) (Or.inl rfl)
    rw [hnormal] at hs
    exact ⟨_, read_eq_accepted_iff.mpr hs⟩

end Contact

/-! ### The check of a request -/

namespace Request

/-- The length of the seed, the number of contacts and the threshold are right. -/
structure Sized (seed : Bytes) (given : List (Given Contact)) (threshold : ℤ) : Prop where
  seed : seed.length = 32
  count : 3 ≤ given.length ∧ given.length ≤ 10
  threshold : 2 ≤ threshold ∧ threshold ≤ (given.length : ℤ) - 1

/-- **The request is well-formed**, with these contacts. -/
structure WellFormed (seed : Bytes) (given : List (Given Contact)) (threshold : ℤ)
    (contacts : List Contact) : Prop extends Sized seed given threshold where
  stated : List.Forall₂ Contact.States given contacts
  distinct : (contacts.map Contact.email).Nodup

/-- **The request is refused** with the error of the first condition that it does not meet. -/
inductive Refused (seed : Bytes) (given : List (Given Contact)) (threshold : ℤ) : Error → Prop where
  | seed (h : seed.length ≠ 32) : Refused seed given threshold (.seedLength seed.length)
  | few (hs : seed.length = 32) (h : given.length < 3) :
    Refused seed given threshold .tooFewContacts
  | many (hs : seed.length = 32) (h : 10 < given.length) :
    Refused seed given threshold .tooManyContacts
  | threshold (hs : seed.length = 32) (hc : 3 ≤ given.length ∧ given.length ≤ 10)
    (h : ¬ (2 ≤ threshold ∧ threshold ≤ (given.length : ℤ) - 1)) :
    Refused seed given threshold (.thresholdRange (given.length - 1))
  | contact (hs : Sized seed given threshold) {before after : List (Given Contact)} {v : Json}
    (hgiven : given = before ++ .json v :: after)
    (hbefore : ∀ g ∈ before, ∃ contact, Contact.States g contact) (h : Contact.faults v ≠ []) :
    Refused seed given threshold (.invalid (Contact.faults v))
  | email (hs : Sized seed given threshold) {contacts : List Contact}
    (hstated : List.Forall₂ Contact.States given contacts)
    (h : ¬ (contacts.map Contact.email).Nodup) : Refused seed given threshold .duplicateEmail

variable {seed : Bytes} {given : List (Given Contact)} {threshold : ℤ} {contacts : List Contact}
  {e : Error}

theorem check_eq_ok_iff : checkRequest seed given threshold = .ok contacts ↔
    WellFormed seed given threshold contacts := by
  rw [checkRequest_eq_ok_iff]
  simp only [Contact.read_eq_accepted_iff]
  constructor
  · rintro ⟨hs, hc, ht, hstated, hdistinct⟩
    exact ⟨⟨hs, hc, ht⟩, hstated, hdistinct⟩
  · rintro ⟨⟨hs, hc, ht⟩, hstated, hdistinct⟩
    exact ⟨hs, hc, ht, hstated, hdistinct⟩

theorem checkContactCount_eq_error_iff {count : ℕ} : checkContactCount count = .error e ↔
    (count < 3 ∧ e = .tooFewContacts) ∨ (10 < count ∧ e = .tooManyContacts) := by
  unfold checkContactCount
  split_ifs with hfew hmany
  · change count < 3 at hfew
    rw [Except.error.injEq, eq_comm]
    constructor
    · intro he
      exact Or.inl ⟨hfew, he⟩
    · rintro (⟨-, he⟩ | ⟨h, -⟩)
      · exact he
      · omega
  · change 10 < count at hmany
    rw [Except.error.injEq, eq_comm]
    constructor
    · intro he
      exact Or.inr ⟨hmany, he⟩
    · rintro (⟨h, -⟩ | ⟨-, he⟩)
      · exact absurd h hfew
      · exact he
  · constructor
    · intro he
      cases he
    · rintro (⟨h, -⟩ | ⟨h, -⟩)
      · exact absurd h hfew
      · exact absurd h hmany

theorem acceptContacts_eq_error_iff : acceptContacts given = .error e ↔
    ∃ before v after, given = before ++ .json v :: after ∧
      (∀ g ∈ before, ∃ contact, Contact.States g contact) ∧ Contact.faults v ≠ [] ∧
      e = .invalid (Contact.faults v) := by
  simp only [acceptContacts, Except.mapM_eq_error_iff, Checked.toExcept_eq_ok,
    Checked.toExcept_eq_error, Contact.read_eq_accepted_iff, Contact.read_eq_refused_iff]
  constructor
  · rintro ⟨before, _, after, hgiven, hbefore, _, ⟨v, rfl, hv, rfl⟩, he⟩
    exact ⟨before, v, after, hgiven, hbefore, hv, he⟩
  · rintro ⟨before, v, after, hgiven, hbefore, hv, he⟩
    exact ⟨before, _, after, hgiven, hbefore, _, ⟨v, rfl, hv, rfl⟩, he⟩

theorem check_eq_error_iff :
    checkRequest seed given threshold = .error e ↔ Refused seed given threshold e := by
  have hs : checkSeed seed = .error e ↔ ¬ seed.length = 32 ∧ e = .seedLength seed.length :=
    Except.ite_eq_error_iff
  have ht : checkThreshold given.length threshold = .error e ↔
      ¬ (2 ≤ threshold ∧ threshold ≤ (given.length : ℤ) - 1) ∧
        e = .thresholdRange (given.length - 1) :=
    Except.ite_eq_error_iff
  have he (cs : List Contact) : checkEmails cs = .error e ↔
      ¬ (cs.map Contact.email).Nodup ∧ e = .duplicateEmail :=
    Except.ite_eq_error_iff
  have hc : checkContactCount given.length = .ok () ↔ 3 ≤ given.length ∧ given.length ≤ 10 :=
    checkContactCount_eq_ok_iff
  have hseed : checkSeed seed = .ok () ↔ seed.length = 32 := checkSeed_eq_ok_iff
  rw [checkRequest, Except.check_bind_eq_error_iff, Except.check_bind_eq_error_iff,
    Except.check_bind_eq_error_iff, Except.bind_eq_error_iff, hs, hseed, hc,
    checkContactCount_eq_error_iff, ht, checkThreshold_eq_ok_iff, acceptContacts_eq_error_iff]
  simp only [Except.check_bind_eq_error_iff, he, acceptContacts_eq_ok_iff,
    Contact.read_eq_accepted_iff]
  constructor
  · rintro (⟨h, rfl⟩ | ⟨h1, (⟨h, rfl⟩ | ⟨h, rfl⟩) | ⟨h2, ⟨h, rfl⟩ | ⟨h3, h⟩⟩⟩)
    · exact .seed h
    · exact .few h1 h
    · exact .many h1 h
    · exact .threshold h1 h2 h
    · rcases h with ⟨before, v, after, hgiven, hbefore, hv, rfl⟩ | ⟨cs, hcs, ⟨h, rfl⟩ | ⟨-, h⟩⟩
      · exact .contact ⟨h1, h2, h3⟩ hgiven hbefore hv
      · exact .email ⟨h1, h2, h3⟩ hcs h
      · cases h
  · rintro (h | ⟨h1, h⟩ | ⟨h1, h⟩ | ⟨h1, h2, h⟩ | ⟨h, hgiven, hbefore, hv⟩ | ⟨h, hcs, hne⟩)
    · exact Or.inl ⟨h, rfl⟩
    · exact Or.inr ⟨h1, Or.inl (Or.inl ⟨h, rfl⟩)⟩
    · exact Or.inr ⟨h1, Or.inl (Or.inr ⟨h, rfl⟩)⟩
    · exact Or.inr ⟨h1, Or.inr ⟨h2, Or.inl ⟨h, rfl⟩⟩⟩
    · exact Or.inr ⟨h.seed, Or.inr ⟨h.count, Or.inr ⟨h.threshold,
        Or.inl ⟨_, _, _, hgiven, hbefore, hv, rfl⟩⟩⟩⟩
    · exact Or.inr ⟨h.seed, Or.inr ⟨h.count, Or.inr ⟨h.threshold,
        Or.inr ⟨_, hcs, Or.inl ⟨hne, rfl⟩⟩⟩⟩⟩

/-- **The request breaks off**: it is well-formed, and behind the first `done` contacts is one whose
address has no UTF-8 form. -/
def BreaksOff (seed : Bytes) (given : List (Given Contact)) (threshold : ℤ) (done : ℕ) : Prop :=
  ∃ before contact after, WellFormed seed given threshold (before ++ contact :: after) ∧
    before.length = done ∧ (∀ c ∈ before, c.email.isWhole = true) ∧ contact.email.isWhole = false

/-- How many bytes are drawn by then: the recovery id, the coefficients of the split and the nonces
of the shards that were sealed. -/
def drawnBy (threshold : ℤ) (done : ℕ) : ℕ :=
  16 + 32 * (threshold.toNat - 1) + 12 * done

theorem outcome_of_breaksOff {done : ℕ} (h : BreaksOff seed given threshold done) (now : Instant)
    (tape : Tape) : (Bundle.setup now seed given threshold).outcome tape =
      (.error .unencodable, tape.advance (drawnBy threshold done)) := by
  obtain ⟨before, contact, after, hw, rfl, hb, hc⟩ := h
  exact outcome_setup_of_broken (check_eq_ok_iff.mpr hw) hb hc now tape

/-- **A well-formed request breaks off** unless all its addresses have a UTF-8 form. -/
theorem whole_or_breaksOff (hw : WellFormed seed given threshold contacts) :
    (∀ c ∈ contacts, c.email.isWhole = true) ∨ ∃ done, BreaksOff seed given threshold done := by
  cases hfind : contacts.find? fun c => !c.email.isWhole with
  | none =>
    refine Or.inl ?_
    simpa using List.find?_eq_none.mp hfind
  | some contact =>
    obtain ⟨hbroken, before, after, rfl, hbefore⟩ := List.find?_eq_some_iff_append.mp hfind
    refine Or.inr ⟨_, before, contact, after, hw, rfl, ?_, ?_⟩
    · simpa using hbefore
    · simpa using hbroken

end Request

/-! ### What comes of a request -/

/-- **The bundle is one for the request**: it has the contacts in their order, each with the own
address and name, one share index after the other from one on, and what was asked for. -/
structure Bundle.Meets (now : Instant) (given : List (Given Contact)) (threshold : ℤ)
    (bundle : Bundle) : Prop where
  contacts : List.Forall₂ Contact.States given (bundle.shards.map Shard.contact)
  distinct : (bundle.shards.map fun shard => shard.contact.email).Nodup
  indices : bundle.shards.map Shard.shareIndex = List.range' 1 given.length
  threshold : bundle.threshold = threshold
  total : bundle.totalShares = given.length
  created : bundle.created = Timestamp.ofInstant now

section

variable {now : Instant} {seed : Bytes} {given : List (Given Contact)} {threshold : ℤ}
  {tape rest : Tape} {bundle : Bundle}

theorem fields_of_gives_setup (h : Gives (Bundle.setup now seed given threshold) tape bundle rest) :
    bundle.threshold = threshold ∧ bundle.totalShares = given.length ∧
      bundle.created = Timestamp.ofInstant now := by
  simp only [Bundle.setup, gives_bind, gives_ofExcept, gives_draw, gives_pure] at h
  obtain ⟨contacts, _, ⟨hc, rfl⟩, _, _, -, _, _, -, _, _, -, rfl, -⟩ := h
  have hl : given.length = contacts.length :=
    (Request.check_eq_ok_iff.mp hc).stated.length_eq
  exact ⟨rfl, congrArg Nat.cast hl.symm, rfl⟩

theorem meets_of_gives_setup (h : Gives (Bundle.setup now seed given threshold) tape bundle rest) :
    bundle.Meets now given threshold := by
  obtain ⟨_, shares, before, after, hc, hs, rfl, hkeeps⟩ := gives_setup h
  have hw := Request.check_eq_ok_iff.mp hc
  have hl := hw.stated.length_eq
  obtain ⟨hthreshold, htotal, hcreated⟩ := fields_of_gives_setup h
  obtain ⟨-, hshares, -⟩ := Share.gives_split_iff.mp hs
  have hindices : (bundle.shards.map Shard.shareIndex).map ((↑) : ℕ → ℤ) =
      (List.range' 1 given.length).map (↑) := by
    rw [List.map_map, hl, List.range'_eq_map_range, List.map_map]
    refine (map_shareIndex hshares hkeeps).trans (List.map_congr_left fun i _ => ?_)
    rw [Function.comp_apply]
    omega
  refine ⟨hw.stated, ?_, List.map_injective_iff.mpr Nat.cast_injective hindices, hthreshold, htotal,
    hcreated⟩
  have hdistinct := hw.distinct
  rwa [List.map_map] at hdistinct

/-- The addresses of a bundle are in their normal form and not blank, if those are that were handed
over as contacts. -/
theorem Bundle.Meets.normal (h : bundle.Meets now given threshold)
    (hgiven : ∀ contact, .value contact ∈ given → ∃ v, Contact.ofJson v = .accepted contact)
    {shard : Shard} (hs : shard ∈ bundle.shards) :
    normalizeEmail shard.contact.email = shard.contact.email ∧ shard.contact.email ≠ "" := by
  obtain ⟨g, hg, hstates⟩ := exists_of_forall₂ h.contacts (List.mem_map_of_mem hs)
  cases g with
  | value contact =>
    cases hstates
    exact Contact.exists_ofJson_iff.mp (hgiven _ hg)
  | json v => exact hstates.normal

end

/-- **What comes of a request**: it leads to a bundle if it is well-formed and all its addresses
have a UTF-8 form. One that is not well-formed leads to the error of the first condition that it
does not meet, before anything is drawn, and one that breaks off to the error of the encoding, after
what stands before the first such address was drawn. The bundle is one for the request, and its
addresses are in their normal form. -/
theorem request_met_or_refused (now : Instant) (seed : Bytes) (given : List (Given Contact))
    (threshold : ℤ) (tape : Tape) :
    ((∃ bundle rest, Gives (Bundle.setup now seed given threshold) tape bundle rest) ↔
        ∃ contacts, Request.WellFormed seed given threshold contacts ∧
          ∀ c ∈ contacts, c.email.isWhole = true) ∧
      (∀ e rest, (Bundle.setup now seed given threshold).outcome tape = (.error e, rest) ↔
        Request.Refused seed given threshold e ∧ rest = tape ∨
          ∃ done, Request.BreaksOff seed given threshold done ∧ e = .unencodable ∧
            rest = tape.advance (Request.drawnBy threshold done)) ∧
      ∀ bundle rest, Gives (Bundle.setup now seed given threshold) tape bundle rest →
        bundle.Meets now given threshold ∧
        ((∀ contact, .value contact ∈ given → ∃ v, Contact.ofJson v = .accepted contact) →
          ∀ shard ∈ bundle.shards, normalizeEmail shard.contact.email = shard.contact.email ∧
            shard.contact.email ≠ "") := by
  refine ⟨?_, fun e rest => ?_, fun bundle rest h => ?_⟩
  · constructor
    · rintro ⟨bundle, rest, h⟩
      obtain ⟨contacts, _, _, _, hc, -⟩ := gives_setup h
      have hw := Request.check_eq_ok_iff.mp hc
      rcases Request.whole_or_breaksOff hw with hwhole | ⟨done, hb⟩
      · exact ⟨contacts, hw, hwhole⟩
      · rw [Gives, Request.outcome_of_breaksOff hb] at h
        cases h
    · rintro ⟨contacts, hw, hwhole⟩
      exact exists_gives_setup (Request.check_eq_ok_iff.mpr hw) hwhole now tape
  · constructor
    · intro h
      rcases hcheck : checkRequest seed given threshold with e' | contacts
      · rw [Bundle.setup, outcome_ofExcept_bind_error hcheck] at h
        obtain ⟨he, rfl⟩ := Prod.mk.inj h
        obtain rfl := Except.error.inj he
        exact Or.inl ⟨Request.check_eq_error_iff.mp hcheck, rfl⟩
      · have hw := Request.check_eq_ok_iff.mp hcheck
        rcases Request.whole_or_breaksOff hw with hwhole | ⟨done, hb⟩
        · obtain ⟨bundle, after, hg⟩ := exists_gives_setup hcheck hwhole now tape
          cases hg.symm.trans h
        · rw [Request.outcome_of_breaksOff hb] at h
          obtain ⟨he, rfl⟩ := Prod.mk.inj h
          exact Or.inr ⟨done, hb, (Except.error.inj he).symm, rfl⟩
    · rintro (⟨hr, rfl⟩ | ⟨done, hb, rfl, rfl⟩)
      · exact outcome_ofExcept_bind_error (Request.check_eq_error_iff.mpr hr) _ rest
      · exact Request.outcome_of_breaksOff hb now tape
  · have hm := meets_of_gives_setup h
    exact ⟨hm, fun hgiven shard hs => hm.normal hgiven hs⟩

/-- Three contacts are accepted, but not with a second spelling of an address or a blank one. -/
theorem request_met_or_refused_three : ∃ bundle rest,
    Gives (Bundle.setup 0 (List.replicate 32 83) threeContacts 2) ⟨fun i => UInt8.ofNat i, 0⟩
        bundle rest ∧
      bundle.Meets 0 threeContacts 2 ∧
      (∀ shard ∈ bundle.shards, normalizeEmail shard.contact.email = shard.contact.email) ∧
      (Bundle.setup 0 (List.replicate 32 83)
          (.json (.obj [("email", .str "ANN@Example.org ")]) :: threeContacts) 2).outcome
          ⟨fun i => UInt8.ofNat i, 0⟩ =
        (.error .duplicateEmail, ⟨fun i => UInt8.ofNat i, 0⟩) ∧
      (Bundle.setup 0 (List.replicate 32 83)
          (.json (.obj [("email", .str " \t")]) :: threeContacts) 2).outcome
          ⟨fun i => UInt8.ofNat i, 0⟩ =
        (.error (.invalid [⟨[.key "email"], .rule .emptyEmail⟩]),
          ⟨fun i => UInt8.ofNat i, 0⟩) := by
  let tape : Tape := ⟨fun i => UInt8.ofNat i, 0⟩
  have hthree := Request.check_eq_ok_iff.mp checkRequest_threeContacts
  obtain ⟨hmet, -, hbundle⟩ :=
    request_met_or_refused 0 (List.replicate 32 83) threeContacts 2 tape
  obtain ⟨bundle, rest, h⟩ := hmet.mpr ⟨_, hthree, by decide⟩
  obtain ⟨hmeets, hnormal⟩ := hbundle bundle rest h
  have hread : ∀ contact, .value contact ∈ threeContacts →
      ∃ v, Contact.ofJson v = .accepted contact := by
    intro contact hc
    simp only [threeContacts, List.mem_cons, Given.value.injEq, reduceCtorEq, List.not_mem_nil,
      false_or, or_false] at hc
    rcases hc with rfl | rfl <;> exact Contact.exists_ofJson_iff.mpr (by decide +kernel)
  have hfour (g : Given Contact) : Request.Sized (List.replicate 32 83) (g :: threeContacts) 2 := by
    have hl : (g :: threeContacts).length = 4 := rfl
    exact ⟨List.length_replicate, by omega, by omega⟩
  refine ⟨bundle, rest, h, hmeets, fun shard hs => (hnormal hread shard hs).1, ?_, ?_⟩
  · have hann : normalizeEmail "ANN@Example.org " = "ann@example.org" := by decide +kernel
    have hs : Contact.States (.json (.obj [("email", .str "ANN@Example.org ")]))
        ⟨normalizeEmail "ANN@Example.org ", ""⟩ :=
      .json rfl (by rw [hann]; decide) (Or.inr ⟨rfl, rfl⟩)
    rw [hann] at hs
    exact ((request_met_or_refused _ _ _ _ _).2.1 _ _).mpr
      (Or.inl ⟨.email (hfour _) (.cons hs hthree.stated) (by decide), rfl⟩)
  · have hblank : normalizeEmail " \t" = "" := by decide +kernel
    have hf : Contact.faults (.obj [("email", .str " \t")]) =
        [⟨[.key "email"], .rule .emptyEmail⟩] := by
      change Contact.emailFaults (some (.str " \t")) ++ [] = _
      rw [Contact.emailFaults, if_pos hblank]
      rfl
    rw [← hf]
    exact ((request_met_or_refused _ _ _ _ _).2.1 _ _).mpr (Or.inl
      ⟨.contact (hfour _) (List.nil_append _).symm nofun (by rw [hf]; exact List.cons_ne_nil _ _),
        rfl⟩)

/-- Three contacts of whom the second has no address that can be encoded. -/
def brokenContacts : List (Given Contact) :=
  [.value ⟨"ann@example.org", "Ann"⟩, .value ⟨Text.lone, ""⟩, .value ⟨"cat@example.org", ""⟩]

theorem wellFormed_brokenContacts :
    Request.WellFormed (List.replicate 32 83) brokenContacts 2
      [⟨"ann@example.org", "Ann"⟩, ⟨Text.lone, ""⟩, ⟨"cat@example.org", ""⟩] where
  seed := List.length_replicate
  count := by decide
  threshold := by decide
  stated := .cons (.value _) (.cons (.value _) (.cons (.value _) .nil))
  distinct := by decide

/-- A well-formed request is **not always met**: it fails at the second of three contacts, after
sixty bytes were drawn. -/
theorem request_not_always_met :
    (¬ ∀ now seed given threshold tape contacts, Request.WellFormed seed given threshold contacts →
      ∃ bundle rest, Gives (Bundle.setup now seed given threshold) tape bundle rest) ∧
    (Bundle.setup 0 (List.replicate 32 83) brokenContacts 2).outcome ⟨fun _ => 1, 0⟩ =
      (.error .unencodable, ⟨fun _ => 1, 60⟩) := by
  have hb : Request.BreaksOff (List.replicate 32 83) brokenContacts 2 1 :=
    ⟨[_], ⟨Text.lone, ""⟩, [_], wellFormed_brokenContacts, rfl, by decide, rfl⟩
  have ho := Request.outcome_of_breaksOff hb 0 ⟨fun _ => 1, 0⟩
  refine ⟨fun hmet => ?_, ho⟩
  obtain ⟨bundle, rest, h⟩ := hmet 0 _ _ _ ⟨fun _ => 1, 0⟩ _ wellFormed_brokenContacts
  cases ho.symm.trans h

end PasswordVault
