import PasswordVault.Proofs.Recovery.Contact
import PasswordVault.Proofs.Share.Split
import PasswordVault.Proofs.Text.Ascii
import PasswordVault.Proofs.Vault.Box
import PasswordVault.Proofs.Vault.Key
import PasswordVault.Recovery.Bundle

/-!
# Recovery with the help of contacts, from end to end

A share goes through its text, a box under the key of a contact and the stored form of the box, and
comes back the same, whatever way the contact writes the address. So as many contacts as the
threshold put the seed together again.

* `Shard.Keeps`: a shard from which its contact gets a share, `keeps_of_gives_sealFor` for a shard
  that was sealed;
* `gives_setup`: what splitting a seed among contacts gives;
* `setup_then_recover`: **the contacts give the seed back**.
-/

namespace PasswordVault

/-! ### One shard -/

/-- The contact of the shard gets the share out of it: for every way to write the address and to
hand over the box, the text that is in the box is a text of the share. -/
def Shard.Keeps (recoveryId : Text) (shard : Shard) (share : Share) : Prop :=
  ∃ text, (∀ email box, Answers shard.contact.email email → box.Stands Box.toJson shard.box →
      Shard.openFor recoveryId email box = .ok text) ∧
    Share.decode text = .ok share ∧ share.index = shard.shareIndex

theorem asciiText_encode {text : String} (h : IsAscii text.toList) :
    asciiText (Utf8.encode text) = .ok text := by
  have hb {c : Char} (hc : c ∈ text.toList) : (UInt8.ofNat c.toNat).toNat = c.toNat := by
    have := h c hc
    rw [UInt8.toNat_ofNat']; omega
  rw [Utf8.encode_of_isAscii h, asciiText, if_pos, List.map_map]
  · congr 1
    have hm : text.toList.map ((fun b : UInt8 => Char.ofNat b.toNat) ∘
        fun c : Char => UInt8.ofNat c.toNat) = text.toList.map id :=
      List.map_congr_left fun c hc => by
        rw [Function.comp_apply, hb hc, Char.ofNat_toNat, id]
    rw [hm, List.map_id, String.ofList_toList]
  · rw [List.all_eq_true]
    intro b hm
    obtain ⟨c, hc, rfl⟩ := List.mem_map.mp hm
    rw [decide_eq_true_eq, UInt8.lt_iff_toNat_lt, hb hc]
    exact h c hc

theorem Box.accept_of_stands {given : Given Box} {box : Box} (h : given.Stands toJson box) :
    accept given = .ok box := by
  rw [accept, read_of_stands h]
  rfl

/-- A shard is opened once the contact has a key. -/
theorem Shard.openFor_of_accept {given : Given Box} {box : Box} (hg : Box.accept given = .ok box)
    {recoveryId email : Text} {key : Bytes} (hk : contactKey recoveryId email = .ok key) :
    openFor recoveryId email given = match box.openWith? .aesGcm key [] with
      | some plaintext => asciiText plaintext
      | none => .error (.authentication .recoveryShard) := by
  rw [openFor, hg]
  change (contactKey recoveryId email >>= _) = _
  rw [hk]
  rfl

/-- Without a key nothing is opened. -/
theorem Shard.openFor_broken {given : Given Box} {box : Box} (hg : Box.accept given = .ok box)
    {recoveryId email : Text} (hw : recoveryId.isWhole = false ∨ email.isWhole = false) :
    openFor recoveryId email given = .error .unencodable := by
  rw [openFor, hg]
  change (contactKey recoveryId email >>= _) = _
  rw [contactKey_eq_error_iff.mpr ⟨hw, rfl⟩]
  rfl

theorem Shard.openFor_eq {recoveryId email : Text} {key : Bytes} {text : String} {given : Given Box}
    {box : Box} (hg : given.Stands Box.toJson box) (hk : contactKey recoveryId email = .ok key)
    (ha : IsAscii text.toList) (ho : box.openWith? .aesGcm key [] = some (Utf8.encode text)) :
    Shard.openFor recoveryId email given = .ok text := by
  rw [openFor_of_accept (Box.accept_of_stands hg) hk, ho]
  exact asciiText_encode ha

/-- A shard that was sealed for a contact keeps the share. -/
theorem keeps_of_gives_sealFor {recoveryId : Text} {contact : Contact} {share : Share}
    (hd : share.data ≠ []) {tape rest : Tape} {shard : Shard}
    (h : Gives (Shard.sealFor recoveryId contact share) tape shard rest) :
    contact = shard.contact ∧ shard.Keeps recoveryId share := by
  simp only [Shard.sealFor, gives_bind, gives_ofExcept, gives_draw, gives_pure] at h
  obtain ⟨key, _, ⟨hk, rfl⟩, text, _, ⟨ht, rfl⟩, box, _, ⟨rfl, rfl⟩, rfl, rfl⟩ := h
  have hx : share.HasIndex := by
    by_contra hn
    rw [Share.encode, if_neg hn] at ht
    cases ht
  have hdec := Share.decode_encode hx hd
  rw [ht] at hdec
  rw [Share.encode, if_pos hx, Except.ok.injEq] at ht
  refine ⟨rfl, text, fun email box ha hb => ?_, hdec, ?_⟩
  · refine Shard.openFor_eq hb ((contactKey_of_answers ha _).trans hk)
      (ht ▸ Base64.isAscii_encode _) ?_
    exact Box.openWith?_sealWith .aesGcm (length_of_contactKey hk) _ _ _
  · exact (Int.toNat_of_nonneg (by have := hx.1; omega)).symm

/-- A share is sealed for a contact who has a key. -/
theorem exists_gives_sealFor {recoveryId : Text} {contact : Contact} {key : Bytes}
    (hk : contactKey recoveryId contact.email = .ok key) {share : Share} (h : share.HasIndex)
    (tape : Tape) :
    ∃ shard, Gives (Shard.sealFor recoveryId contact share) tape shard
      (tape.advance nonceLength) := by
  simp only [Shard.sealFor, gives_bind, gives_ofExcept, gives_draw, gives_pure]
  exact ⟨_, key, tape, ⟨hk, rfl⟩, _, tape, ⟨if_pos h, rfl⟩, _, _, ⟨rfl, rfl⟩, rfl, rfl⟩

/-- Nothing is drawn for a contact who has no key. -/
theorem outcome_sealFor_error {recoveryId : Text} {contact : Contact} {e : Error}
    (hk : contactKey recoveryId contact.email = .error e) (share : Share) (tape : Tape) :
    (Shard.sealFor recoveryId contact share).outcome tape = (.error e, tape) :=
  outcome_ofExcept_bind_error hk _ tape

/-! ### Splitting the seed -/

theorem checkContactCount_eq_ok_iff {count : ℕ} : checkContactCount count = .ok () ↔
    fewestContacts ≤ count ∧ count ≤ mostContacts := by
  unfold checkContactCount
  split_ifs with h1 h2
  · exact ⟨nofun, fun h => by omega⟩
  · exact ⟨nofun, fun h => by omega⟩
  · refine ⟨fun _ => ?_, fun _ => rfl⟩
    constructor <;> omega

theorem checkThreshold_eq_ok_iff {count : ℕ} {threshold : ℤ} :
    checkThreshold count threshold = .ok () ↔ 2 ≤ threshold ∧ threshold ≤ (count : ℤ) - 1 :=
  Except.ite_eq_ok_iff

theorem acceptContacts_eq_ok_iff {given : List (Given Contact)} {contacts : List Contact} :
    acceptContacts given = .ok contacts ↔
      List.Forall₂ (fun g c => g.read Contact.ofJson = .accepted c) given contacts := by
  simp only [acceptContacts, Except.mapM_eq_ok_iff, Checked.toExcept_eq_ok]

theorem checkEmails_eq_ok_iff {contacts : List Contact} :
    checkEmails contacts = .ok () ↔ (contacts.map Contact.email).Nodup :=
  Except.ite_eq_ok_iff

/-- **When a request is well-formed**, and the contacts that it has. -/
theorem checkRequest_eq_ok_iff {seed : Bytes} {given : List (Given Contact)} {threshold : ℤ}
    {contacts : List Contact} : checkRequest seed given threshold = .ok contacts ↔
      seed.length = seedLength ∧ (fewestContacts ≤ given.length ∧ given.length ≤ mostContacts) ∧
      (2 ≤ threshold ∧ threshold ≤ (given.length : ℤ) - 1) ∧
      List.Forall₂ (fun g c => g.read Contact.ofJson = .accepted c) given contacts ∧
      (contacts.map Contact.email).Nodup := by
  rw [← checkSeed_eq_ok_iff, ← checkContactCount_eq_ok_iff, ← checkThreshold_eq_ok_iff,
    ← acceptContacts_eq_ok_iff, ← checkEmails_eq_ok_iff]
  simp only [checkRequest, Except.bind_eq_ok_iff]
  constructor
  · rintro ⟨_, h1, _, h2, _, h3, cs, h4, _, h5, h6⟩
    obtain rfl := Except.ok.inj h6
    exact ⟨h1, h2, h3, h4, h5⟩
  · rintro ⟨h1, h2, h3, h4, h5⟩
    exact ⟨_, h1, _, h2, _, h3, contacts, h4, _, h5, rfl⟩

theorem forall₂_of_zip {α β γ : Type} {R : α → γ → Prop} {S : β → γ → Prop} {as : List α}
    {bs : List β} {cs : List γ} (hl : as.length = bs.length)
    (h : List.Forall₂ (fun p c => R p.1 c ∧ S p.2 c) (List.zip as bs) cs) :
    List.Forall₂ R as cs ∧ List.Forall₂ S bs cs := by
  induction as generalizing bs cs with
  | nil =>
    obtain rfl := List.eq_nil_of_length_eq_zero hl.symm
    obtain rfl := List.forall₂_nil_left_iff.mp h
    exact ⟨List.Forall₂.nil, List.Forall₂.nil⟩
  | cons a as ih =>
    cases bs with
    | nil => cases hl
    | cons b bs =>
      rw [List.zip_cons_cons] at h
      obtain ⟨c, cs, ⟨hr, hs⟩, htail, rfl⟩ := List.forall₂_cons_left_iff.mp h
      obtain ⟨hrs, hss⟩ := ih (Nat.succ.inj hl) htail
      exact ⟨List.Forall₂.cons hr hrs, List.Forall₂.cons hs hss⟩

theorem exists_of_forall₂ {α β : Type} {R : α → β → Prop} {as : List α} {bs : List β}
    (h : List.Forall₂ R as bs) {b : β} (hb : b ∈ bs) : ∃ a ∈ as, R a b := by
  induction h with
  | nil => cases hb
  | cons hr _ ih =>
    rcases List.mem_cons.mp hb with rfl | hb
    · exact ⟨_, List.mem_cons_self, hr⟩
    · obtain ⟨a, ha, h⟩ := ih hb
      exact ⟨a, List.mem_cons_of_mem _ ha, h⟩

/-- **What splitting a seed among contacts gives**: the shards keep the shares of a split, each for
the contact in its place. -/
theorem gives_setup {now : Instant} {seed : Bytes} {given : List (Given Contact)} {threshold : ℤ}
    {tape rest : Tape} {bundle : Bundle}
    (h : Gives (Bundle.setup now seed given threshold) tape bundle rest) :
    ∃ contacts shares before after, checkRequest seed given threshold = .ok contacts ∧
      Gives (Share.split seed contacts.length threshold) before shares after ∧
      contacts = bundle.shards.map Shard.contact ∧
      List.Forall₂ (fun share shard => shard.Keeps bundle.recoveryId share) shares
        bundle.shards := by
  simp only [Bundle.setup, gives_bind, gives_ofExcept, gives_draw, gives_pure] at h
  obtain ⟨contacts, _, ⟨hc, rfl⟩, id, before, -, shares, after, hs, shards, _, hm, rfl, rfl⟩ := h
  refine ⟨contacts, shares, before, after, hc, hs, ?_⟩
  obtain ⟨⟨-, -, -, hne⟩, hshares, -⟩ := Share.gives_split_iff.mp hs
  have hl : contacts.length = shares.length := by
    rw [hshares, Share.sharesOf, List.length_map, List.length_range, Int.toNat_natCast]
  have hd : ∀ p ∈ List.zip contacts shares, p.2.data ≠ [] := by
    intro p hp
    have hp := (List.of_mem_zip hp).2
    rw [hshares] at hp
    obtain ⟨x, -, -, hx⟩ := Share.mem_sharesOf.mp hp
    rw [hx]
    refine List.ne_nil_of_length_pos ?_
    rw [Share.length_data_ofPolynomials, Share.length_polynomialsFrom]
    exact List.length_pos_of_ne_nil hne
  have hpairs : List.Forall₂ (fun p (shard : Shard) => p.1 = shard.contact ∧
      shard.Keeps (Hex.encode id) p.2) (List.zip contacts shares) shards := by
    refine ((List.forall₂_and_left _ _).mpr ⟨hd, gives_mapM hm⟩).imp ?_
    rintro ⟨contact, share⟩ shard ⟨hdata, _, _, hseal⟩
    exact keeps_of_gives_sealFor hdata hseal
  obtain ⟨hcontact, hkeeps⟩ := forall₂_of_zip
    (R := fun contact (shard : Shard) => contact = shard.contact)
    (S := fun share (shard : Shard) => shard.Keeps (Hex.encode id) share) hl hpairs
  rw [← List.forall₂_map_right_iff, List.forall₂_eq_eq_eq] at hcontact
  exact ⟨hcontact, hkeeps⟩

section Request
variable {seed : Bytes} {given : List (Given Contact)} {threshold : ℤ} {contacts : List Contact}
  (h : checkRequest seed given threshold = .ok contacts)
include h

/-- The seed of a well-formed request is split into one share for each contact. -/
theorem exists_split_of_checkRequest (tape : Tape) :
    ∃ shares, Gives (Share.split seed contacts.length threshold) tape shares
        (tape.advance (seedLength * (threshold.toNat - 1))) ∧
      shares.length = contacts.length ∧ ∀ share ∈ shares, share.HasIndex := by
  obtain ⟨hseed, ⟨-, hmost⟩, ⟨hk, hn⟩, hread, -⟩ := checkRequest_eq_ok_iff.mp h
  have hl : contacts.length = given.length := hread.length_eq.symm
  have hne : seed ≠ [] := List.ne_nil_of_length_pos (by rw [hseed]; decide)
  have hmax : (contacts.length : ℤ) ≤ Share.maxShares := by
    simp only [mostContacts, Share.maxShares] at hmost ⊢
    omega
  refine ⟨_, Share.gives_split_iff.mpr ⟨⟨hk, by omega, hmax, hne⟩, rfl, by rw [hseed]⟩, ?_, ?_⟩
  · rw [Share.sharesOf, List.length_map, List.length_range, Int.toNat_natCast]
  · intro share hs
    rw [Int.toNat_natCast] at hs
    exact Share.hasIndex_of_mem_sharesOf (by exact_mod_cast hmax) hs

/-- What comes of a well-formed request once the recovery id and the coefficients of the split are
drawn. -/
theorem exists_outcome_setup (now : Instant) (tape : Tape) :
    ∃ id shares, (shares : List Share).length = contacts.length ∧
      (∀ share ∈ shares, share.HasIndex) ∧
      (Bundle.setup now seed given threshold).outcome tape =
        Attempt.outcome (do
          let shards ← (List.zip contacts shares).mapM fun (contact, share) =>
            Shard.sealFor (Hex.encode id) contact share
          return ⟨Hex.encode id, threshold, contacts.length, shards, Timestamp.ofInstant now⟩)
        (tape.advance (recoveryIdLength + seedLength * (threshold.toNat - 1))) := by
  obtain ⟨shares, hs, hl, hx⟩ := exists_split_of_checkRequest h (tape.advance recoveryIdLength)
  refine ⟨tape.slice tape.position recoveryIdLength, shares, hl, hx, ?_⟩
  rw [Bundle.setup, outcome_ofExcept_bind_ok h]
  have hdraw : Gives (liftM (draw recoveryIdLength)) tape
      (tape.slice tape.position recoveryIdLength) (tape.advance recoveryIdLength) :=
    gives_draw.mpr ⟨rfl, rfl⟩
  rw [hdraw.outcome_bind, hs.outcome_bind, Tape.advance_advance]

end Request

/-- **A well-formed request is met**, if all addresses have a UTF-8 form: a seed is split among all
contacts. -/
theorem exists_gives_setup {seed : Bytes} {given : List (Given Contact)} {threshold : ℤ}
    {contacts : List Contact} (h : checkRequest seed given threshold = .ok contacts)
    (hw : ∀ contact ∈ contacts, contact.email.isWhole = true) (now : Instant) (tape : Tape) :
    ∃ bundle rest, Gives (Bundle.setup now seed given threshold) tape bundle rest := by
  obtain ⟨id, shares, -, hx, ho⟩ := exists_outcome_setup h now tape
  have hseal : ∀ p ∈ List.zip contacts shares, ∀ tape, ∃ shard rest,
      Gives (Shard.sealFor (Hex.encode id) p.1 p.2) tape shard rest := by
    intro p hp tape
    obtain ⟨hc, hs⟩ := List.of_mem_zip hp
    obtain ⟨key, hk⟩ := exists_contactKey_iff.mpr ⟨Text.isWhole_whole (Hex.encode id), hw p.1 hc⟩
    obtain ⟨shard, h⟩ := exists_gives_sealFor hk (hx p.2 hs) tape
    exact ⟨shard, _, h⟩
  obtain ⟨shards, rest, hm⟩ := exists_gives_mapM hseal
    (tape.advance (recoveryIdLength + seedLength * (threshold.toNat - 1)))
  refine ⟨⟨Hex.encode id, threshold, contacts.length, shards, Timestamp.ofInstant now⟩, rest, ?_⟩
  rw [Gives, ho, hm.outcome_bind]
  rfl

/-- **A well-formed request breaks off** at the first contact whose address has no UTF-8 form, after
the recovery id, the coefficients and the nonces of the shards before it were drawn. -/
theorem outcome_setup_of_broken {seed : Bytes} {given : List (Given Contact)} {threshold : ℤ}
    {before after : List Contact} {contact : Contact}
    (h : checkRequest seed given threshold = .ok (before ++ contact :: after))
    (hb : ∀ contact ∈ before, contact.email.isWhole = true) (hc : contact.email.isWhole = false)
    (now : Instant) (tape : Tape) :
    (Bundle.setup now seed given threshold).outcome tape = (.error .unencodable,
      tape.advance (recoveryIdLength + seedLength * (threshold.toNat - 1) +
        nonceLength * before.length)) := by
  obtain ⟨id, shares, hl, hx, ho⟩ := exists_outcome_setup h now tape
  have hfst : (List.zip (before ++ contact :: after) shares).map Prod.fst =
      before ++ contact :: after :=
    List.map_fst_zip hl.ge
  have hmem : ∀ p ∈ List.zip (before ++ contact :: after) shares, p.2.HasIndex :=
    fun p hp => hx p.2 (List.of_mem_zip hp).2
  rw [ho]
  generalize List.zip (before ++ contact :: after) shares = pairs at hfst hmem ⊢
  obtain ⟨first, rest, rfl, rfl, hrest⟩ := List.map_eq_append_iff.mp hfst
  obtain ⟨⟨_, share⟩, last, rfl, rfl, rfl⟩ := List.map_eq_cons_iff.mp hrest
  have hfirst : ∀ p ∈ first, ∀ tape, ∃ shard,
      Gives (Shard.sealFor (Hex.encode id) p.1 p.2) tape shard (tape.advance nonceLength) := by
    intro p hp
    obtain ⟨key, hk⟩ := exists_contactKey_iff.mpr
      ⟨Text.isWhole_whole (Hex.encode id), hb p.1 (List.mem_map_of_mem hp)⟩
    exact exists_gives_sealFor hk (hmem p (List.mem_append_left _ hp))
  have hbroken := outcome_sealFor_error
    (contactKey_eq_error_iff.mpr ⟨Or.inr hc, rfl⟩ : contactKey (Hex.encode id) _ = _) share
  rw [outcome_bind_error (outcome_mapM_of_error hfirst hbroken last _), Tape.advance_advance,
    List.length_map]

/-! ### Putting the seed together -/

/-- What a contact of a shard contributes: the text that opening gave, or the share it writes. -/
def Shard.Yields (recoveryId : Text) (shard : Shard) (piece : Piece) : Prop :=
  ∃ email box text, Answers shard.contact.email email ∧ box.Stands Box.toJson shard.box ∧
    Shard.openFor recoveryId email box = .ok text ∧
    (piece = .text text ∨ ∃ share, Share.decode text = .ok share ∧ piece = .share share)

theorem read_of_yields {recoveryId : Text} {shard : Shard} {share : Share} {piece : Piece}
    (hk : shard.Keeps recoveryId share) (hy : shard.Yields recoveryId piece) :
    piece.read = .ok share := by
  obtain ⟨text, hopen, hdec, -⟩ := hk
  obtain ⟨email, box, text', ha, hb, ho, hp⟩ := hy
  rw [hopen email box ha hb] at ho
  obtain rfl := Except.ok.inj ho
  rcases hp with rfl | ⟨share', hs, rfl⟩
  · exact hdec
  · exact congrArg Except.ok (Except.ok.inj (hs.symm.trans hdec))

/-- Pieces of shards that keep shares are read as some of the shares, each with the index that its
shard says. -/
theorem mapM_read_of_yields {recoveryId : Text} {shares : List Share} {chosen : List Shard}
    {pieces : List Piece}
    (hk : ∀ shard ∈ chosen, ∃ share ∈ shares, shard.Keeps recoveryId share)
    (hy : List.Forall₂ (Shard.Yields recoveryId) chosen pieces) :
    ∃ picked, pieces.mapM Piece.read = .ok picked ∧ picked ⊆ shares ∧
      picked.map Share.index = chosen.map fun shard => (shard.shareIndex : ℤ) := by
  induction hy with
  | nil => exact ⟨[], rfl, List.nil_subset shares, rfl⟩
  | @cons shard piece chosen pieces hp hrest ih =>
    obtain ⟨⟨share, hmem, hkeeps⟩, hkrest⟩ := List.forall_mem_cons.mp hk
    obtain ⟨picked, hread, hsub, hidx⟩ := ih hkrest
    refine ⟨share :: picked, ?_, List.cons_subset.mpr ⟨hmem, hsub⟩, ?_⟩
    · exact Except.mapM_eq_ok_iff.mpr
        (List.Forall₂.cons (read_of_yields hkeeps hp) (Except.mapM_eq_ok_iff.mp hread))
    · obtain ⟨_, -, -, hi⟩ := hkeeps
      rw [List.map_cons, List.map_cons, hidx, hi]

/-- The shards say the indices of the shares, from one on. -/
theorem map_shareIndex {recoveryId : Text} {polynomials : List Bytes} {total : ℕ}
    {shares : List Share} {shards : List Shard} (hs : shares = Share.sharesOf polynomials total)
    (hk : List.Forall₂ (fun share shard => shard.Keeps recoveryId share) shares shards) :
    (shards.map fun shard => (shard.shareIndex : ℤ)) =
      (List.range total).map fun i : ℕ => (i : ℤ) + 1 := by
  have he : List.Forall₂ (fun share shard => share.index = (shard.shareIndex : ℤ)) shares shards :=
    hk.imp fun _ _ ⟨_, _, _, hi⟩ => hi
  rw [← List.forall₂_map_right_iff, ← List.forall₂_map_left_iff, List.forall₂_eq_eq_eq] at he
  rw [← he, hs, Share.map_index_sharesOf]

theorem nodup_shareIndex {recoveryId : Text} {polynomials : List Bytes} {total : ℕ}
    {shares : List Share} {shards : List Shard} (hs : shares = Share.sharesOf polynomials total)
    (hk : List.Forall₂ (fun share shard => shard.Keeps recoveryId share) shares shards) :
    (shards.map fun shard => (shard.shareIndex : ℤ)).Nodup := by
  rw [map_shareIndex hs hk]
  exact List.nodup_range.map fun i j hij => by simpa using hij

/-- **Splitting the seed among contacts, then putting it together**: every contact opens the own
shard and gets the share with the index that the shard says, and the shares of any contacts, no
fewer than the threshold, give the seed back. -/
theorem setup_then_recover {now : Instant} {seed : Bytes} {given : List (Given Contact)}
    {threshold : ℤ} {tape rest : Tape} {bundle : Bundle}
    (h : Gives (Bundle.setup now seed given threshold) tape bundle rest) :
    List.Forall₂ (fun contact shard => ∃ typed, Contact.typedEmail? contact = some typed ∧
        Answers shard.contact.email typed) given bundle.shards ∧
      (∀ shard ∈ bundle.shards, ∃ share, shard.Keeps bundle.recoveryId share) ∧
      ∀ chosen, chosen ⊆ bundle.shards → chosen.Nodup → threshold ≤ chosen.length →
        ∀ pieces, List.Forall₂ (Shard.Yields bundle.recoveryId) chosen pieces →
          recoverSeed pieces = .ok seed := by
  obtain ⟨contacts, shares, before, after, hc, hs, hcontacts, hkeeps⟩ := gives_setup h
  obtain ⟨-, -, ⟨hk, hn⟩, hread, -⟩ := checkRequest_eq_ok_iff.mp hc
  obtain ⟨⟨-, -, hmax, -⟩, hshares, -⟩ := Share.gives_split_iff.mp hs
  have hall : ∀ shard ∈ bundle.shards, ∃ share ∈ shares, shard.Keeps bundle.recoveryId share :=
    fun shard hm => exists_of_forall₂ hkeeps hm
  refine ⟨?_, fun shard hm => ?_, ?_⟩
  · rw [hcontacts, List.forall₂_map_right_iff] at hread
    exact hread.imp fun _ _ => Contact.typed_of_read
  · obtain ⟨share, -, hshare⟩ := hall shard hm
    exact ⟨share, hshare⟩
  · intro chosen hsub hnd hlen pieces hy
    obtain ⟨picked, hp, hps, hidx⟩ := mapM_read_of_yields (fun s hs => hall s (hsub hs)) hy
    have hpl : picked.length = chosen.length := by
      simpa using congrArg List.length hidx
    have hpn : picked.Nodup := by
      refine List.Nodup.of_map Share.index ?_
      rw [hidx]
      exact (List.nodup_map_iff_inj_on hnd).mpr fun s hs t ht =>
        List.inj_on_of_nodup_map (nodup_shareIndex hshares hkeeps) (hsub hs) (hsub ht)
    have hcomb : Share.combine picked = .ok seed := by
      rw [hshares, Int.toNat_natCast] at hps
      have h0 : 0 < threshold.toNat := by omega
      have := Share.combine_ofPolynomials (by exact_mod_cast hmax) h0
        (fun p => Share.length_of_mem_polynomialsFrom h0) hps hpn (by omega)
      rwa [Share.map_headD_polynomialsFrom] at this
    have h2 : ¬ picked.length < 2 := by omega
    rw [recoverSeed, hp]
    change (if picked.length < 2 then _ else _ : Except Error Bytes) = _
    rw [if_neg h2]
    exact hcomb

/-- Three contacts; the second one comes as JSON. -/
def threeContacts : List (Given Contact) :=
  [.value ⟨"ann@example.org", "Ann"⟩, .json (.obj [("email", .str " Bob@Example.ORG")]),
    .value ⟨"cat@example.org", ""⟩]

theorem checkRequest_threeContacts : checkRequest (List.replicate 32 83) threeContacts 2 =
    .ok [⟨"ann@example.org", "Ann"⟩, ⟨"bob@example.org", ""⟩, ⟨"cat@example.org", ""⟩] := by
  have hb : normalizeEmail " Bob@Example.ORG" = "bob@example.org" := by decide +kernel
  have hj : Given.read Contact.ofJson (.json (.obj [("email", .str " Bob@Example.ORG")])) =
      .accepted ⟨"bob@example.org", ""⟩ := by
    change Contact.mk <$> (Contact.checkEmail " Bob@Example.ORG").under (.key "email") <*>
      Checked.accepted "" = _
    rw [Contact.checkEmail, hb, if_neg (by decide)]
    rfl
  refine checkRequest_eq_ok_iff.mpr ⟨List.length_replicate, ⟨by decide, by decide⟩,
    ⟨le_refl 2, by decide⟩, ?_, by decide⟩
  exact .cons rfl (.cons hj (.cons rfl .nil))

/-- Any two of three contacts are needed. The second one opens the stored form of the box with the
address as it was typed, and comes after the third one. -/
theorem setup_then_recover_two_of_three : ∃ bundle rest a b c second third,
    Gives (Bundle.setup 0 (List.replicate 32 83) threeContacts 2)
        ⟨fun i => UInt8.ofNat (7 * i), 0⟩ bundle rest ∧
      bundle.shards = [a, b, c] ∧
      Shard.openFor bundle.recoveryId " Bob@Example.ORG" (.json b.box.toJson) = .ok second ∧
      Shard.openFor bundle.recoveryId "cat@example.org" (.value c.box) = .ok third ∧
      recoverSeed [.text third, .text second] = .ok (List.replicate 32 83) := by
  obtain ⟨bundle, rest, h⟩ :=
    exists_gives_setup checkRequest_threeContacts (by decide) 0 ⟨fun i => UInt8.ofNat (7 * i), 0⟩
  obtain ⟨htyped, hkeeps, hrecover⟩ := setup_then_recover h
  obtain ⟨a, _, -, ha, hs⟩ := List.forall₂_cons_left_iff.mp htyped
  obtain ⟨b, _, ⟨_, ⟨⟩, hb⟩, hab, rfl⟩ := List.forall₂_cons_left_iff.mp ha
  obtain ⟨c, _, ⟨_, ⟨⟩, hc⟩, hnil, rfl⟩ := List.forall₂_cons_left_iff.mp hab
  obtain rfl := List.forall₂_nil_left_iff.mp hnil
  obtain ⟨_, second, hsecond, -, -⟩ := hkeeps b (by simp [hs])
  obtain ⟨_, third, hthird, -, -⟩ := hkeeps c (by simp [hs])
  have ho2 := hsecond _ _ hb (Or.inr rfl)
  have ho3 := hthird _ _ hc (Or.inl rfl)
  have hne : c ≠ b := by
    rintro rfl
    have h2 : normalizeEmail " Bob@Example.ORG" = "bob@example.org" := by decide +kernel
    have h3 : normalizeEmail "cat@example.org" = "cat@example.org" := by decide +kernel
    rw [Answers, h2] at hb
    rw [Answers, h3, or_self] at hc
    rw [← hc] at hb
    exact absurd hb (by decide)
  refine ⟨bundle, rest, a, b, c, second, third, h, hs, ho2, ho3, ?_⟩
  exact hrecover [c, b] (by simp [hs]) (by simpa using hne) (le_refl 2) _
    (.cons ⟨_, _, third, hc, Or.inl rfl, ho3, Or.inl rfl⟩
      (.cons ⟨_, _, second, hb, Or.inr rfl, ho2, Or.inl rfl⟩ .nil))

end PasswordVault
