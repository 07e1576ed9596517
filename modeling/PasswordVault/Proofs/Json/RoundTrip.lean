import PasswordVault.Proofs.Json.Spacing
import PasswordVault.Proofs.Json.Token

/-!
# What was written is read back

The text of a value is read back as the value, character by character and whatever the blanks
between its tokens: one reader for values, one for the items of a list and one for the members of an
object, each in front of whatever ends what it reads. The fuel of the readers is measured by the
text, their depth by the value.

* `Plain`: the values whose texts keep them, with integers of 64 bits for numbers, with characters
  only in texts and with objects that have no name twice;
* `ofList_eq_self`: members with different names are put into an object as they are;
* `value_spaced`: **a value is read back**, `parse?_compact` and `parse?_layOut` for a whole
  document.
-/

namespace PasswordVault.Json

/-! ### Plain values -/

mutual

/-- All numbers are integers of 64 bits, all texts consist of characters, and no object has a name
twice. -/
def Plain : Json → Prop
  | .int n => isWordSized n = true
  | .str text => text.isWhole = true
  | .float _ => False
  | .arr items => PlainItems items
  | .obj members => (members.map Prod.fst).Nodup ∧ PlainMembers members
  | _ => True

def PlainItems : List Json → Prop
  | [] => True
  | v :: rest => Plain v ∧ PlainItems rest

def PlainMembers : List (String × Json) → Prop
  | [] => True
  | (_, v) :: rest => Plain v ∧ PlainMembers rest

end

theorem plainMembers_iff {members : Members} :
    PlainMembers members ↔ ∀ m ∈ members, m.2.Plain := by
  induction members with
  | nil => simp [PlainMembers]
  | cons m rest ih => simp [PlainMembers, ih]

theorem plain_obj_iff {members : Members} : Plain (.obj members) ↔
    (members.map Prod.fst).Nodup ∧ ∀ m ∈ members, m.2.Plain := by
  rw [Plain, plainMembers_iff]

/-! ### Objects -/

theorem put_eq_append {members : Members} {name : String} (h : name ∉ members.map Prod.fst)
    (v : Json) : members.put name v = members ++ [(name, v)] := by
  induction members with
  | nil => rfl
  | cons m rest ih =>
    obtain ⟨n, w⟩ := m
    rw [List.map_cons, List.mem_cons, not_or] at h
    rw [Members.put, if_neg (Ne.symm h.1), ih h.2, List.cons_append]

/-- Members with different names are put into an object as they are. -/
theorem ofList_eq_self {members : Members} (h : (members.map Prod.fst).Nodup) :
    Members.ofList members = members := by
  have hf (rest done : Members) (hn : ((done ++ rest).map Prod.fst).Nodup) :
      rest.foldl (fun members m => members.put m.1 m.2) done = done ++ rest := by
    induction rest generalizing done with
    | nil => rw [List.foldl_nil, List.append_nil]
    | cons m rest ih =>
      obtain ⟨name, v⟩ := m
      have hm : name ∉ done.map Prod.fst := by
        rw [List.map_append, List.nodup_append] at hn
        exact fun hmem => hn.2.2 name hmem name (by simp) rfl
      have he : (done ++ [(name, v)]) ++ rest = done ++ (name, v) :: rest := by simp
      rw [List.foldl_cons]
      change rest.foldl _ (done.put name v) = _
      rw [put_eq_append hm, ih _ (he ▸ hn), he]
  exact hf members [] h

/-! ### Where a value starts -/

/-- A value starts with no blank, and not as a list ends. -/
theorem exists_spaced_eq_cons (sp : Spacing) (level : ℕ) {v : Json} (h : v.Plain) :
    ∃ c cs, spaced sp level v = c :: cs ∧ isBlank c = false ∧ c ≠ ']' := by
  cases v with
  | null => exact ⟨_, _, rfl, by decide, by decide⟩
  | bool b => cases b <;> exact ⟨_, _, rfl, by decide, by decide⟩
  | int n =>
    obtain ⟨c, cs, hc, hd⟩ := exists_integer_eq_cons n
    refine ⟨c, cs, hc, ?_, ?_⟩
    · rw [← Bool.not_eq_true]
      intro hb
      simp only [isBlank, Bool.or_eq_true, decide_eq_true_eq] at hb
      rcases hb with ((rfl | rfl) | rfl) | rfl <;> exact absurd hd (by decide)
    · rintro rfl
      exact absurd hd (by decide)
  | float x => exact absurd h not_false
  | str s => exact ⟨_, _, rfl, by decide, by decide⟩
  | arr items => cases items <;> exact ⟨_, _, rfl, by decide, by decide⟩
  | obj members => cases members <;> exact ⟨_, _, rfl, by decide, by decide⟩

theorem skipBlanks_cons {c : Char} (h : isBlank c = false) (rest : List Char) :
    skipBlanks (c :: rest) = c :: rest :=
  List.dropWhile_cons_of_neg (by simp [h])

theorem skipBlanks_append {blanks : List Char} (h : ∀ c ∈ blanks, isBlank c = true)
    (rest : List Char) : skipBlanks (blanks ++ rest) = skipBlanks rest :=
  List.dropWhile_append_of_pos h

theorem quote_append (name : String) (cs : List Char) :
    quote name ++ cs = '"' :: (name.toList.flatMap escape ++ '"' :: cs) := by
  simp [quote, escapeText]

section Start
variable (sp : Spacing) (level : ℕ)

theorem skipBlanks_spaced {v : Json} (h : v.Plain) (rest : List Char) :
    skipBlanks (spaced sp level v ++ rest) = spaced sp level v ++ rest := by
  obtain ⟨c, cs, hc, hb, -⟩ := exists_spaced_eq_cons sp level h
  rw [hc, List.cons_append, skipBlanks_cons hb]

theorem skipBlanks_before {v : Json} (h : v.Plain) (rest : List Char) :
    skipBlanks (sp.before level ++ spaced sp level v ++ rest) = spaced sp level v ++ rest := by
  rw [List.append_assoc, skipBlanks_append (sp.isBlank_before level), skipBlanks_spaced sp level h]

theorem skipBlanks_quote (name : String) (rest : List Char) :
    skipBlanks (sp.before level ++ quote name ++ rest) = quote name ++ rest := by
  rw [List.append_assoc, skipBlanks_append (sp.isBlank_before level), quote_append,
    skipBlanks_cons (by decide)]

theorem skipBlanks_close {c : Char} (h : isBlank c = false) (rest : List Char) :
    skipBlanks (sp.before level ++ c :: rest) = c :: rest := by
  rw [skipBlanks_append (sp.isBlank_before level), skipBlanks_cons h]

theorem spacedItems_cons (v : Json) (vs : List Json) :
    ∃ cs, spacedItems sp level (v :: vs) = sp.before level ++ spaced sp level v ++ cs := by
  cases vs with
  | nil => exact ⟨[], by rw [spacedItems, List.append_nil]⟩
  | cons w ws =>
    refine ⟨',' :: spacedItems sp level (w :: ws), ?_⟩
    rw [spacedItems]
    exact List.cons_ne_nil w ws

theorem spacedMembers_cons (m : String × Json) (ms : Members) :
    ∃ cs, spacedMembers sp level (m :: ms) = sp.before level ++ quote m.1 ++ cs := by
  cases ms with
  | nil => exact ⟨_, by rw [spacedMembers]⟩
  | cons n ms =>
    refine ⟨':' :: (sp.behind ++ spaced sp level m.2) ++
      ',' :: spacedMembers sp level (n :: ms), ?_⟩
    rw [spacedMembers, List.append_assoc]
    exact List.cons_ne_nil n ms

end Start

/-! ### The readers -/

section Readers
variable (d : Dialect) (fuel depth : ℕ)

theorem value_integer {n : ℤ} (h : isWordSized n = true) {rest : List Char} (hr : Closed rest) :
    value d (fuel + 1) depth (integer n ++ rest) = some (.int n, rest) := by
  have hn := number_integer d h hr
  obtain ⟨c, cs, hc, hd⟩ := exists_integer_eq_cons n
  rw [hc, List.cons_append] at hn ⊢
  rw [value, hn]
  all_goals
    rintro rest' ⟨⟩
    exact absurd hd (by decide)

theorem value_quote (s : String) (rest : List Char) :
    value d (fuel + 1) depth (quote s ++ rest) = some (.str s, rest) := by
  rw [quote_append, value, text_quote]
  rfl

/-- A list that does not end right away has items. -/
theorem value_items {vs : List Json} {cs rest : List Char}
    (hc : ∀ more, skipBlanks cs ≠ ']' :: more)
    (hi : items d fuel depth (skipBlanks cs) = some (vs, rest)) :
    value d (fuel + 1) (depth + 1) ('[' :: cs) = some (.arr vs, rest) := by
  simp only [value, hi]
  rfl

/-- An object that does not end right away has members. -/
theorem value_members {ms : Members} (hn : (ms.map Prod.fst).Nodup) {cs rest : List Char}
    (hc : ∀ more, skipBlanks cs ≠ '\x7d' :: more)
    (hm : members d fuel depth (skipBlanks cs) = some (ms, rest)) :
    value d (fuel + 1) (depth + 1) ('\x7b' :: cs) = some (.obj ms, rest) := by
  simp only [value, hm, Option.map_some, ofList_eq_self hn]

/-- The items go on behind a comma. -/
theorem items_comma {v : Json} {vs : List Json} {cs more rest : List Char}
    (hv : value d fuel depth cs = some (v, ',' :: more))
    (hi : items d fuel depth (skipBlanks more) = some (vs, rest)) :
    items d (fuel + 1) depth cs = some (v :: vs, rest) := by
  simp only [items, hv, Option.bind_eq_bind, Option.bind_some,
    skipBlanks_cons (show isBlank ',' = false by decide), hi]
  rfl

/-- The items end at a bracket. -/
theorem items_bracket {v : Json} {cs more rest : List Char}
    (hv : value d fuel depth cs = some (v, more)) (hm : skipBlanks more = ']' :: rest) :
    items d (fuel + 1) depth cs = some ([v], rest) := by
  simp only [items, hv, Option.bind_eq_bind, Option.bind_some, hm]
  rfl

/-- The members go on behind a comma. -/
theorem members_comma (name : String) {v : Json} {ms : Members} {cs more rest : List Char}
    (hv : value d fuel depth (skipBlanks cs) = some (v, ',' :: more))
    (hm : members d fuel depth (skipBlanks more) = some (ms, rest)) :
    members d (fuel + 1) depth (quote name ++ ':' :: cs) = some ((name, v) :: ms, rest) := by
  rw [quote_append]
  simp only [members, memberName_quote, Option.bind_eq_bind, Option.bind_some,
    skipBlanks_cons (show isBlank ':' = false by decide), hv,
    skipBlanks_cons (show isBlank ',' = false by decide), hm]
  rfl

/-- The members end at a brace. -/
theorem members_brace (name : String) {v : Json} {cs more rest : List Char}
    (hv : value d fuel depth (skipBlanks cs) = some (v, more))
    (hm : skipBlanks more = '\x7d' :: rest) :
    members d (fuel + 1) depth (quote name ++ ':' :: cs) = some ([(name, v)], rest) := by
  rw [quote_append]
  simp only [members, memberName_quote, Option.bind_eq_bind, Option.bind_some,
    skipBlanks_cons (show isBlank ':' = false by decide), hv, hm]
  rfl

end Readers

/-! ### Values -/

section Values
variable (sp : Spacing)

mutual

/-- **A value is read back**, in front of what ends it. -/
theorem value_spaced (d : Dialect) (level : ℕ) : ∀ (v : Json) {fuel depth : ℕ} {rest : List Char},
    v.Plain → (spaced sp level v).length ≤ fuel → v.depth ≤ depth → Closed rest →
    value d fuel depth (spaced sp level v ++ rest) = some (v, rest)
  | v, 0, _, _, hp, hf, _, _ => by
    obtain ⟨c, cs, hc, -⟩ := exists_spaced_eq_cons sp level hp
    rw [hc] at hf
    exact absurd hf (by simp)
  | .null, fuel + 1, depth, rest, _, _, _, _ => by simp [spaced, scalar, value, word]
  | .bool true, fuel + 1, depth, rest, _, _, _, _ => by simp [spaced, scalar, value, word]
  | .bool false, fuel + 1, depth, rest, _, _, _, _ => by simp [spaced, scalar, value, word]
  | .int n, fuel + 1, depth, rest, hp, _, _, hr => value_integer d fuel depth hp hr
  | .float x, _, _, _, hp, _, _, _ => absurd hp not_false
  | .str (.whole s), fuel + 1, depth, rest, _, _, _, _ => value_quote d fuel depth s rest
  | .str (.broken ..), _, _, _, hp, _, _, _ => absurd hp Bool.false_ne_true
  | .arr [], fuel + 1, 0, rest, _, _, hd, _ => absurd hd (by simp [Json.depth])
  | .arr [], fuel + 1, depth + 1, rest, _, _, _, _ => by
    simp [spaced, value, skipBlanks_cons (show isBlank ']' = false by decide)]
  | .arr (v :: vs), fuel + 1, 0, rest, _, _, hd, _ => absurd hd (by simp [Json.depth])
  | .arr (v :: vs), fuel + 1, depth + 1, rest, hp, hf, hd, _ => by
    have he : spaced sp level (.arr (v :: vs)) ++ rest = '[' ::
        (spacedItems sp (level + 1) (v :: vs) ++ (sp.before level ++ ']' :: rest)) := by
      simp [spaced]
    rw [spaced, List.length_append, List.length_append, List.length_cons,
      List.length_singleton] at hf
    · rw [Json.depth] at hd
      rw [he]
      refine value_items d fuel depth (fun more h => ?_)
        (items_spaced d level v vs hp.1 hp.2 (by omega) (by omega))
      obtain ⟨cs, hcs⟩ := spacedItems_cons sp (level + 1) v vs
      obtain ⟨c, cs', hc, -, hne⟩ := exists_spaced_eq_cons sp (level + 1) hp.1
      rw [hcs, List.append_assoc, skipBlanks_before sp _ hp.1, hc] at h
      exact hne (List.cons.inj h).1
    · nofun
  | .obj [], fuel + 1, 0, rest, _, _, hd, _ => absurd hd (by simp [Json.depth])
  | .obj [], fuel + 1, depth + 1, rest, _, _, _, _ => by
    simp [spaced, value, skipBlanks_cons (show isBlank '\x7d' = false by decide)]
  | .obj (m :: ms), fuel + 1, 0, rest, _, _, hd, _ => absurd hd (by simp [Json.depth])
  | .obj (m :: ms), fuel + 1, depth + 1, rest, hp, hf, hd, _ => by
    have he : spaced sp level (.obj (m :: ms)) ++ rest = '\x7b' ::
        (spacedMembers sp (level + 1) (m :: ms) ++ (sp.before level ++ '\x7d' :: rest)) := by
      simp [spaced]
    rw [spaced, List.length_append, List.length_append, List.length_cons,
      List.length_singleton] at hf
    · rw [Json.depth] at hd
      rw [he]
      refine value_members d fuel depth hp.1 (fun more h => ?_)
        (members_spaced d level m ms hp.2 (by omega) (by omega))
      obtain ⟨cs, hcs⟩ := spacedMembers_cons sp (level + 1) m ms
      rw [hcs, List.append_assoc, skipBlanks_quote, quote_append] at h
      exact absurd (List.cons.inj h).1 (by decide)
    · nofun
termination_by structural _ fuel => fuel

/-- The items of a list are read back, up to its bracket. -/
theorem items_spaced (d : Dialect) (level : ℕ) : ∀ (v : Json) (vs : List Json) {fuel depth : ℕ}
    {rest : List Char}, v.Plain → PlainItems vs →
    (spacedItems sp (level + 1) (v :: vs)).length < fuel → depthItems (v :: vs) ≤ depth →
    items d fuel depth (skipBlanks (spacedItems sp (level + 1) (v :: vs) ++
      (sp.before level ++ ']' :: rest))) = some (v :: vs, rest)
  | v, [], fuel + 1, depth, rest, hv, _, hf, hd => by
    rw [spacedItems, List.length_append] at hf
    rw [depthItems, depthItems] at hd
    rw [spacedItems, skipBlanks_before sp _ hv]
    exact items_bracket d fuel depth
      (value_spaced d (level + 1) v hv (by omega) (by omega)
        (closed_append (sp.isBlank_before level) (closed_cons (by decide) rest)))
      (skipBlanks_close sp level (by decide) rest)
  | v, w :: ws, fuel + 1, depth, rest, hv, hvs, hf, hd => by
    rw [spacedItems, List.length_append, List.length_append, List.length_cons] at hf
    · rw [depthItems] at hd
      rw [spacedItems, List.append_assoc, skipBlanks_before sp _ hv, List.cons_append]
      · exact items_comma d fuel depth
          (value_spaced d (level + 1) v hv (by omega) (by omega) (closed_cons (by decide) _))
          (items_spaced d level w ws hvs.1 hvs.2 (by omega) (by omega))
      · nofun
    · nofun
termination_by structural _ _ fuel => fuel

/-- The members of an object are read back, up to its brace. -/
theorem members_spaced (d : Dialect) (level : ℕ) : ∀ (m : String × Json) (ms : Members)
    {fuel depth : ℕ} {rest : List Char}, PlainMembers (m :: ms) →
    (spacedMembers sp (level + 1) (m :: ms)).length < fuel → depthMembers (m :: ms) ≤ depth →
    members d fuel depth (skipBlanks (spacedMembers sp (level + 1) (m :: ms) ++
      (sp.before level ++ '\x7d' :: rest))) = some (m :: ms, rest)
  | (name, v), [], fuel + 1, depth, rest, hv, hf, hd => by
    rw [spacedMembers] at hf ⊢
    simp only [List.length_append, List.length_cons] at hf
    rw [depthMembers, depthMembers] at hd
    rw [List.append_assoc, skipBlanks_quote, List.cons_append, List.append_assoc]
    refine members_brace d fuel depth name ?_ (skipBlanks_close sp level (by decide) rest)
    rw [skipBlanks_append sp.isBlank_behind, skipBlanks_spaced sp _ hv.1]
    exact value_spaced d (level + 1) v hv.1 (by omega) (by omega)
      (closed_append (sp.isBlank_before level) (closed_cons (by decide) rest))
  | (name, v), (next, w) :: ms, fuel + 1, depth, rest, hv, hf, hd => by
    have he : spacedMembers sp (level + 1) ((name, v) :: (next, w) :: ms) =
        sp.before (level + 1) ++ quote name ++ ':' :: (sp.behind ++
          (spaced sp (level + 1) v ++ ',' :: spacedMembers sp (level + 1) ((next, w) :: ms))) := by
      simp [spacedMembers]
    rw [he] at hf ⊢
    simp only [List.length_append, List.length_cons] at hf
    rw [depthMembers] at hd
    simp only [List.append_assoc, List.cons_append]
    rw [← List.append_assoc, skipBlanks_quote]
    refine members_comma d fuel depth name ?_
      (members_spaced d level (next, w) ms hv.2 (by omega) (by omega))
    rw [skipBlanks_append sp.isBlank_behind, skipBlanks_spaced sp _ hv.1]
    exact value_spaced d (level + 1) v hv.1 (by omega) (by omega) (closed_cons (by decide) _)
termination_by structural _ _ fuel => fuel

end

end Values

/-! ### Documents -/

/-- **A document is read back**, whatever the blanks between its tokens. -/
theorem parse?_spaced (sp : Spacing) (d : Dialect) {v : Json} (hp : v.Plain)
    (hd : v.depth ≤ d.depth) : parse? d (spaced sp 0 v) = some v := by
  have h := value_spaced sp d 0 v hp (Nat.le_succ (spaced sp 0 v).length) hd closed_nil
  have hs := skipBlanks_spaced sp 0 hp []
  rw [List.append_nil] at h hs
  simp only [parse?, hs, h, Option.bind_eq_bind, Option.bind_some]
  rfl

theorem parse?_compact (d : Dialect) {v : Json} (hp : v.Plain) (hd : v.depth ≤ d.depth) :
    parse? d (compact v) = some v := by
  rw [compact_eq_spaced 0]
  exact parse?_spaced .none d hp hd

end PasswordVault.Json
