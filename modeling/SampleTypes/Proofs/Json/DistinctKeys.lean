/-
No object that is read from JSON text has a key twice. The members of an object are collected by
`Value.ofPairs`, which keeps a key once. What each reader does when it succeeds is told by one lemma
(`value_eq_ok` and its like), and the proof follows the recursion of the readers.
-/
import SampleTypes.Json.Parser
import SampleTypes.OrderedMap

namespace SampleTypes.Json

open Text (Halves Taken)

variable {halves : Halves}

/-! ## Members -/

theorem hasDistinctKeys_ofPairs {pairs : List (String × Value)}
    (h : Value.membersHaveDistinctKeys pairs) :
    (Value.object (Value.ofPairs pairs)).HasDistinctKeys := by
  refine ⟨Assoc.nodup_keys_setAll List.nodup_nil, ?_⟩
  rw [Value.membersHaveDistinctKeys_iff] at h ⊢
  intro m hm
  exact h m ((Assoc.mem_setAll hm).resolve_left List.not_mem_nil)

/-! ## Readers -/

theorem exists_of_map_eq_ok {α β : Type} {x : Except Stop α} {f : α → β} {b : β}
    (h : x.map f = .ok b) : ∃ a, x = .ok a ∧ f a = b := by
  cases x with
  | error e => cases h
  | ok a => exact ⟨a, rfl, Except.ok.inj h⟩

theorem value_of_next? {α : Type} {s : List Char} {x y : Taken α s} {c : Char}
    (h : x.next? = some (c, y)) : y.value = x.value := by
  rw [Taken.next?] at h
  split at h
  · cases h
  · cases h
    rfl

/-! ## Scalars -/

theorem hasDistinctKeys_word? {s rest : List Char} {v : Value} (h : word? s = some (v, rest)) :
    v.HasDistinctKeys := by
  obtain ⟨p, hp, hword⟩ := List.exists_of_findSome?_eq_some h
  obtain ⟨rest', -, hv⟩ := Option.map_eq_some_iff.1 hword
  cases hv
  have hall : ∀ p ∈ words, p.2.HasDistinctKeys := by simp [words, Value.HasDistinctKeys]
  exact hall p hp

theorem hasDistinctKeys_number? {negative : Bool} {s rest : List Char} {v : Value}
    (h : number? negative s = some (.ok v, rest)) : v.HasDistinctKeys := by
  rw [number?] at h
  split at h
  · cases h
  · dsimp only at h
    split at h
    · split at h
      · cases h
      · cases h
        trivial
    · cases h
      trivial
    · cases h
      trivial

theorem hasDistinctKeys_plain {s : List Char} {t : Taken Value s} (h : plain s = .ok t) :
    t.value.HasDistinctKeys := by
  unfold plain at h
  split at h
  · next v rest hword =>
    split at h
    · cases h
      exact hasDistinctKeys_word? hword
    · cases h
  · dsimp only at h
    split at h
    · cases h
    · cases h
    · next v rest hnum =>
      split at h
      · cases h
        exact hasDistinctKeys_number? hnum
      · cases h

/-! ## What a successful reading is -/

theorem value_eq_ok {s : List Char} {t : Taken Value s} (h : value halves s = .ok t) :
    (∃ text, t.value = .string text) ∨
    (∃ rest u, rest.length < s.length ∧ elements halves rest = .ok u ∧ t.value = .array u.value) ∨
    (∃ rest u, rest.length < s.length ∧ members halves rest = .ok u ∧
      t.value = .object (Value.ofPairs u.value)) ∨
    plain s = .ok t := by
  rw [value.eq_def] at h
  split at h
  · obtain ⟨u, -, rfl⟩ := exists_of_map_eq_ok h
    exact .inl ⟨u.value, rfl⟩
  · next rest =>
    obtain ⟨u, hu, rfl⟩ := exists_of_map_eq_ok h
    exact .inr (.inl ⟨_, u, Nat.lt_succ_of_le (length_skipSpace_le rest), hu, rfl⟩)
  · next rest =>
    obtain ⟨u, hu, rfl⟩ := exists_of_map_eq_ok h
    exact .inr (.inr (.inl ⟨_, u, Nat.lt_succ_of_le (length_skipSpace_le rest), hu, rfl⟩))
  · exact .inr (.inr (.inr h))

theorem elements_eq_ok {s : List Char} {t : Taken (List Value) s} (h : elements halves s = .ok t) :
    t.value = [] ∨ moreElements halves s = .ok t := by
  rw [elements.eq_def] at h
  split at h
  · cases h
    exact .inl rfl
  · exact .inr h

theorem moreElements_eq_ok {s : List Char} {t : Taken (List Value) s}
    (h : moreElements halves s = .ok t) :
    ∃ v, value halves s = .ok v ∧ (t.value = [v.value] ∨
      ∃ rest u, rest.length < s.length ∧ moreElements halves rest = .ok u ∧
        t.value = v.value :: u.value) := by
  rw [moreElements.eq_def] at h
  split at h
  · cases h
  · next v hv =>
    refine ⟨v, hv, ?_⟩
    dsimp only at h
    split at h
    · next last hlast =>
      cases h
      have hvalue : last.value = (withSpace v).value := value_of_next? hlast
      exact .inl (congrArg ([·]) hvalue)
    · next comma hcomma =>
      obtain ⟨u, hu, rfl⟩ := exists_of_map_eq_ok h
      have hvalue : comma.value = (withSpace v).value := value_of_next? hcomma
      exact .inr ⟨_, u, (withSpace comma).shorter, hu, congrArg (· :: u.value) hvalue⟩
    · cases h

theorem members_eq_ok {s : List Char} {t : Taken (List (String × Value)) s}
    (h : members halves s = .ok t) : t.value = [] ∨ moreMembers halves s = .ok t := by
  rw [members.eq_def] at h
  split at h
  · cases h
    exact .inl rfl
  · exact .inr h

theorem moreMembers_eq_ok {s : List Char} {t : Taken (List (String × Value)) s}
    (h : moreMembers halves s = .ok t) :
    ∃ (key : String) (start : List Char) (v : Taken Value start),
      start.length < s.length ∧ value halves start = .ok v ∧ (t.value = [(key, v.value)] ∨
        ∃ rest u, rest.length < s.length ∧ moreMembers halves rest = .ok u ∧
          t.value = (key, v.value) :: u.value) := by
  rw [moreMembers.eq_def] at h
  split at h
  · split at h
    · cases h
    · dsimp only at h
      split at h
      · next colon _ =>
        split at h
        · cases h
        · next v hv =>
          refine ⟨colon.value, _, v, (withSpace colon).shorter, hv, ?_⟩
          split at h
          · next last hlast =>
            cases h
            have hvalue : last.value = (colon.value, v.value) := value_of_next? hlast
            exact .inl (congrArg ([·]) hvalue)
          · next comma hcomma =>
            obtain ⟨u, hu, rfl⟩ := exists_of_map_eq_ok h
            have hvalue : comma.value = (colon.value, v.value) := value_of_next? hcomma
            exact .inr ⟨_, u, (withSpace comma).shorter, hu, congrArg (· :: u.value) hvalue⟩
          · cases h
      · cases h
  · cases h

/-! ## Values -/

mutual

-- The measure is that of the readers: a call is on a shorter text, or on the same one by a reader of
-- lower rank.

/-- No object in a value that is read has a key twice. -/
theorem hasDistinctKeys_value {s : List Char} {t : Taken Value s} (h : value halves s = .ok t) :
    t.value.HasDistinctKeys := by
  obtain ⟨text, ht⟩ | ⟨rest, u, hlt, hu, ht⟩ | ⟨rest, u, hlt, hu, ht⟩ | hplain := value_eq_ok h
  · rw [ht]
    trivial
  · rw [ht]
    exact hasDistinctKeys_elements hu
  · rw [ht]
    exact hasDistinctKeys_ofPairs (hasDistinctKeys_members hu)
  · exact hasDistinctKeys_plain hplain
termination_by (s.length, 0)

theorem hasDistinctKeys_elements {s : List Char} {t : Taken (List Value) s}
    (h : elements halves s = .ok t) : Value.elementsHaveDistinctKeys t.value := by
  obtain ht | hmore := elements_eq_ok h
  · rw [ht]
    trivial
  · exact hasDistinctKeys_moreElements hmore
termination_by (s.length, 2)

theorem hasDistinctKeys_moreElements {s : List Char} {t : Taken (List Value) s}
    (h : moreElements halves s = .ok t) : Value.elementsHaveDistinctKeys t.value := by
  obtain ⟨v, hv, ht | ⟨rest, u, hlt, hu, ht⟩⟩ := moreElements_eq_ok h
  · rw [ht]
    exact ⟨hasDistinctKeys_value hv, trivial⟩
  · rw [ht]
    exact ⟨hasDistinctKeys_value hv, hasDistinctKeys_moreElements hu⟩
termination_by (s.length, 1)

theorem hasDistinctKeys_members {s : List Char} {t : Taken (List (String × Value)) s}
    (h : members halves s = .ok t) : Value.membersHaveDistinctKeys t.value := by
  obtain ht | hmore := members_eq_ok h
  · rw [ht]
    trivial
  · exact hasDistinctKeys_moreMembers hmore
termination_by (s.length, 2)

theorem hasDistinctKeys_moreMembers {s : List Char} {t : Taken (List (String × Value)) s}
    (h : moreMembers halves s = .ok t) : Value.membersHaveDistinctKeys t.value := by
  obtain ⟨key, start, v, hstart, hv, ht | ⟨rest, u, hlt, hu, ht⟩⟩ := moreMembers_eq_ok h
  · rw [ht]
    exact ⟨hasDistinctKeys_value hv, trivial⟩
  · rw [ht]
    exact ⟨hasDistinctKeys_value hv, hasDistinctKeys_moreMembers hu⟩
termination_by (s.length, 1)

end

/-! ## Documents -/

theorem hasDistinctKeys_document {text : List Char} {v : Value} (h : document halves text = .ok v) :
    v.HasDistinctKeys := by
  rw [document.eq_def] at h
  split at h
  · cases h
  · split at h
    · cases h
    · next t ht =>
      split at h
      · cases h
        exact hasDistinctKeys_value ht
      · cases h

/-- **A document that is read has no key twice**, in whatever object of it. -/
theorem hasDistinctKeys_parse {text : String} {v : Value} (h : parse halves text = .ok v) :
    v.HasDistinctKeys := by
  rw [parse] at h
  cases hd : document halves text.toList with
  | error e => rw [hd] at h; cases h
  | ok w =>
    rw [hd] at h
    cases h
    exact hasDistinctKeys_document hd

end SampleTypes.Json
