/-
Which module names are valid. A name made from a documentation path is put together from the prefix
and the components of the path as they are, letters apart, so it is valid exactly if these are
(`choose_valid_iff`): a component with a dash in it, or one that starts with a digit, is not made
into a valid segment (`choose_dash_not_valid`), and without a prefix there may be no segment at all.
-/
import SampleTypes.Generation
import SampleTypes.Proofs.Naming
import SampleTypes.Proofs.Settings.Editing

namespace SampleTypes

open Text

/-! ## Segments -/

/-- A segment of a module name: a capital letter, then letters, digits, underscores and apostrophes. -/
def isSegment : List Char → Bool
  | [] => false
  | c :: rest => isNameStart c && rest.all isNameChar

/-- What becomes a segment: leading underscores are passed over, then comes a letter, a capital one
where nothing before it opens the segment, then letters, digits, underscores and apostrophes. -/
def becomesSegment (opens : Bool) : List Char → Bool
  | [] => false
  | c :: rest =>
    if c = '_' then becomesSegment true rest
    else (if opens then Url.isLetter c else isNameStart c) && rest.all isNameChar

/-- The piece before the first dot is opened with a capital, the others are as they are. -/
def becomesSegments (component : String) : Bool :=
  match splitChars '.' component.toList with
  | [] => false
  | piece :: pieces => becomesSegment true piece && pieces.all (becomesSegment false)

theorem isNameChar_ascii : ∀ n < 128,
    isNameChar (Char.ofNat n).toUpper = isNameChar (Char.ofNat n) ∧
      isNameStart (Char.ofNat n).toUpper = Url.isLetter (Char.ofNat n) := by
  decide +kernel

theorem isNameChar_upperChar {c : Char} (h : c.toNat < 128) :
    (upperChar c).all isNameChar = isNameChar c ∧ isSegment (upperChar c) = Url.isLetter c := by
  have hupper := isNameChar_ascii c.toNat h
  rw [Char.ofNat_toNat] at hupper
  rw [upperChar, if_pos h]
  simpa [isSegment] using hupper

theorem isSegment_append {cs ds : List Char} (h : cs ≠ []) :
    isSegment (cs ++ ds) = (isSegment cs && ds.all isNameChar) := by
  cases cs with
  | nil => exact absurd rfl h
  | cons c rest => simp [isSegment, Bool.and_assoc]

theorem all_pascalChars {opens : Bool} {cs : List Char} (h : ∀ c ∈ cs, c.toNat < 128) :
    (pascalChars opens cs).all isNameChar = cs.all isNameChar := by
  induction cs generalizing opens with
  | nil => rfl
  | cons c rest ih =>
    rw [List.forall_mem_cons] at h
    by_cases hc : c = '_'
    · have hunderscore : isNameChar '_' = true := by decide
      simp [pascalChars, hc, ih h.2, hunderscore]
    · cases opens <;> simp [pascalChars_cons hc, ih h.2, (isNameChar_upperChar h.1).1]

theorem isSegment_pascalChars {opens : Bool} {cs : List Char} (h : ∀ c ∈ cs, c.toNat < 128) :
    isSegment (pascalChars opens cs) = becomesSegment opens cs := by
  induction cs generalizing opens with
  | nil => rfl
  | cons c rest ih =>
    rw [List.forall_mem_cons] at h
    by_cases hc : c = '_'
    · rw [pascalChars, if_pos hc, becomesSegment, if_pos hc, ih h.2]
    · rw [pascalChars_cons hc, becomesSegment, if_neg hc]
      cases opens with
      | false => simp [isSegment, all_pascalChars h.2]
      | true =>
        simp [isSegment_append (upperChar_ne_nil c), all_pascalChars h.2, (isNameChar_upperChar h.1).2]

namespace ModuleName

/-! ## Names -/

/-- A module name: segments with dots between them. An empty text is none. -/
def Valid (name : String) : Prop :=
  ∀ piece ∈ splitChars '.' name.toList, isSegment piece = true

instance (name : String) : Decidable (Valid name) :=
  inferInstanceAs (Decidable (∀ piece ∈ splitChars '.' name.toList, isSegment piece = true))

theorem not_valid_empty : ¬ Valid "" := by
  decide

theorem valid_ofSegments_iff {segments : List String} :
    Valid (ofSegments segments) ↔
      (∃ s ∈ segments, s ≠ "") ∧ ∀ s ∈ segments, s ≠ "" → Valid s := by
  have hmem (s : String) : s ∈ segments.filter (· != "") ↔ s ∈ segments ∧ s ≠ "" := by simp
  simp only [ofSegments, ← and_imp, ← hmem]
  generalize segments.filter (· != "") = kept
  cases kept with
  | nil => simp [join, not_valid_empty]
  | cons s rest =>
    have hpieces : splitChars '.' (join "." (s :: rest)).toList =
        (s :: rest).flatMap fun t => splitChars '.' t.toList :=
      splitChars_join rfl (List.cons_ne_nil s rest)
    have hexists : ∃ t, t ∈ s :: rest := ⟨s, List.mem_cons_self⟩
    rw [Valid, hpieces, List.forall_mem_flatMap, and_iff_right hexists]
    rfl

/-- What is made of a component is valid exactly if all its pieces between dots become segments. -/
theorem valid_pascalCase_iff {c : String} (h : ∀ x ∈ c.toList, x.toNat < 128) :
    Valid (pascalCase c) ↔ becomesSegments c = true := by
  obtain ⟨piece, pieces, hcut, hname⟩ :=
    splitChars_pascalChars (show '.'.toNat < 65 by decide) true c.toList
  have hascii : ∀ p ∈ piece :: pieces, ∀ x ∈ p, x.toNat < 128 := by
    intro p hp x hx
    have hflat : x ∈ (splitChars '.' c.toList).flatten := by
      rw [hcut]
      exact List.mem_flatten.2 ⟨p, hp, hx⟩
    exact h x (mem_flatten_splitChars.1 hflat).1
  rw [List.forall_mem_cons] at hascii
  rw [Valid, toList_pascalCase, hname, becomesSegments, hcut, List.forall_mem_cons,
    List.forall_mem_map, isSegment_pascalChars hascii.1, Bool.and_eq_true, List.all_eq_true]
  refine and_congr_right fun _ => forall₂_congr fun p hp => ?_
  rw [isSegment_pascalChars (hascii.2 p hp)]

/-! ## Prefixes -/

/-- A type name with nothing behind it. -/
theorem isSegment_iff_of_isTypeNameChars {cs : List Char} (h : isTypeNameChars cs = true) :
    isSegment cs = true ↔ '\n' ∉ cs := by
  have hfeed : isNameChar '\n' = false := by decide
  cases cs with
  | nil => cases h
  | cons c rest =>
    rw [isTypeNameChars, Bool.and_eq_true] at h
    obtain ⟨hstart, hall⟩ := h
    rw [isSegment, hstart, Bool.true_and]
    constructor
    · intro hrest hmem
      rcases List.mem_cons.1 hmem with rfl | hmem
      · exact absurd hstart (by decide)
      · exact absurd (List.all_eq_true.1 hrest _ hmem) (by simp [hfeed])
    · intro hnot
      rwa [if_neg fun hlast => hnot (List.mem_cons_of_mem c (List.mem_of_getLast? hlast))] at hall

/-- The check of a prefix lets line feeds pass at the ends of segments, and nothing else that is not
valid. -/
theorem valid_prefix_iff {lead : String} (h : isModulePrefix lead = true) (hne : lead ≠ "") :
    Valid lead ↔ Avoids '\n' lead := by
  have hpieces : ∀ piece ∈ splitChars '.' lead.toList, isTypeNameChars piece = true := by
    simpa [isModulePrefix, hne] using h
  have hmem : '\n' ∈ (splitChars '.' lead.toList).flatten ↔ '\n' ∈ lead.toList := by
    rw [mem_flatten_splitChars, and_iff_left (by decide)]
  rw [Valid, Avoids, ← hmem, List.mem_flatten]
  constructor
  · rintro hvalid ⟨piece, hpiece, hfeed⟩
    exact (isSegment_iff_of_isTypeNameChars (hpieces piece hpiece)).1 (hvalid piece hpiece) hfeed
  · intro hnot piece hpiece
    exact (isSegment_iff_of_isTypeNameChars (hpieces piece hpiece)).2 fun hfeed =>
      hnot ⟨piece, hpiece, hfeed⟩

theorem isModulePrefix_draft (edits : List Settings.Edit) :
    isModulePrefix (Settings.ofLayer (Settings.draft edits)).modulePrefix = true := by
  obtain ⟨lead, hlead⟩ := Settings.exists_get?_draft edits .modulePrefix
  have hsound := Settings.Layer.sound_draft edits _ .modulePrefix lead hlead
  rwa [← Settings.get_ofLayer hlead] at hsound

/-! ## Names made from paths -/

/-- The documentation path: that of the address if there is one. -/
def Origins.docPath? (origins : Origins) : Except Url.Error (Option String) :=
  match given? origins.url with
  | some url => (Url.path? url).map some
  | none => .ok (given? origins.path)

/-- The components that segments are made of. -/
def components (path : String) : List String :=
  (Path.ofText path).parts.drop 1

theorem choose_eq_ofPath (s : Settings) {origins : Origins} {path : String}
    (hexplicit : given? origins.explicit = none) (hpath : origins.docPath? = .ok (some path)) :
    choose s origins = .ok (ofPath s.modulePrefix path) := by
  unfold Origins.docPath? at hpath
  unfold choose
  rw [hexplicit]
  cases hurl : given? origins.url with
  | none =>
    simp only [hurl] at hpath
    simp only [Except.ok.inj hpath]
  | some url =>
    simp only [hurl] at hpath
    cases hread : Url.path? url with
    | error e => simp [hread, Except.map] at hpath
    | ok read =>
      rw [hread] at hpath
      obtain rfl := Option.some.inj (Except.ok.inj hpath)
      simp [ofUrl, hread, Except.map]

theorem valid_ofPath_iff {lead path : String} :
    Valid (ofPath lead path) ↔
      (lead ≠ "" ∨ ∃ c ∈ components path, ∃ x ∈ c.toList, x ≠ '_') ∧
      (lead ≠ "" → Valid lead) ∧
      ∀ c ∈ components path, (∃ x ∈ c.toList, x ≠ '_') → Valid (pascalCase c) := by
  have hempty (c : String) : pascalCase c ≠ "" ↔ ∃ x ∈ c.toList, x ≠ '_' := by
    simp [pascalCase_eq_empty_iff]
  have hpath : ofPath lead path = ofSegments (lead :: (components path).map pascalCase) := rfl
  rw [hpath, valid_ofSegments_iff, List.forall_mem_cons, List.forall_mem_map]
  simp only [List.exists_mem_cons_iff, List.mem_map, exists_exists_and_eq_and, hempty]

/-- **When a name made from a documentation path or address is valid.** With no name given, a name is
made for every documentation path, and for every address that has one. It is valid exactly if it has
a segment at all, the prefix is valid, and every component of the path with more in it than
underscores is made into valid segments; for a component in ASCII, `becomesSegments` tells that from
its characters. The prefix of a draft of settings is valid unless there is a line feed in it. -/
theorem choose_valid_iff (s : Settings) {origins : Origins} {path : String}
    (hexplicit : given? origins.explicit = none) (hpath : origins.docPath? = .ok (some path)) :
    (∃ name, choose s origins = .ok name ∧
      (Valid name ↔
        (s.modulePrefix ≠ "" ∨ ∃ c ∈ components path, ∃ x ∈ c.toList, x ≠ '_') ∧
        (s.modulePrefix ≠ "" → Valid s.modulePrefix) ∧
        ∀ c ∈ components path, (∃ x ∈ c.toList, x ≠ '_') → Valid (pascalCase c))) ∧
    (∀ c ∈ components path, (∀ x ∈ c.toList, x.toNat < 128) →
      (Valid (pascalCase c) ↔ becomesSegments c = true)) ∧
    ∀ edits, s = Settings.ofLayer (Settings.draft edits) → s.modulePrefix ≠ "" →
      (Valid s.modulePrefix ↔ Avoids '\n' s.modulePrefix) := by
  refine ⟨⟨_, choose_eq_ofPath s hexplicit hpath, valid_ofPath_iff⟩,
    fun c _ hascii => valid_pascalCase_iff hascii, ?_⟩
  rintro edits rfl hne
  exact valid_prefix_iff (isModulePrefix_draft edits) hne

/-- The components of an address are those of its path. -/
theorem choose_valid_iff_address :
    let origins : Origins := { url := some "https://dev.freeagent.com/docs/bank_accounts?page=1" }
    given? origins.explicit = none ∧ origins.docPath? = .ok (some "/docs/bank_accounts") ∧
      ∃ name, choose .default origins = .ok name ∧ Valid name := by
  intro origins
  have hexplicit : given? origins.explicit = none := rfl
  have hpath : origins.docPath? = .ok (some "/docs/bank_accounts") := by decide +kernel
  obtain ⟨⟨name, hname, hvalid⟩, hcomponents, hlead⟩ :=
    choose_valid_iff Settings.default hexplicit hpath
  have hne : Settings.default.modulePrefix ≠ "" := by decide +kernel
  refine ⟨hexplicit, hpath, name, hname, hvalid.2 ⟨.inl hne, fun hne => ?_, fun c hc _ => ?_⟩⟩
  · exact (hlead [] rfl hne).2 (by decide +kernel)
  · have hcomps : components "/docs/bank_accounts" = ["docs", "bank_accounts"] := by decide +kernel
    have hascii : ∀ c ∈ ["docs", "bank_accounts"], ∀ x ∈ c.toList, x.toNat < 128 := by simp
    have hbecome : ∀ c ∈ ["docs", "bank_accounts"], becomesSegments c = true := by decide +kernel
    have hmem := hcomps ▸ hc
    exact (hcomponents c hc (hascii c hmem)).2 (hbecome c hmem)

/-- A dash in a path is kept in the name, while one in the name of a file is not; and without a prefix
the only component of a path leaves nothing. -/
theorem choose_dash_not_valid :
    (choose .default { path := some "/docs/bank-accounts" } = .ok "Generated.Docs.Bank-accounts" ∧
      ¬ Valid "Generated.Docs.Bank-accounts") ∧
    (docPathOfSource "bank-accounts.json" = some "/bank_accounts" ∧
      choose .default { path := some "/bank_accounts" } = .ok "Generated.BankAccounts" ∧
      Valid "Generated.BankAccounts") ∧
    (choose { Settings.default with modulePrefix := "" } { path := some "users" } = .ok "" ∧
      ¬ Valid "") := by
  refine ⟨⟨?_, ?_⟩, ⟨?_, ?_, ?_⟩, ?_, ?_⟩ <;> decide +kernel

end ModuleName

end SampleTypes
