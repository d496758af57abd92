/-
What each sink does with a module, told by whether its file has to change, and what a second
delivery finds. The bytes that were written are compared as text, with line breaks of one kind, so
the file is as it should be exactly if the module holds no carriage return
(`deliver_written_again`). A carriage return can only come from a word that stands in the source as
it is: the module's name, a type's name, the root's name or a key of the document.
-/
import SampleTypes.Proofs.Haskell.Breaks
import SampleTypes.Proofs.Output.Writing
import SampleTypes.Settings.Default

namespace SampleTypes.Output

open Files Text Work

/-! ## Sinks -/

/-- What only comparing with the file gives. -/
def comparison (t : Target) (d : Disk) : Except Error Receipt :=
  (t.wouldChange d).map fun changes => { status := if changes then .wouldWrite else .unchanged }

theorem outcome_deliver_nowhere (t : Target) (d : Disk) :
    outcome (deliver t .nowhere) d = (comparison t d, d) := by
  show outcome (_ >>= fun changes => pure _) d = _
  rw [outcome_bind, Change.outcome_ask, comparison]
  cases t.wouldChange d <;> rfl

/-- A file is replaced if it would change. -/
theorem outcome_deliver_files (t : Target) (d : Disk) :
    outcome (deliver t .files) d = match t.wouldChange d with
      | .error e => (.error e, d)
      | .ok false => (.ok { status := .unchanged }, d)
      | .ok true =>
        match outcome (Change.replaceFile noFaults t.path (Utf8.encode t.text)) d with
        | (.error e, d') => (.error e, d')
        | (.ok (), d') =>
          (.ok { status := .written, bytes := (Utf8.encode t.text).length }, d') := by
  show outcome (writeFile noFaults t) d = _
  rw [writeFile, outcome_bind, Change.outcome_check]
  show outcome (_ >>= fun changes => _) d = _
  rw [outcome_bind, Change.outcome_ask]
  rcases t.wouldChange d with e | changes
  · rfl
  cases changes with
  | false => rfl
  | true =>
    simp only [if_true]
    rw [outcome_bind]
    rcases outcome (Change.replaceFile noFaults t.path (Utf8.encode t.text)) d with ⟨_ | _, d'⟩ <;>
      rfl

variable {t : Target} {d d' : Disk} {place : Location}

/-- Writing into a file ends well if the file is as it should be, or if it is replaced. -/
theorem writeFile_eq_ok {faults : Faults} {receipt : Receipt}
    (h : outcome (writeFile faults t) d = (.ok receipt, d')) :
    (t.wouldChange d = .ok false ∧ receipt = { status := .unchanged } ∧ d' = d) ∨
    (t.wouldChange d = .ok true ∧
      receipt = { status := .written, bytes := (Utf8.encode t.text).length } ∧
      outcome (Change.replaceFile faults t.path (Utf8.encode t.text)) d = (.ok (), d')) := by
  rw [writeFile, outcome_bind_eq_ok] at h
  obtain ⟨_, d₁, hcheck, h⟩ := h
  rw [Change.outcome_check] at hcheck
  obtain rfl : d = d₁ := congrArg Prod.snd hcheck
  rw [outcome_bind_eq_ok] at h
  obtain ⟨changes, d₁, hask, h⟩ := h
  rw [Change.outcome_ask] at hask
  obtain ⟨hchanges, rfl⟩ : t.wouldChange d = .ok changes ∧ d = d₁ := Prod.mk.inj hask
  cases changes with
  | false =>
    obtain ⟨rfl, rfl⟩ : { status := .unchanged } = receipt ∧ d = d' := by simpa using h
    exact .inl ⟨hchanges, rfl, rfl⟩
  | true =>
    simp only [if_true, outcome_bind_eq_ok] at h
    obtain ⟨_, d₁, hplace, h⟩ := h
    obtain ⟨rfl, rfl⟩ :
        { status := .written, bytes := (Utf8.encode t.text).length } = receipt ∧ d₁ = d' := by
      simpa using h
    exact .inr ⟨hchanges, rfl, hplace⟩

/-! ## Twice -/

/-- The text of a placed file has only one kind of line breaks. -/
theorem existing?_placed (h : Change.Placed t.path (Utf8.encode t.text) place d d') :
    t.existing? d' = .ok (some (String.ofList (unifyBreaks t.text.toList))) := by
  have hfind : d'.find t.path =
      .ok (place, .file (Utf8.encode t.text) (d.modeAt place)) := by
    rw [Disk.find, h.located]
    simp only [h.file]
  have hread : d'.readText t.path = .ok (String.ofList (unifyBreaks t.text.toList)) := by
    rw [Disk.readText, Disk.readBytes, hfind]
    simp only [Disk.textOf, Utf8.decode_encode]
  rw [Target.existing?, Disk.isFile, Disk.look, hfind]
  simp only [Except.map, hread]

theorem wouldChange_placed (h : Change.Placed t.path (Utf8.encode t.text) place d d') :
    t.wouldChange d' = .ok (!decide (Avoids '\r' t.text)) := by
  have hsame : String.ofList (unifyBreaks t.text.toList) = t.text ↔ Avoids '\r' t.text := by
    rw [Avoids, ← unifyBreaks_eq_self_iff]
    constructor
    · intro h
      simpa using congrArg String.toList h
    · intro h
      rw [h, String.ofList_toList]
  rw [Target.wouldChange, existing?_placed h, Except.map]
  by_cases hr : Avoids '\r' t.text
  · simp [hsame.2 hr, hr]
  · have hne := mt hsame.1 hr
    simp [hne, hr]

/-- A module that is reported as written is in its place. -/
theorem placed_of_written {faults : Faults} {receipt : Receipt}
    (h : outcome (writeFile faults t) d = (.ok receipt, d')) (hw : receipt.status = .written) :
    ∃ place, Change.Placed t.path (Utf8.encode t.text) place d d' := by
  rcases writeFile_eq_ok h with ⟨-, rfl, -⟩ | ⟨-, -, hplace⟩
  · cases hw
  · have hplaced := Change.outcome_replaceFile faults t.path (Utf8.encode t.text) d
    rwa [hplace] at hplaced

theorem deliver_placed (h : Change.Placed t.path (Utf8.encode t.text) place d d')
    (hr : Avoids '\r' t.text) :
    outcome (deliver t .files) d' = (.ok { status := .unchanged }, d') ∧
      outcome (deliver t .nowhere) d' = (.ok { status := .unchanged }, d') := by
  have hchange := wouldChange_placed h
  simp only [hr, decide_true, Bool.not_true] at hchange
  rw [outcome_deliver_files, outcome_deliver_nowhere, comparison, hchange]
  exact ⟨rfl, rfl⟩

theorem deliver_placed_return (h : Change.Placed t.path (Utf8.encode t.text) place d d')
    (hr : ¬ Avoids '\r' t.text) :
    outcome (deliver t .nowhere) d' = (.ok { status := .wouldWrite }, d') ∧
      ∀ again d'', outcome (deliver t .files) d' = (.ok again, d'') → again.status = .written := by
  have hchange := wouldChange_placed h
  simp only [hr, decide_false, Bool.not_false] at hchange
  rw [outcome_deliver_files, outcome_deliver_nowhere, comparison, hchange]
  refine ⟨rfl, fun again d'' hagain => ?_⟩
  dsimp only at hagain
  split at hagain
  · cases hagain
  · obtain rfl := Except.ok.inj (Prod.mk.inj hagain).1
    rfl

/-- The words that stand in the source of a document's module as they are. -/
theorem avoids_text_target {s : Settings} {document : Value} {schema : Schema} {name : String}
    (hschema : Schema.ofDocument s document = .ok schema) (hname : Avoids '\r' name)
    (hroot : Avoids '\r' s.rootName)
    (htypes : ∀ slot, Avoids '\r' (Settings.nameOf s.typeNames slot))
    (hkeys : ∀ key, document.HasKey key → Avoids '\r' key) :
    Avoids '\r' (schema.target s name).text := by
  have hover : CarriesOver (Avoids '\r') (Avoids '\r') := carriesOver_avoids (by decide)
  exact Haskell.avoids_text_ofDeclarations htypes hname fun d hd =>
    Schema.words_ofDocument hover hroot hkeys hschema hd

/-- **A module that was written is up to date exactly if it holds no carriage return.** Then both
sinks leave it; with one, it is seen as changed ever after. It holds none if none of the words that
stand in it as they are does, and the names of fields are such words. -/
theorem deliver_written_again {s : Settings} {document : Value} {schema : Schema}
    (hschema : Schema.ofDocument s document = .ok schema) (name : String) {faults : Faults}
    {receipt : Receipt} (h : outcome (writeFile faults (schema.target s name)) d = (.ok receipt, d'))
    (hw : receipt.status = .written) :
    let t := schema.target s name
    (Avoids '\r' t.text →
      outcome (deliver t .files) d' = (.ok { status := .unchanged, bytes := 0 }, d') ∧
      outcome (deliver t .nowhere) d' = (.ok { status := .unchanged, bytes := 0 }, d')) ∧
    (¬ Avoids '\r' t.text →
      outcome (deliver t .nowhere) d' = (.ok { status := .wouldWrite }, d') ∧
      ∀ again d'', outcome (deliver t .files) d' = (.ok again, d'') → again.status = .written) ∧
    (Avoids '\r' name → Avoids '\r' s.rootName →
      (∀ slot, Avoids '\r' (Settings.nameOf s.typeNames slot)) →
      (∀ key, document.HasKey key → Avoids '\r' key) → Avoids '\r' t.text) ∧
    (Avoids '\r' t.text → ∀ r, .record r ∈ schema.declarations →
      ∀ field ∈ r.fieldNames, Avoids '\r' field) := by
  obtain ⟨place, hplaced⟩ := placed_of_written h hw
  exact ⟨deliver_placed hplaced, deliver_placed_return hplaced, avoids_text_target hschema,
    fun havoids r hr field hfield => Haskell.avoids_fieldName hr havoids hfield⟩

/-- A schema of which only the declarations are known. -/
theorem ofDocument_of_declarations {s : Settings} {document : Value}
    {ds : List (Declaration FieldType)}
    (h : (Schema.ofDocument s document).toOption.map Schema.declarations = some ds) :
    ∃ findings, Schema.ofDocument s document = .ok ⟨ds, findings⟩ := by
  cases hschema : Schema.ofDocument s document with
  | error e => simp [hschema, Except.toOption] at h
  | ok schema =>
    obtain rfl : schema.declarations = ds := by simpa [hschema, Except.toOption] using h
    exact ⟨schema.findings, rfl⟩

theorem outcome_of_status {work : FileM Receipt} {status : Status}
    (h : (outcome work d).1.toOption.map Receipt.status = some status) :
    ∃ receipt d', outcome work d = (.ok receipt, d') ∧ receipt.status = status := by
  rcases houtcome : outcome work d with ⟨e | receipt, d'⟩
  · simp [houtcome, Except.toOption] at h
  · exact ⟨receipt, d', rfl, by simpa [houtcome, Except.toOption] using h⟩

/-- A document with a nested object, on an empty disk. -/
theorem deliver_written_again_owner :
    let document : Value := .object [("id", .int 1), ("owner", .object [("name", .string "x")])]
    let d : Disk := { nodes := [], workingDirectory := [], mask := 0o022, token := "token" }
    ∃ schema receipt d',
      Schema.ofDocument .default document = .ok schema ∧
      outcome (writeFile noFaults (schema.target .default "Docs.Owner")) d = (.ok receipt, d') ∧
      receipt.status = .written ∧
      outcome (deliver (schema.target .default "Docs.Owner") .files) d' =
        (.ok { status := .unchanged, bytes := 0 }, d') := by
  intro document d
  let ds : List (Declaration FieldType) :=
    [.record ⟨"Owner", [("name", .text (some "x"))]⟩,
      .record ⟨"Root", [("id", .number), ("owner", .record "Owner")]⟩]
  obtain ⟨findings, hschema⟩ :=
    ofDocument_of_declarations (show (Schema.ofDocument .default document).toOption.map
      Schema.declarations = some ds by decide +kernel)
  obtain ⟨receipt, d', hwrite, hwritten⟩ :=
    outcome_of_status (show (outcome (writeFile noFaults (Schema.target .default "Docs.Owner" ⟨ds, []⟩))
      d).1.toOption.map Receipt.status = some .written by decide +kernel)
  have hagain := deliver_written_again hschema "Docs.Owner" hwrite hwritten
  have hkeys : ∀ key, document.HasKey key → Avoids '\r' key := by
    intro key hkey
    have hint : ¬ Value.HasKey key (.int 1) := nofun
    have hstring : ¬ Value.HasKey key (.string "x") := nofun
    have hmem : key ∈ ["id", "owner", "name"] := by
      simp only [document, Value.hasKey_object, List.map_cons, List.map_nil, List.exists_mem_cons_iff,
        hint, hstring] at hkey
      simpa [or_assoc] using hkey
    exact (by decide : ∀ key ∈ ["id", "owner", "name"], Avoids '\r' key) key hmem
  have hnames : ∀ slot, Avoids '\r' (Settings.nameOf Settings.default.typeNames slot) := by
    rintro (_ | _ | _ | _ | _) <;> decide +kernel
  have havoids := hagain.2.2.1 (by decide) (by decide +kernel) hnames hkeys
  exact ⟨_, receipt, d', hschema, hwrite, hwritten, (hagain.1 havoids).1⟩

/-- A key with a carriage return names a field: its module is written, and is never seen as up to
date after that. -/
theorem rewritten_key_with_return :
    let document : Value := .object [("a\rb", .int 1)]
    let d : Disk := { nodes := [], workingDirectory := [], mask := 0o022, token := "token" }
    let t : Schema → Target := Schema.target .default "Generated.Doc"
    ∃ schema first d' second d'',
      Schema.ofDocument .default document = .ok schema ∧
      outcome (writeFile noFaults (t schema)) d = (.ok first, d') ∧ first.status = .written ∧
      outcome (writeFile noFaults (t schema)) d' = (.ok second, d'') ∧ second.status = .written ∧
      outcome (deliver (t schema) .nowhere) d' = (.ok { status := .wouldWrite }, d') := by
  intro document d t
  let r : Record FieldType := ⟨"Root", [("a\rb", .number)]⟩
  obtain ⟨findings, hschema⟩ :=
    ofDocument_of_declarations (show (Schema.ofDocument .default document).toOption.map
      Schema.declarations = some [.record r] by decide +kernel)
  obtain ⟨first, d', hwrite, hwritten⟩ :=
    outcome_of_status (show (outcome (writeFile noFaults (t ⟨[.record r], []⟩)) d).1.toOption.map
      Receipt.status = some .written by decide +kernel)
  obtain ⟨place, hplaced⟩ := placed_of_written hwrite hwritten
  have hreturn : ¬ Avoids '\r' (t ⟨[.record r], []⟩).text := fun havoids =>
    absurd (Haskell.avoids_fieldName (List.mem_singleton_self _) havoids List.mem_cons_self) (by decide)
  obtain ⟨hnowhere, hfiles⟩ := deliver_placed_return hplaced hreturn
  have hreplace : (outcome (Change.replaceFile noFaults (t ⟨[.record r], []⟩).path
      (Utf8.encode (t ⟨[.record r], []⟩).text))
      (outcome (writeFile noFaults (t ⟨[.record r], []⟩)) d).2).1 = .ok () := by
    decide +kernel
  rw [hwrite] at hreplace
  have hsecond := outcome_deliver_files (t ⟨[.record r], []⟩) d'
  simp only [wouldChange_placed hplaced, hreturn, decide_false, Bool.not_false] at hsecond
  rcases hsecondly : outcome (Change.replaceFile noFaults (t ⟨[.record r], []⟩).path
    (Utf8.encode (t ⟨[.record r], []⟩).text)) d' with ⟨e | _, d''⟩
  · rw [hsecondly] at hreplace
    cases hreplace
  · rw [hsecondly] at hsecond
    exact ⟨_, first, d', _, d'', hschema, hwrite, hwritten, hsecond, rfl, hnowhere⟩

end SampleTypes.Output
