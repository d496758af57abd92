/-
The types that stay unresolved. An object that a payload exposes was visited, so its shape goes by a
name (`isSome_lastName_of_exposes`). Hence no payload has the bare unknown type, and the type of a
payload is unresolved exactly if it is an array of which no element decides
(`isUnresolved_ofValue`). The warnings are told by the payloads alone, with no type in sight
(`unresolved_map_ofValue`).
-/
import SampleTypes.Proofs.Schema.Root

namespace SampleTypes

/-! ## Undecided arrays -/

namespace Value

/-- The element decides the type of its sequence: an object does, and where scalars decide too, so
does a scalar other than null. -/
def decides (policy : Survey.ElementPolicy) : Value → Bool
  | .object _ => true
  | .null | .array _ => false
  | .bool _ | .int _ | .float _ | .string _ => policy = .objectsAndScalars

/-- An array of which no element decides. -/
def isUndecided (policy : Survey.ElementPolicy) : Value → Bool
  | .array es => es.all (fun v => !v.decides policy)
  | _ => false

end Value

namespace FieldType

variable {nameOf : Shape → Option String} {policy : Survey.ElementPolicy}

/-- An element gives a type exactly if it decides. -/
theorem isSome_ofElement? {v : Value}
    (h : ∀ ms, v = .object ms → (nameOf (Shape.ofMembers ms)).isSome) :
    (ofElement? nameOf policy v).isSome = v.decides policy := by
  cases v with
  | null | array => rfl
  | bool | int | float | string => cases policy <;> rfl
  | object ms => rw [ofElement?, Option.isSome_map, h ms rfl, Value.decides]

/-- What an element gives is resolved. -/
theorem isUnresolved_of_ofElement? {v : Value} {t : FieldType}
    (h : ofElement? nameOf policy v = some t) : t.isUnresolved = false := by
  cases v with
  | null | array => cases h
  | bool | int | float | string =>
    cases policy <;> simp only [ofElement?, Survey.scalarType?, reduceCtorEq, if_false, if_true,
      Option.some.injEq] at h
    subst h
    rfl
  | object ms =>
    obtain ⟨name, -, rfl⟩ := Option.map_eq_some_iff.1 h
    rfl

variable {v : Value} (h : ∀ ms, v.Exposes ms → (nameOf (Shape.ofMembers ms)).isSome)

include h

/-- Nothing decides in an undecided array. -/
theorem ofValue_of_isUndecided (hv : v.isUndecided policy = true) :
    ofValue nameOf policy v = .sequence .unknown := by
  cases v with
  | null | bool | int | float | string | object => cases hv
  | array es =>
    have hnone : es.findSome? (ofElement? nameOf policy) = none := by
      rw [List.findSome?_eq_none_iff]
      intro e he
      have hdecides : e.decides policy = false := by
        simpa using List.all_eq_true.1 hv e he
      rw [← Option.not_isSome_iff_eq_none,
        isSome_ofElement? (fun ms hms => h ms (.element (hms ▸ he))), hdecides]
      exact Bool.false_ne_true
    rw [ofValue, hnone, Option.getD_none]

theorem isUnresolved_of_not_isUndecided (hv : v.isUndecided policy = false) :
    (ofValue nameOf policy v).isUnresolved = false := by
  cases v with
  | null | bool | int | float | string => rfl
  | object ms =>
    obtain ⟨name, hname⟩ := Option.isSome_iff_exists.1 (h ms .self)
    rw [ofValue, hname]
    rfl
  | array es =>
    cases hf : es.findSome? (ofElement? nameOf policy) with
    | some t =>
      obtain ⟨_, _, _, -, ht, -⟩ := List.findSome?_eq_some_iff.1 hf
      rw [ofValue, hf, isUnresolved, Option.getD_some]
      exact isUnresolved_of_ofElement? ht
    | none =>
      have hall : (Value.array es).isUndecided policy = true := by
        refine List.all_eq_true.2 fun e he => ?_
        have hnone := List.findSome?_eq_none_iff.1 hf e he
        rw [← isSome_ofElement? (fun ms hms => h ms (.element (hms ▸ he))), hnone]
        rfl
      rw [hall] at hv
      cases hv

/-- **A type is unresolved exactly if its value is an undecided array.** -/
theorem isUnresolved_ofValue :
    (ofValue nameOf policy v).isUnresolved = v.isUndecided policy := by
  cases hv : v.isUndecided policy with
  | true => rw [ofValue_of_isUndecided h hv]; rfl
  | false => exact isUnresolved_of_not_isUndecided h hv

theorem ofValue_ne_unknown : ofValue nameOf policy v ≠ .unknown := by
  intro hunknown
  cases hv : v.isUndecided policy with
  | true => simp [ofValue_of_isUndecided h hv] at hunknown
  | false => simpa [hunknown, isUnresolved] using isUnresolved_of_not_isUndecided h hv

end FieldType

/-! ## Warnings -/

/-- A warning whose message starts with some words. -/
def Diagnostic.warnsOf (lead : String) (d : Diagnostic) : Bool :=
  d.level == .warning && lead.toList.isPrefixOf d.message.toList

/-- The first words of a message tell. -/
theorem Diagnostic.warnsOf_append {lead words : String}
    (h : lead.toList.length ≤ words.toList.length) (rest : String) :
    Diagnostic.warnsOf lead ⟨.warning, words ++ rest⟩ =
      Diagnostic.warnsOf lead ⟨.warning, words⟩ := by
  have hprefix : lead.toList <+: words.toList ++ rest.toList ↔ lead.toList <+: words.toList :=
    ⟨fun hp => List.prefix_of_prefix_length_le hp (List.prefix_append _ _) h,
      fun hp => hp.trans (List.prefix_append _ _)⟩
  rw [warnsOf, warnsOf, String.toList_append, Bool.eq_iff_iff, Bool.and_eq_true,
    Bool.and_eq_true, List.isPrefixOf_iff_prefix, List.isPrefixOf_iff_prefix, hprefix]

/-- A warning that a type is not known, told by its words. -/
def Diagnostic.isUnresolved (d : Diagnostic) : Bool :=
  d.level == .warning && "Unresolved ".toList.isPrefixOf d.message.toList

theorem Diagnostic.isUnresolved_append {words : String}
    (h : "Unresolved ".toList.length ≤ words.toList.length) (rest : String) :
    Diagnostic.isUnresolved ⟨.warning, words ++ rest⟩ =
      Diagnostic.isUnresolved ⟨.warning, words⟩ :=
  warnsOf_append h rest

namespace Schema

/-- The type of a field or an alias is not known. -/
def Finding.isUnresolved : Finding → Bool
  | .unresolvedAlias .. | .unresolvedField .. => true
  | .sharedShape .. | .collision .. => false

theorem Finding.isUnresolved_iff {f : Finding} :
    f.isUnresolved = true ↔ f.isCollision = false ∧ f.level = .warning := by
  cases f <;> simp [isUnresolved, isCollision, level]

/-- The words of a finding tell whether a type is not known. -/
theorem Finding.isUnresolved_diagnostic (f : Finding) :
    f.diagnostic.isUnresolved = f.isUnresolved := by
  cases f with
  | sharedShape shape names winner => rfl
  | collision dropped kept =>
    have h : (Finding.collision dropped kept).diagnostic = ⟨.warning,
        "Name collision: " ++ (dropped ++ (" dropped in favor of " ++ kept))⟩ := by
      simp only [← String.append_assoc]
      rfl
    rw [h, Diagnostic.isUnresolved_append (by decide)]
    rfl
  | unresolvedAlias name type =>
    have h : (Finding.unresolvedAlias name type).diagnostic = ⟨.warning,
        "Unresolved element type for alias " ++ (Text.quoted name ++ (": " ++ (type.describe ++
          " needs manual correction")))⟩ := by
      simp only [← String.append_assoc]
      rfl
    rw [h, Diagnostic.isUnresolved_append (by decide)]
    rfl
  | unresolvedField record field type =>
    have h : (Finding.unresolvedField record field type).diagnostic = ⟨.warning,
        "Unresolved type for field " ++ (record ++ ("." ++ (field ++ (": " ++ (type.describe ++
          " needs manual correction")))))⟩ := by
      simp only [← String.append_assoc]
      rfl
    rw [h, Diagnostic.isUnresolved_append (by decide)]
    rfl

/-- A finding for every undecided array in a declaration. -/
def undecidedFindings (policy : Survey.ElementPolicy) : Declaration Value → List Finding
  | .alias a =>
    if a.element.isUndecided policy then [.unresolvedAlias a.name (.sequence .unknown)] else []
  | .record r =>
    (r.fields.filter (fun (_, v) => v.isUndecided policy)).map
      (fun (key, _) => .unresolvedField r.name key (.sequence .unknown))

/-- If the shapes that its payloads expose go by names, a declaration has its findings from the
undecided arrays among the payloads. -/
theorem unresolved_map_ofValue {nameOf : Shape → Option String} {policy : Survey.ElementPolicy}
    {d : Declaration Value}
    (h : ∀ v ∈ d.payloads, ∀ ms, v.Exposes ms → (nameOf (Shape.ofMembers ms)).isSome) :
    unresolved (d.map (FieldType.ofValue nameOf policy)) = undecidedFindings policy d := by
  cases d with
  | «alias» a =>
    have ha := h a.element List.mem_cons_self
    rw [Declaration.map, unresolved, FieldType.isUnresolved_ofValue ha, undecidedFindings]
    split
    · next hv => rw [FieldType.ofValue_of_isUndecided ha hv]
    · rfl
  | record r =>
    obtain ⟨name, fields⟩ := r
    simp only [Declaration.map, Record.map, unresolved, undecidedFindings, List.flatMap_map]
    induction fields with
    | nil => rfl
    | cons m rest ih =>
      have hm := h m.2 List.mem_cons_self
      rw [List.flatMap_cons, ih fun v hv => h v (List.mem_cons_of_mem _ hv), List.filter_cons,
        FieldType.isUnresolved_ofValue hm]
      split
      · next hv => rw [FieldType.ofValue_of_isUndecided hm hv]; rfl
      · rfl

/-! ## Walks -/

variable (policy : Survey.ElementPolicy) {vs : List Visit}

/-- The shapes that show in the types of a declaration go by names. -/
theorem isSome_lastName_of_exposes {d : Declaration Value} (hd : d ∈ vs.flatMap Visit.containers)
    {v : Value} (hv : v ∈ d.payloads) {ms : List (String × Value)} (h : v.Exposes ms) :
    (Survey.lastName (vs.flatMap Visit.objects) (Shape.ofMembers ms)).isSome := by
  obtain ⟨c, hc, hdc⟩ := List.mem_flatMap.1 hd
  obtain ⟨n, hn⟩ := Visit.exists_mem_objects_of_payload hdc hv h
  obtain ⟨name, hname⟩ := Survey.exists_lastName_eq_some (List.mem_flatMap.2 ⟨c, hc, hn⟩)
  exact Option.isSome_iff_exists.2 ⟨name, hname⟩

theorem flatMap_unresolved_declarationsOf (vs : List Visit) :
    (declarationsOf policy vs).flatMap unresolved =
      (firsts Declaration.name (vs.flatMap Visit.containers)).flatMap
        (undecidedFindings policy) := by
  rw [declarationsOf, List.flatMap_map]
  refine List.flatMap_congr fun d hd => unresolved_map_ofValue fun v hv ms hms => ?_
  exact isSome_lastName_of_exposes ((firsts_sublist _ _).subset hd) hv hms

theorem isUnresolved_of_mem_unresolved {f : Finding} {ds : List (Declaration FieldType)}
    (h : f ∈ ds.flatMap unresolved) : f.isUnresolved = true :=
  Finding.isUnresolved_iff.2 (kind_of_mem_unresolved h)

theorem isUnresolved_of_mem_others {f : Finding} (h : f ∈ sharedOf vs ++ droppedOf vs) :
    f.isUnresolved = false := by
  rw [Bool.eq_false_iff, Ne, Finding.isUnresolved_iff]
  rcases List.mem_append.1 h with h | h
  · simp [kind_of_mem_sharedOf h]
  · simp [kind_of_mem_droppedOf h]

theorem filter_isUnresolved_ofVisits (vs : List Visit) :
    (ofVisits policy vs).findings.filter Finding.isUnresolved =
      (declarationsOf policy vs).flatMap unresolved := by
  rw [ofVisits, List.filter_append, List.filter_eq_nil_iff.2, List.filter_eq_self.2,
    List.nil_append]
  · exact fun f hf => isUnresolved_of_mem_unresolved hf
  · exact fun f hf => by simp [isUnresolved_of_mem_others hf]

/-- The other findings have nothing to do with types. -/
theorem filter_not_isUnresolved_ofVisits (vs : List Visit) :
    (ofVisits policy vs).findings.filter (fun f => !f.isUnresolved) =
      sharedOf vs ++ droppedOf vs := by
  rw [ofVisits, List.filter_append, List.filter_eq_self.2, List.filter_eq_nil_iff.2,
    List.append_nil]
  · exact fun f hf => by simp [isUnresolved_of_mem_unresolved hf]
  · exact fun f hf => by simp [isUnresolved_of_mem_others hf]

/-- Warnings about types are picked by their words as the findings are. -/
theorem filter_diagnostics (p : Bool → Bool) (schema : Schema) :
    schema.diagnostics.filter (fun d => p d.isUnresolved) =
      (schema.findings.filter (fun f => p f.isUnresolved)).map Finding.diagnostic := by
  rw [diagnostics, List.filter_map]
  simp only [Function.comp_def, Finding.isUnresolved_diagnostic]

/-- The shapes that show in the types of a kept declaration go by names. -/
theorem isSome_lastName_of_kept {d : Declaration Value}
    (hd : d ∈ keepFirst [] (Survey.empty.visitAll vs).discovered) {v : Value} (hv : v ∈ d.payloads)
    (ms : List (String × Value)) (h : v.Exposes ms) :
    (Survey.lastName (vs.flatMap Visit.objects) (Shape.ofMembers ms)).isSome := by
  rw [keepFirst_discovered_visitAll] at hd
  exact isSome_lastName_of_exposes ((firsts_sublist _ _).subset hd) hv h

/-- **Unresolved types are those of undecided arrays, and each is reported once.** No payload of a
kept declaration has the bare unknown type; its type is unresolved exactly if it is an array of which
no element decides; and the warnings that a type is not known are one for each of these, in the order
of declarations and fields. -/
theorem unresolved_reported (rootName : String) (declareRoot : Bool) (document : Value) :
    ∃ schema,
      ofSurvey (Survey.ofDocument rootName declareRoot document) policy = .ok schema ∧
      schema.declarations =
        (keepFirst [] (Survey.ofDocument rootName declareRoot document).discovered).map
          (typed (Survey.ofDocument rootName declareRoot document) policy) ∧
      (∀ d ∈ keepFirst [] (Survey.ofDocument rootName declareRoot document).discovered,
        ∀ v ∈ d.payloads,
          (Survey.ofDocument rootName declareRoot document).typeOf policy v ≠ .unknown ∧
          (((Survey.ofDocument rootName declareRoot document).typeOf policy v).isUnresolved = true ↔
            v.isUndecided policy = true)) ∧
      schema.diagnostics.filter Diagnostic.isUnresolved =
        ((keepFirst [] (Survey.ofDocument rootName declareRoot document).discovered).flatMap
          (undecidedFindings policy)).map Finding.diagnostic := by
  rw [Survey.ofDocument_eq]
  generalize Visit.roots rootName declareRoot document = vs
  refine ⟨_, ofSurvey_visitAll policy vs, declarations_ofVisits policy vs, fun d hd v hv => ?_, ?_⟩
  · have hnamed := isSome_lastName_of_kept hd hv
    rw [Survey.typeOf_visitAll, FieldType.isUnresolved_ofValue hnamed]
    exact ⟨FieldType.ofValue_ne_unknown hnamed, Iff.rfl⟩
  · rw [keepFirst_discovered_visitAll, ← flatMap_unresolved_declarationsOf,
      ← filter_isUnresolved_ofVisits]
    exact filter_diagnostics id _

end Schema

end SampleTypes
